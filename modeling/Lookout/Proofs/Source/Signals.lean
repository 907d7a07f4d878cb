import Lookout.Proofs.Resolver.Setback
import Lookout.Proofs.Source.Subscriptions
import Lookout.Source.Memory.Run

/-!
# Signals that do not fit

A subscription holds sixteen signals, and what does not fit is lost. After a signal there is
something unread all the same, so a change is noticed. A resync is not, if it finds sixteen changes
unread: they are all that is left to read, and they ask for an evaluation after the window only.
-/
set_option autoImplicit false

namespace Lookout

namespace Subscription

def Fits (s : Subscription) : Prop := s.unread.length ≤ capacity

theorem Fits.offer {s : Subscription} (h : s.Fits) (signal : Signal) : (s.offer signal).Fits := by
  unfold Subscription.offer
  split
  · next hroom =>
    simp only [Fits, List.length_append, List.length_singleton]
    omega
  · exact h

theorem Fits.receive {s : Subscription} (h : s.Fits) : s.receive.2.Fits := by
  unfold Subscription.receive
  split
  · next hunread =>
    rw [Fits, hunread] at h
    exact Nat.le_of_succ_le h
  · exact h

theorem attached_of_isLive {s : Subscription} (h : s.isLive = true) : s.attached = true := by
  simp only [isLive, Bool.and_eq_true] at h
  exact h.1.1

theorem eq_replicate_iff {unread : List Signal} {n : Nat} :
    unread = List.replicate n .changed ↔ unread.length = n ∧ .resync ∉ unread := by
  rw [List.eq_replicate_iff]
  refine and_congr_right fun _ => ?_
  constructor
  · intro hall hmem
    cases hall _ hmem
  · intro hnot signal hsignal
    cases signal with
    | changed => rfl
    | resync => exact absurd hsignal hnot

/-- Only a resync that finds nothing but changes in a full subscription is lost. -/
theorem resync_mem_offer_iff {s : Subscription} (h : s.Fits) :
    .resync ∈ (s.offer .resync).unread ↔ s.unread ≠ List.replicate capacity .changed := by
  rw [Ne, eq_replicate_iff]
  unfold offer
  split
  · next hroom => simp [Nat.ne_of_lt hroom]
  · next hfull =>
    have hlength : s.unread.length = capacity := Nat.le_antisymm h (Nat.le_of_not_lt hfull)
    simp [hlength]

end Subscription

namespace Memory

/-! ## Runs -/

/-- No subscription holds more than fits. -/
def Bounded (m : Memory) : Prop :=
  ∀ (id : SubscriptionId) (e : String × Subscription), m.subscriptions[id]? = some e → e.2.Fits

/-- The service and the signal that a call publishes. To take out a record that is not there
publishes nothing. -/
def Change.published? (m : Memory) : Change → Option (String × Signal)
  | .register r => some (r.service, .changed)
  | .registerUnder service _ => some (service, .changed)
  | .deregister service instanceId =>
    if ∃ r ∈ m.recordsOf service, r.instanceId = instanceId then some (service, .changed) else none
  | .setRecords service _ => some (service, .changed)
  | .publish service signal => some (service, signal)
  | .failLists _ | .failSubscribes _ | .closeSubscriptions _ | .delayLists _ => none

section
variable {m : Memory}

theorem subscriptions_of_published? {c : Change} {service : String} {signal : Signal}
    (h : c.published? m = some (service, signal)) :
    (m.apply c).subscriptions = m.subscriptions.map (publishTo service signal) := by
  cases c with
  | deregister a instanceId =>
    obtain ⟨⟨r, hr, hid⟩, ⟨⟩⟩ := Option.ite_none_right_eq_some.1 h
    have hkept : ((m.recordsOf service).filter (·.instanceId ≠ instanceId)).length ≠
        (m.recordsOf service).length := by
      intro hlength
      have hall := List.length_filter_eq_length_iff.1 hlength r hr
      simp [hid] at hall
    simp only [apply, deregister]
    rw [if_neg hkept]
    rfl
  | failLists reason? => cases h
  | failSubscribes reason? => cases h
  | closeSubscriptions a => cases h
  | delayLists delay => cases h
  | _ =>
    cases h
    rfl

theorem subscriptions_of_silent {c : Change} (h : c.published? m = none) :
    (m.apply c).subscriptions = m.subscriptions ∨
      ∃ service, (m.apply c).subscriptions =
        m.subscriptions.map fun e => if e.1 = service then (e.1, e.2.detach) else e := by
  cases c with
  | deregister a instanceId =>
    refine Or.inl ?_
    have habsent : ∀ r ∈ m.recordsOf a, r.instanceId ≠ instanceId := by
      intro r hr hid
      have hpublished : Change.published? m (.deregister a instanceId) = some (a, .changed) :=
        if_pos ⟨r, hr, hid⟩
      rw [hpublished] at h
      cases h
    have hkept : ((m.recordsOf a).filter (·.instanceId ≠ instanceId)).length =
        (m.recordsOf a).length :=
      List.length_filter_eq_length_iff.2 fun r hr => by simpa using habsent r hr
    simp only [apply, deregister]
    rw [if_pos hkept]
  | closeSubscriptions a => exact Or.inr ⟨a, rfl⟩
  | failLists reason? => exact Or.inl rfl
  | failSubscribes reason? => exact Or.inl rfl
  | delayLists delay => exact Or.inl rfl
  | _ => cases h

theorem Bounded.of_map (h : m.Bounded) {f : String × Subscription → String × Subscription}
    (hf : ∀ e, e.2.Fits → (f e).2.Fits) {m' : Memory}
    (hm' : m'.subscriptions = m.subscriptions.map f) : m'.Bounded := by
  intro id e he
  rw [hm', List.getElem?_map] at he
  obtain ⟨before, hbefore, rfl⟩ := Option.map_eq_some_iff.1 he
  exact hf _ (h id before hbefore)

theorem Bounded.modify (h : m.Bounded) (id : SubscriptionId) {f : Subscription → Subscription}
    (hf : ∀ s, s.Fits → (f s).Fits) : (m.modify id f).Bounded := by
  intro other e he
  change (m.subscriptions.modify id fun e => (e.1, f e.2))[other]? = some e at he
  rw [List.getElem?_modify] at he
  obtain ⟨before, hbefore, heq⟩ := Option.map_eq_some_iff.1 he
  split at heq
  · cases heq
    exact hf _ (h other before hbefore)
  · cases heq
    exact h other _ hbefore

theorem Bounded.publishTo (service : String) (signal : Signal) (e : String × Subscription)
    (h : e.2.Fits) : (publishTo service signal e).2.Fits := by
  obtain ⟨owner, s⟩ := e
  rw [publishTo_mk]
  split
  · dsimp only
    split
    · exact h.offer signal
    · exact h
  · exact h

theorem Bounded.apply (h : m.Bounded) (c : Change) : (m.apply c).Bounded := by
  cases hc : c.published? m with
  | some published =>
    exact h.of_map (Bounded.publishTo _ _) (subscriptions_of_published? hc)
  | none =>
    rcases subscriptions_of_silent hc with hsame | ⟨service, hclosed⟩
    · intro id e he
      rw [hsame] at he
      exact h id e he
    · refine h.of_map ?_ hclosed
      intro e he
      split
      · exact he
      · exact he

theorem Bounded.subscribe (h : m.Bounded) {service : String} {made : Memory × SubscriptionId}
    (hmade : m.subscribe service = .ok made) : made.1.Bounded := by
  unfold Memory.subscribe at hmade
  split at hmade
  · cases hmade
  · cases hmade
    intro id e he
    dsimp only at he
    rw [List.getElem?_append] at he
    split at he
    · exact h id e he
    · obtain ⟨-, rfl⟩ := List.getElem?_eq_some_iff.1 he
      simp [Subscription.Fits, Subscription.opened]

theorem Bounded.react (h : m.Bounded) (e : Event) : (m.react e).Bounded := by
  cases e with
  | change c => exact h.apply c
  | list service => exact h
  | subscribe service =>
    simp only [Memory.react]
    split
    · next made hmade =>
      exact h.subscribe hmade
    · exact h
  | receive id =>
    simp only [Memory.react, Memory.receive]
    split
    · exact h
    · exact h.modify id fun s hs => hs.receive
  | cancel id => exact h.modify id fun s hs => hs
  | drop id => exact h.modify id fun s _ => Nat.zero_le _

theorem bounded_run (events : List Event) : (empty.run events).Bounded := by
  induction events using List.reverseRecOn with
  | nil =>
    intro id e he
    cases he
  | append_singleton events e ih =>
    rw [run_concat]
    exact ih.react e

theorem Holds.exists_offered {c : Change} {service : String} {signal : Signal}
    (hc : c.published? m = some (service, signal)) {id : SubscriptionId} {s : Subscription}
    (h : (m.apply c).Holds service id s) (hlive : s.isLive = true) :
    ∃ before, m.Holds service id before ∧ before.isLive = true ∧ s = before.offer signal := by
  simp only [Holds] at h
  rw [subscriptions_of_published? hc, List.getElem?_map] at h
  obtain ⟨⟨owner, before⟩, hbefore, hs⟩ := Option.map_eq_some_iff.1 h
  rw [publishTo_mk] at hs
  split at hs
  · next howner =>
    obtain ⟨rfl, -⟩ := howner
    obtain ⟨-, rfl⟩ := Prod.mk.inj hs
    split at hlive
    · next hwanted => exact ⟨before, hbefore, hwanted, if_pos hwanted⟩
    · cases hlive
  · next hother =>
    obtain ⟨rfl, rfl⟩ := Prod.mk.inj hs
    exact absurd ⟨rfl, Subscription.attached_of_isLive hlive⟩ hother

end

end Memory

/-! ## What is made of the unread signals -/

namespace Debouncer

/-- The session of a debouncer reads these signals at these times. -/
def heed (d : Debouncer) (reads : List (Instant × Signal)) : Debouncer :=
  reads.foldl (fun d read => d.apply read.1 (.ofSignal read.2)) d

theorem forced?_heed (d : Debouncer) (reads : List (Instant × Signal)) :
    (d.heed reads).forced? =
      d.forced?.or (if .resync ∈ reads.map Prod.snd then some .resync else none) := by
  induction reads generalizing d with
  | nil => simp [heed]
  | cons read rest ih =>
    obtain ⟨t, signal⟩ := read
    have hrest := ih (d.apply t (.ofSignal signal))
    simp only [heed, List.foldl_cons] at hrest ⊢
    rw [hrest]
    cases signal with
    | changed =>
      have hkept : (d.apply t (.ofSignal .changed)).forced? = d.forced? := by
        simp only [Call.ofSignal, apply, signal]
        split <;> rfl
      have hmem : Signal.resync ∈ ((t, Signal.changed) :: rest).map Prod.snd ↔
          Signal.resync ∈ rest.map Prod.snd := by
        simp only [List.map_cons, List.mem_cons, reduceCtorEq, false_or]
      rw [hkept, if_congr hmem rfl rfl]
    | resync =>
      have hforced : (d.apply t (.ofSignal .resync)).forced? = some (d.forced?.getD .resync) := rfl
      rw [hforced]
      cases d.forced? <;> simp

end Debouncer

namespace Memory

/-- Right after a signal every live subscription of the service has something unread. A resync is
unread, and whoever reads on asks for an evaluation without delay, exactly if the subscription was
not full of changes. -/
theorem unread_of_published? (events : List Event) {c : Change} {service : String} {signal : Signal}
    (hc : c.published? (empty.run events) = some (service, signal)) {id : SubscriptionId}
    {s : Subscription} (hs : (empty.run (events ++ [.change c])).Holds service id s)
    (hlive : s.isLive = true) :
    s.unread ≠ [] ∧
    ∃ before, (empty.run events).Holds service id before ∧ before.isLive = true ∧
      (signal = .resync →
        (.resync ∈ s.unread ↔
          before.unread ≠ List.replicate Subscription.capacity .changed) ∧
        ∀ (d : Debouncer) (reads : List (Instant × Signal)), d.forced? = none →
          reads.map Prod.snd = s.unread →
          ((d.heed reads).forced? = some .resync ↔
            before.unread ≠ List.replicate Subscription.capacity .changed)) := by
  rw [run_concat] at hs
  obtain ⟨before, hbefore, hwanted, rfl⟩ := hs.exists_offered hc hlive
  have hattached := Subscription.attached_of_isLive hlive
  refine ⟨(before.alarmed_offer signal).resolve_right (by simp [hattached]), before, hbefore,
    hwanted, ?_⟩
  rintro rfl
  have hresync := Subscription.resync_mem_offer_iff (bounded_run events id _ hbefore)
  refine ⟨hresync, ?_⟩
  intro d reads hd hreads
  rw [Debouncer.forced?_heed, hd, hreads, Option.none_or, ← hresync]
  simp

/-! One subscription, to which nobody comes while changes are signalled. -/

def crowdedBy (changes : Nat) : List Event :=
  .subscribe "a" :: List.replicate changes (.change (.publish "a" .changed))

/-- A last place is left for the resync. -/
theorem unread_of_last_place :
    Change.published? (empty.run (crowdedBy 15)) (.publish "a" .resync) = some ("a", .resync) ∧
    (empty.run (crowdedBy 15 ++ [.change (.publish "a" .resync)])).Holds "a" 0
      ⟨List.replicate 15 .changed ++ [.resync], true, false, false⟩ ∧
    ∃ before, (empty.run (crowdedBy 15)).Holds "a" 0 before ∧
      before.unread ≠ List.replicate Subscription.capacity .changed := by
  have hholds : (empty.run (crowdedBy 15 ++ [.change (.publish "a" .resync)])).Holds "a" 0
      ⟨List.replicate 15 .changed ++ [.resync], true, false, false⟩ := by
    unfold Holds
    decide +kernel
  obtain ⟨-, before, hbefore, -, hresync⟩ := unread_of_published? (crowdedBy 15)
    (c := .publish "a" .resync) rfl hholds rfl
  exact ⟨rfl, hholds, before, hbefore, (hresync rfl).1.1 (by simp)⟩

/-- A resync that comes after sixteen changes is lost. Whoever then reads all that is unread has to
wait for the window. -/
theorem resync_lost_behind_changes :
    (empty.run (crowdedBy 16 ++ [.change (.publish "a" .resync)])).Holds "a" 0
      ⟨List.replicate 16 .changed, true, false, false⟩ ∧
    ((Debouncer.create (.ofMillis 200)).heed (List.replicate 16 (0, .changed))).due? 199999999 =
      none ∧
    ((Debouncer.create (.ofMillis 200)).heed (List.replicate 16 (0, .changed))).due? 200000000 =
      some .debounced := by
  unfold Holds
  decide +kernel

end Memory

end Lookout
