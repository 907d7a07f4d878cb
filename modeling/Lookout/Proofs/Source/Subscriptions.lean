import Lookout.Proofs.Source.Memory
import Lookout.Source

/-!
# Subscriptions that a source serves

A subscription is active as long as the source holds its end and the reader wants its signals. No
call from outside and no read makes a subscription active again; only subscribing makes one, and who
lets go of one ends it.
-/
set_option autoImplicit false

namespace Lookout

theorem countP_le_of_getElem? {α : Type} {p : α → Bool} {xs ys : List α}
    (h : ∀ (i : Nat) (x : α), xs[i]? = some x → p x = true → ∃ y, ys[i]? = some y ∧ p y = true) :
    xs.countP p ≤ ys.countP p := by
  induction xs generalizing ys with
  | nil => exact Nat.zero_le _
  | cons x xs ih =>
    cases ys with
    | nil =>
      refine Nat.le_of_eq (List.countP_eq_zero.2 ?_)
      intro z hz hp
      obtain ⟨i, hi⟩ := List.getElem?_of_mem hz
      obtain ⟨y, hy, -⟩ := h i z hi hp
      cases hy
    | cons y ys =>
      have hrest : xs.countP p ≤ ys.countP p := ih fun i z hz hp => h (i + 1) z hz hp
      rw [List.countP_cons, List.countP_cons]
      split
      · next hx =>
        obtain ⟨z, hz, hp⟩ := h 0 x rfl hx
        obtain rfl := Option.some.inj hz
        rw [if_pos hp]
        exact Nat.succ_le_succ hrest
      · exact Nat.le_trans hrest (Nat.le_add_right _ _)

namespace Subscription

theorem isLive_receive (s : Subscription) : s.receive.2.isLive = s.isLive := by
  unfold receive
  split <;> rfl

theorem isLive_drop (s : Subscription) : s.drop.isLive = false := by
  simp [isLive, drop]

theorem isLive_detach (s : Subscription) : s.detach.isLive = false := rfl

end Subscription

namespace Source

/-- The subscriptions that a registry in memory has made; no other registry makes any. -/
def subscriptions : Source → List (String × Subscription)
  | .memory m => m.subscriptions
  | .fixed _ => []

/-- The subscription with that id is one to the service, and its signals are still wanted. -/
def Active (src : Source) (service : String) (id : SubscriptionId) : Prop :=
  ∃ s, src.subscriptions[id]? = some (service, s) ∧ s.isLive = true

def activeSubscriptions (src : Source) (service : String) : Nat :=
  match src with
  | .memory m => m.activeSubscriptions service
  | .fixed _ => 0

/-- How many lists of a service a registry in memory has counted; no other registry counts any. -/
def listCallsOf (src : Source) (service : String) : Nat :=
  match src with
  | .memory m => m.listCallsOf service
  | .fixed _ => 0

section
variable {src src' : Source} {a service : String} {id : SubscriptionId}
  {id? : Option SubscriptionId}

theorem activeSubscriptions_eq (src : Source) (service : String) :
    src.activeSubscriptions service =
      src.subscriptions.countP fun e => e.1 == service && e.2.isLive := by
  cases src with
  | memory m => exact List.countP_eq_length_filter.symm
  | fixed s => rfl

theorem activeSubscriptions_le (h : ∀ id, src.Active service id → src'.Active service id) :
    src.activeSubscriptions service ≤ src'.activeSubscriptions service := by
  rw [activeSubscriptions_eq, activeSubscriptions_eq]
  refine countP_le_of_getElem? ?_
  rintro id ⟨owner, s⟩ hid hwanted
  obtain ⟨howner, hlive⟩ := Bool.and_eq_true_iff.1 hwanted
  obtain rfl : owner = service := by simpa using howner
  obtain ⟨s', hs', hlive'⟩ := h id ⟨s, hid, hlive⟩
  exact ⟨_, hs', by simp [hlive']⟩

/-! ## Calls from outside -/

theorem active_of_map {f : String × Subscription → String × Subscription}
    (hf : ∀ e, (f e).1 = e.1 ∧ ((f e).2.isLive = true → e.2.isLive = true)) {m m' : Memory}
    (hm' : m'.subscriptions = m.subscriptions.map f) (h : (memory m').Active a id) :
    (memory m).Active a id := by
  obtain ⟨s', hs', hlive⟩ := h
  change m'.subscriptions[id]? = _ at hs'
  rw [hm', List.getElem?_map] at hs'
  obtain ⟨⟨owner, s⟩, hs, heq⟩ := Option.map_eq_some_iff.1 hs'
  obtain ⟨howner, hkept⟩ := hf (owner, s)
  rw [heq] at howner hkept
  obtain rfl : a = owner := howner
  exact ⟨s, hs, hkept hlive⟩

theorem active_of_publish {m : Memory} {signal : Signal}
    (h : (memory (m.publish service signal)).Active a id) : (memory m).Active a id := by
  refine active_of_map (f := Memory.publishTo service signal) ?_ rfl h
  rintro ⟨owner, s⟩
  rw [Memory.publishTo_mk]
  split
  · refine ⟨rfl, ?_⟩
    dsimp only
    split
    · next hlive => exact fun _ => hlive
    · intro hdetached
      rw [s.isLive_detach] at hdetached
      cases hdetached
  · exact ⟨rfl, fun hlive => hlive⟩

theorem active_of_apply {c : Memory.Change} (h : (src.apply c).Active a id) :
    src.Active a id := by
  cases src with
  | fixed s => exact h
  | memory m =>
    cases c with
    | register r => exact active_of_publish h
    | registerUnder service r => exact active_of_publish h
    | setRecords service records => exact active_of_publish h
    | publish service signal => exact active_of_publish h
    | failLists reason? => exact h
    | failSubscribes reason? => exact h
    | delayLists delay => exact h
    | deregister service instanceId =>
      change (memory (m.deregister service instanceId).1).Active a id at h
      unfold Memory.deregister at h
      dsimp only at h
      split at h
      · exact h
      · exact active_of_publish h
    | closeSubscriptions service =>
      refine active_of_map ?_ rfl h
      intro e
      split
      · refine ⟨rfl, ?_⟩
        intro hdetached
        rw [e.2.isLive_detach] at hdetached
        cases hdetached
      · exact ⟨rfl, fun hlive => hlive⟩

theorem listCallsOf_apply (src : Source) (c : Memory.Change) (a : String) :
    (src.apply c).listCallsOf a = src.listCallsOf a := by
  cases src with
  | fixed s => rfl
  | memory m =>
    cases c with
    | deregister service instanceId =>
      change (m.deregister service instanceId).1.listCallsOf a = m.listCallsOf a
      unfold Memory.deregister
      dsimp only
      split <;> rfl
    | _ => rfl

/-! ## Readers -/

/-- A reader brings no subscription back, neither its own nor another. -/
theorem active_of_modify {m : Memory} {own : SubscriptionId} {f : Subscription → Subscription}
    (hf : ∀ s, (f s).isLive = true → s.isLive = true)
    (h : (memory (m.modify own f)).Active a id) : (memory m).Active a id := by
  obtain ⟨s', hs', hlive⟩ := h
  change (m.subscriptions.modify own fun e => (e.1, f e.2))[id]? = _ at hs'
  rw [List.getElem?_modify] at hs'
  obtain ⟨⟨owner, s⟩, hs, heq⟩ := Option.map_eq_some_iff.1 hs'
  split at heq
  · cases heq
    exact ⟨s, hs, hf s hlive⟩
  · cases heq
    exact ⟨s', hs, hlive⟩

theorem active_of_receive (h : (src.receive id?).2.Active a id) : src.Active a id := by
  cases src with
  | fixed s => exact h
  | memory m =>
    cases id? with
    | none => exact h
    | some own =>
      change (memory (m.receive own).2).Active a id at h
      unfold Memory.receive at h
      split at h
      · exact h
      · exact active_of_modify (fun s hlive => s.isLive_receive ▸ hlive) h

theorem active_of_release (h : (src.release id?).Active a id) :
    src.Active a id ∧ id? ≠ some id := by
  cases src with
  | fixed s =>
    obtain ⟨s', hs', -⟩ := h
    cases hs'
  | memory m =>
    cases id? with
    | none => exact ⟨h, by simp⟩
    | some own =>
      have hdropped : ∀ s : Subscription, s.drop.isLive = true → s.isLive = true := by
        intro s hlive
        rw [s.isLive_drop] at hlive
        cases hlive
      refine ⟨active_of_modify hdropped h, ?_⟩
      rintro ⟨⟩
      obtain ⟨s', hs', hlive⟩ := h
      change (m.subscriptions.modify id fun e => (e.1, e.2.drop))[id]? = _ at hs'
      rw [List.getElem?_modify] at hs'
      obtain ⟨e, -, heq⟩ := Option.map_eq_some_iff.1 hs'
      rw [if_pos rfl] at heq
      cases heq
      rw [e.2.isLive_drop] at hlive
      cases hlive

theorem active_of_subscribe (hmade : src.subscribe service = .ok (src', id?))
    (h : src'.Active a id) : src.Active a id ∨ (a = service ∧ id? = some id) := by
  cases src with
  | fixed s =>
    obtain ⟨rfl, -⟩ := Prod.mk.inj (Except.ok.inj hmade)
    exact Or.inl h
  | memory m =>
    cases hfailure : m.subscribeFailure? with
    | some reason =>
      simp only [subscribe, Memory.subscribe, hfailure] at hmade
      cases hmade
    | none =>
      simp only [subscribe, Memory.subscribe, hfailure] at hmade
      cases hmade
      obtain ⟨s, hs, hlive⟩ := h
      change (m.subscriptions ++ [(service, Subscription.opened)])[id]? = _ at hs
      rw [List.getElem?_append] at hs
      split at hs
      · exact Or.inl ⟨s, hs, hlive⟩
      · next hnew =>
        rw [List.getElem?_singleton] at hs
        split at hs
        · next hid =>
          have hlength : m.subscriptions.length = id :=
            Nat.le_antisymm (Nat.le_of_not_lt hnew) (Nat.sub_eq_zero_iff_le.1 hid)
          cases hs
          exact Or.inr ⟨rfl, congrArg some hlength⟩
        · cases hs

theorem listCallsOf_receive (src : Source) (id? : Option SubscriptionId) (a : String) :
    (src.receive id?).2.listCallsOf a = src.listCallsOf a := by
  cases src with
  | fixed s => rfl
  | memory m =>
    cases id? with
    | none => rfl
    | some own =>
      change (m.receive own).2.listCallsOf a = m.listCallsOf a
      unfold Memory.receive
      split <;> rfl

theorem listCallsOf_release (src : Source) (id? : Option SubscriptionId) (a : String) :
    (src.release id?).listCallsOf a = src.listCallsOf a := by
  cases src with
  | fixed s => rfl
  | memory m => cases id? <;> rfl

theorem listCallsOf_subscribe (hmade : src.subscribe service = .ok (src', id?)) (a : String) :
    src'.listCallsOf a = src.listCallsOf a := by
  cases src with
  | fixed s =>
    obtain ⟨rfl, -⟩ := Prod.mk.inj (Except.ok.inj hmade)
    rfl
  | memory m =>
    cases hfailure : m.subscribeFailure? with
    | some reason =>
      simp only [subscribe, Memory.subscribe, hfailure] at hmade
      cases hmade
    | none =>
      simp only [subscribe, Memory.subscribe, hfailure] at hmade
      cases hmade
      rfl

/-! ## Lists -/

theorem active_of_beginList {now : Instant} {limit? : Option Duration}
    (h : (src.beginList now service limit?).1.Active a id) : src.Active a id := by
  cases src with
  | fixed s => exact h
  | memory m => exact h

theorem listCallsOf_beginList (src : Source) (now : Instant) (limit? : Option Duration)
    (ha : a ≠ service) :
    (src.beginList now service limit?).1.listCallsOf a = src.listCallsOf a := by
  cases src with
  | fixed s => rfl
  | memory m =>
    change (m.countList service).listCallsOf a = m.listCallsOf a
    simp only [Memory.listCallsOf, Memory.countList]
    rw [Dict.find?_insert_of_ne _ _ ha]

end

end Source

end Lookout
