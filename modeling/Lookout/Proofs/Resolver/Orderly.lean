import Lookout.Dict.Lemmas
import Lookout.Proofs.Registry.Step
import Lookout.Proofs.Resolver.Ledger

/-!
# Orderly ledgers

In every ledger that a run leads to, a service that is watched has a session of its own, only such
sessions have watchers, and where mailboxes can be made only such sessions go on, those apart that
the call in progress is about. A resolver that has stopped watches nothing and goes on with nothing.
-/
set_option autoImplicit false

namespace Lookout

theorem of_append_getElem? {α : Type} {xs : List α} {new x : α} {i : Nat}
    (h : (xs ++ [new])[i]? = some x) : xs[i]? = some x ∨ (i = xs.length ∧ x = new) := by
  rcases Nat.lt_trichotomy i xs.length with hlt | heq | hgt
  · rw [List.getElem?_append_left hlt] at h
    exact Or.inl h
  · rw [heq, List.getElem?_concat_length] at h
    exact Or.inr ⟨heq, (Option.some.inj h).symm⟩
  · rw [List.getElem?_eq_none (by simp; omega)] at h
    exact absurd h (by simp)

theorem append_getElem? {α : Type} {xs : List α} {x : α} {i : Nat} (h : xs[i]? = some x)
    (new : α) : (xs ++ [new])[i]? = some x := by
  obtain ⟨hlt, -⟩ := List.getElem?_eq_some_iff.1 h
  rw [List.getElem?_append_left hlt]
  exact h

theorem modify_of_fixed {α : Type} {xs : List α} {i : Nat} {x : α} {f : α → α}
    (hx : xs[i]? = some x) (hf : f x = x) : xs.modify i f = xs := by
  apply List.ext_getElem?
  intro j
  rw [List.getElem?_modify]
  by_cases hij : i = j
  · rw [← hij, hx]
    simp [hf]
  · simp [hij]

namespace Ledger

/-! ## Runs -/

def create (buffer : Nat) : Ledger :=
  { buffer, desks := [], ready := [], watched := ∅, histories := ∅, stopped := false
    call? := none }

/-- The ledgers that runs lead to, each with all that happened on the way. -/
inductive Reached (buffer : Nat) : List Notice → Ledger → Prop
  | create : Reached buffer [] (create buffer)
  | step {ns ms : List Notice} {g g' : Ledger} (hreached : Reached buffer ns g)
      (hstep : Step g ms g') : Reached buffer (ns ++ ms) g'

theorem Reached.run {buffer : Nat} {ns : List Notice} {r : Resolver}
    (h : Reached buffer ns r.ledger) (events : List Resolver.Event) :
    Reached buffer (ns ++ (r.run events).2) (r.run events).1.ledger := by
  induction events generalizing ns r with
  | nil =>
    rw [Resolver.run_nil, List.append_nil]
    exact h
  | cons e rest ih =>
    have hnext := ih (h.step (r.ledger_react e))
    rw [List.append_assoc] at hnext
    exact hnext

theorem reached_run (name : String) (config : ResolverConfig) (source : Source)
    (backoff : Backoff) (hooked : Bool) (stamp : String) (events : List Resolver.Event) :
    Reached config.watcherBuffer.toNat
      ((Resolver.create name config source backoff hooked stamp).run events).2
      ((Resolver.create name config source backoff hooked stamp).run events).1.ledger :=
  Reached.run (r := Resolver.create name config source backoff hooked stamp) .create events

/-! ## Desks -/

theorem modify_getElem? (g : Ledger) (i : Nat) (f : Desk → Desk) (j : Nat) :
    (g.modify i f).desks[j]? = if i = j then (g.desks[j]?).map f else g.desks[j]? := by
  simp only [modify]
  rw [List.getElem?_modify]
  split
  · rfl
  · simp

theorem of_modify_getElem? {g : Ledger} {i j : Nat} {f : Desk → Desk} {d' : Desk}
    (h : (g.modify i f).desks[j]? = some d') :
    ∃ d, g.desks[j]? = some d ∧ d' = if i = j then f d else d := by
  rw [modify_getElem?] at h
  split at h
  · next hij =>
    obtain ⟨d, hd, heq⟩ := Option.map_eq_some_iff.1 h
    exact ⟨d, hd, by rw [if_pos hij, heq]⟩
  · next hij => exact ⟨d', h, by rw [if_neg hij]⟩

/-- The session of a service that goes on though nobody watches it, because of the call in
progress. -/
def session? (g : Ledger) (service : String) : Option Nat :=
  match g.call? with
  | some (.joining owner i _) => if owner = service then some i else none
  | some (.keeping owner i) => if owner = service then some i else none
  | some (.cancelling owner i) => if owner = service then some i else none
  | _ => none

/-- The session of a service that is still to be closed. -/
def unclosed? (g : Ledger) (service : String) : Option Nat :=
  match g.call? with
  | some (.closing sessions) => sessions.find? service
  | _ => none

/-- Whether a desk that stays as it is has watchers and goes on as an orderly ledger wants it. -/
structure Keeps (g : Ledger) (i : Nat) (d : Desk) : Prop where
  registry : d.registry.Orderly
  sized : d.registry.capacity = max g.buffer 1
  /-- Only the session of a service that is watched, or is being closed, has watchers. -/
  manned : d.registry.registrations ≠ [] →
    g.watched.find? d.service = some i ∨ g.unclosed? d.service = some i
  /-- Where mailboxes can be made, a session that goes on is that of its service. -/
  going : d.cancelled = false → g.Fits →
    g.watched.find? d.service = some i ∨ g.session? d.service = some i
  ended : g.stopped = true → d.cancelled = true
  /-- Nothing is handed over in a session that is cancelled. -/
  halted : d.cancelled = true → d.registry.cancelled = true

/-- A session of a service that is not watched, in which nobody is registered. -/
structure Vacant (g : Ledger) (service : String) (i : Nat) : Prop where
  opened : g.stopped = false
  unwatched : g.watched.find? service = none
  desk : ∃ d, g.desks[i]? = some d ∧ d.service = service ∧ d.registry.registrations = []

/-- A session that has ended, of a service that is not watched. -/
structure Over (g : Ledger) (service : String) (i : Nat) : Prop where
  unwatched : g.watched.find? service = none
  desk : ∃ d, g.desks[i]? = some d ∧ d.service = service ∧ d.cancelled = true

/-- What holds of the sessions that a call in progress is about. -/
def Allows (g : Ledger) : Call → Prop
  | .joining service i _ => g.Vacant service i
  | .keeping service i => g.Vacant service i ∧ g.Fits
  | .cancelling service i => g.Vacant service i ∧ g.Fits
  | .closing sessions => ∀ service i, sessions.find? service = some i → g.Over service i

structure Orderly (g : Ledger) : Prop where
  desks : ∀ i d, g.desks[i]? = some d → g.Keeps i d
  watched : ∀ service i, g.watched.find? service = some i →
    ∃ d, g.desks[i]? = some d ∧ d.service = service
  fits : ∀ service i, g.watched.find? service = some i → g.Fits
  stopped : g.stopped = true → g.watched = ∅
  call : ∀ c, g.call? = some c → g.Allows c

theorem Orderly.service_of_watched {g : Ledger} (h : g.Orderly) {service : String} {i : Nat}
    {d : Desk} (hwatched : g.watched.find? service = some i) (hd : g.desks[i]? = some d) :
    d.service = service := by
  obtain ⟨d', hd', hservice⟩ := h.watched service i hwatched
  rw [hd] at hd'
  rw [Option.some.inj hd', hservice]

theorem orderly_create (buffer : Nat) : (create buffer).Orderly := by
  refine ⟨?_, ?_, ?_, ?_, ?_⟩ <;> simp [create]

theorem Allows.of_desks {g g' : Ledger} {c : Call} (h : g.Allows c)
    (hstopped : g'.stopped = g.stopped) (hwatched : g'.watched = g.watched)
    (hbuffer : g'.buffer = g.buffer)
    (hvacant : ∀ service i, g.Vacant service i → ∃ d, g'.desks[i]? = some d ∧
      d.service = service ∧ d.registry.registrations = [])
    (hover : ∀ service i, g.Over service i → ∃ d, g'.desks[i]? = some d ∧
      d.service = service ∧ d.cancelled = true) : g'.Allows c := by
  have hvacant' : ∀ {service i}, g.Vacant service i → g'.Vacant service i := fun hold =>
    ⟨hstopped.trans hold.opened, hwatched ▸ hold.unwatched, hvacant _ _ hold⟩
  have hfits : g.Fits → g'.Fits := by
    simp only [Fits, hbuffer]
    exact id
  cases c with
  | joining service i w => exact hvacant' h
  | keeping service i => exact ⟨hvacant' h.1, hfits h.2⟩
  | cancelling service i => exact ⟨hvacant' h.1, hfits h.2⟩
  | closing sessions =>
    intro service i hfind
    have hold := h service i hfind
    exact ⟨hwatched ▸ hold.unwatched, hover _ _ hold⟩

theorem Orderly.modify {g : Ledger} (h : g.Orderly) (i : Nat) {f : Desk → Desk}
    (hservice : ∀ d, (f d).service = d.service)
    (hcancelled : ∀ d, d.cancelled = true → (f d).cancelled = true)
    (hvacant : (∃ service, g.watched.find? service = some i) ∨
      ∀ d, d.registry.registrations = [] → (f d).registry.registrations = [])
    (hkeeps : ∀ d, g.desks[i]? = some d → g.Keeps i (f d)) : (g.modify i f).Orderly where
  desks := by
    intro j d' hd'
    obtain ⟨d, hd, rfl⟩ := of_modify_getElem? hd'
    have hkept : g.Keeps j (if i = j then f d else d) := by
      split
      · next hij =>
        subst hij
        exact hkeeps d hd
      · exact h.desks j d hd
    exact ⟨hkept.registry, hkept.sized, hkept.manned, hkept.going, hkept.ended,
      hkept.halted⟩
  watched := by
    intro service j hj
    obtain ⟨d, hd, hd'⟩ := h.watched service j hj
    rw [modify_getElem?, hd]
    split
    · exact ⟨f d, rfl, (hservice d).trans hd'⟩
    · exact ⟨d, rfl, hd'⟩
  fits := h.fits
  stopped := h.stopped
  call := by
    intro c hc
    refine (h.call c hc).of_desks rfl rfl rfl ?_ ?_
    · intro service j hold
      obtain ⟨d, hd, howner, hnone⟩ := hold.desk
      rw [modify_getElem?, hd]
      split
      · next hij =>
        subst hij
        refine ⟨f d, rfl, (hservice d).trans howner, ?_⟩
        rcases hvacant with ⟨owner, hwatched⟩ | hempty
        · have heq := h.service_of_watched hwatched hd
          rw [← heq, howner, hold.unwatched] at hwatched
          exact absurd hwatched (by simp)
        · exact hempty d hnone
      · exact ⟨d, rfl, howner, hnone⟩
    · intro service j hold
      obtain ⟨d, hd, howner, hended⟩ := hold.desk
      rw [modify_getElem?, hd]
      split
      · exact ⟨f d, rfl, (hservice d).trans howner, hcancelled d hended⟩
      · exact ⟨d, rfl, howner, hended⟩

theorem Orderly.of_eq {g g' : Ledger} (h : g.Orderly) (hbuffer : g'.buffer = g.buffer)
    (hdesks : g'.desks = g.desks) (hwatched : g'.watched = g.watched)
    (hstopped : g'.stopped = g.stopped) (hcall : g'.call? = g.call?) : g'.Orderly := by
  obtain ⟨buffer, desks, ready, watched, histories, stopped, call⟩ := g
  obtain ⟨buffer', desks', ready', watched', histories', stopped', call'⟩ := g'
  cases hbuffer
  cases hdesks
  cases hwatched
  cases hstopped
  cases hcall
  refine ⟨?_, h.watched, h.fits, h.stopped, ?_⟩
  · intro i d hd
    have hkept := h.desks i d hd
    exact ⟨hkept.registry, hkept.sized, hkept.manned, hkept.going, hkept.ended,
      hkept.halted⟩
  · intro c hc
    exact (h.call c hc).of_desks rfl rfl rfl (fun _ _ hold => hold.desk) fun _ _ hold => hold.desk

/-! ## Steps -/

theorem session?_of_free {g : Ledger} (h : g.call? = none) (service : String) :
    g.session? service = none := by
  simp only [session?, h]

theorem unclosed?_of_free {g : Ledger} (h : g.call? = none) (service : String) :
    g.unclosed? service = none := by
  simp only [unclosed?, h]

theorem Orderly.manned_of_free {g : Ledger} (h : g.Orderly) (hfree : g.call? = none) {i : Nat}
    {d : Desk} (hd : g.desks[i]? = some d) (hmanned : d.registry.registrations ≠ []) :
    g.watched.find? d.service = some i := by
  refine ((h.desks i d hd).manned hmanned).resolve_right ?_
  rw [unclosed?_of_free hfree]
  simp

theorem Orderly.going_of_free {g : Ledger} (h : g.Orderly) (hfree : g.call? = none) {i : Nat}
    {d : Desk} (hd : g.desks[i]? = some d) (hgoing : d.cancelled = false) (hfits : g.Fits) :
    g.watched.find? d.service = some i := by
  refine ((h.desks i d hd).going hgoing hfits).resolve_right ?_
  rw [session?_of_free hfree]
  simp

theorem not_stopped_of_open {g : Ledger} {p : Prop} (hopen : g.stopped = false)
    (hstopped : g.stopped = true) : p := by
  rw [hopen] at hstopped
  exact Bool.noConfusion hstopped

theorem Orderly.begin {g : Ledger} (h : g.Orderly) {service : String} (w : WatcherId)
    (hfree : g.call? = none) (hopen : g.stopped = false)
    (hwatched : g.watched.find? service = none) : (g.begin service w).Orderly where
  desks := by
    intro i d hd
    rcases of_append_getElem? hd with hold | ⟨rfl, rfl⟩
    · have hkept := h.desks i d hold
      exact ⟨hkept.registry, hkept.sized, fun hmanned => .inl (h.manned_of_free hfree hold hmanned),
        fun hgoing hfits => .inl (h.going_of_free hfree hold hgoing hfits), hkept.ended,
        hkept.halted⟩
    · refine ⟨Registry.orderly_create _ _ _, rfl, fun hmanned => absurd rfl hmanned,
        fun _ _ => .inr ?_, not_stopped_of_open hopen, fun hover => Bool.noConfusion hover⟩
      simp [session?, Ledger.begin, newDesk]
  watched := by
    intro a i hi
    obtain ⟨d, hd, hservice⟩ := h.watched a i hi
    exact ⟨d, append_getElem? hd _, hservice⟩
  fits := h.fits
  stopped := h.stopped
  call := by
    intro c hc
    obtain rfl := Option.some.inj hc
    exact ⟨hopen, hwatched, _, List.getElem?_concat_length, rfl, rfl⟩

/-- Nobody can be registered in a session that begins exactly if no mailbox can be made. -/
theorem Orderly.add_eq_tooLarge_iff {g : Ledger} (h : g.Orderly) {i : Nat} {d : Desk}
    (hd : g.desks[i]? = some d) (hempty : d.registry.registrations = []) (w : WatcherId) :
    (d.registry.add w).2 = .tooLarge ↔ ¬g.Fits := by
  have hnew : d.registry.has w = false := by simp [Registry.has, hempty]
  rw [Registry.add_eq_tooLarge_iff hnew, (h.desks i d hd).sized]
  exact Nat.not_le.symm

theorem Orderly.joining {g : Ledger} (h : g.Orderly) {service : String} {i : Nat} {w : WatcherId}
    (hcall : g.call? = some (.joining service i w)) : g.Vacant service i := h.call _ hcall

theorem Orderly.fits_of_registered {g : Ledger} (h : g.Orderly) {service : String} {i : Nat}
    {w : WatcherId} (hcall : g.call? = some (.joining service i w))
    (hfits : ∀ d, g.desks[i]? = some d → (d.registry.add w).2 ≠ .tooLarge) : g.Fits := by
  obtain ⟨d, hd, -, hempty⟩ := (h.joining hcall).desk
  exact Decidable.not_not.1 fun hlarge => hfits d hd ((h.add_eq_tooLarge_iff hd hempty w).2 hlarge)

theorem Orderly.not_fits_of_orphaned {g : Ledger} (h : g.Orderly) {service : String} {i : Nat}
    {w : WatcherId} {d : Desk} (hcall : g.call? = some (.joining service i w))
    (hd : g.desks[i]? = some d) (hlarge : (d.registry.add w).2 = .tooLarge) : ¬g.Fits := by
  obtain ⟨d', hd', -, hempty⟩ := (h.joining hcall).desk
  obtain rfl := Option.some.inj (hd.symm.trans hd')
  exact (h.add_eq_tooLarge_iff hd hempty w).1 hlarge

theorem Orderly.session_cases {g : Ledger} (h : g.Orderly) {i j : Nat} {d : Desk}
    {service : String} (hd : g.desks[j]? = some d) (hgoing : d.cancelled = false) (hfits : g.Fits)
    (hsession : ∀ a k, g.session? a = some k → a = service ∧ k = i) :
    g.watched.find? d.service = some j ∨ d.service = service ∧ j = i :=
  ((h.desks j d hd).going hgoing hfits).imp_right (hsession _ _)

theorem session?_joining {g : Ledger} {service : String} {i : Nat} {w : WatcherId}
    (hcall : g.call? = some (.joining service i w)) {a : String} {k : Nat}
    (hsession : g.session? a = some k) : a = service ∧ k = i := by
  simp only [session?, hcall] at hsession
  split at hsession
  · next ha => exact ⟨ha.symm, (Option.some.inj hsession).symm⟩
  · exact absurd hsession (by simp)

theorem Orderly.register {g : Ledger} (h : g.Orderly) {service : String} {i : Nat}
    {w : WatcherId} (hcall : g.call? = some (.joining service i w))
    (hadded : ∀ d, g.desks[i]? = some d → (d.registry.add w).2 ≠ .tooLarge) :
    (g.register service i w).Orderly := by
  have hvacant := h.joining hcall
  have hfits := h.fits_of_registered hcall hadded
  obtain ⟨b, hb, hservice, hempty⟩ := hvacant.desk
  have hother : ∀ {a : String} {j : Nat}, g.watched.find? a = some j →
      (g.watched.insert service i).find? a = some j := by
    intro a j hj
    have hne : a ≠ service := by
      rintro rfl
      rw [hvacant.unwatched] at hj
      exact absurd hj (by simp)
    rw [Dict.find?_insert_of_ne _ _ hne]
    exact hj
  refine ⟨?_, ?_, fun _ _ _ => hfits, not_stopped_of_open hvacant.opened, ?_⟩
  · intro j d' hd'
    obtain ⟨d, hd, rfl⟩ := of_modify_getElem? hd'
    have hkept := h.desks j d hd
    by_cases hij : i = j
    · subst hij
      rw [if_pos rfl]
      obtain rfl := Option.some.inj (hb.symm.trans hd)
      have hfind : (g.watched.insert service i).find? b.service = some i := by
        rw [hservice]
        exact Dict.find?_insert_self _ _ _
      exact ⟨hkept.registry.add w, (Registry.react_capacity _ (.add w)).trans hkept.sized,
        fun _ => .inl hfind, fun _ _ => .inl hfind, hkept.ended,
        fun hover => (Registry.react_cancelled _ (.add w)).trans (hkept.halted hover)⟩
    · rw [if_neg hij]
      refine ⟨hkept.registry, hkept.sized, ?_, ?_, hkept.ended, hkept.halted⟩
      · intro hmanned
        rcases hkept.manned hmanned with hwatched | hunclosed
        · exact .inl (hother hwatched)
        · simp [unclosed?, hcall] at hunclosed
      · intro hgoing _
        rcases h.session_cases hd hgoing hfits (fun a k => session?_joining hcall) with
          hwatched | ⟨-, hji⟩
        · exact .inl (hother hwatched)
        · exact absurd hji.symm hij
  · intro a j hj
    change (g.watched.insert service i).find? a = some j at hj
    change ∃ d, (g.modify i _).desks[j]? = some d ∧ d.service = a
    rw [Dict.find?_insert] at hj
    split at hj
    · next ha =>
      obtain rfl := Option.some.inj hj
      rw [modify_getElem?, if_pos rfl, hb]
      exact ⟨_, rfl, hservice.trans ha.symm⟩
    · obtain ⟨d, hd, howner⟩ := h.watched a j hj
      rw [modify_getElem?, hd]
      split
      · exact ⟨_, rfl, howner⟩
      · exact ⟨d, rfl, howner⟩
  · intro c hc
    exact absurd hc (by simp [Ledger.register])

/-- Without mailboxes a session is left that nobody knows of. -/
theorem Orderly.orphan {g : Ledger} (h : g.Orderly) {service : String} {i : Nat} {w : WatcherId}
    (hcall : g.call? = some (.joining service i w)) (hlarge : ¬g.Fits) :
    Orderly { g with call? := none } where
  desks := by
    intro j d hd
    have hkept := h.desks j d hd
    refine ⟨hkept.registry, hkept.sized, ?_, fun _ hfits => absurd hfits hlarge, hkept.ended,
      hkept.halted⟩
    intro hmanned
    refine (hkept.manned hmanned).imp_right ?_
    intro hunclosed
    simp [unclosed?, hcall] at hunclosed
  watched := h.watched
  fits := h.fits
  stopped := h.stopped
  call := by
    intro c hc
    exact absurd hc (by simp)

theorem Orderly.empty {g : Ledger} (h : g.Orderly) (hfree : g.call? = none) {service : String}
    {i : Nat} (hwatched : g.watched.find? service = some i) {b : Desk}
    (hb : g.desks[i]? = some b) {w : WatcherId}
    (hleft : (b.registry.remove w).1.registrations = []) : (g.empty service i w).Orderly := by
  have hservice := h.service_of_watched hwatched hb
  have hfits := h.fits service i hwatched
  have hother : ∀ {a : String} {j : Nat}, g.watched.find? a = some j → i ≠ j →
      (g.watched.erase service).find? a = some j := by
    intro a j hj hij
    have hne : a ≠ service := by
      rintro rfl
      rw [hwatched] at hj
      exact hij (Option.some.inj hj)
    rw [Dict.find?_erase_of_ne _ hne]
    exact hj
  refine ⟨?_, ?_, fun _ _ _ => hfits, ?_, ?_⟩
  · intro j d' hd'
    obtain ⟨d, hd, rfl⟩ := of_modify_getElem? hd'
    have hkept := h.desks j d hd
    by_cases hij : i = j
    · subst hij
      rw [if_pos rfl]
      obtain rfl := Option.some.inj (hb.symm.trans hd)
      refine ⟨hkept.registry.remove w, hkept.sized, fun hmanned => absurd hleft hmanned,
        fun _ _ => .inr ?_, hkept.ended, hkept.halted⟩
      simp [session?, Ledger.empty, hservice]
    · rw [if_neg hij]
      exact ⟨hkept.registry, hkept.sized,
        fun hmanned => .inl (hother (h.manned_of_free hfree hd hmanned) hij),
        fun hgoing hsize => .inl (hother (h.going_of_free hfree hd hgoing hsize) hij),
        hkept.ended, hkept.halted⟩
  · intro a j hj
    change (g.watched.erase service).find? a = some j at hj
    change ∃ d, (g.modify i _).desks[j]? = some d ∧ d.service = a
    rw [Dict.find?_erase] at hj
    split at hj
    · exact absurd hj (by simp)
    · obtain ⟨d, hd, howner⟩ := h.watched a j hj
      rw [modify_getElem?, hd]
      split
      · exact ⟨_, rfl, howner⟩
      · exact ⟨d, rfl, howner⟩
  · intro hstopped
    rw [h.stopped hstopped] at hwatched
    exact absurd hwatched (by simp)
  · intro c hc
    obtain rfl := Option.some.inj hc
    have hopen : g.stopped = false := by
      refine Bool.eq_false_iff.2 fun hstopped => ?_
      rw [h.stopped hstopped] at hwatched
      exact absurd hwatched (by simp)
    refine ⟨⟨hopen, Dict.find?_erase_self _ _, { b with registry := (b.registry.remove w).1 }, ?_,
      hservice, hleft⟩, hfits⟩
    change (g.modify i _).desks[i]? = _
    rw [modify_getElem?, if_pos rfl, hb]
    rfl

theorem session?_eq_of_call {g g' : Ledger} {service : String} {i : Nat}
    (hcall : g.call? = some (.keeping service i)) (hcall' : g'.call? = some (.cancelling service i))
    (a : String) : g'.session? a = g.session? a := by
  simp only [session?, hcall, hcall']

theorem Orderly.keep {g : Ledger} (h : g.Orderly) {service : String} {i : Nat}
    (hcall : g.call? = some (.keeping service i)) : (g.keep service i).Orderly where
  desks := by
    intro j d hd
    have hkept := h.desks j d hd
    refine ⟨hkept.registry, hkept.sized, ?_, ?_, hkept.ended, hkept.halted⟩
    · intro hmanned
      refine (hkept.manned hmanned).imp_right fun hunclosed => ?_
      simp [unclosed?, hcall] at hunclosed
    · intro hgoing hfits
      have hsame : (g.keep service i).session? d.service = g.session? d.service :=
        session?_eq_of_call hcall rfl _
      rw [hsame]
      exact hkept.going hgoing hfits
  watched := h.watched
  fits := h.fits
  stopped := h.stopped
  call := by
    intro c hc
    obtain rfl := Option.some.inj hc
    obtain ⟨hvacant, hfits⟩ : g.Vacant service i ∧ g.Fits := h.call _ hcall
    exact ⟨⟨hvacant.opened, hvacant.unwatched, hvacant.desk⟩, hfits⟩

theorem of_closing? {sessions : Dict Nat} {c : Call} (h : Call.closing? sessions = some c) :
    c = .closing sessions := by
  unfold Call.closing? at h
  split at h
  · exact absurd h (by simp)
  · exact (Option.some.inj h).symm

theorem unclosed?_closing {g : Ledger} {sessions : Dict Nat} (h : g.call? = Call.closing? sessions)
    (service : String) : g.unclosed? service = sessions.find? service := by
  simp only [unclosed?, h, Call.closing?]
  split
  · next hcall =>
    split at hcall
    · exact absurd hcall (by simp)
    · cases hcall
      rfl
  · next hcall =>
    split at hcall
    · next hnone =>
      simp [Dict.find?, List.isEmpty_iff.1 hnone]
    · exact absurd rfl (hcall sessions)

theorem cancel_keeps {g g' : Ledger} {i : Nat} {d : Desk} (h : g.Keeps i d)
    (hbuffer : g'.buffer = g.buffer)
    (hmanned : d.registry.registrations ≠ [] →
      g'.watched.find? d.service = some i ∨ g'.unclosed? d.service = some i) :
    g'.Keeps i d.cancel :=
  ⟨h.registry.cancel, h.sized.trans (by rw [hbuffer]), hmanned,
    fun hgoing => Bool.noConfusion hgoing, fun _ => rfl, fun _ => rfl⟩

theorem Orderly.cancelOne {g : Ledger} (h : g.Orderly) {service : String} {i : Nat}
    (hcall : g.call? = some (.cancelling service i)) : (g.cancelOne service i).Orderly := by
  obtain ⟨hvacant, hfits⟩ : g.Vacant service i ∧ g.Fits := h.call _ hcall
  obtain ⟨b, hb, hservice, hempty⟩ := hvacant.desk
  have hclosing : (g.cancelOne service i).call? = Call.closing? (Dict.empty.insert service i) := rfl
  have hwatchedOf : ∀ {j : Nat} {d : Desk}, g.desks[j]? = some d →
      d.registry.registrations ≠ [] → g.watched.find? d.service = some j := by
    intro j d hd hmanned
    refine ((h.desks j d hd).manned hmanned).resolve_right fun hunclosed => ?_
    simp [unclosed?, hcall] at hunclosed
  refine ⟨?_, ?_, h.fits, h.stopped, ?_⟩
  · intro j d' hd'
    obtain ⟨d, hd, rfl⟩ := of_modify_getElem? hd'
    have hkept := h.desks j d hd
    by_cases hij : i = j
    · rw [if_pos hij]
      exact cancel_keeps hkept rfl fun hmanned => .inl (hwatchedOf hd hmanned)
    · rw [if_neg hij]
      refine ⟨hkept.registry, hkept.sized, fun hmanned => .inl (hwatchedOf hd hmanned), ?_,
        hkept.ended, hkept.halted⟩
      intro hgoing hsize
      refine (hkept.going hgoing hsize).imp_right fun hsession => ?_
      simp only [session?, hcall] at hsession
      split at hsession
      · exact absurd (Option.some.inj hsession) hij
      · exact absurd hsession (by simp)
  · intro a j hj
    obtain ⟨d, hd, howner⟩ := h.watched a j hj
    change ∃ d, (g.modify i _).desks[j]? = some d ∧ d.service = a
    rw [modify_getElem?, hd]
    split
    · exact ⟨_, rfl, howner⟩
    · exact ⟨d, rfl, howner⟩
  · intro c hc
    obtain rfl := of_closing? (hclosing.symm.trans hc)
    intro a j hj
    rw [Dict.find?_insert] at hj
    split at hj
    · next ha =>
      obtain rfl := Option.some.inj hj
      subst ha
      refine ⟨hvacant.unwatched, b.cancel, ?_, hservice, rfl⟩
      change (g.modify i _).desks[i]? = _
      rw [modify_getElem?, if_pos rfl, hb]
      rfl
    · exact absurd hj (by simp [Dict.find?, Dict.empty])

theorem Orderly.closeOne {g : Ledger} (h : g.Orderly) {service : String} {i : Nat}
    {sessions : Dict Nat} (hcall : g.call? = some (.closing sessions))
    (hfind : sessions.find? service = some i) : (g.closeOne service i sessions).Orderly := by
  have hallows : ∀ a j, sessions.find? a = some j → g.Over a j := h.call _ hcall
  have hclosing : (g.closeOne service i sessions).call? = Call.closing? (sessions.erase service) :=
    rfl
  obtain ⟨b, hb, hservice, hended⟩ := (hallows service i hfind).desk
  refine ⟨?_, ?_, h.fits, h.stopped, ?_⟩
  · intro j d' hd'
    obtain ⟨d, hd, rfl⟩ := of_modify_getElem? hd'
    have hkept := h.desks j d hd
    by_cases hij : i = j
    · subst hij
      rw [if_pos rfl]
      obtain rfl := Option.some.inj (hb.symm.trans hd)
      refine ⟨Registry.orderly_close _, hkept.sized, fun hmanned => absurd rfl hmanned, ?_,
        hkept.ended, hkept.halted⟩
      intro hgoing
      exact absurd (hended.symm.trans hgoing) (by simp)
    · rw [if_neg hij]
      refine ⟨hkept.registry, hkept.sized, ?_, ?_, hkept.ended, hkept.halted⟩
      · intro hmanned
        refine (hkept.manned hmanned).imp_right fun hunclosed => ?_
        rw [unclosed?_closing hclosing]
        simp only [unclosed?, hcall] at hunclosed
        have hne : d.service ≠ service := by
          intro heq
          rw [heq, hfind] at hunclosed
          exact hij (Option.some.inj hunclosed)
        rw [Dict.find?_erase_of_ne _ hne]
        exact hunclosed
      · intro hgoing hsize
        refine (hkept.going hgoing hsize).imp_right fun hsession => ?_
        simp [session?, hcall] at hsession
  · intro a j hj
    obtain ⟨d, hd, howner⟩ := h.watched a j hj
    change ∃ d, (g.modify i _).desks[j]? = some d ∧ d.service = a
    rw [modify_getElem?, hd]
    split
    · exact ⟨_, rfl, howner⟩
    · exact ⟨d, rfl, howner⟩
  · intro c hc
    obtain rfl := of_closing? (hclosing.symm.trans hc)
    intro a j hj
    rw [Dict.find?_erase] at hj
    split at hj
    · exact absurd hj (by simp)
    · have hold := hallows a j hj
      obtain ⟨d, hd, howner, hover⟩ := hold.desk
      refine ⟨hold.unwatched, ?_⟩
      change ∃ d, (g.modify i _).desks[j]? = some d ∧ _
      rw [modify_getElem?, hd]
      split
      · exact ⟨_, rfl, howner, hover⟩
      · exact ⟨d, rfl, howner, hover⟩

theorem Orderly.stop {g : Ledger} (h : g.Orderly) (hfree : g.call? = none) :
    g.stop.Orderly where
  desks := by
    intro i d' hd'
    obtain ⟨d, hd, rfl⟩ := Option.map_eq_some_iff.1 ((List.getElem?_map ..).symm.trans hd')
    refine cancel_keeps (h.desks i d hd) rfl fun hmanned => .inr ?_
    rw [unclosed?_closing (g := g.stop) rfl]
    exact h.manned_of_free hfree hd hmanned
  watched := by
    intro a i hi
    exact absurd hi (by simp [Ledger.stop])
  fits := by
    intro a i hi
    exact absurd hi (by simp [Ledger.stop])
  stopped := fun _ => rfl
  call := by
    intro c hc
    obtain rfl := of_closing? hc
    intro a i hi
    obtain ⟨d, hd, howner⟩ := h.watched a i hi
    refine ⟨Dict.find?_empty a, d.cancel, ?_, howner, rfl⟩
    change (g.desks.map Desk.cancel)[i]? = _
    rw [List.getElem?_map, hd]
    rfl

theorem Orderly.drop {g : Ledger} (h : g.Orderly) (hfree : g.call? = none) :
    Orderly { g with desks := g.desks.map Desk.cancel } where
  desks := by
    intro i d' hd'
    obtain ⟨d, hd, rfl⟩ := Option.map_eq_some_iff.1 ((List.getElem?_map ..).symm.trans hd')
    exact cancel_keeps (h.desks i d hd) rfl fun hmanned => .inl (h.manned_of_free hfree hd hmanned)
  watched := by
    intro a i hi
    obtain ⟨d, hd, hservice⟩ := h.watched a i hi
    refine ⟨d.cancel, ?_, hservice⟩
    rw [List.getElem?_map, hd]
    rfl
  fits := h.fits
  stopped := h.stopped
  call := by
    intro c hc
    exact absurd (hc.symm.trans hfree) (by simp)

theorem deliver_unmanned {g : Registry} (h : g.registrations = []) (t : Nat) :
    g.deliver t = (g, none) := by
  simp only [Registry.deliver]
  rw [h]
  rfl

theorem Orderly.step {g g' : Ledger} {ns : List Notice} (h : g.Orderly) (hstep : Step g ns g') :
    g'.Orderly := by
  cases hstep with
  | quiet hns => exact h
  | @joined service i w hfree hopen hwatched =>
    refine h.modify i (fun _ => rfl) (fun _ hended => hended) (.inl ⟨service, hwatched⟩) ?_
    intro d hd
    have hkept := h.desks i d hd
    refine ⟨hkept.registry.add w, (Registry.react_capacity _ (.add w)).trans hkept.sized, ?_,
      hkept.going, hkept.ended,
      fun hover => (Registry.react_cancelled _ (.add w)).trans (hkept.halted hover)⟩
    intro _
    refine .inl ?_
    change g.watched.find? d.service = some i
    rw [h.service_of_watched hwatched hd]
    exact hwatched
  | begun service w hfree hopen hwatched => exact h.begin w hfree hopen hwatched
  | registered hcall hfits => exact h.register hcall hfits
  | orphaned hcall hd hlarge => exact h.orphan hcall (h.not_fits_of_orphaned hcall hd hlarge)
  | @left service i d w hfree hwatched hd hleft =>
    refine h.modify i (fun _ => rfl) (fun _ hended => hended) (.inl ⟨service, hwatched⟩) ?_
    intro q hq
    have hkept := h.desks i q hq
    refine ⟨hkept.registry.remove w, hkept.sized, ?_, hkept.going, hkept.ended, hkept.halted⟩
    intro _
    refine .inl ?_
    change g.watched.find? q.service = some i
    rw [h.service_of_watched hwatched hq]
    exact hwatched
  | emptied w hfree hwatched hd hleft => exact h.empty hfree hwatched hd hleft
  | kept hcall => exact h.keep hcall
  | cancelled hcall => exact h.cancelOne hcall
  | closed hcall hfind => exact h.closeOne hcall hfind
  | stopped hfree hopen => exact h.stop hfree
  | dropped hfree => exact h.drop hfree
  | built s hd hcancelled hready hrevision => exact h.of_eq rfl rfl rfl rfl rfl
  | @published i d s hd hready =>
    have hempty : ∀ q : Desk, q.registry.registrations = [] →
        (q.registry.notify s).1.registrations = [] := by
      intro q hnil
      simp [Registry.notify, hnil]
    refine Orderly.of_eq (g := g.modify i fun d =>
      { d with registry := (d.registry.notify s).1 }) ?_ rfl rfl rfl rfl rfl
    refine h.modify i (fun _ => rfl) (fun _ hended => hended) (.inr hempty) ?_
    intro q hq
    have hkept := h.desks i q hq
    exact ⟨hkept.registry.notify s, hkept.sized,
      fun hmanned => hkept.manned fun hnil => hmanned (hempty q hnil), hkept.going, hkept.ended,
      hkept.halted⟩
  | @delivered i d t hd =>
    have hempty : ∀ q : Desk, q.registry.registrations = [] →
        (q.registry.deliver t).1.registrations = [] := by
      intro q hnil
      rw [deliver_unmanned hnil t]
      exact hnil
    refine h.modify i (fun _ => rfl) (fun _ hended => hended) (.inr hempty) ?_
    intro q hq
    have hkept := h.desks i q hq
    exact ⟨hkept.registry.deliver t, (Registry.react_capacity _ (.deliver t)).trans hkept.sized,
      fun hmanned => hkept.manned fun hnil => hmanned (hempty q hnil), hkept.going, hkept.ended,
      fun hover => (Registry.react_cancelled _ (.deliver t)).trans (hkept.halted hover)⟩

/-! ## Numbers and tickets -/

theorem issued_le_add (g : Registry) (w : WatcherId) : g.issued ≤ (g.add w).1.issued := by
  rcases g.add_cases w with ⟨heq, -⟩ | ⟨heq, -⟩ | ⟨filled, heq, -⟩
  · exact Nat.le_of_eq (congrArg Registry.issued heq.symm)
  · exact Nat.le_of_eq (congrArg Registry.issued heq.symm)
  · rw [heq]
    exact Nat.le_succ _

theorem issued_deliver (g : Registry) (t : Nat) : (g.deliver t).1.issued = g.issued := by
  unfold Registry.deliver
  split <;> rfl

theorem modify_grows {g : Ledger} {i j : Nat} {d : Desk} (hd : g.desks[j]? = some d)
    {f : Desk → Desk} (hf : i = j → d.registry.issued ≤ (f d).registry.issued) :
    ∃ e, (g.modify i f).desks[j]? = some e ∧ d.registry.issued ≤ e.registry.issued := by
  rw [modify_getElem?, hd]
  split
  · next hij => exact ⟨f d, rfl, hf hij⟩
  · exact ⟨d, rfl, Nat.le_refl _⟩

/-- No desk is ever taken away, and no ticket is taken back. -/
theorem Step.grows {g g' : Ledger} {ns : List Notice} (h : Step g ns g') {j : Nat} {d : Desk}
    (hd : g.desks[j]? = some d) :
    ∃ e, g'.desks[j]? = some e ∧ d.registry.issued ≤ e.registry.issued := by
  cases h with
  | quiet hns => exact ⟨d, hd, Nat.le_refl _⟩
  | joined w hfree hopen hwatched => exact modify_grows hd fun _ => issued_le_add d.registry w
  | begun service w hfree hopen hwatched => exact ⟨d, append_getElem? hd _, Nat.le_refl _⟩
  | registered hcall hfits => exact modify_grows hd fun _ => issued_le_add d.registry _
  | orphaned hcall hq hlarge => exact ⟨d, hd, Nat.le_refl _⟩
  | left w hfree hwatched hq hleft => exact modify_grows hd fun _ => Nat.le_refl _
  | emptied w hfree hwatched hq hleft => exact modify_grows hd fun _ => Nat.le_refl _
  | kept hcall => exact ⟨d, hd, Nat.le_refl _⟩
  | cancelled hcall => exact modify_grows hd fun _ => Nat.le_refl _
  | closed hcall hfind => exact modify_grows hd fun _ => Nat.le_refl _
  | stopped hfree hopen =>
    refine ⟨d.cancel, ?_, Nat.le_refl _⟩
    change (g.desks.map Desk.cancel)[j]? = _
    rw [List.getElem?_map, hd]
    rfl
  | dropped hfree =>
    refine ⟨d.cancel, ?_, Nat.le_refl _⟩
    rw [List.getElem?_map, hd]
    rfl
  | built s hq hcancelled hready hrevision => exact ⟨d, hd, Nat.le_refl _⟩
  | published hq hready => exact modify_grows hd fun _ => Nat.le_refl _
  | delivered t hq =>
    refine modify_grows hd fun _ => ?_
    exact Nat.le_of_eq (issued_deliver d.registry t).symm

theorem Step.buffer {g g' : Ledger} {ns : List Notice} (h : Step g ns g') :
    g'.buffer = g.buffer := by
  cases h <;> rfl

theorem Step.fits_iff {g g' : Ledger} {ns : List Notice} (h : Step g ns g') :
    g'.Fits ↔ g.Fits := by
  simp only [Fits]
  rw [h.buffer]

theorem Reached.buffer {buffer : Nat} {ns : List Notice} {g : Ledger}
    (h : Reached buffer ns g) : g.buffer = buffer := by
  induction h with
  | create => rfl
  | step _ hstep ih => exact hstep.buffer.trans ih

theorem Reached.fits_iff {buffer : Nat} {ns : List Notice} {g : Ledger}
    (h : Reached buffer ns g) : g.Fits ↔ max buffer 1 ≤ Mailbox.maxCapacity := by
  simp only [Fits]
  rw [h.buffer]

theorem Step.open_of_open {g g' : Ledger} {ns : List Notice} (h : Step g ns g')
    (hopen : g'.stopped = false) : g.stopped = false := by
  cases h with
  | stopped hfree hwas => exact hwas
  | _ => exact hopen

theorem Reached.orderly {buffer : Nat} {ns : List Notice} {g : Ledger}
    (h : Reached buffer ns g) : g.Orderly := by
  induction h with
  | create => exact orderly_create buffer
  | step _ hstep ih => exact ih.step hstep

end Ledger

end Lookout
