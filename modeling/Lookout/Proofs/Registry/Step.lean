import Lookout.Registry.Run
import Lookout.Proofs.Registry

/-!
# One registration in a run

What an action does to the registration that answers to a key, said once for all actions. A
registration that is there is changed by what is done to its own mailbox and is lost only with its
watcher or when the registry closes; one that is not there comes with an `add` alone. No action on
another registration is of any consequence.
-/
set_option autoImplicit false

namespace Lookout.Registry

/-- What is left of a registration after an action. -/
def undergo (g : Registry) (r : Registration) : Action → Option Registration
  | .add _ => some r
  | .remove w => if r.watcher = w then none else some r
  | .notify s => some (r.offer g.capacity s)
  | .close => none
  | .cancel => some r
  | .deliver t => some (if r.ticket = t then (deliverOne g.cancelled r).1 else r)

/-- The registration that a new watcher gets: the current snapshot is in its mailbox. -/
def newcomer (g : Registry) (w : WatcherId) : Registration :=
  { ticket := g.issued, watcher := w, unread := g.current?.toList, closed := false }

theorem exists_split_cons {α : Type} {a b : α} {rest : List α} {P : List α → Prop} :
    (∃ x y, a :: rest = x ++ b :: y ∧ P x) ↔
      (a = b ∧ P []) ∨ ∃ x y, rest = x ++ b :: y ∧ P (a :: x) := by
  constructor
  · rintro ⟨x, y, hsplit, hx⟩
    cases x with
    | nil => exact Or.inl ⟨(List.cons.inj hsplit).1, hx⟩
    | cons c x =>
      obtain ⟨rfl, hrest⟩ := List.cons.inj hsplit
      exact Or.inr ⟨x, y, hrest, hx⟩
  · rintro (⟨rfl, hnil⟩ | ⟨x, y, rfl, hx⟩)
    · exact ⟨[], rest, rfl, hnil⟩
    · exact ⟨a :: x, y, rfl, hx⟩

/-! ## Order -/

theorem Orderly.react {g : Registry} (h : g.Orderly) (a : Action) : (g.react a).1.Orderly := by
  cases a with
  | add w => exact h.add w
  | remove w => exact h.remove w
  | notify s => exact h.notify s
  | close => exact g.orderly_close
  | cancel => exact h.cancel
  | deliver t => exact h.deliver t

theorem Orderly.run {g : Registry} (h : g.Orderly) (actions : List Action) :
    (g.run actions).1.Orderly := by
  induction actions generalizing g with
  | nil => exact h
  | cons a rest ih => exact ih (h.react a)

@[simp]
theorem react_capacity (g : Registry) (a : Action) : (g.react a).1.capacity = g.capacity := by
  cases a with
  | add w => rcases g.add_cases w with ⟨h, -⟩ | ⟨h, -⟩ | ⟨_, h, -⟩ <;> simp [react, h]
  | deliver t =>
    simp only [react, deliver]
    split <;> rfl
  | _ => rfl

theorem react_current? (g : Registry) (a : Action) :
    (g.react a).1.current? = match a with
      | .notify s => some s
      | _ => g.current? := by
  cases a with
  | add w => rcases g.add_cases w with ⟨h, -⟩ | ⟨h, -⟩ | ⟨_, h, -⟩ <;> simp [react, h]
  | deliver t =>
    simp only [react, deliver]
    split <;> rfl
  | _ => rfl

theorem react_cancelled (g : Registry) (a : Action) :
    (g.react a).1.cancelled = match a with
      | .cancel => true
      | _ => g.cancelled := by
  cases a with
  | add w => rcases g.add_cases w with ⟨h, -⟩ | ⟨h, -⟩ | ⟨_, h, -⟩ <;> simp [react, h]
  | deliver t =>
    simp only [react, deliver]
    split <;> rfl
  | _ => rfl

@[simp]
theorem run_capacity (g : Registry) (actions : List Action) :
    (g.run actions).1.capacity = g.capacity := by
  induction actions generalizing g with
  | nil => rfl
  | cons a rest ih => simp [ih]

theorem react_issued_le (g : Registry) (a : Action) : g.issued ≤ (g.react a).1.issued := by
  cases a with
  | add w => rcases g.add_cases w with ⟨h, -⟩ | ⟨h, -⟩ | ⟨_, h, -⟩ <;> simp [react, h]
  | deliver t =>
    simp only [react, deliver]
    split <;> exact Nat.le_refl _
  | _ => exact Nat.le_refl _

theorem run_issued_le (g : Registry) (actions : List Action) :
    g.issued ≤ (g.run actions).1.issued := by
  induction actions generalizing g with
  | nil => exact Nat.le_refl _
  | cons a rest ih => exact Nat.le_trans (g.react_issued_le a) (ih _)

/-! ## New watchers -/

theorem add_of_new {g : Registry} {w : WatcherId} (hroom : 0 < g.capacity)
    (hnew : g.has w = false) (hfits : g.capacity ≤ Mailbox.maxCapacity) :
    (g.add w).1 =
      { g with registrations := g.registrations ++ [g.newcomer w], issued := g.issued + 1 } := by
  unfold add
  rw [hnew, if_neg Bool.false_ne_true, if_neg (Nat.not_lt.2 hfits)]
  simp only [newcomer]
  cases g.current? with
  | none => rfl
  | some s => simp [Registration.offer, Registration.hasRoom, hroom]

theorem add_of_not_new {g : Registry} {w : WatcherId}
    (h : g.has w = true ∨ Mailbox.maxCapacity < g.capacity) : (g.add w).1 = g := by
  unfold add
  split
  · rfl
  · next hnew => rw [if_pos (h.resolve_left hnew)]

theorem new_of_registered {g : Registry} {w : WatcherId} {handover : Report}
    (h : (g.add w).2 = .registered handover) :
    g.has w = false ∧ g.capacity ≤ Mailbox.maxCapacity := by
  unfold add at h
  split at h
  · cases h
  · next hnew =>
    split at h
    · cases h
    · next hfits => exact ⟨by simpa using hnew, Nat.not_lt.1 hfits⟩

theorem large_of_tooLarge {g : Registry} {w : WatcherId} (h : (g.add w).2 = .tooLarge) :
    Mailbox.maxCapacity < g.capacity := by
  unfold add at h
  split at h
  · cases h
  · split at h
    · next hlarge => exact hlarge
    · cases h

/-! ## What an action does to a registration -/

section
variable {g : Registry} {key : Key}

/-- A registration of the next state was there before, or has just been added. -/
theorem origin (hroom : 0 < g.capacity) {a : Action} {q : Registration}
    (hq : q ∈ (g.react a).1.registrations) :
    (∃ p ∈ g.registrations, p.ticket = q.ticket ∧ p.watcher = q.watcher) ∨
    ∃ w, a = .add w ∧ q = g.newcomer w ∧ g.has w = false ∧
      g.capacity ≤ Mailbox.maxCapacity := by
  cases a with
  | add w =>
    simp only [react] at hq
    by_cases hnew : g.has w = false ∧ g.capacity ≤ Mailbox.maxCapacity
    · rw [add_of_new hroom hnew.1 hnew.2] at hq
      rcases List.mem_append.1 hq with hold | hlast
      · exact Or.inl ⟨q, hold, rfl, rfl⟩
      · exact Or.inr ⟨w, rfl, List.mem_singleton.1 hlast, hnew⟩
    · have hnot : g.has w = true ∨ Mailbox.maxCapacity < g.capacity := by
        rcases Decidable.not_and_iff_or_not.1 hnew with hhas | hlarge
        · exact Or.inl (by simpa using hhas)
        · exact Or.inr (Nat.not_le.1 hlarge)
      rw [add_of_not_new hnot] at hq
      exact Or.inl ⟨q, hq, rfl, rfl⟩
  | remove w => exact Or.inl ⟨q, (List.mem_filter.1 hq).1, rfl, rfl⟩
  | notify s =>
    obtain ⟨p, hp, rfl⟩ := List.mem_map.1 hq
    exact Or.inl ⟨p, hp, by simp, by simp⟩
  | close => exact absurd hq List.not_mem_nil
  | cancel => exact Or.inl ⟨q, hq, rfl, rfl⟩
  | deliver t =>
    simp only [react, deliver] at hq
    split at hq
    · exact Or.inl ⟨q, hq, rfl, rfl⟩
    · obtain ⟨p, hp, rfl⟩ := List.mem_map.1 hq
      exact Or.inl ⟨p, hp, by split <;> simp, by split <;> simp⟩

theorem registration?_react_eq_none (hroom : 0 < g.capacity) {a : Action}
    (hnone : g.registration? key = none) (hadd : ∀ w, a = .add w → key g.issued w = false) :
    (g.react a).1.registration? key = none := by
  refine List.find?_eq_none.2 fun q hq hkey => ?_
  rcases origin hroom hq with ⟨p, hp, hticket, hwatcher⟩ | ⟨w, ha, rfl, -⟩
  · rw [← hticket, ← hwatcher] at hkey
    exact List.find?_eq_none.1 hnone p hp hkey
  · rw [show key (g.newcomer w).ticket (g.newcomer w).watcher = false from hadd w ha] at hkey
    exact Bool.noConfusion hkey

theorem registration?_add {w : WatcherId} (hroom : 0 < g.capacity)
    (hfits : g.capacity ≤ Mailbox.maxCapacity) (hnew : g.has w = false)
    (hnone : g.registration? key = none) (hkey : key g.issued w = true) :
    (g.add w).1.registration? key = some (g.newcomer w) := by
  rw [add_of_new hroom hnew hfits]
  simp only [registration?] at hnone ⊢
  rw [List.find?_append, hnone]
  simp [newcomer, hkey]

theorem registration?_remove {r : Registration} (h : g.Single key)
    (hr : g.registration? key = some r) (w : WatcherId) :
    (g.remove w).1.registration? key = if r.watcher = w then none else some r := by
  obtain ⟨hmem, hkey⟩ := mem_of_registration? hr
  by_cases hout : r.watcher = w
  · rw [if_pos hout]
    refine List.find?_eq_none.2 fun q hq hqkey => ?_
    obtain ⟨hq, hstays⟩ := List.mem_filter.1 hq
    have hsame := (registration?_of_mem h hq hqkey).symm.trans hr
    rw [Option.some.inj hsame, hout] at hstays
    simp at hstays
  · rw [if_neg hout]
    have hstays : r ∈ (g.remove w).1.registrations :=
      List.mem_filter.2 ⟨hmem, by simpa using hout⟩
    exact registration?_of_mem (List.Pairwise.sublist List.filter_sublist h) hstays hkey

theorem deliver_of_mem (h : g.Orderly) {r : Registration} (hr : r ∈ g.registrations) :
    g.deliver r.ticket =
      ({ g with registrations := g.registrations.map fun q =>
          if q.ticket = r.ticket then (deliverOne g.cancelled q).1 else q },
        some (r.watcher, (deliverOne g.cancelled r).2)) := by
  have hfound := registration?_of_mem (h.single_ticketIs r.ticket) hr (by simp [ticketIs])
  unfold deliver
  rw [show g.registrations.find? (·.ticket == r.ticket) = some r from hfound]

theorem registration?_deliver {r : Registration} (hr : g.registration? key = some r) (t : Nat) :
    (g.deliver t).1.registration? key =
      some (if r.ticket = t then (deliverOne g.cancelled r).1 else r) := by
  unfold deliver
  split
  · next hnobody =>
    have hother : r.ticket ≠ t := by
      simpa using List.find?_eq_none.1 hnobody r (mem_of_registration? hr).1
    rw [hr, if_neg hother]
  · rw [registration?_of_map (g := g)
      (f := fun q => if q.ticket = t then (deliverOne g.cancelled q).1 else q) rfl
      (by intro q; split <;> simp) (by intro q; split <;> simp), hr]
    rfl

theorem registration?_react {r : Registration} (h : g.Single key)
    (hr : g.registration? key = some r) (a : Action) :
    (g.react a).1.registration? key = g.undergo r a := by
  cases a with
  | add w =>
    simp only [react, undergo]
    rcases g.add_cases w with ⟨heq, -⟩ | ⟨heq, -⟩ | ⟨filled, heq, -⟩
    · rw [heq, hr]
    · rw [heq, hr]
    · rw [heq]
      simp only [registration?] at hr ⊢
      rw [List.find?_append, hr]
      rfl
  | remove w => exact registration?_remove h hr w
  | notify s =>
    simp only [react, undergo]
    rw [registration?_of_map (g := g) (f := fun r => r.offer g.capacity s) rfl (by simp) (by simp),
      hr]
    rfl
  | close => rfl
  | cancel => exact hr
  | deliver t => exact registration?_deliver hr t

theorem undergo_eq_none_iff {r : Registration} {a : Action} :
    g.undergo r a = none ↔ a = .remove r.watcher ∨ a = .close := by
  cases a with
  | remove w =>
    simp only [undergo]
    split
    · next hout => simp [hout]
    · next hstays => simp [Ne.symm hstays]
  | _ => simp [undergo]

theorem undergo_same {r r' : Registration} {a : Action} (h : g.undergo r a = some r') :
    r'.ticket = r.ticket ∧ r'.watcher = r.watcher := by
  cases a with
  | remove w =>
    simp only [undergo] at h
    split at h <;> cases h
    exact ⟨rfl, rfl⟩
  | notify s =>
    cases h
    simp
  | deliver t =>
    cases h
    split <;> simp
  | _ => cases h <;> exact ⟨rfl, rfl⟩

theorem deliverOne_closed (cancelled : Bool) (r : Registration) :
    (deliverOne cancelled r).1.closed = (r.closed || cancelled) := by
  unfold deliverOne
  by_cases hclosed : r.closed = true
  · rw [if_pos hclosed, hclosed]
    rfl
  · rw [if_neg hclosed]
    cases cancelled with
    | true => simp
    | false =>
      simp only [Bool.false_eq_true, if_false, Bool.or_false]
      split <;> rfl

/-- A delivery task ends by a step of its own after the registry has been cancelled. -/
theorem undergo_closed {r r' : Registration} {a : Action} (h : g.undergo r a = some r') :
    r'.closed = true ↔ r.closed = true ∨ a = .deliver r.ticket ∧ g.cancelled = true := by
  cases a with
  | remove w =>
    simp only [undergo] at h
    split at h <;> cases h
    simp
  | notify s =>
    cases h
    unfold Registration.offer
    split <;> simp
  | deliver t =>
    cases h
    by_cases hown : r.ticket = t
    · rw [if_pos hown, deliverOne_closed]
      simp [hown]
    · rw [if_neg hown]
      simp [Ne.symm hown]
  | _ => cases h <;> simp

/-! ## What an action hands over -/

theorem registered_of_receipt {a : Action} {x : Receipt} (hx : x ∈ (g.react a).2) :
    a = .deliver x.ticket ∧
      ∃ r ∈ g.registrations, r.ticket = x.ticket ∧ r.watcher = x.watcher := by
  cases a with
  | deliver t =>
    simp only [react, deliver] at hx
    split at hx
    · exact absurd hx List.not_mem_nil
    · next r hfound =>
      have hmem := List.mem_of_find?_eq_some hfound
      have hticket : r.ticket = t := by simpa using List.find?_some hfound
      simp only [receipts] at hx
      split at hx
      · next w s hstep =>
        obtain rfl := List.mem_singleton.1 hx
        obtain ⟨rfl, -⟩ := Prod.mk.inj (Option.some.inj hstep)
        exact ⟨rfl, r, hmem, hticket, rfl⟩
      · exact absurd hx List.not_mem_nil
  | _ => exact absurd hx List.not_mem_nil

/-- What the watcher of a registration is handed by an action. -/
def snapshotsFor (g : Registry) (r : Registration) : Action → List Snapshot
  | .deliver t => if r.ticket = t then (deliverOne g.cancelled r).2.handed else []
  | _ => []

/-- What the watcher of registration `t` was handed. -/
def receivedBy (t : Nat) (got : List Receipt) : List Snapshot :=
  (got.filter (·.ticket == t)).map (·.snapshot)

theorem receivedBy_append (t : Nat) (first later : List Receipt) :
    receivedBy t (first ++ later) = receivedBy t first ++ receivedBy t later := by
  simp [receivedBy]

theorem receivedBy_eq_nil {t : Nat} {got : List Receipt} (h : ∀ x ∈ got, x.ticket ≠ t) :
    receivedBy t got = [] := by
  have hnone : got.filter (·.ticket == t) = [] :=
    List.filter_eq_nil_iff.2 fun x hx => by simpa using h x hx
  simp [receivedBy, hnone]

theorem react_deliver_receipts (h : g.Orderly) {r : Registration} (hr : r ∈ g.registrations) :
    (g.react (.deliver r.ticket)).2 =
      (deliverOne g.cancelled r).2.handed.map fun s => ⟨r.ticket, r.watcher, s⟩ := by
  simp only [react]
  rw [deliver_of_mem h hr]
  cases (deliverOne g.cancelled r).2 <;> rfl

theorem receivedBy_react (h : g.Orderly) {r : Registration} (hr : r ∈ g.registrations)
    (a : Action) : receivedBy r.ticket (g.react a).2 = g.snapshotsFor r a := by
  cases a with
  | deliver t =>
    by_cases hown : r.ticket = t
    · subst hown
      rw [react_deliver_receipts h hr]
      simp [receivedBy, snapshotsFor, List.filter_map, Function.comp_def]
    · simp only [snapshotsFor, if_neg hown]
      refine receivedBy_eq_nil ?_
      intro x hx hticket
      obtain ⟨ht, -⟩ := registered_of_receipt hx
      rw [Action.deliver.inj ht] at hown
      exact hown hticket.symm
  | _ => rfl

end

end Lookout.Registry
