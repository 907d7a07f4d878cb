import Lookout.Registry

/-!
# Mailboxes

What every operation of a registry does to the unread snapshots of one registration. A registration
is chosen by a key, a condition on its ticket and its watcher, which never change; in an orderly
registry a ticket and a watcher each belong to one registration at most. Publishing adds to a
mailbox at its end, delivering takes from its front, and all else can only empty it.
-/
set_option autoImplicit false

namespace Lookout

namespace Report

@[simp]
theorem countIn_zero (m : Metrics) : zero.countIn m = m := by
  simp [countIn, zero]

theorem countIn_countIn (a b : Report) (m : Metrics) :
    b.countIn (a.countIn m) =
      countIn ⟨a.delivered + b.delivered, a.dropped + b.dropped⟩ m := by
  simp only [countIn, UInt64.ofNat_add, UInt64.add_assoc]

end Report

namespace Registration

@[simp]
theorem offer_ticket (r : Registration) (capacity : Nat) (s : Snapshot) :
    (r.offer capacity s).ticket = r.ticket := by
  unfold offer
  split <;> rfl

@[simp]
theorem offer_watcher (r : Registration) (capacity : Nat) (s : Snapshot) :
    (r.offer capacity s).watcher = r.watcher := by
  unfold offer
  split <;> rfl

theorem offer_unread (r : Registration) (capacity : Nat) (s : Snapshot) :
    (r.offer capacity s).unread = r.unread ∨ (r.offer capacity s).unread = r.unread ++ [s] := by
  unfold offer
  split
  · exact Or.inr rfl
  · exact Or.inl rfl

end Registration

namespace Registry

@[simp]
theorem deliverOne_ticket (cancelled : Bool) (r : Registration) :
    (deliverOne cancelled r).1.ticket = r.ticket := by
  unfold deliverOne
  split
  · rfl
  · split
    · rfl
    · split <;> rfl

@[simp]
theorem deliverOne_watcher (cancelled : Bool) (r : Registration) :
    (deliverOne cancelled r).1.watcher = r.watcher := by
  unfold deliverOne
  split
  · rfl
  · split
    · rfl
    · split <;> rfl

/-! ## Order -/

/-- A choice of registrations by ticket and watcher. -/
abbrev Key := Nat → WatcherId → Bool

def ticketIs (t : Nat) : Key := fun u _ => u == t

def watcherIs (w : WatcherId) : Key := fun _ v => v == w

/-- At most one registration answers to the key. -/
def Single (g : Registry) (key : Key) : Prop :=
  g.registrations.Pairwise fun a b =>
    ¬(key a.ticket a.watcher = true ∧ key b.ticket b.watcher = true)

/-- Tickets are handed out once, and a watcher is registered once. -/
structure Orderly (g : Registry) : Prop where
  issued : ∀ r ∈ g.registrations, r.ticket < g.issued
  tickets : (g.registrations.map (·.ticket)).Nodup
  watchers : (g.registrations.map (·.watcher)).Nodup

theorem Orderly.single_ticketIs {g : Registry} (h : g.Orderly) (t : Nat) :
    g.Single (ticketIs t) := by
  have hne := List.pairwise_map.1 h.tickets
  refine hne.imp ?_
  intro a b hab hboth
  simp only [ticketIs, beq_iff_eq] at hboth
  exact hab (hboth.1.trans hboth.2.symm)

theorem Orderly.single_watcherIs {g : Registry} (h : g.Orderly) (w : WatcherId) :
    g.Single (watcherIs w) := by
  have hne := List.pairwise_map.1 h.watchers
  refine hne.imp ?_
  intro a b hab hboth
  simp only [watcherIs, beq_iff_eq] at hboth
  exact hab (hboth.1.trans hboth.2.symm)

theorem Orderly.of_sublist {g g' : Registry} (h : g.Orderly) (hissued : g'.issued = g.issued)
    (hsub : g'.registrations.Sublist g.registrations) : g'.Orderly where
  issued := by
    intro r hr
    rw [hissued]
    exact h.issued r (hsub.subset hr)
  tickets := h.tickets.sublist (hsub.map _)
  watchers := h.watchers.sublist (hsub.map _)

theorem Orderly.of_map {g g' : Registry} (h : g.Orderly) (hissued : g'.issued = g.issued)
    {f : Registration → Registration} (hmap : g'.registrations = g.registrations.map f)
    (hticket : ∀ r, (f r).ticket = r.ticket) (hwatcher : ∀ r, (f r).watcher = r.watcher) :
    g'.Orderly where
  issued := by
    intro r hr
    rw [hmap] at hr
    obtain ⟨q, hq, rfl⟩ := List.mem_map.1 hr
    rw [hissued, hticket]
    exact h.issued q hq
  tickets := by
    rw [hmap, List.map_map]
    simpa only [Function.comp_def, hticket] using h.tickets
  watchers := by
    rw [hmap, List.map_map]
    simpa only [Function.comp_def, hwatcher] using h.watchers

theorem orderly_create (service : String) (capacity : Nat) (current? : Option Snapshot) :
    (create service capacity current?).Orderly := by
  constructor <;> simp [create]

theorem add_cases (g : Registry) (w : WatcherId) :
    ((g.add w).1 = g ∧ (g.add w).2 = .already ∧ g.has w = true) ∨
    ((g.add w).1 = g ∧ (g.add w).2 = .tooLarge ∧ Mailbox.maxCapacity < g.capacity) ∨
    ∃ filled : Registration, (g.add w).1 =
        { g with registrations := g.registrations ++ [filled], issued := g.issued + 1 } ∧
      filled.ticket = g.issued ∧ filled.watcher = w ∧ g.has w = false ∧
      (filled.unread = [] ∨ ∃ s, g.current? = some s ∧ filled.unread = [s]) := by
  unfold add
  by_cases hhas : g.has w = true
  · rw [if_pos hhas]
    exact Or.inl ⟨rfl, rfl, hhas⟩
  · rw [if_neg hhas]
    by_cases hlarge : Mailbox.maxCapacity < g.capacity
    · rw [if_pos hlarge]
      exact Or.inr (Or.inl ⟨rfl, rfl, hlarge⟩)
    · rw [if_neg hlarge]
      have hnew : g.has w = false := by simpa using hhas
      cases hcurrent : g.current? with
      | none => exact Or.inr (Or.inr ⟨_, rfl, rfl, rfl, hnew, Or.inl rfl⟩)
      | some s =>
        refine Or.inr (Or.inr ⟨_, rfl, by simp, by simp, hnew, ?_⟩)
        rcases Registration.offer_unread
          { ticket := g.issued, watcher := w, unread := [], closed := false } g.capacity s with
          h | h
        · exact Or.inl h
        · exact Or.inr ⟨s, rfl, h⟩

theorem add_eq_tooLarge_iff {g : Registry} {w : WatcherId} (hnew : g.has w = false) :
    (g.add w).2 = .tooLarge ↔ Mailbox.maxCapacity < g.capacity := by
  simp only [add]
  rw [hnew, if_neg Bool.false_ne_true]
  by_cases hlarge : Mailbox.maxCapacity < g.capacity
  · rw [if_pos hlarge]
    exact ⟨fun _ => hlarge, fun _ => rfl⟩
  · rw [if_neg hlarge]
    exact ⟨fun h => Added.noConfusion h, fun h => absurd h hlarge⟩

theorem Orderly.add {g : Registry} (h : g.Orderly) (w : WatcherId) : (g.add w).1.Orderly := by
  rcases g.add_cases w with ⟨heq, -⟩ | ⟨heq, -⟩ | ⟨filled, heq, hticket, hwatcher, hnew, -⟩
  · rw [heq]
    exact h
  · rw [heq]
    exact h
  · rw [heq]
    refine ⟨?_, ?_, ?_⟩
    · intro r hr
      rcases List.mem_append.1 hr with hold | hlast
      · exact Nat.lt_succ_of_lt (h.issued r hold)
      · rw [List.mem_singleton.1 hlast, hticket]
        exact Nat.lt_succ_self _
    · rw [List.map_append]
      refine List.nodup_append.2 ⟨h.tickets, by simp, ?_⟩
      intro t ht u hu
      obtain ⟨r, hr, rfl⟩ := List.mem_map.1 ht
      simp only [List.map_cons, List.map_nil, List.mem_singleton] at hu
      rw [hu, hticket]
      exact Nat.ne_of_lt (h.issued r hr)
    · rw [List.map_append]
      refine List.nodup_append.2 ⟨h.watchers, by simp, ?_⟩
      intro v hv u hu
      obtain ⟨r, hr, rfl⟩ := List.mem_map.1 hv
      simp only [List.map_cons, List.map_nil, List.mem_singleton] at hu
      rw [hu, hwatcher]
      intro hsame
      have hhas : g.has w = true := List.any_eq_true.2 ⟨r, hr, by simpa using hsame⟩
      rw [hnew] at hhas
      exact Bool.noConfusion hhas

theorem Orderly.remove {g : Registry} (h : g.Orderly) (w : WatcherId) :
    (g.remove w).1.Orderly :=
  h.of_sublist rfl List.filter_sublist

theorem Orderly.notify {g : Registry} (h : g.Orderly) (s : Snapshot) : (g.notify s).1.Orderly :=
  h.of_map (f := fun r => r.offer g.capacity s) rfl rfl (by simp) (by simp)

theorem orderly_close (g : Registry) : g.close.Orderly := by
  refine ⟨?_, ?_, ?_⟩ <;> simp [close]

theorem Orderly.cancel {g : Registry} (h : g.Orderly) : g.cancel.Orderly :=
  h.of_sublist rfl (List.Sublist.refl _)

theorem Orderly.deliver {g : Registry} (h : g.Orderly) (t : Nat) : (g.deliver t).1.Orderly := by
  unfold Registry.deliver
  split
  · exact h
  · refine h.of_map (f := fun q => if q.ticket = t then (deliverOne g.cancelled q).1 else q)
      rfl rfl ?_ ?_
    · intro r
      split <;> simp
    · intro r
      split <;> simp

/-! ## Unread snapshots -/

def registration? (g : Registry) (key : Key) : Option Registration :=
  g.registrations.find? fun r => key r.ticket r.watcher

/-- The unread snapshots of the registration that answers to the key. -/
def unread (g : Registry) (key : Key) : List Snapshot :=
  ((g.registration? key).map (·.unread)).getD []

/-- What a step of a delivery task hands over. -/
def Delivery.handed : Delivery → List Snapshot
  | .delivered s => [s]
  | _ => []

/-- What a step of the delivery task of registration `t` hands to a watcher that answers to the
key. -/
def handed (key : Key) (t : Nat) : Option (WatcherId × Delivery) → List Snapshot
  | some (w, step) => if key t w then step.handed else []
  | none => []

theorem unread_of_registrations_nil {g : Registry} (h : g.registrations = []) (key : Key) :
    g.unread key = [] := by
  simp [unread, registration?, h]

theorem mem_of_registration? {g : Registry} {key : Key} {r : Registration}
    (h : g.registration? key = some r) :
    r ∈ g.registrations ∧ key r.ticket r.watcher = true := by
  unfold registration? at h
  exact ⟨List.mem_of_find?_eq_some h, by simpa using List.find?_some h⟩

theorem registration?_of_mem {g : Registry} {key : Key} (h : g.Single key) {r : Registration}
    (hr : r ∈ g.registrations) (hkey : key r.ticket r.watcher = true) :
    g.registration? key = some r := by
  simp only [registration?]
  simp only [Single] at h
  generalize g.registrations = registrations at h hr
  induction registrations with
  | nil => exact absurd hr List.not_mem_nil
  | cons q rest ih =>
    obtain ⟨hq, hrest⟩ := List.pairwise_cons.1 h
    rcases List.mem_cons.1 hr with rfl | hr
    · simp [hkey]
    · have hnot : ¬key q.ticket q.watcher = true := fun hqkey => hq r hr ⟨hqkey, hkey⟩
      simpa only [List.find?_cons, hnot] using ih hrest hr

/-- The registrations change in their mailboxes only: so does the one that answers to the key. -/
theorem registration?_of_map {g g' : Registry} {f : Registration → Registration}
    (hmap : g'.registrations = g.registrations.map f) (hticket : ∀ r, (f r).ticket = r.ticket)
    (hwatcher : ∀ r, (f r).watcher = r.watcher) (key : Key) :
    g'.registration? key = (g.registration? key).map f := by
  simp only [registration?]
  rw [hmap, List.find?_map]
  simp only [Function.comp_def, hticket, hwatcher]

theorem unread_add (g : Registry) (w : WatcherId) (key : Key) :
    (g.add w).1.unread key = g.unread key ∨
    (g.registration? key = none ∧ key g.issued w = true ∧
      ∃ s, g.current? = some s ∧ (g.add w).1.unread key = [s]) := by
  rcases g.add_cases w with ⟨heq, -⟩ | ⟨heq, -⟩ | ⟨filled, heq, hticket, hwatcher, -, hunread⟩
  · rw [heq]
    exact Or.inl rfl
  · rw [heq]
    exact Or.inl rfl
  · simp only [unread, registration?]
    rw [heq]
    simp only [List.find?_append]
    cases hfound : g.registrations.find? fun r => key r.ticket r.watcher with
    | some r => exact Or.inl rfl
    | none =>
      by_cases hkey : key g.issued w = true
      · rcases hunread with hnil | ⟨s, hs, hone⟩
        · exact Or.inl (by simp [hticket, hwatcher, hkey, hnil])
        · exact Or.inr ⟨rfl, hkey, s, hs, by simp [hticket, hwatcher, hkey, hone]⟩
      · exact Or.inl (by simp [hticket, hwatcher, hkey])

theorem unread_remove {g : Registry} {key : Key} (h : g.Single key) (w : WatcherId) :
    (g.remove w).1.unread key <+: g.unread key := by
  unfold unread
  cases hleft : (g.remove w).1.registration? key with
  | none => exact List.nil_prefix
  | some r =>
    obtain ⟨hr, hkey⟩ := mem_of_registration? hleft
    refine ⟨[], ?_⟩
    rw [registration?_of_mem h (List.mem_filter.1 hr).1 hkey, List.append_nil]

theorem unread_notify (g : Registry) (s : Snapshot) (key : Key) :
    (g.notify s).1.unread key = g.unread key ∨
    (g.notify s).1.unread key = g.unread key ++ [s] := by
  simp only [unread]
  rw [registration?_of_map (g := g) (f := fun r => r.offer g.capacity s) rfl (by simp) (by simp)]
  cases g.registration? key with
  | none => exact Or.inl rfl
  | some r => exact r.offer_unread g.capacity s

theorem deliverOne_unread (cancelled : Bool) (r : Registration) :
    (deliverOne cancelled r).2.handed ++ (deliverOne cancelled r).1.unread <+: r.unread := by
  unfold deliverOne
  by_cases hclosed : r.closed = true
  · rw [if_pos hclosed]
    exact List.prefix_rfl
  · rw [if_neg hclosed]
    by_cases hcancelled : cancelled = true
    · rw [if_pos hcancelled]
      exact List.nil_prefix
    · rw [if_neg hcancelled]
      cases hunread : r.unread with
      | nil => simp [Delivery.handed, hunread]
      | cons s rest => exact List.prefix_rfl

/-- What a delivery hands over comes from the front of the mailbox. -/
theorem handed_append_unread {g : Registry} (horderly : g.Orderly) {key : Key} (h : g.Single key)
    (t : Nat) :
    handed key t (g.deliver t).2 ++ (g.deliver t).1.unread key <+: g.unread key := by
  unfold deliver
  cases hfound : g.registrations.find? (·.ticket == t) with
  | none => exact List.prefix_rfl
  | some r =>
    have hr : r ∈ g.registrations := List.mem_of_find?_eq_some hfound
    have hticket : r.ticket = t := by simpa using List.find?_some hfound
    simp only [unread]
    rw [registration?_of_map (g := g)
      (f := fun q => if q.ticket = t then (deliverOne g.cancelled q).1 else q) rfl
      (by intro q; split <;> simp) (by intro q; split <;> simp)]
    by_cases hkey : key t r.watcher = true
    · -- the registration that answers to the key is the one that delivers
      rw [registration?_of_mem h hr (by rw [hticket]; exact hkey)]
      simp only [handed, hkey, if_true, Option.map_some, Option.getD_some, hticket]
      exact deliverOne_unread g.cancelled r
    · simp only [handed, hkey, Bool.false_eq_true, if_false, List.nil_append]
      cases hother : g.registration? key with
      | none => exact List.prefix_rfl
      | some q =>
        obtain ⟨hq, hqkey⟩ := mem_of_registration? hother
        by_cases hsame : q.ticket = t
        · -- tickets are distinct, so this would be the registration that delivers
          have htickets := registration?_of_mem (horderly.single_ticketIs t) hq
            (by simp [ticketIs, hsame])
          have hr' := registration?_of_mem (horderly.single_ticketIs t) hr
            (by simp [ticketIs, hticket])
          rw [htickets] at hr'
          obtain rfl := Option.some.inj hr'
          rw [hsame] at hqkey
          exact absurd hqkey hkey
        · simp [hsame]

end Registry

end Lookout
