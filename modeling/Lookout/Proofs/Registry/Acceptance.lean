import Lookout.Proofs.Registry.Step

/-!
# What a mailbox accepts

A registration's mailbox accepts the snapshot that is current when its watcher is added, and from
then on every snapshot that is published while it is registered, its task runs and its mailbox has
room. As long as the task runs, what its watcher has been handed and what is still unread are
together what was accepted, in order; when the task has ended, or the registration is gone, nothing
is handed over any more.
-/
set_option autoImplicit false

namespace Lookout.Registry

def notified (actions : List Action) : List Snapshot :=
  actions.filterMap fun
    | .notify s => some s
    | _ => none

/-- The snapshot that is current after a run. -/
def latest (seed? : Option Snapshot) (actions : List Action) : Option Snapshot :=
  (notified actions).getLast?.or seed?

/-- Registration `t`, if its delivery task is running. -/
def running? (g : Registry) (t : Nat) : Option Registration :=
  (g.registration? (ticketIs t)).filter (!·.closed)

/-- Whether the mailbox of registration `t` takes one more snapshot. -/
def takes (g : Registry) (capacity t : Nat) : Bool :=
  (g.running? t).any fun r => r.unread.length < max capacity 1

/-- What an action puts into the mailbox of registration `t`. -/
def taken (g : Registry) (capacity t : Nat) : Action → List Snapshot
  | .notify s => if g.takes capacity t then [s] else []
  | _ => []

/-- What the mailbox of registration `t` accepts in a run. -/
def accepted (g : Registry) (capacity t : Nat) : List Action → List Snapshot
  | [] => []
  | a :: rest => g.taken capacity t a ++ accepted (g.react a).1 capacity t rest

/-- What is unread in the mailbox of registration `t` and may still be handed over. -/
def pending (g : Registry) (t : Nat) : List Snapshot :=
  ((g.running? t).map (·.unread)).getD []

theorem current?_run (g : Registry) (actions : List Action) :
    (g.run actions).1.current? = latest g.current? actions := by
  induction actions generalizing g with
  | nil => rfl
  | cons a rest ih =>
    rw [run_cons, ih, react_current?]
    cases a with
    | notify s =>
      simp only [latest, notified, List.filterMap_cons, List.getLast?_cons]
      cases (List.filterMap _ rest).getLast? <;> rfl
    | _ => rfl

theorem cancelled_run (g : Registry) (actions : List Action) :
    (g.run actions).1.cancelled = true ↔ g.cancelled = true ∨ .cancel ∈ actions := by
  induction actions generalizing g with
  | nil => simp
  | cons a rest ih =>
    rw [run_cons, ih, react_cancelled, List.mem_cons]
    cases a <;> simp

/-! ## One registration -/

/-- The registry has made a registration with ticket `t`, whether it is still there or not. -/
structure Issued (g : Registry) (t : Nat) : Prop where
  orderly : g.Orderly
  room : 0 < g.capacity
  issued : t < g.issued

section
variable {g : Registry} {t : Nat}

theorem Issued.react (h : g.Issued t) (a : Action) : (g.react a).1.Issued t where
  orderly := h.orderly.react a
  room := by
    rw [react_capacity]
    exact h.room
  issued := Nat.lt_of_lt_of_le h.issued (g.react_issued_le a)

theorem Issued.single (h : g.Issued t) : g.Single (ticketIs t) := h.orderly.single_ticketIs t

theorem Issued.registration?_react_eq_none (h : g.Issued t)
    (hnone : g.registration? (ticketIs t) = none) (a : Action) :
    (g.react a).1.registration? (ticketIs t) = none := by
  refine Registry.registration?_react_eq_none h.room hnone ?_
  intro w _
  simpa [ticketIs] using Nat.ne_of_gt h.issued

theorem of_running? {r : Registration} (h : g.running? t = some r) :
    g.registration? (ticketIs t) = some r ∧ r.closed = false ∧ r ∈ g.registrations ∧
      r.ticket = t := by
  obtain ⟨hr, hopen⟩ := Option.filter_eq_some_iff.1 h
  obtain ⟨hmem, hkey⟩ := mem_of_registration? hr
  exact ⟨hr, by simpa using hopen, hmem, by simpa [ticketIs] using hkey⟩

theorem running?_react (h : g.Orderly) {r : Registration} (hr : g.running? t = some r)
    (a : Action) : (g.react a).1.running? t = (g.undergo r a).filter (!·.closed) := by
  simp only [running?]
  rw [registration?_react (h.single_ticketIs t) (of_running? hr).1]

theorem Issued.running?_react_eq_none (h : g.Issued t) (hnone : g.running? t = none)
    (a : Action) : (g.react a).1.running? t = none := by
  simp only [running?] at hnone ⊢
  cases hr : g.registration? (ticketIs t) with
  | none => rw [h.registration?_react_eq_none hr, Option.filter_none]
  | some r =>
    rw [registration?_react h.single hr]
    rw [hr] at hnone
    have hclosed : r.closed = true := by simpa using hnone
    cases hr' : g.undergo r a with
    | none => rfl
    | some r' => simp [(undergo_closed hr').2 (Or.inl hclosed)]

theorem receivedBy_react_of_none (h : g.Orderly) (hnone : g.running? t = none) (a : Action) :
    receivedBy t (g.react a).2 = [] := by
  cases hr : g.registration? (ticketIs t) with
  | none =>
    refine receivedBy_eq_nil ?_
    intro x hx hticket
    obtain ⟨-, r, hr', hsame, -⟩ := registered_of_receipt hx
    refine List.find?_eq_none.1 hr r hr' ?_
    simp [ticketIs, hsame, hticket]
  | some r =>
    obtain ⟨hmem, hkey⟩ := mem_of_registration? hr
    have hticket : r.ticket = t := by simpa [ticketIs] using hkey
    have hclosed : r.closed = true := by simpa [running?, hr] using hnone
    rw [← hticket, receivedBy_react h hmem]
    cases a with
    | deliver u =>
      simp only [snapshotsFor, deliverOne, hclosed, if_true]
      split <;> rfl
    | _ => rfl

theorem takes_of_running? {capacity : Nat} {r : Registration} (hr : g.running? t = some r)
    (hcapacity : g.capacity = max capacity 1) : g.takes capacity t = r.hasRoom g.capacity := by
  simp [takes, hr, Registration.hasRoom, (of_running? hr).2.1, hcapacity]

theorem handed_append_of_open {cancelled : Bool} {r : Registration} (hopen : r.closed = false)
    (hstays : (deliverOne cancelled r).1.closed = false) :
    (deliverOne cancelled r).2.handed ++ (deliverOne cancelled r).1.unread = r.unread := by
  rw [deliverOne_closed, hopen] at hstays
  obtain rfl : cancelled = false := by simpa using hstays
  simp only [deliverOne, hopen, Bool.false_eq_true, if_false]
  cases hunread : r.unread with
  | nil => simp [Delivery.handed, hunread]
  | cons s rest => rfl

theorem handed_eq_nil_of_ending {cancelled : Bool} {r : Registration} (hopen : r.closed = false)
    (hends : (deliverOne cancelled r).1.closed = true) :
    (deliverOne cancelled r).2.handed = [] := by
  rw [deliverOne_closed, hopen] at hends
  obtain rfl : cancelled = true := by simpa using hends
  simp [deliverOne, hopen, Delivery.handed]

/-- While a task runs, what is handed over and what is left balance what was unread and what is
taken in. -/
theorem balance {capacity : Nat} (h : g.Orderly) (hcapacity : g.capacity = max capacity 1)
    {r r' : Registration} (hr : g.running? t = some r) {a : Action}
    (hr' : (g.react a).1.running? t = some r') :
    receivedBy t (g.react a).2 ++ r'.unread = r.unread ++ g.taken capacity t a := by
  obtain ⟨-, hopen, hmem, hticket⟩ := of_running? hr
  rw [running?_react h hr] at hr'
  obtain ⟨hafter, hstays⟩ := Option.filter_eq_some_iff.1 hr'
  have hreceived := receivedBy_react h hmem a
  rw [hticket] at hreceived
  rw [hreceived]
  cases a with
  | remove w =>
    simp only [undergo] at hafter
    split at hafter <;> cases hafter
    simp [snapshotsFor, taken]
  | notify s =>
    cases hafter
    simp only [snapshotsFor, taken, takes_of_running? hr hcapacity, Registration.offer,
      List.nil_append]
    split <;> simp
  | deliver u =>
    cases hafter
    simp only [snapshotsFor, taken, List.append_nil]
    by_cases hown : r.ticket = u
    · rw [if_pos hown] at hstays ⊢
      rw [if_pos hown]
      exact handed_append_of_open hopen (by simpa using hstays)
    · rw [if_neg hown, if_neg hown, List.nil_append]
  | _ => cases hafter <;> simp [snapshotsFor, taken]

theorem receivedBy_react_of_ending (h : g.Orderly) {r : Registration}
    (hr : g.running? t = some r) {a : Action} (hends : (g.react a).1.running? t = none) :
    receivedBy t (g.react a).2 = [] := by
  obtain ⟨-, hopen, hmem, hticket⟩ := of_running? hr
  rw [running?_react h hr] at hends
  have hreceived := receivedBy_react h hmem a
  rw [hticket] at hreceived
  rw [hreceived]
  cases a with
  | deliver u =>
    simp only [snapshotsFor]
    by_cases hown : r.ticket = u
    · rw [if_pos hown]
      refine handed_eq_nil_of_ending hopen ?_
      simpa [undergo, hown] using hends
    · rw [if_neg hown]
  | _ => rfl

/-! ## A run -/

theorem run_of_ended {capacity : Nat} (h : g.Issued t) (hnone : g.running? t = none)
    (actions : List Action) :
    (g.run actions).1.running? t = none ∧ receivedBy t (g.run actions).2 = [] ∧
      g.accepted capacity t actions = [] := by
  induction actions generalizing g with
  | nil => exact ⟨hnone, rfl, rfl⟩
  | cons a rest ih =>
    have hnext := h.running?_react_eq_none hnone a
    obtain ⟨hlast, hreceived, haccepted⟩ := ih (h.react a) hnext
    have hnothing : g.taken capacity t a = [] := by
      cases a <;> simp [taken, takes, hnone]
    refine ⟨hlast, ?_, ?_⟩
    · rw [run_cons, receivedBy_append, receivedBy_react_of_none h.orderly hnone, hreceived]
      rfl
    · simp only [accepted]
      rw [hnothing, haccepted]
      rfl

/-- What is handed over in a run comes first in what was unread and what was accepted; the rest is
unread as long as the task runs. -/
theorem received_run {capacity : Nat} (h : g.Issued t) (hcapacity : g.capacity = max capacity 1)
    (actions : List Action) :
    ∃ left, receivedBy t (g.run actions).2 ++ left =
        g.pending t ++ g.accepted capacity t actions ∧
      ∀ r, (g.run actions).1.running? t = some r → r.unread = left := by
  induction actions generalizing g with
  | nil =>
    refine ⟨g.pending t, by simp [receivedBy, accepted], ?_⟩
    intro r hr
    simp only [run_nil] at hr
    simp [pending, hr]
  | cons a rest ih =>
    obtain ⟨left, hleft, hlast⟩ := ih (h.react a) ((g.react_capacity a).trans hcapacity)
    cases hr : g.running? t with
    | none =>
      obtain ⟨hended, hreceived, haccepted⟩ := run_of_ended h hr (a :: rest)
      refine ⟨[], by rw [hreceived, haccepted]; simp [pending, hr], ?_⟩
      intro r hr'
      rw [hended] at hr'
      cases hr'
    | some r =>
      rw [run_cons, receivedBy_append]
      simp only [accepted]
      cases hr' : (g.react a).1.running? t with
      | some r' =>
        refine ⟨left, ?_, hlast⟩
        have hstep := balance h.orderly hcapacity hr hr'
        calc receivedBy t (g.react a).2 ++ receivedBy t ((g.react a).1.run rest).2 ++ left
            = receivedBy t (g.react a).2 ++
                ((g.react a).1.pending t ++ (g.react a).1.accepted capacity t rest) := by
              rw [List.append_assoc, hleft]
          _ = (receivedBy t (g.react a).2 ++ r'.unread) ++
                (g.react a).1.accepted capacity t rest := by
              simp [pending, hr']
          _ = (r.unread ++ g.taken capacity t a) ++ (g.react a).1.accepted capacity t rest := by
              rw [hstep]
          _ = g.pending t ++ (g.taken capacity t a ++
                (g.react a).1.accepted capacity t rest) := by
              simp [pending, hr]
      | none =>
        -- nothing is handed over by this action or after it; all that was accepted is left over
        obtain ⟨hended, hreceived, haccepted⟩ := run_of_ended (h.react a) hr' rest
        refine ⟨g.pending t ++ g.taken capacity t a, ?_, ?_⟩
        · rw [receivedBy_react_of_ending h.orderly hr hr', hreceived, haccepted]
          simp
        · intro r'' hr''
          rw [hended] at hr''
          cases hr''

/-- How a registration fares: it stays until its watcher is removed or the registry is closed, and
its task runs until it takes a step when the registry has been cancelled. -/
structure Standing (t : Nat) (w : WatcherId) (before after : List Action) (last : Registry) :
    Prop where
  registered : (last.registration? (ticketIs t)).isSome ↔ .remove w ∉ after ∧ .close ∉ after
  watcher : ∀ r, last.registration? (ticketIs t) = some r → r.watcher = w
  ended : ∀ r, last.registration? (ticketIs t) = some r →
    (r.closed = true ↔ ∃ x y, after = x ++ .deliver t :: y ∧ .cancel ∈ before ++ x)

theorem not_registered_run (h : g.Issued t) (hnone : g.registration? (ticketIs t) = none)
    (actions : List Action) : (g.run actions).1.registration? (ticketIs t) = none := by
  induction actions generalizing g with
  | nil => exact hnone
  | cons a rest ih => exact ih (h.react a) (h.registration?_react_eq_none hnone a)

theorem closed_run (h : g.Issued t) {r r' : Registration}
    (hr : g.registration? (ticketIs t) = some r) {actions : List Action}
    (hr' : (g.run actions).1.registration? (ticketIs t) = some r') :
    r'.closed = true ↔ r.closed = true ∨
      ∃ x y, actions = x ++ .deliver t :: y ∧ (g.cancelled = true ∨ .cancel ∈ x) := by
  induction actions generalizing g r with
  | nil =>
    obtain rfl : r = r' := Option.some.inj (hr.symm.trans hr')
    simp
  | cons a rest ih =>
    cases hnext : g.undergo r a with
    | none =>
      have hnone := (registration?_react h.single hr a).trans hnext
      rw [run_cons, not_registered_run (h.react a) hnone] at hr'
      cases hr'
    | some q =>
      have hq := (registration?_react h.single hr a).trans hnext
      have hticket : r.ticket = t := by simpa [ticketIs] using (mem_of_registration? hr).2
      have hcancelled := cancelled_run g [a]
      rw [ih (h.react a) hq hr', undergo_closed hnext, hticket]
      simp only [run_cons, run_nil, List.mem_singleton] at hcancelled
      simp only [exists_split_cons, hcancelled, List.mem_cons, List.not_mem_nil, or_false,
        or_assoc]

theorem registered_run (h : g.Issued t) {r : Registration}
    (hr : g.registration? (ticketIs t) = some r) (actions : List Action) :
    (((g.run actions).1.registration? (ticketIs t)).isSome ↔
      .remove r.watcher ∉ actions ∧ .close ∉ actions) ∧
    ∀ r', (g.run actions).1.registration? (ticketIs t) = some r' → r'.watcher = r.watcher := by
  induction actions generalizing g r with
  | nil =>
    rw [run_nil, hr]
    simp
  | cons a rest ih =>
    have hreact := registration?_react h.single hr a
    rw [run_cons]
    cases hnext : g.undergo r a with
    | none =>
      have hgone := not_registered_run (h.react a) (hreact.trans hnext) rest
      rw [hgone]
      rcases undergo_eq_none_iff.1 hnext with rfl | rfl <;> simp
    | some q =>
      obtain ⟨-, hwatcher⟩ := undergo_same hnext
      have hstays : ¬(a = .remove r.watcher ∨ a = .close) := by
        rw [← undergo_eq_none_iff (g := g), hnext]
        simp
      obtain ⟨hregistered, hsame⟩ := ih (h.react a) (hreact.trans hnext)
      rw [hwatcher] at hregistered hsame
      refine ⟨?_, hsame⟩
      rw [hregistered]
      simp only [List.mem_cons, not_or] at hstays ⊢
      constructor
      · rintro ⟨hremove, hclose⟩
        exact ⟨⟨Ne.symm hstays.1, hremove⟩, Ne.symm hstays.2, hclose⟩
      · rintro ⟨⟨-, hremove⟩, -, hclose⟩
        exact ⟨hremove, hclose⟩

theorem watcher_of_received (h : g.Issued t) {w : WatcherId}
    (hw : ∀ r, g.registration? (ticketIs t) = some r → r.watcher = w) {actions : List Action}
    {x : Receipt} (hx : x ∈ (g.run actions).2) (hticket : x.ticket = t) : x.watcher = w := by
  induction actions generalizing g with
  | nil => exact absurd hx List.not_mem_nil
  | cons a rest ih =>
    rw [run_cons] at hx
    rcases List.mem_append.1 hx with hfirst | hlater
    · obtain ⟨-, r, hr, hsame, hwatcher⟩ := registered_of_receipt hfirst
      rw [← hwatcher]
      exact hw r (registration?_of_mem h.single hr (by simp [ticketIs, hsame, hticket]))
    · refine ih (h.react a) ?_ hlater
      intro q hq
      cases hr : g.registration? (ticketIs t) with
      | none =>
        have hnone := not_registered_run h hr [a]
        rw [run_cons, run_nil, hq] at hnone
        cases hnone
      | some r =>
        rw [registration?_react h.single hr] at hq
        rw [(undergo_same hq).2]
        exact hw r hr

theorem ticket_lt_of_received (h : g.Orderly) {actions : List Action} {x : Receipt}
    (hx : x ∈ (g.run actions).2) : x.ticket < (g.run actions).1.issued := by
  induction actions generalizing g with
  | nil => exact absurd hx List.not_mem_nil
  | cons a rest ih =>
    rw [run_cons] at hx ⊢
    rcases List.mem_append.1 hx with hfirst | hlater
    · obtain ⟨-, r, hr, hsame, -⟩ := registered_of_receipt hfirst
      have hlt := h.issued r hr
      have hstep := g.react_issued_le a
      have hrest := run_issued_le (g.react a).1 rest
      rw [← hsame]
      exact Nat.lt_of_lt_of_le hlt (Nat.le_trans hstep hrest)
    · exact ih (h.react a) hlater

end

/-! ## Every registration -/

/-- What the watcher of registration `t` got, against what its mailbox accepted. -/
structure Account (t : Nat) (w : WatcherId) (accepted : List Snapshot)
    (last : Registry × List Receipt) : Prop where
  inOrder : receivedBy t last.2 <+: accepted
  own : ∀ x ∈ last.2, x.ticket = t → x.watcher = w
  /-- Nothing is lost on the way as long as the task runs. -/
  complete : ∀ r, last.1.running? t = some r → receivedBy t last.2 ++ r.unread = accepted

theorem Issued.account {g : Registry} {t capacity : Nat} (h : g.Issued t)
    (hcapacity : g.capacity = max capacity 1) {r : Registration}
    (hr : g.registration? (ticketIs t) = some r) (hopen : r.closed = false)
    (actions : List Action) :
    Account t r.watcher (r.unread ++ g.accepted capacity t actions) (g.run actions) := by
  have hpending : g.pending t = r.unread := by
    have hrunning : g.running? t = some r := Option.filter_eq_some_iff.2 ⟨hr, by simp [hopen]⟩
    simp [pending, hrunning]
  obtain ⟨left, hbalance, hleft⟩ := received_run h hcapacity actions
  rw [hpending] at hbalance
  refine ⟨⟨left, hbalance⟩, ?_, ?_⟩
  · intro x hx hticket
    refine watcher_of_received h ?_ hx hticket
    intro r' hr'
    rw [Option.some.inj (hr.symm.trans hr')]
  · intro r' hr'
    rw [hleft r' hr']
    exact hbalance

theorem Account.of_later {t : Nat} {w : WatcherId} {accepted : List Snapshot}
    {early : List Receipt} {last : Registry × List Receipt} (h : Account t w accepted last)
    (hothers : ∀ x ∈ early, x.ticket ≠ t) : Account t w accepted (last.1, early ++ last.2) := by
  have hreceived : receivedBy t (early ++ last.2) = receivedBy t last.2 := by
    rw [receivedBy_append, receivedBy_eq_nil hothers, List.nil_append]
  refine ⟨?_, ?_, ?_⟩
  · rw [hreceived]
    exact h.inOrder
  · intro x hx hticket
    rcases List.mem_append.1 hx with hearly | hlate
    · exact absurd hticket (hothers x hearly)
    · exact h.own x hlate hticket
  · rw [hreceived]
    exact h.complete

theorem Orderly.registration?_issued {g : Registry} (h : g.Orderly) :
    g.registration? (ticketIs g.issued) = none := by
  refine List.find?_eq_none.2 ?_
  intro r hr
  simpa [ticketIs] using Nat.ne_of_lt (h.issued r hr)

theorem Orderly.issued_add {g : Registry} (h : g.Orderly) (hroom : 0 < g.capacity)
    {w : WatcherId} (hnew : g.has w = false) (hfits : g.capacity ≤ Mailbox.maxCapacity) :
    (g.add w).1.Issued g.issued := by
  refine ⟨h.add w, ?_, ?_⟩
  · rw [add_of_new hroom hnew hfits]
    exact hroom
  · rw [add_of_new hroom hnew hfits]
    exact Nat.lt_succ_self _

/-- The watcher of every registration gets, in order, a beginning of what its mailbox accepted:
the snapshot that was current when it was added, and then every snapshot that was published while
it was registered, its task ran and its mailbox had room. -/
theorem received_isPrefix_of_accepted (service : String) (capacity : Nat)
    (seed? : Option Snapshot) (before after : List Action) (w : WatcherId) (handover : Report)
    (hadd : (((create service capacity seed?).run before).1.add w).2 = .registered handover) :
    let start := ((create service capacity seed?).run before).1
    let last := (create service capacity seed?).run (before ++ .add w :: after)
    Account start.issued w
        ((latest seed? before).toList ++ (start.add w).1.accepted capacity start.issued after)
        last ∧
      Standing start.issued w before after last.1 := by
  intro start last
  have hempty := orderly_create service capacity seed?
  have horderly : start.Orderly := hempty.run before
  have hcapacity : start.capacity = max capacity 1 := run_capacity _ before
  have hroom : 0 < start.capacity := by omega
  obtain ⟨hnew, hfits⟩ := new_of_registered hadd
  have hissued := horderly.issued_add hroom hnew hfits
  have hr : (start.add w).1.registration? (ticketIs start.issued) = some (start.newcomer w) :=
    registration?_add hroom hfits hnew horderly.registration?_issued (by simp [ticketIs])
  have hlast : last = (((start.add w).1.run after).1,
      ((create service capacity seed?).run before).2 ++ ((start.add w).1.run after).2) := by
    simp [last, start, run_append, react]
  refine ⟨?_, ?_⟩
  · have hcurrent : start.current? = latest seed? before := current?_run _ before
    have hlater := hissued.account ((react_capacity start (.add w)).trans hcapacity) hr rfl after
    simp only [newcomer] at hlater
    rw [hcurrent] at hlater
    rw [hlast]
    refine hlater.of_later ?_
    intro x hx
    exact Nat.ne_of_lt (ticket_lt_of_received hempty hx)
  · obtain ⟨hregistered, hwatcher⟩ := registered_run hissued hr after
    rw [hlast]
    refine ⟨hregistered, hwatcher, ?_⟩
    intro r hr'
    have hcancelled : (start.add w).1.cancelled = true ↔ .cancel ∈ before := by
      have hbefore := cancelled_run (create service capacity seed?) before
      rw [add_of_new hroom hnew hfits]
      refine hbefore.trans ?_
      simp [create]
    rw [closed_run hissued hr hr', hcancelled]
    simp [newcomer]

/-! A watcher that registers again while its mailbox overflows, is drained in between and is
cancelled at last. -/

def blank (revision : UInt64) : Snapshot := ⟨[], revision, ⟨"", "", "", 0, 0, "", ""⟩⟩

def overflow : List Action :=
  [.notify (blank 2), .deliver 1, .notify (blank 3), .add "v", .deliver 0, .notify (blank 4),
   .deliver 1, .cancel, .notify (blank 5), .deliver 1, .notify (blank 6)]

theorem received_after_registering_again :
    let first := (create "s" 0 (some (blank 0))).run [.add "w", .notify (blank 1), .remove "w"]
    let last := (create "s" 0 (some (blank 0))).run
      ([.add "w", .notify (blank 1), .remove "w"] ++ .add "w" :: overflow)
    (first.1.add "w").2 = .registered ⟨1, 0⟩ ∧
      (receivedBy 1 last.2).map (·.revision) <+: [1, 3, 5] ∧
      (∀ x ∈ last.2, x.ticket = 1 → x.watcher = "w") ∧
      (last.1.registration? (ticketIs 1)).isSome := by
  intro first last
  have hadd : (first.1.add "w").2 = .registered ⟨1, 0⟩ := rfl
  obtain ⟨haccount, hstanding⟩ := received_isPrefix_of_accepted "s" 0 (some (blank 0))
    [.add "w", .notify (blank 1), .remove "w"] overflow "w" ⟨1, 0⟩ hadd
  have haccepted : ((latest (some (blank 0)) [.add "w", .notify (blank 1), .remove "w"]).toList ++
      (first.1.add "w").1.accepted 0 1 overflow).map (·.revision) = [1, 3, 5] := by
    decide +kernel
  refine ⟨hadd, ?_, haccount.own, ?_⟩
  · rw [← haccepted]
    exact haccount.inOrder.map _
  · refine hstanding.registered.2 ⟨?_, ?_⟩ <;> simp [overflow]

end Lookout.Registry
