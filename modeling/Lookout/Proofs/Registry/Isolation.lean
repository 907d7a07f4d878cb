import Lookout.Proofs.Registry.Step

/-!
# One watcher among others

What a watcher gets depends on what concerns it alone: what is published, that the registry is
closed or cancelled, that it is itself added or removed, and when its own delivery task takes a
step. All of this is a machine of its own, which a registry drives and in which the other watchers
do not occur; so whoever else is added, removed, drained or left with a full mailbox, it makes no
difference.
-/
set_option autoImplicit false

namespace Lookout

/-- A registration without its ticket, which counts the registrations of all watchers. -/
def Registration.anonymous (r : Registration) : Registration := { r with ticket := 0 }

namespace Registry

inductive Concern where
  | added
  | removed
  | notified (s : Snapshot)
  | closed
  | cancelled
  /-- The delivery task of the watcher's registration takes a step. -/
  | drained

/-- What an action is to a watcher, if it concerns it. -/
def concern? (g : Registry) (w : WatcherId) : Action → Option Concern
  | .add v => if v = w then some .added else none
  | .remove v => if v = w then some .removed else none
  | .notify s => some (.notified s)
  | .close => some .closed
  | .cancel => some .cancelled
  | .deliver t =>
    if (g.registration? (watcherIs w)).any (·.ticket == t) then some .drained else none

def concerns (w : WatcherId) (g : Registry) : List Action → List Concern
  | [] => []
  | a :: rest => (g.concern? w a).toList ++ concerns w (g.react a).1 rest

/-- What a watcher was handed, under whichever ticket. -/
def receivedOf (w : WatcherId) (got : List Receipt) : List Snapshot :=
  (got.filter (·.watcher == w)).map (·.snapshot)

/-! ## A registry as one watcher sees it -/

structure Outlook where
  capacity : Nat
  current? : Option Snapshot
  cancelled : Bool
  /-- The watcher's own registration. -/
  mine? : Option Registration

def outlook (g : Registry) (w : WatcherId) : Outlook :=
  { capacity := g.capacity, current? := g.current?, cancelled := g.cancelled
    mine? := (g.registration? (watcherIs w)).map Registration.anonymous }

namespace Outlook

def react (w : WatcherId) (o : Outlook) : Concern → Outlook × List Snapshot
  | .added =>
    if o.mine?.isSome || Mailbox.maxCapacity < o.capacity then (o, [])
    else ({ o with mine? := some ⟨0, w, o.current?.toList, false⟩ }, [])
  | .removed => ({ o with mine? := none }, [])
  | .notified s =>
    ({ o with current? := some s, mine? := o.mine?.map (·.offer o.capacity s) }, [])
  | .closed => ({ o with mine? := none }, [])
  | .cancelled => ({ o with cancelled := true }, [])
  | .drained =>
    ({ o with mine? := o.mine?.map fun r => (deliverOne o.cancelled r).1 },
      (o.mine?.map fun r => (deliverOne o.cancelled r).2.handed).getD [])

def run (w : WatcherId) (o : Outlook) : List Concern → Outlook × List Snapshot
  | [] => (o, [])
  | c :: rest =>
    let (next, first) := o.react w c
    let (last, later) := run w next rest
    (last, first ++ later)

/-- What an action does to the outlook, if it does anything. -/
def follow (w : WatcherId) (o : Outlook) : Option Concern → Outlook × List Snapshot
  | some c => o.react w c
  | none => (o, [])

theorem run_toList_append (w : WatcherId) (o : Outlook) (c? : Option Concern)
    (rest : List Concern) :
    o.run w (c?.toList ++ rest) =
      (((o.follow w c?).1.run w rest).1,
        (o.follow w c?).2 ++ ((o.follow w c?).1.run w rest).2) := by
  cases c? <;> rfl

end Outlook

theorem anonymous_offer (r : Registration) (capacity : Nat) (s : Snapshot) :
    (r.offer capacity s).anonymous = r.anonymous.offer capacity s := by
  have hroom : r.anonymous.hasRoom capacity = r.hasRoom capacity := rfl
  unfold Registration.offer
  rw [hroom]
  split <;> rfl

theorem anonymous_deliverOne (cancelled : Bool) (r : Registration) :
    (deliverOne cancelled r.anonymous).1 = (deliverOne cancelled r).1.anonymous ∧
      (deliverOne cancelled r.anonymous).2 = (deliverOne cancelled r).2 := by
  have hclosed : r.anonymous.closed = r.closed := rfl
  have hunread : r.anonymous.unread = r.unread := rfl
  unfold deliverOne
  rw [hclosed, hunread]
  cases r.closed with
  | true => exact ⟨rfl, rfl⟩
  | false =>
    cases cancelled with
    | true => exact ⟨rfl, rfl⟩
    | false => cases r.unread <;> exact ⟨rfl, rfl⟩

/-! ## Steps -/

section
variable {g : Registry} {w : WatcherId}

theorem has_eq_isSome (g : Registry) (w : WatcherId) :
    g.has w = (g.registration? (watcherIs w)).isSome := by
  simp only [has, registration?, watcherIs, List.isSome_find?]

theorem receivedOf_eq_nil (h : g.Orderly) {t : Nat}
    (hother : ∀ r, g.registration? (watcherIs w) = some r → r.ticket ≠ t) :
    receivedOf w (g.react (.deliver t)).2 = [] := by
  have hnone : (g.react (.deliver t)).2.filter (·.watcher == w) = [] := by
    refine List.filter_eq_nil_iff.2 ?_
    intro x hx hmine
    obtain ⟨ht, r, hr, hticket, hwatcher⟩ := registered_of_receipt hx
    have hfound := registration?_of_mem (h.single_watcherIs w) hr
      (by simpa [watcherIs, hwatcher] using hmine)
    exact hother r hfound (hticket.trans (Action.deliver.inj ht).symm)
  simp [receivedOf, hnone]

theorem receivedOf_drained (h : g.Orderly) {r : Registration}
    (hr : g.registration? (watcherIs w) = some r) :
    receivedOf w (g.react (.deliver r.ticket)).2 = (deliverOne g.cancelled r).2.handed := by
  obtain ⟨hmem, hkey⟩ := mem_of_registration? hr
  have hwatcher : r.watcher = w := by simpa [watcherIs] using hkey
  rw [react_deliver_receipts h hmem]
  simp [receivedOf, hwatcher, List.filter_map, Function.comp_def]

theorem Outlook.handed_of_call {o : Outlook} {c : Concern} (h : c ≠ .drained) :
    (o.react w c).2 = [] := by
  cases c with
  | added =>
    simp only [Outlook.react]
    split <;> rfl
  | drained => exact absurd rfl h
  | _ => rfl

theorem receivedOf_react (h : g.Orderly) (a : Action) :
    receivedOf w (g.react a).2 = ((g.outlook w).follow w (g.concern? w a)).2 := by
  cases a with
  | deliver t =>
    cases hr : g.registration? (watcherIs w) with
    | none =>
      rw [receivedOf_eq_nil h (by simp [hr])]
      simp [concern?, hr, Outlook.follow]
    | some r =>
      by_cases hmine : r.ticket = t
      · subst hmine
        rw [receivedOf_drained h hr]
        simp [outlook, hr, concern?, Outlook.follow, Outlook.react,
          (anonymous_deliverOne g.cancelled r).2]
      · rw [receivedOf_eq_nil h (by simpa [hr] using hmine)]
        simp [concern?, hr, hmine, Outlook.follow]
  | add v =>
    simp only [concern?]
    split
    · exact (Outlook.handed_of_call (by simp)).symm
    · rfl
  | remove v =>
    simp only [concern?]
    split <;> rfl
  | _ => rfl

theorem outlook_react_of_some (h : g.Orderly) {r : Registration}
    (hr : g.registration? (watcherIs w) = some r) (a : Action) :
    (g.react a).1.outlook w = ((g.outlook w).follow w (g.concern? w a)).1 := by
  have hwatcher : r.watcher = w := by simpa [watcherIs] using (mem_of_registration? hr).2
  simp only [outlook, react_capacity, react_current?, react_cancelled,
    registration?_react (h.single_watcherIs w) hr a, hr]
  cases a with
  | add v =>
    simp only [concern?]
    split <;> simp [undergo, Outlook.follow, Outlook.react]
  | remove v =>
    by_cases hmine : v = w
    · simp [undergo, concern?, hwatcher, hmine, Outlook.follow, Outlook.react]
    · simp [undergo, concern?, hwatcher, hmine, Ne.symm hmine, Outlook.follow]
  | notify s =>
    simp [undergo, concern?, Outlook.follow, Outlook.react, anonymous_offer]
  | deliver t =>
    by_cases hmine : r.ticket = t
    · simp [undergo, concern?, hr, hmine, Outlook.follow, Outlook.react,
        (anonymous_deliverOne g.cancelled r).1]
    · simp [undergo, concern?, hr, hmine, Outlook.follow]
  | _ => simp [undergo, concern?, Outlook.follow, Outlook.react]

theorem outlook_react_of_none (hroom : 0 < g.capacity)
    (hnone : g.registration? (watcherIs w) = none) (a : Action) :
    (g.react a).1.outlook w = ((g.outlook w).follow w (g.concern? w a)).1 := by
  have hstays : a ≠ .add w → (g.react a).1.registration? (watcherIs w) = none := by
    intro hother
    refine registration?_react_eq_none hroom hnone ?_
    rintro v rfl
    simpa [watcherIs] using fun hv => hother (by rw [hv])
  simp only [outlook, react_capacity, react_current?, react_cancelled, hnone]
  cases a with
  | add v =>
    by_cases hmine : v = w
    · subst hmine
      have hnew : g.has v = false := by
        rw [has_eq_isSome, hnone]
        rfl
      by_cases hlarge : Mailbox.maxCapacity < g.capacity
      · simp [react, add_of_not_new (Or.inr hlarge), hnone, hlarge, concern?, Outlook.follow,
          Outlook.react]
      · have hadded := registration?_add hroom (Nat.not_lt.1 hlarge) hnew hnone
          (by simp [watcherIs])
        simp [react, hadded, hlarge, concern?, Outlook.follow, Outlook.react, newcomer,
          Registration.anonymous]
    · rw [hstays (by simpa using hmine)]
      simp [concern?, hmine, Outlook.follow]
  | remove v =>
    rw [hstays (by simp)]
    by_cases hmine : v = w <;> simp [concern?, hmine, Outlook.follow, Outlook.react]
  | deliver t =>
    rw [hstays (by simp)]
    simp [concern?, hnone, Outlook.follow]
  | _ =>
    rw [hstays (by simp)]
    simp [concern?, Outlook.follow, Outlook.react]

theorem outlook_react (h : g.Orderly) (hroom : 0 < g.capacity) (w : WatcherId) (a : Action) :
    (g.react a).1.outlook w = ((g.outlook w).follow w (g.concern? w a)).1 := by
  cases hr : g.registration? (watcherIs w) with
  | none => exact outlook_react_of_none hroom hr a
  | some r => exact outlook_react_of_some h hr a

/-! ## Runs -/

/-- A run is, to one watcher, a run of its outlook over what concerns it. -/
theorem outlook_run (h : g.Orderly) (hroom : 0 < g.capacity) (w : WatcherId)
    (actions : List Action) :
    (g.run actions).1.outlook w = ((g.outlook w).run w (concerns w g actions)).1 ∧
      receivedOf w (g.run actions).2 = ((g.outlook w).run w (concerns w g actions)).2 := by
  induction actions generalizing g with
  | nil => exact ⟨rfl, rfl⟩
  | cons a rest ih =>
    have hnext : 0 < (g.react a).1.capacity := by
      rw [react_capacity]
      exact hroom
    have hstep := outlook_react h hroom w a
    have hfirst := receivedOf_react (w := w) h a
    obtain ⟨hlast, hlater⟩ := ih (h.react a) hnext
    simp only [concerns]
    rw [Outlook.run_toList_append, ← hstep]
    refine ⟨hlast, ?_⟩
    rw [run_cons, ← hfirst, ← hlater]
    simp [receivedOf]

end

/-- Two runs that are the same in all that concerns a watcher give it the same snapshots, whatever
they do with the others. -/
theorem received_eq_of_concerns_eq (service : String) (capacity : Nat) (seed? : Option Snapshot)
    (w : WatcherId) {one two : List Action}
    (h : concerns w (create service capacity seed?) one =
      concerns w (create service capacity seed?) two) :
    receivedOf w ((create service capacity seed?).run one).2 =
      receivedOf w ((create service capacity seed?).run two).2 := by
  have horderly := orderly_create service capacity seed?
  have hroom : 0 < (create service capacity seed?).capacity := by
    simp only [create]
    omega
  rw [(outlook_run horderly hroom w one).2, (outlook_run horderly hroom w two).2, h]

/-! The same watcher among others, of whom one keeps a full mailbox, and alone. -/

def state (revision : UInt64) : Snapshot := ⟨[], revision, ⟨"", "", "", 0, 0, "", ""⟩⟩

def crowded : List Action :=
  [.add "u", .notify (state 1), .add "w", .notify (state 2), .deliver 1, .add "v", .remove "u",
   .notify (state 3), .add "u", .deliver 1, .cancel, .deliver 2, .notify (state 4), .deliver 1]

def alone : List Action :=
  [.notify (state 1), .add "w", .notify (state 2), .deliver 0, .notify (state 3), .deliver 0,
   .cancel, .notify (state 4), .deliver 0]

theorem received_alone_as_crowded :
    concerns "w" (create "s" 1 none) crowded = concerns "w" (create "s" 1 none) alone ∧
      receivedOf "w" ((create "s" 1 none).run crowded).2 =
        receivedOf "w" ((create "s" 1 none).run alone).2 ∧
      (receivedOf "w" ((create "s" 1 none).run crowded).2).map (·.revision) = [1, 3] := by
  have hconcerns : concerns "w" (create "s" 1 none) crowded =
      concerns "w" (create "s" 1 none) alone := rfl
  refine ⟨hconcerns, received_eq_of_concerns_eq "s" 1 none "w" hconcerns, ?_⟩
  decide +kernel

end Registry

end Lookout
