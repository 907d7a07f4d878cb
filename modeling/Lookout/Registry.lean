import Lookout.Metrics
import Lookout.Snapshot

/-!
# Registries of watchers

The watchers of one service. Every registration has a mailbox of bounded size, out of which its own
delivery task hands one snapshot after the other to the watcher. Publishing puts a snapshot into
every mailbox that has room and never waits; a mailbox that is full or closed misses it. A watcher
that comes later first gets the snapshot that is current.
-/
set_option autoImplicit false

namespace Lookout

abbrev WatcherId := String

structure Registration where
  /-- Counts the registrations that the registry has made. -/
  ticket : Nat
  watcher : WatcherId
  /-- The snapshots not yet delivered, the oldest first. -/
  unread : List Snapshot
  /-- The delivery task has ended. -/
  closed : Bool

structure Report where
  delivered : Nat
  dropped : Nat
deriving DecidableEq

structure Registry where
  service : String
  /-- How many snapshots a mailbox holds. -/
  capacity : Nat
  registrations : List Registration
  current? : Option Snapshot
  /-- The delivery tasks are to end at their next step. -/
  cancelled : Bool
  issued : Nat

def Mailbox.maxCapacity : Nat := 2305843009213693951

namespace Registration

def hasRoom (r : Registration) (capacity : Nat) : Bool :=
  !r.closed && r.unread.length < capacity

def offer (r : Registration) (capacity : Nat) (s : Snapshot) : Registration :=
  if r.hasRoom capacity then { r with unread := r.unread ++ [s] } else r

end Registration

namespace Report

def zero : Report := ⟨0, 0⟩

def one (accepted : Bool) : Report := if accepted then ⟨1, 0⟩ else ⟨0, 1⟩

def countIn (r : Report) (m : Metrics) : Metrics :=
  { m with
    deliveries := m.deliveries + .ofNat r.delivered
    dropped := m.dropped + .ofNat r.dropped }

end Report

namespace Registry

/-- A registry without watchers; the least size of a mailbox is one. -/
def create (service : String) (capacity : Nat) (current? : Option Snapshot) : Registry :=
  { service, capacity := max capacity 1, registrations := [], current?, cancelled := false
    issued := 0 }

def has (g : Registry) (w : WatcherId) : Bool := g.registrations.any (·.watcher == w)

def size (g : Registry) : Nat := g.registrations.length

inductive Added where
  | already
  /-- The watcher is new; the report is about the current snapshot. -/
  | registered (handover : Report)
  | tooLarge

def Added.report : Added → Report
  | .registered handover => handover
  | _ => .zero

def add (g : Registry) (w : WatcherId) : Registry × Added :=
  if g.has w then (g, .already)
  else if Mailbox.maxCapacity < g.capacity then (g, .tooLarge)
  else
    let fresh : Registration := { ticket := g.issued, watcher := w, unread := [], closed := false }
    let (filled, handover) := match g.current? with
      | some s => (fresh.offer g.capacity s, Report.one (fresh.hasRoom g.capacity))
      | none => (fresh, .zero)
    ({ g with registrations := g.registrations ++ [filled], issued := g.issued + 1 },
      .registered handover)

/-- Takes a watcher out, its unread snapshots with it; gives how many watchers are left. -/
def remove (g : Registry) (w : WatcherId) : Registry × Nat :=
  let kept := g.registrations.filter (·.watcher != w)
  ({ g with registrations := kept }, kept.length)

/-- Makes a snapshot the current one and offers it to every mailbox. -/
def notify (g : Registry) (s : Snapshot) : Registry × Report :=
  ({ g with
      current? := some s
      registrations := g.registrations.map fun r => r.offer g.capacity s },
    { delivered := g.registrations.countP (·.hasRoom g.capacity)
      dropped := g.registrations.countP fun r => !r.hasRoom g.capacity })

def close (g : Registry) : Registry := { g with registrations := [] }

/-- Tells the delivery tasks to end. -/
def cancel (g : Registry) : Registry := { g with cancelled := true }

inductive Delivery where
  | nothing
  | ended
  | delivered (s : Snapshot)

def deliverOne (cancelled : Bool) (r : Registration) : Registration × Delivery :=
  if r.closed then (r, .nothing)
  else if cancelled then ({ r with unread := [], closed := true }, .ended)
  else
    match r.unread with
    | [] => (r, .nothing)
    | s :: rest => ({ r with unread := rest }, .delivered s)

def deliver (g : Registry) (ticket : Nat) : Registry × Option (WatcherId × Delivery) :=
  match g.registrations.find? (·.ticket == ticket) with
  | none => (g, none)
  | some r =>
    ({ g with
        registrations := g.registrations.map fun q =>
          if q.ticket = ticket then (deliverOne g.cancelled q).1 else q },
      some (r.watcher, (deliverOne g.cancelled r).2))

def busy (g : Registry) (r : Registration) : Bool :=
  !r.closed && (g.cancelled || !r.unread.isEmpty)

def busyTickets (g : Registry) : List Nat := (g.registrations.filter g.busy).map (·.ticket)

/-- How many steps all delivery tasks have left. -/
def backlog (g : Registry) : Nat :=
  (g.registrations.flatMap (·.unread)).length + g.registrations.length

/-- Lets the delivery tasks run until none has anything to do; gives what the watchers got. -/
def settle : Nat → Registry → Registry × List (WatcherId × Snapshot)
  | 0, g => (g, [])
  | fuel + 1, g =>
    match g.busyTickets with
    | [] => (g, [])
    | ticket :: _ =>
      let (g, step?) := g.deliver ticket
      let (g, later) := settle fuel g
      match step? with
      | some (w, .delivered s) => (g, (w, s) :: later)
      | _ => (g, later)

end Registry

end Lookout
