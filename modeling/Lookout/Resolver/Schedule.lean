import Lookout.Resolver.Task

/-!
# A schedule

The order in which one processor runs the tasks: a task that has something to do joins the end of a
queue, and the one at the front runs until it has to wait. Time stands still while any task has
something to do, and then moves on to the next instant for which one waits.
-/
set_option autoImplicit false

namespace Lookout.Resolver

def tasksOf (i : Nat) (s : Session) : List Task :=
  [.evaluate i, .ingest i, .resync i] ++
    s.registry.registrations.map fun g => .deliver i g.ticket

def tasks (r : Resolver) : List Task := (r.sessions.mapIdx tasksOf).flatten

def evaluationReady (r : Resolver) (s : Session) : Bool :=
  match s.evaluation with
  | .ended => false
  | .waiting w => s.cancelled || s.debouncer.wakes r.now w
  | .building b => s.cancelled || b.listing.endsAt ≤ r.now
  | .publishing _ => true

def ingestionReady (r : Resolver) (s : Session) : Bool :=
  match s.ingestion with
  | .ended => false
  | .subscribing => true
  | .reading id? => s.cancelled || (r.source.receive id?).1 ≠ .pending
  | .backingOff until_ => s.cancelled || until_ ≤ r.now

def isReady (r : Resolver) (t : Task) : Bool :=
  match r.session? t.session with
  | none => false
  | some s =>
    match t with
    | .evaluate _ => r.evaluationReady s
    | .ingest _ => r.ingestionReady s
    | .resync _ => s.nextResync?.any fun due => s.cancelled || due ≤ r.now
    | .deliver _ ticket => s.registry.busyTickets.contains ticket

def timersOf (s : Session) : List Instant :=
  (match s.evaluation with
    | .waiting (.parked (some t)) => [t]
    | .building b => [b.listing.endsAt]
    | _ => []) ++
  (match s.ingestion with
    | .backingOff t => [t]
    | _ => []) ++
  s.nextResync?.toList

def nextTimer? (r : Resolver) : Option Instant :=
  ((r.sessions.flatMap timersOf).filter (r.now < ·)).min?

abbrev Log := List (Instant × Notice)

/-- Runs tasks from the queue, the first one until it has to wait. The first argument bounds the
number of steps; `log` holds what has happened, the latest first. -/
def runQueue : Nat → List Task → Log → Resolver → Resolver × Log
  | 0, _, log, r => (r, log)
  | fuel + 1, queue, log, r =>
    match queue ++ r.tasks.filter fun t => r.isReady t && !queue.contains t with
    | [] => (r, log)
    | t :: rest =>
      if r.isReady t then
        let (next, notices) := r.step t
        let log := (notices.map (r.now, ·)).reverse ++ log
        runQueue fuel (if next.isReady t then t :: rest else rest) log next
      else runQueue fuel rest log r

/-- More steps than any run at one instant takes whose retries wait for some time. -/
def stepBound : Nat := 1000000

def settle (log : Log) (r : Resolver) : Resolver × Log := runQueue stepBound [] log r

/-- Runs tasks from `now` until all that happens up to `target` has happened. -/
def runUntil (target now : Instant) (log : Log) (r : Resolver) : Resolver × Log :=
  let settled := { r with now }.settle log
  match settled.1.nextTimer? with
  | none => { settled.1 with now := max now target }.settle settled.2
  | some t =>
    if h : now < t ∧ t ≤ target then
      have : target - t < target - now :=
        Nat.sub_lt_sub_left (Nat.lt_of_lt_of_le h.1 h.2) h.1
      runUntil target t settled.2 settled.1
    else { settled.1 with now := max now target }.settle settled.2
termination_by target - now

def sleep (r : Resolver) (d : Duration) : Resolver × Log :=
  let (r, log) := runUntil (r.now + d.nanos) r.now [] r
  (r, log.reverse)

/-- Carries a call out and lets all tasks run until each of them waits. -/
def afterwards (r : Resolver) : Resolver × Log :=
  let (r, log) := r.settle []
  (r, log.reverse)

end Lookout.Resolver
