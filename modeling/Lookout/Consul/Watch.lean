import Lookout.Backoff
import Lookout.Source.Subscription

/-!
# Following an index

Consul counts the changes of what it is asked about: every answer carries an index. A request that
names an index is held back until the index has changed or some time has passed; one that names
index zero is answered at once. Whoever follows a service sends the index of the last answer with
the next request and signals a change whenever an answer comes with another index. An index that
went backwards means that the count began anew; then the next request names zero.
-/
set_option autoImplicit false

namespace Lookout.Consul

inductive Outcome where
  | answered (index : UInt64)
  | failed

structure Follower where
  index : UInt64
  failures : Nat
  subscription : Subscription

namespace Follower

def fresh : Follower := ⟨0, 0, .opened⟩

def isChange (f : Follower) (next : UInt64) : Bool := f.index ≠ 0 && next ≠ f.index

/-- Takes note of what came of a request; gives the wait before the next one. -/
def absorb (f : Follower) : Outcome → Follower × Duration
  | .answered next =>
    ({ index := if next < f.index then 0 else next
       failures := 0
       subscription :=
        if f.isChange next then f.subscription.offer .changed else f.subscription }, .zero)
  | .failed => ({ f with failures := f.failures + 1 }, Backoff.standard.delay f.failures)

/-- Sends requests and absorbs what comes of each at once, until there is nothing more to come or
the end of the time is reached. Gives the instants of the requests and the indices they named. -/
def run (end? : Option Instant) : Instant → List Outcome → Follower →
    List (Instant × UInt64) × Follower
  | now, outcomes, f =>
    if end?.any (· ≤ now) then ([], f)
    else
      match outcomes with
      | [] => ([(now, f.index)], f)
      | outcome :: rest =>
        let (next, wait) := f.absorb outcome
        let (requests, last) := run end? (now + wait.nanos) rest next
        ((now, f.index) :: requests, last)
termination_by _ outcomes => outcomes.length

end Follower

end Lookout.Consul
