import Lookout.Resolver.Schedule

/-!
# Runs of a resolver

Everything that can happen to a resolver is an event: a call, the next part of a call, a change of
its source, a step of one of its tasks, or that time passes. A run is a list of events, so tasks
take their steps in any order and as late as may be, also between the parts of a call. A call that
finds the resolver held by another has to wait, which does nothing; it comes again later in the run.
What a schedule does is one run among many.
-/
set_option autoImplicit false

namespace Lookout.Resolver

inductive Event where
  | watch (service : String) (w : WatcherId)
  | unwatch (service : String) (w : WatcherId)
  | stop
  | drop
  /-- The call that holds the resolver goes on. -/
  | proceed (service : String)
  | change (c : Memory.Change)
  | step (t : Task)
  | pass (nanos : Nat)

/-- What a call does when it comes; it waits while another call holds the resolver. -/
def whenFree (r : Resolver) (call : Resolver → Resolver) : Resolver :=
  match r.call? with
  | none => call r
  | some _ => r

def react (r : Resolver) : Event → Resolver × List Notice
  | .watch service w => (r.whenFree fun r => (r.addWatch service w).1, [])
  | .unwatch service w => (r.whenFree (·.delWatch service w), [])
  | .stop => (r.whenFree stop, [])
  | .drop => (r.whenFree drop, [])
  | .proceed service => ((r.proceed service).1, [])
  | .change c => (r.changeSource c, [])
  | .step t => r.step t
  | .pass nanos => ({ r with now := r.now + nanos }, [])

def run (r : Resolver) : List Event → Resolver × List Notice
  | [] => (r, [])
  | e :: rest =>
    let (next, first) := r.react e
    let (last, later) := run next rest
    (last, first ++ later)

@[simp]
theorem run_nil (r : Resolver) : r.run [] = (r, []) := rfl

@[simp]
theorem run_cons (r : Resolver) (e : Event) (rest : List Event) :
    r.run (e :: rest) =
      (((r.react e).1.run rest).1, (r.react e).2 ++ ((r.react e).1.run rest).2) := rfl

theorem run_append (r : Resolver) (front back : List Event) :
    r.run (front ++ back) =
      (((r.run front).1.run back).1, (r.run front).2 ++ ((r.run front).1.run back).2) := by
  induction front generalizing r with
  | nil => simp
  | cons e rest ih => simp [ih, List.append_assoc]

/-- What a queue of tasks does to a resolver is a run of steps. -/
theorem runQueue_eq_run (fuel : Nat) (queue : List Task) (log : Log) (r : Resolver) :
    ∃ steps : List Task, (runQueue fuel queue log r).1 = (r.run (steps.map .step)).1 := by
  induction fuel generalizing queue log r with
  | zero => exact ⟨[], rfl⟩
  | succ fuel ih =>
    unfold runQueue
    split
    · exact ⟨[], rfl⟩
    · next t rest _ =>
      split
      · obtain ⟨steps, h⟩ := ih (if (r.step t).1.isReady t then t :: rest else rest)
          (((r.step t).2.map (r.now, ·)).reverse ++ log) (r.step t).1
        exact ⟨t :: steps, by simpa [react] using h⟩
      · exact ih rest log r

end Lookout.Resolver
