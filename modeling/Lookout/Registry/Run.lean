import Lookout.Registry

/-!
# Runs of a registry

Whatever can happen to a registry is an action: a call, or one step of the delivery task of a
registration. A run is a list of actions, so tasks take their steps between the calls in any order
and as late as may be. Its receipts are what watchers were handed, in order.
-/
set_option autoImplicit false

namespace Lookout.Registry

inductive Action where
  | add (w : WatcherId)
  | remove (w : WatcherId)
  | notify (s : Snapshot)
  | close
  | cancel
  /-- The delivery task of a registration takes a step. -/
  | deliver (ticket : Nat)

structure Receipt where
  ticket : Nat
  watcher : WatcherId
  snapshot : Snapshot

/-- What a step of the delivery task of registration `ticket` hands over, and to whom. -/
def receipts (ticket : Nat) : Option (WatcherId × Delivery) → List Receipt
  | some (w, .delivered s) => [⟨ticket, w, s⟩]
  | _ => []

def react (g : Registry) : Action → Registry × List Receipt
  | .add w => ((g.add w).1, [])
  | .remove w => ((g.remove w).1, [])
  | .notify s => ((g.notify s).1, [])
  | .close => (g.close, [])
  | .cancel => (g.cancel, [])
  | .deliver t => ((g.deliver t).1, receipts t (g.deliver t).2)

def run (g : Registry) : List Action → Registry × List Receipt
  | [] => (g, [])
  | a :: rest =>
    let (next, first) := g.react a
    let (last, later) := run next rest
    (last, first ++ later)

@[simp]
theorem run_nil (g : Registry) : g.run [] = (g, []) := rfl

@[simp]
theorem run_cons (g : Registry) (a : Action) (rest : List Action) :
    g.run (a :: rest) =
      (((g.react a).1.run rest).1, (g.react a).2 ++ ((g.react a).1.run rest).2) := rfl

theorem run_append (g : Registry) (front back : List Action) :
    g.run (front ++ back) =
      (((g.run front).1.run back).1, (g.run front).2 ++ ((g.run front).1.run back).2) := by
  induction front generalizing g with
  | nil => simp
  | cons a rest ih => simp [ih, List.append_assoc]

/-- What became of the snapshots that an action offered to mailboxes. -/
def reportOf (g : Registry) : Action → Report
  | .add w => (g.add w).2.report
  | .notify s => (g.notify s).2
  | _ => .zero

/-- The counters after a run. -/
def tally (g : Registry) (m : Metrics) : List Action → Metrics
  | [] => m
  | a :: rest => tally (g.react a).1 ((g.reportOf a).countIn m) rest

theorem settle_eq_run (fuel : Nat) (g : Registry) :
    ∃ tickets : List Nat,
      (settle fuel g).1 = (g.run (tickets.map .deliver)).1 ∧
      (settle fuel g).2 =
        (g.run (tickets.map .deliver)).2.map fun r => (r.watcher, r.snapshot) := by
  induction fuel generalizing g with
  | zero => exact ⟨[], rfl, rfl⟩
  | succ fuel ih =>
    unfold settle
    split
    · exact ⟨[], rfl, rfl⟩
    · next ticket rest hbusy =>
      obtain ⟨tickets, hlast, hgot⟩ := ih (g.deliver ticket).1
      refine ⟨ticket :: tickets, ?_, ?_⟩
      · simp only [List.map_cons, run_cons, react]
        rw [← hlast]
        split <;> rfl
      · simp only [List.map_cons, run_cons, react, List.map_append]
        rw [← hgot]
        split
        · next w s hstep => simp [hstep, receipts]
        · next hother =>
          have hnone : receipts ticket (g.deliver ticket).2 = [] := by
            unfold receipts
            split
            · next w s hstep => exact absurd hstep (hother w s)
            · rfl
          simp [hnone]

end Lookout.Registry
