/-!
# Counters

What a resolver counts while it runs. The counters have 64 bits, and start again from zero when one
leaves them.
-/
set_option autoImplicit false

namespace Lookout

structure Metrics where
  signals : UInt64
  resyncs : UInt64
  evaluations : UInt64
  builds : UInt64
  /-- Builds given up because the list failed or took too long. -/
  failedBuilds : UInt64
  failedSubscriptions : UInt64
  deliveries : UInt64
  /-- Snapshots that a full or closed mailbox did not take. -/
  dropped : UInt64
deriving DecidableEq

namespace Metrics

def zero : Metrics := ⟨0, 0, 0, 0, 0, 0, 0, 0⟩

inductive Count where
  | signal
  | resync
  | evaluation
  | build (succeeded : Bool)
  | subscriptionFailure
  | delivery (accepted : Bool)
deriving DecidableEq

def count (m : Metrics) : Count → Metrics
  | .signal => { m with signals := m.signals + 1 }
  | .resync => { m with resyncs := m.resyncs + 1 }
  | .evaluation => { m with evaluations := m.evaluations + 1 }
  | .build true => { m with builds := m.builds + 1 }
  | .build false => { m with failedBuilds := m.failedBuilds + 1 }
  | .subscriptionFailure => { m with failedSubscriptions := m.failedSubscriptions + 1 }
  | .delivery true => { m with deliveries := m.deliveries + 1 }
  | .delivery false => { m with dropped := m.dropped + 1 }

def toList (m : Metrics) : List UInt64 :=
  [m.signals, m.resyncs, m.evaluations, m.builds, m.failedBuilds, m.failedSubscriptions,
   m.deliveries, m.dropped]

end Metrics

end Lookout
