import Lookout.Snapshot

/-!
# Discovery of changes

A channel keeps the latest snapshot that was published to it. A discovery reads a channel and turns
what it sees into changes of a set of endpoints: it compares the latest snapshot with the set it
knows, so snapshots that it never saw do no harm. Changes that are not asked for yet are queued.
-/
set_option autoImplicit false

namespace Lookout

/-- The latest snapshot, with a count of the snapshots there have been. -/
structure Channel where
  latest? : Option Snapshot
  version : Nat
  closed : Bool

namespace Channel

def empty : Channel := ⟨none, 0, false⟩

def publish (c : Channel) (s : Snapshot) : Channel :=
  { c with latest? := some s, version := c.version + 1 }

def close (c : Channel) : Channel := { c with closed := true }

end Channel

inductive Change where
  | insert (key : String) (e : Endpoint)
  | remove (key : String)

structure Discovery where
  known : Dict Endpoint
  queue : List Change
  /-- The revision of the snapshot that was compared last. -/
  revision : UInt64
  /-- The channel's count when it was looked at last; none before the first look. -/
  seen? : Option Nat

namespace Discovery

def empty : Discovery := ⟨∅, [], 0, none⟩

/-- The endpoints of a snapshot by key; of several with one key the last. -/
def byKey (s : Snapshot) : Dict Endpoint := .ofList (s.endpoints.map fun e => (e.key, e))

/-- What is to be done to turn one set into another: removals first, then the endpoints that are
new or not the same, both in the order of keys. -/
def changes (known next : Dict Endpoint) : List Change :=
  (known.keys.filter fun k => !next.contains k).map .remove ++
    (next.entries.filter fun e => !(known.find? e.1).any fun old => old.same e.2).map
      fun e => .insert e.1 e.2

def absorb (d : Discovery) (s : Snapshot) : Discovery :=
  let next := byKey s
  { d with revision := s.revision, queue := d.queue ++ changes d.known next, known := next }

inductive Polled where
  | change (c : Change)
  | pending
  | ended

def isBehind (d : Discovery) (c : Channel) : Bool := d.seen? ≠ some c.version

def catchUp (d : Discovery) (c : Channel) : Discovery :=
  if d.isBehind c then
    let d := { d with seen? := some c.version }
    match c.latest? with
    | some s => d.absorb s
    | none => d
  else d

/-- The next change. The channel is looked at only when the queue is empty. -/
def poll (d : Discovery) (c : Channel) : Discovery × Polled :=
  match d.queue with
  | change :: rest => ({ d with queue := rest }, .change change)
  | [] =>
    let d := d.catchUp c
    match d.queue with
    | change :: rest => ({ d with queue := rest }, .change change)
    | [] => (d, if c.closed then .ended else .pending)

/-- Polls up to and including the first answer that is no change, at most `limit` times. -/
def drain (c : Channel) : Nat → Discovery → Discovery × List Polled
  | 0, d => (d, [])
  | limit + 1, d =>
    match d.poll c with
    | (d, .change change) =>
      let (d, rest) := drain c limit d
      (d, .change change :: rest)
    | (d, other) => (d, [other])

end Discovery

end Lookout
