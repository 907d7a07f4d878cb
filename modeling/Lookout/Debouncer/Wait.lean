import Lookout.Debouncer

/-!
# Waiting for a trigger over time

A waiter and the calls that others make while it waits, in the order of time. Between two calls the
waiter looks when its deadline comes. `await` follows one wait from its start to its end, when a
trigger fired or the patience of the waiter ran out, and carries out the calls after that, too.
Of things at one instant the waiter's look comes first, then the end of its patience, then the call.
-/
set_option autoImplicit false

namespace Lookout.Debouncer

inductive Call where
  | signal
  | force (trigger : Trigger)
  | complete

def apply (d : Debouncer) (now : Instant) : Call → Debouncer
  | .signal => d.signal now
  | .force trigger => d.force trigger
  | .complete => d.complete

structure Progress where
  debouncer : Debouncer
  /-- When and by what the wait ended, if it has; no trigger means that it was given up. -/
  ended? : Option (Option Trigger × Instant)
  waiter : Waiter

/-- Lets time pass up to and including an instant, without calls. -/
def passUntil (d : Debouncer) (now upTo : Instant) (w : Waiter) : Progress :=
  let at? : Option Instant :=
    if d.wakes now w then some now
    else
      match w with
      | .parked (some deadline) => if deadline ≤ upTo then some deadline else none
      | _ => none
  match at? with
  | none => ⟨d, none, w⟩
  | some t =>
    match d.poll t w with
    | (d, .fired trigger) => ⟨d, some (some trigger, t), w⟩
    | (d, .waiting (.parked (some next))) =>
      if t < next ∧ next ≤ upTo then
        match d.poll next (.parked (some next)) with
        | (d, .fired trigger) => ⟨d, some (some trigger, next), w⟩
        | (d, .waiting w) => ⟨d, none, w⟩
      else ⟨d, none, .parked (some next)⟩
    | (d, .waiting w) => ⟨d, none, w⟩

def await (limit : Instant) : Instant → List (Instant × Call) → Progress → Progress
  | now, [], p =>
    match p.ended? with
    | some _ => p
    | none =>
      let p := passUntil p.debouncer now limit p.waiter
      { p with ended? := p.ended?.or (some (none, limit)) }
  | now, (t, call) :: calls, p =>
    let p := match p.ended? with
      | some _ => p
      | none =>
        let p := passUntil p.debouncer now (min t limit) p.waiter
        if limit ≤ t then { p with ended? := p.ended?.or (some (none, limit)) } else p
    await limit t calls { p with debouncer := p.debouncer.apply t call }

end Lookout.Debouncer
