import Lookout.Duration

/-!
# Debouncing

A debouncer turns many change signals into few evaluations. A signal sets a deadline one window
away, so that the evaluation is due once no signal has come for a whole window. A signal that comes
during an evaluation only marks that one more is wanted, and that one is due as soon as the current
one ends. A forced trigger is due at once.

Whoever waits for the next trigger looks at the debouncer, and when nothing is due waits until the
deadline it saw or until it is woken. `bell` is the one wake-up that is kept for a waiter.
-/
set_option autoImplicit false

namespace Lookout

inductive Trigger where
  | initial
  | debounced
  /-- A signal came during the last evaluation. -/
  | catchUp
  | resync
deriving DecidableEq

def Trigger.name : Trigger → String
  | .initial => "initial"
  | .debounced => "debounced"
  | .catchUp => "catch-up"
  | .resync => "resync"

def Trigger.all : List Trigger := [.initial, .debounced, .catchUp, .resync]

structure Debouncer where
  window : Duration
  deadline? : Option Instant
  forced? : Option Trigger
  catchUp : Bool
  /-- An evaluation has begun and not ended. -/
  inFlight : Bool
  bell : Bool
deriving DecidableEq

inductive Waiter where
  | fresh
  /-- Has looked and found nothing due; waits for the deadline that it saw, or for the bell. -/
  | parked (until? : Option Instant)
deriving DecidableEq

namespace Debouncer

def create (window : Duration) : Debouncer :=
  { window, deadline? := none, forced? := none, catchUp := false, inFlight := false, bell := false }

/-- Puts the deadline one window away, or asks for a catch-up. The clock has no end here. On a
machine's clock a window that leads beyond the end breaks the call off; the settings of a resolver
are checked against that. -/
def signal (d : Debouncer) (now : Instant) : Debouncer :=
  if d.inFlight then { d with catchUp := true, bell := true }
  else { d with deadline? := some (now + d.window.nanos), bell := true }

/-- Asks for an evaluation without delay. The first reason asked for stays. -/
def force (d : Debouncer) (trigger : Trigger) : Debouncer :=
  { d with forced? := some (d.forced?.getD trigger), bell := true }

def complete (d : Debouncer) : Debouncer :=
  { d with inFlight := false, bell := d.bell || d.catchUp }

/-- Whether an evaluation is wanted that has not begun. -/
def isPending (d : Debouncer) : Bool := d.deadline?.isSome || d.forced?.isSome || d.catchUp

def due? (d : Debouncer) (now : Instant) : Option Trigger :=
  match d.forced? with
  | some trigger => some trigger
  | none =>
    if d.catchUp then some .catchUp
    else if d.deadline?.any (· ≤ now) then some .debounced
    else none

/-- Begins the evaluation; all that was pending is met by it. -/
def fire (d : Debouncer) : Debouncer :=
  { d with deadline? := none, forced? := none, catchUp := false, inFlight := true }

def wakes (d : Debouncer) (now : Instant) : Waiter → Bool
  | .fresh => true
  | .parked until? => d.bell || until?.any (· ≤ now)

inductive Look where
  | fired (trigger : Trigger)
  | waiting (w : Waiter)
deriving DecidableEq

def poll (d : Debouncer) (now : Instant) (w : Waiter) : Debouncer × Look :=
  if d.wakes now w then
    let heard : Debouncer := match w with
      | .fresh => d
      | .parked _ => { d with bell := false }
    match heard.due? now with
    | some trigger => (heard.fire, .fired trigger)
    | none => (heard, .waiting (.parked heard.deadline?))
  else (d, .waiting w)

end Debouncer

end Lookout
