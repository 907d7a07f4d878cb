/-!
# Subscriptions

A subscription is a bounded queue of signals between a source and one reader. The source puts
signals in as long as it holds its end; what does not fit is lost. The reader gets the signals in
order, and when the queue is empty it learns whether more may come.
-/
set_option autoImplicit false

namespace Lookout

inductive Signal where
  | changed
  /-- The source wants the records read again without delay. -/
  | resync
deriving DecidableEq

inductive Received where
  | signal (s : Signal)
  | pending
  | closed
deriving DecidableEq

structure Subscription where
  /-- The signals not yet read, the oldest first. -/
  unread : List Signal
  /-- The source holds its end. -/
  attached : Bool
  cancelled : Bool
  dropped : Bool
deriving DecidableEq

namespace Subscription

def capacity : Nat := 16

def opened : Subscription := ⟨[], true, false, false⟩

/-- Whether anybody still wants the signals. -/
def isLive (s : Subscription) : Bool := s.attached && !s.cancelled && !s.dropped

def offer (s : Subscription) (signal : Signal) : Subscription :=
  if s.unread.length < capacity then { s with unread := s.unread ++ [signal] } else s

def receive (s : Subscription) : Received × Subscription :=
  match s.unread with
  | signal :: rest => (.signal signal, { s with unread := rest })
  | [] => (if s.attached then .pending else .closed, s)

def cancel (s : Subscription) : Subscription := { s with cancelled := true }

/-- The reader cancels the subscription and goes away; its unread signals go with it. -/
def drop (s : Subscription) : Subscription :=
  { s with cancelled := true, dropped := true, unread := [] }

def detach (s : Subscription) : Subscription := { s with attached := false }

end Subscription

end Lookout
