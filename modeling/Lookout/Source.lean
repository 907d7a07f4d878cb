import Lookout.Source.Fixed
import Lookout.Source.Memory

/-!
# Sources

A source answers two requests about a service: list all its records, and subscribe to signals that
they may have changed. A list takes time. Whether it fails is settled when it begins; the records
are those at its end.
-/
set_option autoImplicit false

namespace Lookout

inductive Source where
  | memory (m : Memory)
  | fixed (s : FixedSource)

structure Listing where
  service : String
  readyAt : Instant
  failure? : Option String
  /-- The last instant at which the list is still in time. -/
  expiresAt? : Option Instant

namespace Source

def name : Source → String
  | .memory _ => "memory"
  | .fixed _ => "static"

def beginList (src : Source) (now : Instant) (service : String) (limit? : Option Duration) :
    Source × Listing :=
  let expiresAt? := limit?.map fun d => now + d.nanos
  match src with
  | .memory m =>
    (.memory (m.countList service),
      { service, readyAt := now + m.listDelay.nanos, failure? := m.listFailure?, expiresAt? })
  | .fixed _ => (src, { service, readyAt := now, failure? := none, expiresAt? })

def recordsOf (src : Source) (service : String) : List Record :=
  match src with
  | .memory m => m.recordsOf service
  | .fixed s => s.list service

/-- Subscribes to a service. A source that never signals gives a subscription without an id. -/
def subscribe (src : Source) (service : String) : Except String (Source × Option SubscriptionId) :=
  match src with
  | .memory m => (m.subscribe service).map fun r => (.memory r.1, some r.2)
  | .fixed _ => .ok (src, none)

def receive (src : Source) (id? : Option SubscriptionId) : Received × Source :=
  match src, id? with
  | .memory m, some id => ((m.receive id).1, .memory (m.receive id).2)
  | _, _ => (.pending, src)

def release (src : Source) (id? : Option SubscriptionId) : Source :=
  match src, id? with
  | .memory m, some id => .memory (m.modify id Subscription.drop)
  | _, _ => src

/-- A subscription as its reader sees it. One without an id stays as it was opened. -/
def subscription (src : Source) (id? : Option SubscriptionId) : Subscription :=
  match src, id? with
  | .memory m, some id => (m.subscription? id).getD .opened
  | _, _ => .opened

def apply (src : Source) (change : Memory.Change) : Source :=
  match src with
  | .memory m => .memory (m.apply change)
  | .fixed _ => src

/-- Makes the source that the settings ask for. Registries on the network are not part of it. -/
def ofConfig (c : SourceConfig) : Except Failure Source :=
  match c.backend with
  | .memory => .ok (.memory .empty)
  | .fixed => (FixedSource.ofConfig c).map .fixed
  | other =>
    .error (.backendNotSupported (other.name ++ " (enable the `" ++ other.name ++ "` feature)"))

end Source

namespace Listing

inductive Fault where
  | failed (reason : String)
  | expired

/-- The result of a list at an instant, if there is one by then. One that is ready in time counts
even if it is looked at late. -/
def outcome? (l : Listing) (now : Instant) (src : Source) : Option (Except Fault (List Record)) :=
  if l.readyAt ≤ now then
    some <| match l.failure? with
      | some reason => .error (.failed reason)
      | none => .ok (src.recordsOf l.service)
  else if l.expiresAt?.any (· ≤ now) then some (.error .expired)
  else none

def endsAt (l : Listing) : Instant :=
  match l.expiresAt? with
  | some t => min l.readyAt t
  | none => l.readyAt

end Listing

end Lookout
