import Lookout.Backoff
import Lookout.Builder
import Lookout.Config.Resolver
import Lookout.Debouncer
import Lookout.Registry

/-!
# Resolvers

A resolver watches services for its watchers. For every service that is watched there is a session
with four kinds of tasks: one evaluates (waits for a trigger, builds a snapshot, publishes it), one
reads the source's signals and subscribes anew when they end, one forces an evaluation at regular
intervals, and one per watcher delivers snapshots. What a service keeps while nobody watches it is
its history: the revision that was used last and the last snapshot.

A call holds the resolver until it returns, and may have to wait for the registry of a session while
a snapshot is being published there. So a call that goes on to a registry after it has changed
something comes in parts, between which tasks take their steps.

This module has the state of a resolver, with its source and its clock, and the calls that users
make. The steps of the tasks are in `Lookout.Resolver.Task`.
-/
set_option autoImplicit false

namespace Lookout

inductive Evaluation where
  | waiting (w : Waiter)
  | building (b : Builder.Build)
  /-- A snapshot has been built and its number used; the watchers have not been offered it. -/
  | publishing (s : Snapshot)
  | ended

inductive Ingestion where
  | subscribing
  /-- Reads a subscription; one without an id never says anything. -/
  | reading (id? : Option SubscriptionId)
  | backingOff (until_ : Instant)
  | ended

structure Session where
  service : String
  policy : Policy
  registry : Registry
  debouncer : Debouncer
  cancelled : Bool
  evaluation : Evaluation
  ingestion : Ingestion
  /-- How many subscriptions in a row were refused or closed. What is waited grows with the first
  ten only, so nothing depends on where a machine stops counting. -/
  attempt : Nat
  /-- A subscription has been refused or closed since one was made. -/
  reconnecting : Bool
  /-- When the next periodic resync is due; none when there is none or its task has ended. -/
  nextResync? : Option Instant

/-- What is known of a service even while nobody watches it. -/
structure History where
  /-- The last revision that was used; no revision is used twice. -/
  revision : UInt64
  /-- The snapshot that was current when the last watcher left. -/
  last? : Option Snapshot

def History.empty : History := ⟨0, none⟩

/-- What the call that holds a resolver has left to do. -/
inductive Call where
  /-- The watcher that began a session is to be registered there. -/
  | joining (service : String) (session : Nat) (w : WatcherId)
  /-- The last watcher has left; the snapshot that is current is to be kept. -/
  | keeping (service : String) (session : Nat)
  | cancelling (service : String) (session : Nat)
  /-- The registries of sessions that have ended are to be closed, in any order. -/
  | closing (sessions : Dict Nat)

namespace Call

/-- What is left to do when sessions have been cancelled. -/
def closing? (sessions : Dict Nat) : Option Call :=
  if sessions.entries.isEmpty then none else some (.closing sessions)

/-- The services about which a call goes on until it returns. -/
def rest : Call → List String
  | .joining service _ _ => [service]
  | .keeping service _ => [service, service, service]
  | .cancelling service _ => [service, service]
  | .closing sessions => sessions.keys

end Call

structure Resolver where
  name : String
  config : ResolverConfig
  backoff : Backoff
  hooked : Bool
  /-- The text that snapshots carry as the time of their build. -/
  stamp : String
  source : Source
  now : Instant
  metrics : Metrics
  /-- All sessions ever begun; a session's number is its place. -/
  sessions : List Session
  /-- The number of the session of every service that is watched. -/
  watched : Dict Nat
  histories : Dict History
  stopped : Bool
  /-- The call that has not returned. -/
  call? : Option Call

inductive Notice where
  | triggered (session : Nat) (trigger : Trigger)
  | built (session : Nat) (service : String) (s : Snapshot)
  /-- A snapshot was offered to the watchers of a session. -/
  | published (session : Nat) (service : String) (s : Snapshot) (report : Report)
  | failed (service : String) (failure : Failure)
  | delivered (session ticket : Nat) (service : String) (watcher : WatcherId) (s : Snapshot)

def Session.cancel (s : Session) : Session :=
  { s with cancelled := true, registry := s.registry.cancel }

namespace Resolver

def create (name : String) (config : ResolverConfig) (source : Source) (backoff : Backoff)
    (hooked : Bool) (stamp : String) : Resolver :=
  { name, config, backoff, hooked, stamp, source, now := 0, metrics := .zero, sessions := []
    watched := ∅, histories := ∅, stopped := false, call? := none }

def builder (r : Resolver) : Builder :=
  ⟨⟨r.source.name, r.name, r.stamp⟩, r.config.timeout?⟩

def session? (r : Resolver) (i : Nat) : Option Session := r.sessions[i]?

def modify (r : Resolver) (i : Nat) (f : Session → Session) : Resolver :=
  { r with sessions := r.sessions.modify i f }

def historyOf (r : Resolver) (service : String) : History :=
  (r.histories.find? service).getD .empty

/-! ## Calls -/

inductive WatchOutcome where
  | ok
  | refused (f : Failure)
  | mailboxTooLarge

def WatchOutcome.ofAdded : Registry.Added → WatchOutcome
  | .tooLarge => .mailboxTooLarge
  | _ => .ok

/-- A session as it begins: its first evaluation does not wait for the window. -/
def newSession (r : Resolver) (service : String) (history : History) : Session :=
  { service
    policy := r.config.policyFor service
    registry := .create service r.config.watcherBuffer.toNat history.last?
    debouncer := (Debouncer.create r.config.debounce).force .initial
    cancelled := false
    evaluation := .waiting .fresh
    ingestion := .subscribing
    attempt := 0
    reconnecting := false
    nextResync? := r.config.resyncInterval?.map fun d => r.now + d.nanos }

def permit (r : Resolver) (service : String) : Except Failure Unit := do
  if r.stopped then throw (.stopped r.name)
  r.config.validate
  (r.config.policyFor service).validate

def join (r : Resolver) (i : Nat) (w : WatcherId) : Resolver × Registry.Added :=
  match r.session? i with
  | none => (r, .already)
  | some s =>
    let (registry, added) := s.registry.add w
    ({ r.modify i fun s => { s with registry } with
        metrics := added.report.countIn r.metrics }, added)

def begin (r : Resolver) (service : String) : Resolver × Nat :=
  let history := r.historyOf service
  ({ r with
      histories := r.histories.insert service history
      sessions := r.sessions ++ [r.newSession service history] },
    r.sessions.length)

/-- Watches a service. The first watcher begins a session, which goes about its tasks before the
watcher is registered; the call has no outcome yet. -/
def addWatch (r : Resolver) (service : String) (w : WatcherId) :
    Resolver × Option WatchOutcome :=
  match r.permit service with
  | .error f => (r, some (.refused f))
  | .ok () =>
    match r.watched.find? service with
    | some i =>
      let (r, added) := r.join i w
      (r, some (.ofAdded added))
    | none =>
      let (r, i) := r.begin service
      ({ r with call? := some (.joining service i w) }, none)

/-- Leaves a service. When the last watcher leaves, the session is still to be ended. -/
def delWatch (r : Resolver) (service : String) (w : WatcherId) : Resolver :=
  match r.watched.find? service with
  | none => r
  | some i =>
    match r.session? i with
    | none => r
    | some s =>
      let (registry, left) := s.registry.remove w
      let r := r.modify i fun s => { s with registry }
      if left = 0 then
        { r with watched := r.watched.erase service, call? := some (.keeping service i) }
      else r

/-- Cancels every session, whether it is watched or not. -/
def cancelAll (r : Resolver) : Resolver := { r with sessions := r.sessions.map Session.cancel }

def stop (r : Resolver) : Resolver :=
  if r.stopped then r
  else { r.cancelAll with stopped := true, watched := ∅, call? := Call.closing? r.watched }

/-- Lets go of the resolver: its tasks end, its watchers stay where they are. -/
def drop (r : Resolver) : Resolver := r.cancelAll

/-! ## Calls that go on -/

/-- Registers the watcher that began a session; from now on the service is watched. -/
def register (r : Resolver) (service : String) (i : Nat) (w : WatcherId) :
    Resolver × Option WatchOutcome :=
  match { r with call? := none }.join i w with
  | (r, .tooLarge) => (r, some .mailboxTooLarge)
  | (r, _) => ({ r with watched := r.watched.insert service i }, some .ok)

def keep (r : Resolver) (service : String) (i : Nat) : Resolver :=
  let last? := (r.session? i).bind (·.registry.current?)
  { r with
    histories := r.histories.insert service { r.historyOf service with last? }
    call? := some (.cancelling service i) }

def cancelOne (r : Resolver) (service : String) (i : Nat) : Resolver :=
  { r.modify i Session.cancel with call? := Call.closing? (Dict.empty.insert service i) }

def closeOne (r : Resolver) (service : String) (i : Nat) (sessions : Dict Nat) : Resolver :=
  { r.modify i fun s => { s with registry := s.registry.close } with
    call? := Call.closing? (sessions.erase service) }

/-- The call that holds the resolver goes on, if what it has to do next is about the service. It may
be a call to watch that returns now. -/
def proceed (r : Resolver) (service : String) : Resolver × Option WatchOutcome :=
  match r.call? with
  | none => (r, none)
  | some (.joining owner i w) => if owner = service then r.register service i w else (r, none)
  | some (.keeping owner i) => (if owner = service then r.keep service i else r, none)
  | some (.cancelling owner i) => (if owner = service then r.cancelOne service i else r, none)
  | some (.closing sessions) =>
    match sessions.find? service with
    | none => (r, none)
    | some i => (r.closeOne service i sessions, none)

/-- Carries the call that holds the resolver through, with nothing else in between. -/
def finish (r : Resolver) : Resolver :=
  ((r.call?.map Call.rest).getD []).foldl (fun r service => (r.proceed service).1) r

def changeSource (r : Resolver) (change : Memory.Change) : Resolver :=
  { r with source := r.source.apply change }

/-! ## Questions -/

inductive WatchState where
  | created
  | watching
  | idle
  | stopped
deriving DecidableEq

def WatchState.name : WatchState → String
  | .created => "Created"
  | .watching => "Watching"
  | .idle => "Idle"
  | .stopped => "Stopped"

def watchState (r : Resolver) (service : String) : WatchState :=
  if r.stopped then .stopped
  else if r.watched.contains service then .watching
  else if r.histories.contains service then .idle
  else .created

/-- What the resolver says of the snapshot of a service. -/
inductive Lookup where
  /-- It is to be read from the registry of a session, which may come later. -/
  | session (i : Nat)
  | kept (s? : Option Snapshot)

def lookUp (r : Resolver) (service : String) : Lookup :=
  match r.watched.find? service with
  | some i => .session i
  | none => .kept (r.historyOf service).last?

def answer (r : Resolver) : Lookup → Option Snapshot
  | .session i => (r.session? i).bind (·.registry.current?)
  | .kept s? => s?

/-- The snapshot that is current, or was when the last watcher left. -/
def currentState (r : Resolver) (service : String) : Option Snapshot :=
  r.answer (r.lookUp service)

def sessionOf? (r : Resolver) (service : String) : Option Session :=
  (r.watched.find? service).bind r.session?

def watcherCount (r : Resolver) (service : String) : Nat :=
  match r.sessionOf? service with
  | some s => s.registry.size
  | none => 0

def watchedServices (r : Resolver) : List String := r.watched.keys

end Resolver

end Lookout
