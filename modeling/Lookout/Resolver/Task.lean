import Lookout.Resolver.Basic

/-!
# Tasks of a resolver

One step of a task is what it does between two points at which it may have to wait, be it for time,
for the source, for a trigger or for a registry that is in use. Steps of different tasks can come in
any order: `Resolver.step` carries one out, whichever it is, and does nothing when the task has to
wait. A cancelled task ends at its next step, unless it is to publish what it has built.
-/
set_option autoImplicit false

namespace Lookout.Resolver

inductive Task where
  | evaluate (session : Nat)
  | ingest (session : Nat)
  | resync (session : Nat)
  | deliver (session ticket : Nat)
deriving DecidableEq

def count (r : Resolver) (c : Metrics.Count) : Resolver := { r with metrics := r.metrics.count c }

def report (r : Resolver) (service : String) (f : Failure) : List Notice :=
  if r.hooked then [.failed service f] else []

/-! ## Evaluation -/

def beginBuild (r : Resolver) (i : Nat) (s : Session) (d : Debouncer) (trigger : Trigger) :
    Resolver × List Notice :=
  let (source, build) := r.builder.start r.source r.now s.service s.policy
  let r := { r with source }.count .evaluation
  (r.modify i fun s => { s with debouncer := d, evaluation := .building build },
    [.triggered i trigger])

def Session.endEvaluation (s : Session) : Session :=
  { s with debouncer := s.debouncer.complete, evaluation := .waiting .fresh }

/-- Takes note of a build that succeeded. It is published in a step of its own, for which the task
may have to wait. -/
def finishBuild (r : Resolver) (i : Nat) (s : Session) (snapshot : Snapshot) :
    Resolver × List Notice :=
  let history := { r.historyOf s.service with revision := snapshot.revision }
  let r := { r.count (.build true) with histories := r.histories.insert s.service history }
  (r.modify i fun s => { s with evaluation := .publishing snapshot },
    [.built i s.service snapshot])

def publish (r : Resolver) (i : Nat) (s : Session) (snapshot : Snapshot) :
    Resolver × List Notice :=
  let (registry, report) := s.registry.notify snapshot
  let r := { r with metrics := report.countIn r.metrics }
  (r.modify i fun s => Session.endEvaluation { s with registry },
    [.published i s.service snapshot report])

def evaluate (r : Resolver) (i : Nat) (s : Session) : Resolver × List Notice :=
  match s.evaluation with
  | .ended => (r, [])
  | .waiting w =>
    if s.cancelled then (r.modify i fun s => { s with evaluation := .ended }, [])
    else
      match s.debouncer.poll r.now w with
      | (d, .fired trigger) => r.beginBuild i s d trigger
      | (d, .waiting w) =>
        (r.modify i fun s => { s with debouncer := d, evaluation := .waiting w }, [])
  | .building build =>
    if s.cancelled then (r.modify i fun s => { s with evaluation := .ended }, [])
    else
      match r.builder.outcome? build r.now r.source (r.historyOf s.service).revision with
      | none => (r, [])
      | some (.ok snapshot) => r.finishBuild i s snapshot
      | some (.error f) =>
        ((r.count (.build false)).modify i Session.endEvaluation, r.report s.service f)
  | .publishing snapshot => r.publish i s snapshot

/-! ## Signals -/

/-- Takes note of a subscription that was refused or closed, and waits before the next try. -/
def failSubscription (r : Resolver) (i : Nat) (s : Session) (reason : String) :
    Resolver × List Notice :=
  let wait := r.backoff.delay s.attempt
  ((r.count .subscriptionFailure).modify i fun s =>
      { s with
        ingestion := .backingOff (r.now + wait.nanos)
        attempt := s.attempt + 1
        reconnecting := true },
    r.report s.service (.subscribe s.service reason))

/-- Subscribes. After an interruption changes may have been missed, which counts as a signal. -/
def subscribe (r : Resolver) (i : Nat) (s : Session) : Resolver × List Notice :=
  match r.source.subscribe s.service with
  | .error reason => r.failSubscription i s reason
  | .ok (source, id?) =>
    ({ r with source }.modify i fun s =>
      { s with
        ingestion := .reading id?
        attempt := 0
        debouncer := if s.reconnecting then s.debouncer.signal r.now else s.debouncer }, [])

def read (r : Resolver) (i : Nat) (s : Session) (id? : Option SubscriptionId) :
    Resolver × List Notice :=
  match r.source.receive id? with
  | (.pending, _) => (r, [])
  | (.closed, _) => { r with source := r.source.release id? }.failSubscription i s
      "signal stream closed"
  | (.signal .changed, source) =>
    (({ r with source }.count .signal).modify i fun s =>
      { s with debouncer := s.debouncer.signal r.now }, [])
  | (.signal .resync, source) =>
    (({ r with source }.count .resync).modify i fun s =>
      { s with debouncer := s.debouncer.force .resync }, [])

def ingest (r : Resolver) (i : Nat) (s : Session) : Resolver × List Notice :=
  let leave (r : Resolver) : Resolver := r.modify i fun s => { s with ingestion := .ended }
  match s.ingestion with
  | .ended => (r, [])
  | .subscribing => if s.cancelled then (leave r, []) else r.subscribe i s
  | .reading id? =>
    if s.cancelled then (leave { r with source := r.source.release id? }, []) else r.read i s id?
  | .backingOff until_ =>
    if s.cancelled then (leave r, [])
    else if until_ ≤ r.now then (r.modify i fun s => { s with ingestion := .subscribing }, [])
    else (r, [])

/-! ## Periodic resyncs -/

/-- How late a tick may be without moving the following ones: five milliseconds. -/
def tickTolerance : Nat := 5000000

/-- The tick after the one that was due at `due` and came at `now`. -/
def nextTick (period : Duration) (due now : Instant) : Instant :=
  (if due + tickTolerance < now then now else due) + period.nanos

def resync (r : Resolver) (i : Nat) (s : Session) : Resolver × List Notice :=
  match s.nextResync?, r.config.resyncInterval? with
  | some due, some period =>
    if s.cancelled then (r.modify i fun s => { s with nextResync? := none }, [])
    else if due ≤ r.now then
      ((r.count .resync).modify i fun s =>
        { s with
          debouncer := s.debouncer.force .resync
          nextResync? := some (nextTick period due r.now) }, [])
    else (r, [])
  | _, _ => (r, [])

/-! ## Delivery -/

def deliver (r : Resolver) (i : Nat) (s : Session) (ticket : Nat) : Resolver × List Notice :=
  let (registry, step?) := s.registry.deliver ticket
  (r.modify i fun s => { s with registry },
    match step? with
    | some (w, .delivered snapshot) => [.delivered i ticket s.service w snapshot]
    | _ => [])

/-! ## Steps -/

def Task.session : Task → Nat
  | .evaluate i => i
  | .ingest i => i
  | .resync i => i
  | .deliver i _ => i

def step (r : Resolver) (t : Task) : Resolver × List Notice :=
  match r.session? t.session with
  | none => (r, [])
  | some s =>
    match t with
    | .evaluate i => r.evaluate i s
    | .ingest i => r.ingest i s
    | .resync i => r.resync i s
    | .deliver i ticket => r.deliver i s ticket

end Lookout.Resolver
