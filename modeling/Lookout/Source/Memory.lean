import Lookout.Duration
import Lookout.Record
import Lookout.Source.Subscription

/-!
# The registry in memory

A registry within the program: lists of records by service, and the subscriptions to them. Whatever
changes the records of a service signals it to the service's subscriptions; those that nobody wants
any more are let go on that occasion. Lists and subscriptions can be made to fail, and lists to take
their time.
-/
set_option autoImplicit false

namespace Lookout

abbrev SubscriptionId := Nat

structure Memory where
  records : Dict (List Record)
  /-- All subscriptions ever made, with their services; a subscription's id is its place. -/
  subscriptions : List (String × Subscription)
  listFailure? : Option String
  subscribeFailure? : Option String
  listDelay : Duration
  /-- How often every service has been listed, for whoever asks. Nothing else depends on it, so it
  does not matter that a machine counts to 64 bits only. -/
  listCalls : Dict Nat

namespace Memory

def empty : Memory :=
  { records := ∅, subscriptions := [], listFailure? := none, subscribeFailure? := none
    listDelay := .zero, listCalls := ∅ }

/-! ## Records -/

def recordsOf (m : Memory) (service : String) : List Record := (m.records.find? service).getD []

def publishTo (service : String) (signal : Signal) :
    String × Subscription → String × Subscription
  | (owner, s) =>
    if owner = service ∧ s.attached then
      (owner, if s.isLive then s.offer signal else s.detach)
    else (owner, s)

def publish (m : Memory) (service : String) (signal : Signal) : Memory :=
  { m with subscriptions := m.subscriptions.map (publishTo service signal) }

/-- Puts a record in the place of the first one with the same id, or at the end. A record without
an id goes to the end. -/
def place (r : Record) : List Record → List Record
  | [] => [r]
  | old :: rest =>
    if r.instanceId ≠ "" ∧ old.instanceId = r.instanceId then r :: rest else old :: place r rest

/-- Registers a record in the list of a service, which need not be the record's own. -/
def registerUnder (m : Memory) (service : String) (r : Record) : Memory :=
  let records := m.records.insert service (place r (m.recordsOf service))
  { m with records }.publish service .changed

def register (m : Memory) (r : Record) : Memory := m.registerUnder r.service r

/-- Takes the records with that id out; says whether there were any. -/
def deregister (m : Memory) (service instanceId : String) : Memory × Bool :=
  let kept := (m.recordsOf service).filter (·.instanceId ≠ instanceId)
  if kept.length = (m.recordsOf service).length then (m, false)
  else ({ m with records := m.records.insert service kept }.publish service .changed, true)

def setRecords (m : Memory) (service : String) (records : List Record) : Memory :=
  { m with records := m.records.insert service records }.publish service .changed

/-! ## Subscriptions -/

def subscribe (m : Memory) (service : String) : Except String (Memory × SubscriptionId) :=
  match m.subscribeFailure? with
  | some reason => .error reason
  | none =>
    .ok ({ m with subscriptions := m.subscriptions ++ [(service, .opened)] },
      m.subscriptions.length)

def subscription? (m : Memory) (id : SubscriptionId) : Option Subscription :=
  m.subscriptions[id]?.map Prod.snd

def modify (m : Memory) (id : SubscriptionId) (f : Subscription → Subscription) : Memory :=
  { m with subscriptions := m.subscriptions.modify id fun e => (e.1, f e.2) }

/-- The next signal of a subscription; one that was never made is closed. -/
def receive (m : Memory) (id : SubscriptionId) : Received × Memory :=
  match m.subscription? id with
  | none => (.closed, m)
  | some s => (s.receive.1, m.modify id fun s => s.receive.2)

def closeSubscriptions (m : Memory) (service : String) : Memory :=
  { m with
    subscriptions := m.subscriptions.map fun e =>
      if e.1 = service then (e.1, e.2.detach) else e }

def activeSubscriptions (m : Memory) (service : String) : Nat :=
  (m.subscriptions.filter fun e => e.1 == service && e.2.isLive).length

/-! ## Lists -/

def listCallsOf (m : Memory) (service : String) : Nat := (m.listCalls.find? service).getD 0

def countList (m : Memory) (service : String) : Memory :=
  { m with listCalls := m.listCalls.insert service (m.listCallsOf service + 1) }

/-! ## Calls from outside -/

inductive Change where
  | register (r : Record)
  | registerUnder (service : String) (r : Record)
  | deregister (service instanceId : String)
  | setRecords (service : String) (records : List Record)
  | publish (service : String) (signal : Signal)
  | failLists (reason? : Option String)
  | failSubscribes (reason? : Option String)
  | closeSubscriptions (service : String)
  | delayLists (delay : Duration)

def apply (m : Memory) : Change → Memory
  | .register r => m.register r
  | .registerUnder service r => m.registerUnder service r
  | .deregister service instanceId => (m.deregister service instanceId).1
  | .setRecords service records => m.setRecords service records
  | .publish service signal => m.publish service signal
  | .failLists reason? => { m with listFailure? := reason? }
  | .failSubscribes reason? => { m with subscribeFailure? := reason? }
  | .closeSubscriptions service => m.closeSubscriptions service
  | .delayLists delay => { m with listDelay := delay }

end Memory

end Lookout
