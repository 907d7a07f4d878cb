import Lookout.Policy

/-!
# Snapshots

A snapshot is the set of endpoints of a service at one time, with a revision and an account of
where it came from. `Snapshot.build` makes one from the records of a listing: every record goes
through the policy, and the endpoints are put in order.
-/
set_option autoImplicit false

namespace Lookout

structure Origin where
  service : String
  realm : String
  source : String
  recordsTotal : Nat
  recordsRejected : Nat
  builtAt : String
  /-- Empty when no resolver is named. -/
  resolver : String
deriving DecidableEq

def Origin.attributes (o : Origin) : Json :=
  .object <|
    [("service", .str o.service), ("namespace", .str o.realm), ("source", .str o.source),
     ("records_total", .int o.recordsTotal), ("records_rejected", .int o.recordsRejected),
     ("built_at", .str o.builtAt)] ++
    (if o.resolver.isEmpty then [] else [("resolver", .str o.resolver)])

structure Snapshot where
  endpoints : List Endpoint
  revision : UInt64
  origin : Origin

namespace Snapshot

/-- The endpoints of the records that the policy lets through, in order; endpoints that agree in
address, protocol and name stay in the order of their records. -/
def endpointsOf (policy : Policy) (records : List Record) : List Endpoint :=
  (records.filterMap policy.filter).mergeSort Endpoint.precedes

/-- What a build writes into every snapshot besides the listing. -/
structure Label where
  source : String
  resolver : String
  builtAt : String

def build (label : Label) (service : String) (policy : Policy) (revision : UInt64)
    (records : List Record) : Snapshot :=
  let endpoints := endpointsOf policy records
  { endpoints, revision
    origin :=
      { service, realm := policy.realm, source := label.source, recordsTotal := records.length
        recordsRejected := records.length - endpoints.length, builtAt := label.builtAt
        resolver := label.resolver } }

def keys (s : Snapshot) : List String :=
  (s.endpoints.map Endpoint.key).mergeSort fun a b => a ≤ b

/-- The endpoints without the one at a place; the last one moves into the gap. -/
def removeAt (cs : List Endpoint) (i : Nat) : List Endpoint :=
  match cs.getLast? with
  | some last => (cs.set i last).dropLast
  | none => []

def removeSame? (e : Endpoint) (cs : List Endpoint) : Option (List Endpoint) :=
  (cs.findIdx? (·.same e)).map (removeAt cs)

def pairsOff : List Endpoint → List Endpoint → Bool
  | [], _ => true
  | e :: rest, unmatched =>
    match removeSame? e unmatched with
    | some left => pairsOff rest left
    | none => false

/-- Whether both hold the same endpoints, in any order and each as often. -/
def sameEndpoints (s t : Snapshot) : Bool :=
  s.endpoints.length == t.endpoints.length && pairsOff s.endpoints t.endpoints

def addedSince (s previous : Snapshot) : List Endpoint :=
  s.endpoints.filter fun e => !(previous.endpoints.any fun p => p.key == e.key)

def toJson (s : Snapshot) : Json :=
  .object
    [("endpoints", .arr (s.endpoints.map Endpoint.toJson)), ("revision", .int s.revision.toNat),
     ("attributes", s.origin.attributes)]

end Snapshot

end Lookout
