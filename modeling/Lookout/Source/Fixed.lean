import Lookout.Config.Source
import Lookout.Failure
import Lookout.Record

/-!
# The fixed registry

A registry whose records are given once and never change. A record belongs to one service or to all
of them; one that belongs to all is listed under the name that is asked for.
-/
set_option autoImplicit false

namespace Lookout

structure FixedSource where
  /-- The records with the service that each belongs to; none means all services. -/
  records : List (Option String × Record)

namespace FixedSource

/-- Records whose own service name says where they belong; an empty name means all services. -/
def ofRecords (records : List Record) : FixedSource :=
  ⟨records.map fun r => (if r.service.isEmpty then none else some r.service, r)⟩

structure Entry where
  service? : Option String
  realm : String
  protocol : String
  address : String
  instanceId : String
  metadata : Dict String

def Entry.shape : Decode.Shape :=
  ⟨"struct StaticRecord",
    [Decode.defaulted "service" (Decode.optional Decode.text),
     Decode.field "namespace" Decode.text, Decode.field "protocol" Decode.text,
     Decode.field "address" Decode.text, Decode.defaulted "instance_id" Decode.text,
     Decode.defaulted "metadata" Decode.dictOfTexts]⟩

def Entry.decode : Decoder Entry := fun j => do
  let m ← Entry.shape.read j
  pure
    { service? := ← Decode.getD m "service" (Decode.optional Decode.text) none
      realm := ← Decode.get m "namespace" Decode.text
      protocol := ← Decode.get m "protocol" Decode.text
      address := ← Decode.get m "address" Decode.text
      instanceId := ← Decode.getD m "instance_id" Decode.text ""
      metadata := ← Decode.getD m "metadata" Decode.dictOfTexts ∅ }

def Entry.record (e : Entry) : Except Failure (Option String × Record) :=
  match Address.split? e.address with
  | none => .error (.invalidConfig ("invalid static address `" ++ e.address ++ "`"))
  | some (host, port) =>
    .ok (e.service?,
      { service := e.service?.getD "", realm := e.realm, protocol := e.protocol, host, port
        instanceId := e.instanceId, metadata := e.metadata })

def ofConfig (c : SourceConfig) : Except Failure FixedSource := do
  let entries ← match Decode.sequence Entry.decode ((c.options.find? "records").getD (.arr [])) with
    | .ok entries => pure entries
    | .error e => throw (.invalidConfig ("invalid static records: " ++ e.message))
  let records ← entries.mapM Entry.record
  pure ⟨records⟩

def list (s : FixedSource) (service : String) : List Record :=
  s.records.filterMap fun (owner?, r) =>
    match owner? with
    | none => some { r with service }
    | some owner => if owner = service then some r else none

end FixedSource

end Lookout
