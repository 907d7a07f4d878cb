import Lookout.Address
import Lookout.Decode
import Lookout.Json.Chosen

/-!
# Records

A record is one instance as a registry lists it, before anything is checked or filtered.
-/
set_option autoImplicit false

namespace Lookout

structure Record where
  service : String
  /-- The namespace that the instance is registered in. -/
  realm : String
  protocol : String
  host : String
  port : UInt16
  /-- Empty when the instance has no id of its own. -/
  instanceId : String
  metadata : Dict String
deriving DecidableEq

namespace Record

/-- A record of an address `host:port`, without id and metadata. -/
def ofAddress? (service realm protocol address : String) : Option Record :=
  (Address.split? address).map fun (host, port) =>
    { service, realm, protocol, host, port, instanceId := "", metadata := ∅ }

def withMetadata (r : Record) (key value : String) : Record :=
  { r with metadata := r.metadata.insert key value }

def shape : Decode.Shape :=
  ⟨"struct RawRecord",
    [Decode.field "service_name" Decode.text, Decode.field "namespace" Decode.text,
     Decode.field "protocol" Decode.text, Decode.field "host" Decode.text,
     Decode.field "port" Decode.u16, Decode.defaulted "instance_id" Decode.text,
     Decode.defaulted "metadata" Decode.dictOfTexts]⟩

def decode : Decoder Record := fun j => do
  let m ← shape.read j
  pure
    { service := ← Decode.get m "service_name" Decode.text
      realm := ← Decode.get m "namespace" Decode.text
      protocol := ← Decode.get m "protocol" Decode.text
      host := ← Decode.get m "host" Decode.text
      port := ← Decode.get m "port" Decode.u16
      instanceId := ← Decode.getD m "instance_id" Decode.text ""
      metadata := ← Decode.getD m "metadata" Decode.dictOfTexts ∅ }

/-- A record from JSON text. Members that no record has are passed over. -/
def ofText? (text : String) : Option Record :=
  (Json.parseChosen? (shape.fields.map (·.name)) text.toList).bind fun j => (decode j).toOption

def toJson (r : Record) : Json :=
  .object
    [("service_name", .str r.service), ("namespace", .str r.realm), ("protocol", .str r.protocol),
     ("host", .str r.host), ("port", .int r.port.toNat), ("instance_id", .str r.instanceId),
     ("metadata", .ofTexts r.metadata)]

end Record

end Lookout
