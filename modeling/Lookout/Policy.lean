import Lookout.Decode
import Lookout.Endpoint
import Lookout.Failure
import Lookout.Record
import Lookout.Text.Blank

/-!
# Filter policies

A policy says which records of a listing make endpoints: those of its namespace and service whose
protocol it allows and whose address can be normalised.
-/
set_option autoImplicit false

namespace Lookout

structure Policy where
  realm : String
  service : String
  /-- The allowed protocols; none allowed rejects every record. -/
  protocols : Dict Unit
deriving DecidableEq

namespace Policy

def create (realm service : String) (protocols : List String) : Policy :=
  ⟨realm, service, .ofList (protocols.map (·, ()))⟩

def validate (p : Policy) : Except Failure Unit :=
  if Text.allBlank p.realm then .error (.invalidConfig "namespace must not be empty")
  else if Text.allBlank p.service then .error (.invalidConfig "service name must not be empty")
  else if p.protocols.entries.isEmpty then
    .error (.invalidConfig ("no protocols configured for service `" ++ p.service ++ "`"))
  else .ok ()

/-- Whether the policy wants the record, its address aside. -/
def wants (p : Policy) (r : Record) : Bool :=
  r.realm == p.realm && p.protocols.contains r.protocol && r.service == p.service

def attributesOf (metadata : Dict String) : Dict Json :=
  .ofList (metadata.entries.map fun e => (e.1, .str e.2))

def filter (p : Policy) (r : Record) : Option Endpoint :=
  if p.wants r then
    Endpoint.create? r.instanceId r.protocol r.host r.port (attributesOf r.metadata)
  else none

def shape : Decode.Shape :=
  ⟨"struct FilterPolicy",
    [Decode.field "namespace" Decode.text, Decode.field "service_name" Decode.text,
     Decode.field "protocols" Decode.texts]⟩

def decode : Decoder Policy := fun j => do
  let m ← shape.read j
  let realm ← Decode.get m "namespace" Decode.text
  let service ← Decode.get m "service_name" Decode.text
  let protocols ← Decode.get m "protocols" Decode.texts
  pure (create realm service protocols)

def toJson (p : Policy) : Json :=
  .object
    [("namespace", .str p.realm), ("service_name", .str p.service),
     ("protocols", .texts p.protocols.keys)]

end Policy

end Lookout
