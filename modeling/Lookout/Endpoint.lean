import Lookout.Address
import Lookout.Json

/-!
# Endpoints

An endpoint is an address that can be reached over a protocol. `Endpoint.same` compares protocol,
address and attributes; the name is only a label.
-/
set_option autoImplicit false

namespace Lookout

structure Endpoint where
  name : String
  protocol : String
  /-- In the normal spelling of addresses. -/
  address : String
  attributes : Dict Json

namespace Endpoint

def create? (name protocol host : String) (port : UInt16) (attributes : Dict Json) :
    Option Endpoint :=
  (Address.normalize? host port).map fun address =>
    { name := if name.isEmpty then address else name, protocol, address, attributes }

/-- What tells an endpoint apart in a set: `protocol://address`. -/
def key (e : Endpoint) : String := e.protocol ++ "://" ++ e.address

def same (a b : Endpoint) : Bool :=
  a.protocol == b.protocol && a.address == b.address &&
    Json.sameMembers a.attributes.entries b.attributes.entries

def attributeText? (e : Endpoint) (key : String) : Option String :=
  (e.attributes.find? key).bind Json.text?

def toJson (e : Endpoint) : Json :=
  .object
    [("name", .str e.name), ("protocol", .str e.protocol), ("address", .str e.address),
     ("attributes", .ofDict e.attributes)]

/-- Endpoints are listed by address, then by protocol, then by name. -/
def precedes (a b : Endpoint) : Bool :=
  if a.address ≠ b.address then a.address < b.address
  else if a.protocol ≠ b.protocol then a.protocol < b.protocol
  else a.name ≤ b.name

end Endpoint

end Lookout
