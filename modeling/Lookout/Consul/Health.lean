import Lookout.Json
import Lookout.Record

/-!
# Health entries

Consul answers a request about a service with an array of entries. An entry names a node and an
instance of a service; the instance has an address, a port, tags and metadata. The tags and the
metadata together are the labels of the instance, and two labels say which namespace and which
protocol it belongs to.
-/
set_option autoImplicit false

namespace Lookout.Consul

structure Defaults where
  realm : String
  protocol : String

/-- The label that a tag stands for: `key=value`, or a key on its own, which is `true`. -/
def labelOfTag (tag : String) : String × String :=
  let cs := tag.toList
  match cs.dropWhile (· ≠ '=') with
  | [] => (tag, "true")
  | _ :: value => (String.ofList (cs.takeWhile (· ≠ '=')), String.ofList value)

def textOf? (j : Json) (key : String) : Option String := (j.get? key).bind Json.text?

def tagsOf (instance_ : Json) : List String :=
  (((instance_.get? "Tags").bind Json.items?).getD []).filterMap Json.text?

def metadataOf (instance_ : Json) : List (String × String) :=
  (((instance_.get? "Meta").bind Json.members?).getD []).filterMap fun e =>
    e.2.text?.map fun value => (e.1, value)

/-- The labels of an instance. Of two with one key the later tag counts, and metadata counts more
than tags. -/
def labelsOf (instance_ : Json) : Dict String :=
  .ofList ((tagsOf instance_).map labelOfTag ++ metadataOf instance_)

def addressOf? (entry instance_ : Json) : Option String :=
  ((textOf? instance_ "Address").filter fun a => !a.isEmpty).or
    ((entry.get? "Node").bind (textOf? · "Address"))

def portOf? (instance_ : Json) : Option UInt16 :=
  (((instance_.get? "Port").bind Json.natural?).filter (· ≤ 65535)).map UInt16.ofNat

/-- The record of an entry. An entry without an address or a port gives none. -/
def recordOf? (defaults : Defaults) (service : String) (entry : Json) : Option Record := do
  let instance_ ← entry.get? "Service"
  let host ← addressOf? entry instance_
  let port ← portOf? instance_
  let labels := labelsOf instance_
  let own := (labels.erase "namespace").erase "protocol"
  pure
    { service := (textOf? instance_ "Service").getD service
      realm := (labels.find? "namespace").getD defaults.realm
      protocol := (labels.find? "protocol").getD defaults.protocol
      host, port
      instanceId := (textOf? instance_ "ID").getD ""
      metadata :=
        match (entry.get? "Node").bind (textOf? · "Node") with
        | some node => own.insert "node" node
        | none => own }

def recordsOf (defaults : Defaults) (service : String) (entries : List Json) : List Record :=
  entries.filterMap (recordOf? defaults service)

end Lookout.Consul
