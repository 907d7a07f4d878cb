import Lookout.Decode

/-!
# Source settings

Which kind of registry to read from, with options that each kind reads for itself.
-/
set_option autoImplicit false

namespace Lookout

inductive Backend where
  | memory
  | fixed
  | etcd
  | consul
deriving DecidableEq

namespace Backend

def name : Backend → String
  | .memory => "memory"
  | .fixed => "static"
  | .etcd => "etcd"
  | .consul => "consul"

def all : List Backend := [.memory, .fixed, .etcd, .consul]

def aliases : List (String × Backend) :=
  [("memory", .memory), ("inmemory", .memory), ("in-memory", .memory), ("static", .fixed),
   ("fixed", .fixed), ("etcd", .etcd), ("consul", .consul)]

/-- Reads a backend's name in any case. Only ASCII letters have to be lowered: no other letter has
one of the letters in these names as its lower case. -/
def ofName? (s : String) : Except String Backend :=
  match aliases.lookup (String.ofList (s.toList.map Char.toLower)) with
  | some b => .ok b
  | none => .error ("Unknown backend type: " ++ s)

def decode : Decoder Backend := Decode.variant (all.map fun b => (b.name, b))

end Backend

structure SourceConfig where
  backend : Backend
  options : Dict Json

namespace SourceConfig

def create (backend : Backend) : SourceConfig := ⟨backend, ∅⟩

instance : Inhabited SourceConfig := ⟨create .memory⟩

def withOption (c : SourceConfig) (key : String) (value : Json) : SourceConfig :=
  { c with options := c.options.insert key value }

def text? (c : SourceConfig) (key : String) : Option String :=
  (c.options.find? key).bind Json.text?

/-- An option that is an array of nothing but texts. -/
def texts? (c : SourceConfig) (key : String) : Option (List String) :=
  ((c.options.find? key).bind Json.items?).bind fun items => items.mapM Json.text?

def shape : Decode.Shape :=
  ⟨"struct SourceConfig",
    [Decode.field "backend" Backend.decode, Decode.defaulted "backend_config" Decode.members]⟩

def decode : Decoder SourceConfig := fun j => do
  let m ← shape.read j
  pure
    { backend := ← Decode.get m "backend" Backend.decode
      options := ← Decode.getD m "backend_config" Decode.members ∅ }

def toJson (c : SourceConfig) : Json :=
  .object [("backend", .str c.backend.name), ("backend_config", .ofDict c.options)]

end SourceConfig

end Lookout
