import Lookout.Config.Resolver
import Lookout.Config.Source
import Lookout.Toml.Reader

/-!
# Configuration

The settings of a resolver and of its source together, as a TOML document or a file holds them.
What cannot be read is a failure to load; what was read but makes no sense is an invalid
configuration.
-/
set_option autoImplicit false

namespace Lookout

structure Config where
  resolver : ResolverConfig
  source : SourceConfig

namespace Config

def shape : Decode.Shape :=
  ⟨"struct Config",
    [Decode.field "resolver" ResolverConfig.decode,
     Decode.defaulted "source" SourceConfig.decode]⟩

def decode : Decoder Config := fun j => do
  let m ← shape.read j
  pure
    { resolver := ← Decode.get m "resolver" ResolverConfig.decode
      source := ← Decode.getD m "source" SourceConfig.decode default }

/-- A record written as an array may have more items than fields in a document. -/
def trimItems (shape : Decode.Shape) : Json → Json
  | .arr items => .arr (items.take shape.fields.length)
  | other => other

/-- A variant written as a table holds an empty table or array in a document, which knows no
`null`. -/
def trimVariant : Json → Json
  | .obj [(name, .obj [])] => .obj [(name, .null)]
  | .obj [(name, .arr [])] => .obj [(name, .null)]
  | .obj [(name, .null)] => .obj [(name, .obj [])]
  | other => other

def trimBackend : Json → Json
  | .obj members =>
    .obj (members.map fun m => if m.1 == "backend" then (m.1, trimVariant m.2) else m)
  | .arr (backend :: rest) => .arr (trimVariant backend :: rest)
  | other => other

def ofDocument : Json → Json
  | .obj members =>
    .obj <| members.map fun m =>
      if m.1 == "resolver" then (m.1, trimItems ResolverConfig.shape m.2)
      else if m.1 == "source" then (m.1, trimBackend (trimItems SourceConfig.shape m.2))
      else m
  | other => other

/-- The size of the numbers that may stand where nothing looks at them: 128 bits, with or without a
sign. -/
def isPassable (j : Json) : Bool := j.within (-Int.ofNat (Nat.pow 2 127)) (Nat.pow 2 128)

/-- The size of the numbers that an option can hold: 64 bits, with or without a sign. -/
def isOption (j : Json) : Bool := j.within (-Int.ofNat (Nat.pow 2 63)) (Nat.pow 2 64)

def ofToml (text : String) : Except Failure Config := do
  let document ← match Toml.parse? text with
    | some document => pure (ofDocument document)
    | none => throw (.configLoad "not a TOML document")
  let config ← match decode document with
    | .ok config => pure config
    | .error e => throw (.configLoad e.message)
  if !(isPassable document && config.source.options.entries.all fun e => isOption e.2) then
    throw (.configLoad "a number is too large")
  config.resolver.validate
  pure config

def ofFile (content? : Option (List UInt8)) : Except Failure Config :=
  match content? with
  | none => .error (.configLoad "no such file")
  | some bytes =>
    match String.fromUTF8? bytes.toByteArray with
    | some text => ofToml text
    | none => .error (.configLoad "the file is not UTF-8 text")

def toJson (c : Config) : Json :=
  .object [("resolver", c.resolver.toJson), ("source", c.source.toJson)]

end Config

end Lookout
