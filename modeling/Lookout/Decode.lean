import Lookout.Double.Shortest
import Lookout.Json
import Lookout.Text.Quoted

/-!
# Typed reading of JSON values

A decoder turns a value into what a field holds, or says what it found and what it wanted. A record
is read from an object: unknown members do not matter, the members are looked at in the order of
their keys, and only when every one of them is good are missing fields reported, in the order in
which the record declares them. A record can also be read from an array of its fields in that order.
-/
set_option autoImplicit false

namespace Lookout

inductive Found where
  | null
  | bool (b : Bool)
  | int (n : Int)
  | real (x : Double)
  | text (s : String)
  | sequence
  | map

def Found.of : Json → Found
  | .null => .null
  | .bool b => .bool b
  | .int n => .int n
  | .real x => .real x
  | .str s => .text s
  | .arr _ => .sequence
  | .obj _ => .map

def Found.describe : Found → String
  | .null => "null"
  | .bool b => "boolean `" ++ (if b then "true" else "false") ++ "`"
  | .int n => "integer `" ++ toString n ++ "`"
  | .real x => "floating point `" ++ String.ofList x.toText ++ "`"
  | .text s => "string " ++ Text.quoted s
  | .sequence => "sequence"
  | .map => "map"

inductive DecodeError where
  | missingField (name : String)
  | wrongType (found : Found) (wanted : String)
  | outOfRange (found : Found) (wanted : String)
  | unknownVariant (name : String) (known : List String)
  | wrongLength (length : Nat) (wanted : String)

namespace DecodeError

def list (names : List String) : String :=
  ", ".intercalate (names.map fun name => "`" ++ name ++ "`")

def message : DecodeError → String
  | .missingField name => "missing field `" ++ name ++ "`"
  | .wrongType found wanted => "invalid type: " ++ found.describe ++ ", expected " ++ wanted
  | .outOfRange found wanted => "invalid value: " ++ found.describe ++ ", expected " ++ wanted
  | .unknownVariant name known =>
    "unknown variant `" ++ name ++ "`, expected one of " ++ list known
  | .wrongLength length wanted =>
    "invalid length " ++ toString length ++ ", expected " ++ wanted

end DecodeError

abbrev Decoder (α : Type) := Json → Except DecodeError α

namespace Decode

def text : Decoder String
  | .str s => .ok s
  | other => .error (.wrongType (.of other) "a string")

/-- A whole number below `2 ^ bits`; messages call the type `wanted`. -/
def unsigned (bits : Nat) (wanted : String) : Decoder Nat
  | .int n =>
    if 0 ≤ n ∧ n.toNat < Nat.pow 2 bits then .ok n.toNat else .error (.outOfRange (.int n) wanted)
  | other => .error (.wrongType (.of other) wanted)

def u16 : Decoder UInt16 := fun j => (unsigned 16 "u16" j).map UInt16.ofNat

def u64 : Decoder UInt64 := fun j => (unsigned 64 "u64" j).map UInt64.ofNat

def usize : Decoder UInt64 := fun j => (unsigned 64 "usize" j).map UInt64.ofNat

def sequence {α : Type} (item : Decoder α) : Decoder (List α)
  | .arr items => items.mapM item
  | other => .error (.wrongType (.of other) "a sequence")

def texts : Decoder (List String) := sequence text

def members : Decoder (Dict Json)
  | .obj entries => .ok (.ofList entries)
  | other => .error (.wrongType (.of other) "a map")

def dictOfTexts : Decoder (Dict String)
  | .obj entries => do
    let read ← entries.mapM fun e => do pure (e.1, ← text e.2)
    pure (.ofList read)
  | other => .error (.wrongType (.of other) "a map")

/-- `null` stands for a value that is not there. -/
def optional {α : Type} (item : Decoder α) : Decoder (Option α)
  | .null => .ok none
  | other => (item other).map some

/-- A value of an enumeration, by its name or as an object with that one key and `null` in it. -/
def variant {α : Type} (known : List (String × α)) : Decoder α :=
  let byName (name : String) : Except DecodeError α :=
    match known.lookup name with
    | some value => .ok value
    | none => .error (.unknownVariant name (known.map Prod.fst))
  fun
    | .str name => byName name
    | .obj [(name, value)] => do
      let variant ← byName name
      match value with
      | .null => pure variant
      | other => .error (.wrongType (.of other) "unit")
    | .obj _ => .error (.outOfRange .map "map with a single key")
    | other => .error (.wrongType (.of other) "string or map")

/-! ## Records -/

structure Field where
  name : String
  required : Bool
  check : Json → Except DecodeError Unit

def field {α : Type} (name : String) (d : Decoder α) : Field :=
  ⟨name, true, fun j => (d j).map fun _ => ()⟩

def defaulted {α : Type} (name : String) (d : Decoder α) : Field :=
  ⟨name, false, fun j => (d j).map fun _ => ()⟩

structure Shape where
  title : String
  fields : List Field

def Shape.elements (s : Shape) : String :=
  s.title ++ " with " ++ toString s.fields.length ++ " elements"

def Shape.positional (s : Shape) (length : Nat) :
    Nat → List Field → List Json → Except DecodeError (List (String × Json))
  | _, [], [] => .ok []
  | _, [], _ :: _ => .error (.wrongLength length "fewer elements in array")
  | i, f :: fields, [] =>
    if f.required then .error (.wrongLength i s.elements) else s.positional length (i + 1) fields []
  | i, f :: fields, item :: items => do
    f.check item
    let rest ← s.positional length (i + 1) fields items
    pure ((f.name, item) :: rest)

/-- The members of a value that has the shape: every known one is good and none that is required is
missing. -/
def Shape.read (s : Shape) : Decoder (Dict Json)
  | .obj entries => do
    entries.forM fun e =>
      match s.fields.find? (·.name == e.1) with
      | some f => f.check e.2
      | none => pure ()
    s.fields.forM fun f =>
      if f.required && !(entries.any (·.1 == f.name)) then .error (.missingField f.name)
      else pure ()
    pure (.ofList entries)
  | .arr items => do
    let entries ← s.positional items.length 0 s.fields items
    pure (.ofList entries)
  | other => .error (.wrongType (.of other) s.title)

/-- The member of that name; a missing one counts as an error of its own. -/
def get {α : Type} (m : Dict Json) (name : String) (d : Decoder α) : Except DecodeError α :=
  match m.find? name with
  | some j => d j
  | none => .error (.missingField name)

def getD {α : Type} (m : Dict Json) (name : String) (d : Decoder α) (absent : α) :
    Except DecodeError α :=
  match m.find? name with
  | some j => d j
  | none => .ok absent

end Decode

end Lookout
