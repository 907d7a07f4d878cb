import Lookout.Dict
import Lookout.Double

/-!
# JSON values

Values as the JSON format has them, with whole numbers and floating-point numbers kept apart. The
members of an object are in the order of their keys, each key once. `Json.same` is equality up to
the sign of a zero.
-/
set_option autoImplicit false

namespace Lookout

inductive Json where
  | null
  | bool (b : Bool)
  | int (n : Int)
  | real (x : Double)
  | str (s : String)
  | arr (items : List Json)
  | obj (members : List (String × Json))

namespace Json

instance : Inhabited Json := ⟨.null⟩

mutual

def same : Json → Json → Bool
  | .null, .null => true
  | .bool a, .bool b => a == b
  | .int a, .int b => a == b
  | .real a, .real b => a.same b
  | .str a, .str b => a == b
  | .arr a, .arr b => sameItems a b
  | .obj a, .obj b => sameMembers a b
  | _, _ => false

def sameItems : List Json → List Json → Bool
  | [], [] => true
  | a :: as, b :: bs => same a b && sameItems as bs
  | _, _ => false

def sameMembers : List (String × Json) → List (String × Json) → Bool
  | [], [] => true
  | (k, a) :: as, (l, b) :: bs => k == l && same a b && sameMembers as bs
  | _, _ => false

end

def text? : Json → Option String
  | .str s => some s
  | _ => none

def bool? : Json → Option Bool
  | .bool b => some b
  | _ => none

mutual

/-- Whether all whole numbers inside a value are at least `low` and below `high`. -/
def within (low high : Int) : Json → Bool
  | .int n => low ≤ n && n < high
  | .arr items => itemsWithin low high items
  | .obj members => membersWithin low high members
  | _ => true

def itemsWithin (low high : Int) : List Json → Bool
  | [] => true
  | item :: rest => within low high item && itemsWithin low high rest

def membersWithin (low high : Int) : List (String × Json) → Bool
  | [] => true
  | (_, value) :: rest => within low high value && membersWithin low high rest

end

def natural? : Json → Option Nat
  | .int n => if 0 ≤ n ∧ n.toNat < UInt64.size then some n.toNat else none
  | _ => none

def items? : Json → Option (List Json)
  | .arr items => some items
  | _ => none

def members? : Json → Option (List (String × Json))
  | .obj members => some members
  | _ => none

def get? (key : String) : Json → Option Json
  | .obj members => members.lookup key
  | _ => none

def ofDict (d : Dict Json) : Json := .obj d.entries

/-- An object of the given members; the order does not matter, of equal keys the last counts. -/
def object (members : List (String × Json)) : Json := ofDict (Dict.ofList members)

def texts (items : List String) : Json := .arr (items.map .str)

def ofTexts (d : Dict String) : Json := .obj (d.entries.map fun e => (e.1, .str e.2))

end Json

end Lookout
