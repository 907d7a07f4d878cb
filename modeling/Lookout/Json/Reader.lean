import Lookout.Json
import Lookout.Text.Number

/-!
# Reading JSON

A reader of the JSON grammar. Each reading function takes the characters left to read and gives
what it read with the rest, or `none` when the text is not JSON.

Numbers without point and exponent are whole numbers as long as they fit 64 bits, signed or
unsigned; all others are doubles, and so is `-0`. Arrays and objects nest at most `maxDepth` deep.
A key that an object repeats keeps its last value.
-/
set_option autoImplicit false

namespace Lookout.Json

/-- What a reading step has read, and the characters after it. -/
abbrev Reading (α : Type) := Option (α × List Char)

def maxDepth : Nat := 127

def skipBlank (cs : List Char) : List Char :=
  cs.dropWhile fun c => c = ' ' || c = '\t' || c = '\n' || c = '\r'

/-! ## Texts -/

def unit16? (a b c d : Char) : Option Nat :=
  let digits := [a, b, c, d]
  if digits.all (Text.isDigit 16) then some (Text.valueOf 16 digits) else none

def shortEscape? : Char → Option Char
  | '"' => some '"'
  | '\\' => some '\\'
  | '/' => some '/'
  | 'b' => some '\x08'
  | 'f' => some '\x0c'
  | 'n' => some '\n'
  | 'r' => some '\r'
  | 't' => some '\t'
  | _ => none

/-- The character of one unit, or of a pair of surrogates. -/
def charOfUnits? (unit : Nat) (next? : Option Nat) : Option Char :=
  match next? with
  | none => if 0xD800 ≤ unit ∧ unit ≤ 0xDFFF then none else some (Char.ofNat unit)
  | some low =>
    if 0xDC00 ≤ low ∧ low ≤ 0xDFFF then
      some (Char.ofNat (0x10000 + (unit - 0xD800) * 0x400 + (low - 0xDC00)))
    else none

def isHighSurrogate (unit : Nat) : Bool := 0xD800 ≤ unit && unit ≤ 0xDBFF

def readEscape : List Char → Reading Char
  | 'u' :: a :: b :: c :: d :: rest =>
    match unit16? a b c d, rest with
    | none, _ => none
    | some unit, '\\' :: 'u' :: e :: f :: g :: h :: more =>
      if isHighSurrogate unit then
        (unit16? e f g h).bind fun low => (charOfUnits? unit (some low)).map (·, more)
      else (charOfUnits? unit none).map (·, rest)
    | some unit, _ => (charOfUnits? unit none).map (·, rest)
  | c :: rest => (shortEscape? c).map (·, rest)
  | [] => none

/-- The characters up to the closing quote, read from behind the opening one. The first argument
bounds the number of characters. -/
def readTextBody : Nat → List Char → List Char → Reading String
  | 0, _, _ => none
  | _, _, [] => none
  | _ + 1, read, '"' :: rest => some (String.ofList read.reverse, rest)
  | fuel + 1, read, '\\' :: rest =>
    match readEscape rest with
    | none => none
    | some (c, more) => readTextBody fuel (c :: read) more
  | fuel + 1, read, c :: rest =>
    if c.toNat < 0x20 then none else readTextBody fuel (c :: read) rest

def readText : List Char → Reading String
  | '"' :: rest => readTextBody (rest.length + 1) [] rest
  | _ => none

/-! ## Numbers -/

structure Numeral where
  negative : Bool
  whole : List Char
  fraction? : Option (List Char)
  exponent? : Option Int

def takeDigits (cs : List Char) : List Char × List Char :=
  (cs.takeWhile (Text.isDigit 10), cs.dropWhile (Text.isDigit 10))

def readFraction : List Char → Reading (Option (List Char))
  | '.' :: rest =>
    let (digits, more) := takeDigits rest
    if digits.isEmpty then none else some (some digits, more)
  | cs => some (none, cs)

def readExponent : List Char → Reading (Option Int)
  | [] => some (none, [])
  | c :: rest =>
    if c = 'e' ∨ c = 'E' then
      let (negative, digitsOn) := match rest with
        | '+' :: more => (false, more)
        | '-' :: more => (true, more)
        | _ => (false, rest)
      let (digits, more) := takeDigits digitsOn
      if digits.isEmpty then none
      else
        let size : Int := Text.valueOf 10 digits
        some (some (if negative then -size else size), more)
    else some (none, c :: rest)

/-- A number of the grammar: no leading zeros, digits on both sides of a point. -/
def readNumeral (cs : List Char) : Reading Numeral :=
  let (negative, unsigned) := match cs with
    | '-' :: rest => (true, rest)
    | _ => (false, cs)
  let (whole, rest) := takeDigits unsigned
  if whole.isEmpty || (whole.head? = some '0' && 1 < whole.length) then none
  else
    match readFraction rest with
    | none => none
    | some (fraction?, rest) =>
      match readExponent rest with
      | none => none
      | some (exponent?, rest) => some (⟨negative, whole, fraction?, exponent?⟩, rest)

/-- Reads digits into a significand of 64 bits for as long as they fit, and says how many were
left over. -/
def fillSignificand : Nat → List Char → Nat × Nat
  | significand, [] => (significand, 0)
  | significand, c :: rest =>
    let next := significand * 10 + (Text.digitValue? 10 c).getD 0
    if next < UInt64.size then fillSignificand next rest else (significand, rest.length + 1)

/-- The value of a number; `none` when it is too large for a double. Digits of the fraction that no
longer fit the significand are dropped; once a digit did not fit, no later one is taken. -/
def Numeral.value? (n : Numeral) : Option Json :=
  let (significand, left) := fillSignificand 0 n.whole
  match n.fraction?, n.exponent? with
  | none, none =>
    if left = 0 ∧ !n.negative then some (.int significand)
    else if left = 0 ∧ 0 < significand ∧ significand ≤ UInt64.size / 2 then
      some (.int (-significand))
    else (Double.scaled? n.negative (.ofNat significand) left).map .real
  | _, _ =>
    let fraction := n.fraction?.getD []
    let (significand, dropped) := fillSignificand significand fraction
    let places : Int := fraction.length - dropped
    (Double.scaled? n.negative (.ofNat significand) (left - places + n.exponent?.getD 0)).map .real

def readNumber (cs : List Char) : Reading Json :=
  match readNumeral cs with
  | none => none
  | some (numeral, rest) => numeral.value?.map (·, rest)

/-! ## Values -/

def afterWord : List Char → List Char → Option (List Char)
  | [], cs => some cs
  | _, [] => none
  | w :: word, c :: cs => if w = c then afterWord word cs else none

mutual

/-- A value, with blanks allowed before it. The first argument bounds the number of steps, the
second the nesting. -/
def readValue : Nat → Nat → List Char → Reading Json
  | 0, _, _ => none
  | fuel + 1, depth, cs =>
    match skipBlank cs with
    | 'n' :: rest => (afterWord ['u', 'l', 'l'] rest).map (.null, ·)
    | 't' :: rest => (afterWord ['r', 'u', 'e'] rest).map (.bool true, ·)
    | 'f' :: rest => (afterWord ['a', 'l', 's', 'e'] rest).map (.bool false, ·)
    | '"' :: rest => (readTextBody (rest.length + 1) [] rest).map fun r => (.str r.1, r.2)
    | '[' :: rest =>
      match depth, skipBlank rest with
      | 0, _ => none
      | _ + 1, ']' :: more => some (.arr [], more)
      | depth + 1, _ => (readItems fuel depth rest).map fun r => (.arr r.1, r.2)
    | '{' :: rest =>
      match depth, skipBlank rest with
      | 0, _ => none
      | _ + 1, '}' :: more => some (.obj [], more)
      | depth + 1, _ =>
        (readMembers fuel depth rest).map fun r => (object r.1, r.2)
    | other => readNumber other

def readItems : Nat → Nat → List Char → Reading (List Json)
  | 0, _, _ => none
  | fuel + 1, depth, cs =>
    match readValue fuel depth cs with
    | none => none
    | some (item, rest) =>
      match skipBlank rest with
      | ',' :: more => (readItems fuel depth more).map fun r => (item :: r.1, r.2)
      | ']' :: more => some ([item], more)
      | _ => none

def readMembers : Nat → Nat → List Char → Reading (List (String × Json))
  | 0, _, _ => none
  | fuel + 1, depth, cs =>
    match readText (skipBlank cs) with
    | none => none
    | some (key, rest) =>
      match skipBlank rest with
      | ':' :: rest =>
        match readValue fuel depth rest with
        | none => none
        | some (value, rest) =>
          match skipBlank rest with
          | ',' :: more => (readMembers fuel depth more).map fun r => ((key, value) :: r.1, r.2)
          | '}' :: more => some ([(key, value)], more)
          | _ => none
      | _ => none

end

def stepsFor (cs : List Char) : Nat := 2 * cs.length + 2

def parse? (cs : List Char) : Option Json :=
  match readValue (stepsFor cs) maxDepth cs with
  | some (value, rest) => if (skipBlank rest).isEmpty then some value else none
  | none => none

end Lookout.Json
