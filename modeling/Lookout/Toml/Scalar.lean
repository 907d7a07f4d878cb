import Lookout.Json
import Lookout.Text.Number

/-!
# TOML scalars without quotes

Booleans, whole numbers, floating-point numbers and dates and times. Underscores stand between
digits only. A whole number may have any size. The words for infinity and for "not a number" are
read as `null`; a date or time becomes an object with its normal text in it.
-/
set_option autoImplicit false

namespace Lookout.Toml

def digits? (base : Nat) : List Char → Option (List Char)
  | [] => none
  | [c] => if Text.isDigit base c then some [c] else none
  | c :: '_' :: rest => if Text.isDigit base c then (digits? base rest).map (c :: ·) else none
  | c :: rest => if Text.isDigit base c then (digits? base rest).map (c :: ·) else none

/-- Decimal digits that do not begin with a superfluous zero. -/
def plainDigits? (cs : List Char) : Option (List Char) :=
  (digits? 10 cs).filter fun ds => ds.head? ≠ some '0' || ds.length = 1

def splitSign : List Char → Option Bool × List Char
  | '+' :: rest => (some false, rest)
  | '-' :: rest => (some true, rest)
  | cs => (none, cs)

/-! ## Whole numbers -/

/-- Stands for a floating-point number above the largest double, and is itself larger than whatever
looks at a number allows. -/
def beyondDoubles : Int := Nat.pow 2 1024

def integer? (cs : List Char) : Option Int :=
  let based (base : Nat) (rest : List Char) : Option Int :=
    (digits? base rest).map fun ds => (Text.valueOf base ds : Int)
  match cs with
  | '0' :: 'x' :: rest => based 16 rest
  | '0' :: 'o' :: rest => based 8 rest
  | '0' :: 'b' :: rest => based 2 rest
  | _ =>
    let (sign?, rest) := splitSign cs
    (plainDigits? rest).map fun ds =>
      let n : Int := Text.valueOf 10 ds
      if sign? = some true then -n else n

/-! ## Floating-point numbers -/

def splitAt? (p : Char → Bool) (cs : List Char) : List Char × Option (List Char) :=
  match cs.dropWhile (fun c => !p c) with
  | [] => (cs, none)
  | _ :: after => (cs.takeWhile (fun c => !p c), some after)

def decimal? (cs : List Char) : Option (Option Double) := do
  let (sign?, body) := splitSign cs
  let (mantissa, exponent?) := splitAt? (fun c => c = 'e' || c = 'E') body
  let (whole, fraction?) := splitAt? (· = '.') mantissa
  let whole ← plainDigits? whole
  let fraction ← match fraction? with
    | some f => (digits? 10 f).map some
    | none => some none
  let exponent ← match exponent? with
    | some e =>
      let (expSign?, ds) := splitSign e
      (digits? 10 ds).map fun ds =>
        let n : Int := Text.valueOf 10 ds
        some (if expSign? = some true then -n else n)
    | none => some none
  if fraction.isNone && exponent.isNone then none
  else
    let places := fraction.getD []
    some (Double.nearest? (sign? = some true) (Text.valueOf 10 (whole ++ places))
      (exponent.getD 0 - places.length))

def isNonFinite (cs : List Char) : Bool :=
  let body := (splitSign cs).2
  body == ['i', 'n', 'f'] || body == ['n', 'a', 'n']

/-! ## Dates and times -/

def take? (n : Nat) (cs : List Char) : Option (Nat × List Char) :=
  let ds := cs.take n
  if ds.length = n && ds.all (Text.isDigit 10) then some (Text.valueOf 10 ds, cs.drop n) else none

def expect? (c : Char) : List Char → Option (List Char)
  | d :: rest => if c = d then some rest else none
  | [] => none

def daysIn (year month : Nat) : Nat :=
  if month = 2 then
    if year % 4 = 0 ∧ (year % 100 ≠ 0 ∨ year % 400 = 0) then 29 else 28
  else if month = 4 ∨ month = 6 ∨ month = 9 ∨ month = 11 then 30
  else 31

def date? (cs : List Char) : Option (List Char × List Char) := do
  let (year, rest) ← take? 4 cs
  let (month, rest) ← take? 2 (← expect? '-' rest)
  let (day, rest) ← take? 2 (← expect? '-' rest)
  if 1 ≤ month ∧ month ≤ 12 ∧ 1 ≤ day ∧ day ≤ daysIn year month then some (cs.take 10, rest)
  else none

/-- Up to nine places of a second; places beyond are dropped, and so are zeros at the end. -/
def placesText (ds : List Char) : List Char :=
  let kept := ((ds.take 9).reverse.dropWhile (· = '0')).reverse
  if kept.isEmpty then [] else '.' :: kept

/-- The normal text of the seconds of a time and the rest. They may be left out together with their
places, and count as zero then. -/
def seconds? (cs : List Char) : Option (List Char × List Char) :=
  match cs with
  | ':' :: rest => do
    let (second, rest) ← take? 2 rest
    if 60 < second then none
    else
      let text := cs.take 3
      match rest with
      | '.' :: more =>
        let ds := more.takeWhile (Text.isDigit 10)
        if ds.isEmpty then none
        else some (text ++ placesText ds, more.dropWhile (Text.isDigit 10))
      | _ => some (text, rest)
  | _ => some ([':', '0', '0'], cs)

def time? (cs : List Char) : Option (List Char × List Char) := do
  let (hour, rest) ← take? 2 cs
  let (minute, rest) ← take? 2 (← expect? ':' rest)
  let (secondText, rest) ← seconds? rest
  if hour < 24 ∧ minute < 60 then some (cs.take 5 ++ secondText, rest) else none

/-- The offset from universal time that a whole text stands for; an empty one is a local time. -/
def offset? (cs : List Char) : Option (List Char) :=
  match cs with
  | [] => some []
  | ['Z'] => some ['Z']
  | ['z'] => some ['Z']
  | sign :: rest => do
    if sign ≠ '+' ∧ sign ≠ '-' then none
    let (hour, more) ← take? 2 rest
    let (minute, more) ← take? 2 (← expect? ':' more)
    if more ≠ [] ∨ 24 ≤ hour ∨ 60 ≤ minute then none
    else if hour = 0 ∧ minute = 0 then some ['+', '0', '0', ':', '0', '0']
    else some cs

def moment? (cs : List Char) : Option (List Char) :=
  match date? cs with
  | some (date, []) => some date
  | some (date, delimiter :: rest) => do
    if delimiter ≠ 'T' ∧ delimiter ≠ 't' ∧ delimiter ≠ ' ' then none
    let (time, rest) ← time? rest
    let offset ← offset? rest
    pure (date ++ 'T' :: time ++ offset)
  | none =>
    match time? cs with
    | some (time, []) => some time
    | _ => none

def momentKey : String := "$__toml_private_datetime"

def scalar? (cs : List Char) : Option Json :=
  if cs == ['t', 'r', 'u', 'e'] then some (.bool true)
  else if cs == ['f', 'a', 'l', 's', 'e'] then some (.bool false)
  else if isNonFinite cs then some .null
  else
    match integer? cs with
    | some n => some (.int n)
    | none =>
      match decimal? cs with
      | some (some x) => some (.real x)
      | some none => some (.int beyondDoubles)
      | none => (moment? cs).map fun text => .obj [(momentKey, .str (String.ofList text))]

end Lookout.Toml
