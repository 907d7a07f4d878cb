import Lookout.Double

/-!
# The shortest decimal of a double

`Double.shortest` gives the decimal with the fewest digits among those that read back as the
number, and of these the one nearest to it. `Double.toText` writes it out, in positions from
`0.00001` up to below `10 ^ 16` and with an exponent beyond.
-/
set_option autoImplicit false

namespace Lookout.Double

/-- The magnitude as `m * 2 ^ q`, and whether the next smaller double is only half as far away as
the next larger one. -/
def parts (x : Double) : Nat × Int × Bool :=
  let exponent := ((x.bits >>> 52) &&& 0x7FF).toNat
  let fraction := (x.bits &&& 0xFFFFFFFFFFFFF).toNat
  if exponent = 0 then (fraction, -1074, false)
  else (4503599627370496 + fraction, (exponent : Int) - 1075, fraction = 0 ∧ 1 < exponent)

structure Ratio where
  num : Nat
  den : Nat

def Ratio.ofBinary (m : Nat) (q : Int) : Ratio :=
  if q < 0 then ⟨m, Nat.pow 2 q.natAbs⟩ else ⟨m * Nat.pow 2 q.toNat, 1⟩

def Ratio.compareDecimal (r : Ratio) (d : Nat) (e : Int) : Ordering :=
  if e < 0 then compare (d * r.den) (r.num * Nat.pow 10 e.natAbs)
  else compare (d * Nat.pow 10 e.toNat * r.den) r.num

def Ratio.floorDecimal (r : Ratio) (e : Int) : Nat :=
  if e < 0 then r.num * Nat.pow 10 e.natAbs / r.den
  else r.num / (r.den * Nat.pow 10 e.toNat)

def Ratio.magnitudeFrom (r : Ratio) : Nat → Int → Int
  | 0, k => k
  | fuel + 1, k =>
    match r.compareDecimal 1 k with
    | .gt => k
    | _ => r.magnitudeFrom fuel (k + 1)

/-- The fractions that read back as the double: those between the halves to its neighbours, with
both ends when its significand is even. -/
structure Neighbourhood where
  value : Ratio
  low : Ratio
  high : Ratio
  closed : Bool

def neighbourhood (x : Double) : Neighbourhood :=
  let (m, q, uneven) := x.parts
  { value := .ofBinary m q
    low := .ofBinary (4 * m - (if uneven then 1 else 2)) (q - 2)
    high := .ofBinary (4 * m + 2) (q - 2)
    closed := m % 2 = 0 }

def Neighbourhood.holds (n : Neighbourhood) (d : Nat) (e : Int) : Bool :=
  match n.low.compareDecimal d e, n.high.compareDecimal d e with
  | .gt, .lt => true
  | .eq, _ => n.closed
  | _, .eq => n.closed
  | _, _ => false

/-- The digit string on the grid `10 ^ e` that reads back, the nearer one when both neighbours of
the value do. -/
def Neighbourhood.onGrid? (n : Neighbourhood) (e : Int) : Option Nat :=
  let below := n.value.floorDecimal e
  let above := below + 1
  match n.holds below e, n.holds above e with
  | true, true =>
    let twice : Ratio := ⟨2 * n.value.num, n.value.den⟩
    match twice.compareDecimal (below + above) e with
    | .lt => some above
    | .gt => some below
    | .eq => some (if below % 2 = 0 then below else above)
  | true, false => some below
  | false, true => some above
  | false, false => none

def withoutZero (d : Nat) (e : Int) : Nat × Int := if d % 10 = 0 then (d / 10, e + 1) else (d, e)

/-- The first grid with a hit, from one digit on. A hit ends in a zero only when it is the power of
ten above the value, which the first grid writes as ten. -/
def Neighbourhood.search (n : Neighbourhood) (magnitude : Int) : Nat → Nat → Nat × Int
  | 0, digits => (n.value.floorDecimal (magnitude - digits), magnitude - digits)
  | fuel + 1, digits =>
    let e := magnitude - digits
    match n.onGrid? e with
    | some d => withoutZero d e
    | none => n.search magnitude fuel (digits + 1)

def shortest (x : Double) : Nat × Int :=
  if x.isZero then (0, 0)
  else
    let n := x.neighbourhood
    n.search (n.value.magnitudeFrom 700 (-330)) 17 1

def isPositional (magnitude : Int) : Bool := -5 < magnitude && magnitude ≤ 16

def positions (digits : List Char) (e : Int) : List Char :=
  if 0 ≤ e then digits ++ List.replicate e.toNat '0' ++ ['.', '0']
  else
    let places := e.natAbs
    let padded := List.replicate (places + 1 - digits.length) '0' ++ digits
    padded.take (padded.length - places) ++ ['.'] ++ padded.drop (padded.length - places)

def scientific (digits : List Char) (power : Int) : List Char :=
  digits.take 1 ++ (if digits.length = 1 then [] else '.' :: digits.drop 1) ++
    ['e', if 0 ≤ power then '+' else '-'] ++ Nat.toDigits 10 power.natAbs

/-- The number in positions, always with a point, or with an exponent when it is very large or very
small. -/
def toText (x : Double) : List Char :=
  let (d, e) := x.shortest
  let digits := Nat.toDigits 10 d
  let above : Int := digits.length + e
  let text := if isPositional above then positions digits e else scientific digits (above - 1)
  if x.isNegative then '-' :: text else text

end Lookout.Double
