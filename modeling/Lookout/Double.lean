/-!
# Finite doubles

A floating-point number as data formats hold it: never infinite and never "not a number". Two of
them are the same number when their bits agree or both are zeros.
-/
set_option autoImplicit false

namespace Lookout

structure Double where
  bits : UInt64
  finite : (bits >>> 52) &&& 0x7FF ≠ 0x7FF

namespace Double

theorem ext {x y : Double} (h : x.bits = y.bits) : x = y := by
  cases x; cases y; cases h; rfl

instance : DecidableEq Double := fun x y =>
  if h : x.bits = y.bits then isTrue (ext h) else isFalse fun he => h (he ▸ rfl)

def zero : Double := ⟨0, by decide⟩

def isNegative (x : Double) : Bool := x.bits >>> 63 == 1

def isZero (x : Double) : Bool := x.bits <<< 1 == 0

def same (x y : Double) : Bool := x.bits == y.bits || (x.isZero && y.isZero)

def ofFloat? (x : Float) : Option Double :=
  if h : (x.toBits >>> 52) &&& 0x7FF ≠ 0x7FF then some ⟨x.toBits, h⟩ else none

/-- The largest exponent of ten that a double can hold. -/
def maxExponent : Nat := 308

def powerOfTen (k : Nat) : Float := Float.ofScientific 1 false k

def divideDown (x : Float) (k : Nat) : Float :=
  if k ≤ maxExponent then x / powerOfTen k
  else if x == 0 then x
  else divideDown (x / powerOfTen maxExponent) (k - maxExponent)
termination_by k
decreasing_by
  simp only [maxExponent] at *
  omega

/-- The double that `significand * 10 ^ exponent` gives when the significand is rounded first and
then scaled by one power of ten; `none` when that is too large. -/
def scaled? (negative : Bool) (significand : UInt64) (exponent : Int) : Option Double :=
  let start := significand.toFloat
  let magnitude? : Option Float :=
    if exponent < 0 then some (divideDown start exponent.natAbs)
    else if exponent.toNat ≤ maxExponent then some (start * powerOfTen exponent.toNat)
    else if start == 0 then some start
    else none
  magnitude?.bind fun x => ofFloat? (if negative then -x else x)

/-- The double nearest to `significand * 10 ^ exponent`; `none` when that is too large. -/
def nearest? (negative : Bool) (significand : Nat) (exponent : Int) : Option Double :=
  let size : Int := (Nat.toDigits 10 significand).length + exponent
  let magnitude? : Option Float :=
    if significand = 0 ∨ size < -400 then some 0
    else if size > 400 then none
    else some (Float.ofScientific significand (exponent < 0) exponent.natAbs)
  magnitude?.bind fun x => ofFloat? (if negative then -x else x)

end Double

end Lookout
