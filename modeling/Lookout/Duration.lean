import Lookout.Text.Number

/-!
# Durations

A duration is a whole number of nanoseconds whose seconds fit 64 bits. Instants are counted in
nanoseconds from the start of the clock.
-/
set_option autoImplicit false

namespace Lookout

/-- Nanoseconds since the start of the clock. -/
abbrev Instant := Nat

structure Duration where
  nanos : Nat
  /-- Its seconds are below `2 ^ 64`. -/
  inRange : nanos < 18446744073709551616000000000

namespace Duration

theorem ext {d e : Duration} (h : d.nanos = e.nanos) : d = e := by
  cases d; cases e; cases h; rfl

instance : DecidableEq Duration := fun d e =>
  if h : d.nanos = e.nanos then isTrue (ext h) else isFalse fun he => h (he ▸ rfl)

def ofNanos? (nanos : Nat) : Option Duration :=
  if h : nanos < 18446744073709551616000000000 then some ⟨nanos, h⟩ else none

def zero : Duration := ⟨0, by decide⟩

instance : Inhabited Duration := ⟨zero⟩

def ofMillis (ms : UInt64) : Duration :=
  ⟨ms.toNat * 1000000, by have := ms.toNat_lt; omega⟩

def ofSecs (secs : UInt64) : Duration :=
  ⟨secs.toNat * 1000000000, by have := secs.toNat_lt; omega⟩

def secs (d : Duration) : Nat := d.nanos / 1000000000

def subsecNanos (d : Duration) : Nat := d.nanos % 1000000000

/-- Whole milliseconds; what is left over is dropped. -/
def millis (d : Duration) : Nat := d.nanos / 1000000

def add? (d e : Duration) : Option Duration := ofNanos? (d.nanos + e.nanos)

/-- The `n`-th part, rounded down. -/
def divide (d : Duration) (n : Nat) : Duration :=
  ⟨d.nanos / n, Nat.lt_of_le_of_lt (Nat.div_le_self _ _) d.inRange⟩

def least (d e : Duration) : Duration := if d.nanos ≤ e.nanos then d else e

/-- A number with the decimal places that are left when the zeros at the end are dropped. -/
def withPlaces (whole fraction places : Nat) : List Char :=
  let digits := Text.decimal fraction
  let padded := List.replicate (places - digits.length) '0' ++ digits
  let kept := (padded.reverse.dropWhile (· = '0')).reverse
  Text.decimal whole ++ (if kept.isEmpty then [] else '.' :: kept)

/-- The duration in the largest unit of `s`, `ms`, `µs` and `ns` that it reaches. -/
def text (d : Duration) : String :=
  let n := d.nanos
  String.ofList <|
    if 1000000000 ≤ n then withPlaces (n / 1000000000) (n % 1000000000) 9 ++ ['s']
    else if 1000000 ≤ n then withPlaces (n / 1000000) (n % 1000000) 6 ++ ['m', 's']
    else if 1000 ≤ n then withPlaces (n / 1000) (n % 1000) 3 ++ ['µ', 's']
    else Text.decimal n ++ ['n', 's']

end Duration

end Lookout
