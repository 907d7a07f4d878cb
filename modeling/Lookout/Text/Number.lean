/-!
# Natural numbers in texts

Reading and writing of unsigned numbers. `unsigned?` reads one or more decimal digits, with or
without a plus sign before them, up to a limit; leading zeros do not matter.
-/
set_option autoImplicit false

namespace Lookout.Text

def digitValue? (base : Nat) (c : Char) : Option Nat :=
  let n := c.toNat
  let value? : Option Nat :=
    if 0x30 ≤ n ∧ n ≤ 0x39 then some (n - 0x30)
    else if 0x61 ≤ n ∧ n ≤ 0x66 then some (n - 0x61 + 10)
    else if 0x41 ≤ n ∧ n ≤ 0x46 then some (n - 0x41 + 10)
    else none
  value?.filter (· < base)

def isDigit (base : Nat) (c : Char) : Bool := (digitValue? base c).isSome

/-- The number that a run of digits stands for; other characters are passed over. -/
def valueOf (base : Nat) (cs : List Char) : Nat :=
  (cs.filterMap (digitValue? base)).foldl (fun n d => n * base + d) 0

def natural? (cs : List Char) : Option Nat :=
  if cs.isEmpty || !cs.all (isDigit 10) then none else some (valueOf 10 cs)

/-- A natural number up to `limit`, with or without one plus sign before it. -/
def unsigned? (limit : Nat) (cs : List Char) : Option Nat :=
  let digits := match cs with
    | '+' :: rest => rest
    | _ => cs
  (natural? digits).filter (· ≤ limit)

def decimal (n : Nat) : List Char := Nat.toDigits 10 n

def hex (n : Nat) : List Char := Nat.toDigits 16 n

end Lookout.Text
