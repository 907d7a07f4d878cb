import Lookout.Text.Number

/-!
# Punycode

A text outside ASCII in ASCII characters: its own ASCII characters first, then, behind a hyphen, the
others in the order of their code points, each as a number that says how far it is from the one
before. The digits of these numbers are letters and decimal digits, in bases that adapt to the
numbers written so far.
-/
set_option autoImplicit false

namespace Lookout.Url.Punycode

def digitChar (d : Nat) : Char :=
  if d < 26 then Char.ofNat (0x61 + d) else Char.ofNat (0x30 + (d - 26))

def digitValue? (c : Char) : Option Nat :=
  let n := c.toNat
  if 0x61 ≤ n ∧ n ≤ 0x7A then some (n - 0x61)
  else if 0x30 ≤ n ∧ n ≤ 0x39 then some (n - 0x30 + 26)
  else none

/-- The value below which the digit at position `k` is the last one. -/
def threshold (k bias : Nat) : Nat :=
  if k ≤ bias + 1 then 1 else if bias + 26 ≤ k then 26 else k - bias

def shrink : Nat → Nat → Nat → Nat
  | 0, _, k => k
  | fuel + 1, delta, k =>
    if 455 < delta then shrink fuel (delta / 35) (k + 36) else k + 36 * delta / (delta + 38)

def adapt (delta count : Nat) (first : Bool) : Nat :=
  let delta := if first then delta / 700 else delta / 2
  shrink 64 (delta + delta / count) 0

/-! ## Writing -/

def digitsOf : Nat → Nat → Nat → Nat → List Char
  | 0, _, _, q => [digitChar (q % 36)]
  | fuel + 1, bias, k, q =>
    let t := threshold k bias
    if q < t then [digitChar q]
    else digitChar (t + (q - t) % (36 - t)) :: digitsOf fuel bias (k + 36) ((q - t) / (36 - t))

structure State where
  written : List Char
  delta : Nat
  bias : Nat
  handled : Nat
  basic : Nat

def place (n : Nat) (s : State) (c : Char) : State :=
  if c.toNat < n then { s with delta := s.delta + 1 }
  else if c.toNat = n then
    { s with
      written := s.written ++ digitsOf 64 s.bias 36 s.delta
      delta := 0
      bias := adapt s.delta (s.handled + 1) (s.handled = s.basic)
      handled := s.handled + 1 }
  else s

def placeAll (label : List Char) : List Nat → Nat → State → State
  | [], _, s => s
  | m :: rest, n, s =>
    let s := { s with delta := s.delta + (m - n) * (s.handled + 1) }
    let s := label.foldl (place m) s
    placeAll label rest (m + 1) { s with delta := s.delta + 1 }

def encode (label : List Char) : List Char :=
  let basic := label.filter (·.toNat < 0x80)
  let others := ((label.filter (0x80 ≤ ·.toNat)).map Char.toNat).eraseDups.mergeSort
  basic ++ (if basic.isEmpty then [] else ['-']) ++
    (placeAll label others 0x80 ⟨[], 0, 72, basic.length, basic.length⟩).written

/-! ## Reading -/

/-- Numbers and the weights of their digits stay below this. -/
def limit : Nat := 4294967296

/-- Reads the digits of a number and adds it to `sum`; gives the rest, too. -/
def addNumber? (bias : Nat) : Nat → Nat → Nat → List Char → Option (Nat × List Char)
  | _, _, _, [] => none
  | k, weight, sum, c :: rest => do
    let d ← digitValue? c
    let sum := sum + d * weight
    let t := threshold k bias
    if limit ≤ sum then none
    else if d < t then some (sum, rest)
    else if limit ≤ weight * (36 - t) then none
    else addNumber? bias (k + 36) (weight * (36 - t)) sum rest

/-- Puts the characters that the digits stand for into a text. A character goes to place `i` at the
earliest, with code point `n` at the least. The first argument bounds how many there are. -/
def insertAll : Nat → Nat → Nat → Nat → List Char → List Char → Option (List Char)
  | _, _, _, _, label, [] => some label
  | 0, _, _, _, _, _ => none
  | fuel + 1, bias, n, i, label, digits => do
    let (sum, rest) ← addNumber? bias 36 1 i digits
    let count := label.length + 1
    let n := n + sum / count
    let place := sum % count
    if n.isValidChar then
      insertAll fuel (adapt (sum - i) count (i = 0)) n (place + 1)
        (label.insertIdx place (Char.ofNat n)) rest
    else none

def splitLast (cs : List Char) : List Char × List Char :=
  let behind := (cs.reverse.takeWhile (· ≠ '-')).reverse
  (cs.take (cs.length - behind.length - 1), behind)

/-- The text that a text in small letters stands for. A hyphen has something on both of its sides.
-/
def decode? (cs : List Char) : Option (List Char) :=
  let (basic, digits) := splitLast cs
  if digits.isEmpty || (basic.isEmpty && cs.contains '-') then none
  else insertAll digits.length 72 0x80 0 basic digits

end Lookout.Url.Punycode
