import Lookout.Text.Number

/-!
# IP addresses

Version 4 and version 6 addresses, the texts they are read from and the one text each is written
as. A version 4 octet has no leading zeros. A version 6 text may leave out one run of zero groups
and may write its last two groups as a version 4 address; it is written in lower case, with the
longest run of two or more zero groups left out, and with a version 4 tail only if it is mapped
from version 4.
-/
set_option autoImplicit false

namespace Lookout

structure IPv4 where
  a : UInt8
  b : UInt8
  c : UInt8
  d : UInt8
deriving DecidableEq

structure IPv6 where
  groups : List UInt16
  length_eq : groups.length = 8

inductive Ip where
  | v4 (ip : IPv4)
  | v6 (ip : IPv6)

theorem IPv6.ext {x y : IPv6} (h : x.groups = y.groups) : x = y := by
  cases x; cases y; cases h; rfl

/-! ## Reading -/

def Ip.splitDigits (base : Nat) (cs : List Char) : List Char × List Char :=
  (cs.takeWhile (Text.isDigit base), cs.dropWhile (Text.isDigit base))

def IPv4.readOctet (cs : List Char) : Option (UInt8 × List Char) :=
  let (digits, rest) := Ip.splitDigits 10 cs
  let n := Text.valueOf 10 digits
  if digits.isEmpty || 3 < digits.length || (digits.head? = some '0' && 1 < digits.length) ||
      255 < n then none
  else some (.ofNat n, rest)

def IPv4.readNext : List Char → Option (UInt8 × List Char)
  | '.' :: rest => IPv4.readOctet rest
  | _ => none

def IPv4.read (cs : List Char) : Option (IPv4 × List Char) := do
  let (a, cs) ← IPv4.readOctet cs
  let (b, cs) ← IPv4.readNext cs
  let (c, cs) ← IPv4.readNext cs
  let (d, cs) ← IPv4.readNext cs
  pure (⟨a, b, c, d⟩, cs)

def IPv4.groups (ip : IPv4) : List UInt16 :=
  [ip.a.toUInt16 * 256 + ip.b.toUInt16, ip.c.toUInt16 * 256 + ip.d.toUInt16]

def IPv6.readGroup (cs : List Char) : Option (UInt16 × List Char) :=
  let (digits, rest) := Ip.splitDigits 16 cs
  if digits.isEmpty || 4 < digits.length then none
  else some (.ofNat (Text.valueOf 16 digits), rest)

/-- The rest behind the colon that every group but the first has before it. -/
def IPv6.afterColon : Bool → List Char → Option (List Char)
  | true, cs => some cs
  | false, ':' :: rest => some rest
  | false, _ => none

structure IPv6.Groups where
  groups : List UInt16
  /-- The last two groups were written as a version 4 address. -/
  mixed : Bool
  rest : List Char

/-- As many groups as there are, at most `room`. What cannot be read as a group is left. -/
def IPv6.readGroups : Nat → Bool → List Char → IPv6.Groups
  | 0, _, cs => ⟨[], false, cs⟩
  | room + 1, first, cs =>
    match IPv6.afterColon first cs with
    | none => ⟨[], false, cs⟩
    | some start =>
      match (if 1 ≤ room then IPv4.read start else none) with
      | some (ip, rest) => ⟨ip.groups, true, rest⟩
      | none =>
        match IPv6.readGroup start with
        | none => ⟨[], false, cs⟩
        | some (group, rest) =>
          let more := IPv6.readGroups room false rest
          ⟨group :: more.groups, more.mixed, more.rest⟩

/-- Eight groups from those before and after the run that was left out. -/
def IPv6.joined? (before after : List UInt16) : Option IPv6 :=
  let groups := before ++ List.replicate (8 - (before.length + after.length)) 0 ++ after
  if h : groups.length = 8 then some ⟨groups, h⟩ else none

def IPv6.read (cs : List Char) : Option (IPv6 × List Char) :=
  let before := IPv6.readGroups 8 true cs
  if before.groups.length = 8 then (IPv6.joined? before.groups []).map (·, before.rest)
  else if before.mixed then none
  else
    match before.rest with
    | ':' :: ':' :: rest =>
      let after := IPv6.readGroups (8 - (before.groups.length + 1)) true rest
      (IPv6.joined? before.groups after.groups).map (·, after.rest)
    | _ => none

def Ip.parse? (cs : List Char) : Option Ip :=
  match IPv4.read cs with
  | some (ip, rest) => if rest.isEmpty then some (.v4 ip) else none
  | none =>
    match IPv6.read cs with
    | some (ip, rest) => if rest.isEmpty then some (.v6 ip) else none
    | none => none

/-! ## Writing -/

def IPv4.text (ip : IPv4) : List Char :=
  Text.decimal ip.a.toNat ++ '.' :: Text.decimal ip.b.toNat ++ '.' :: Text.decimal ip.c.toNat ++
    '.' :: Text.decimal ip.d.toNat

def IPv6.groupsText : List UInt16 → List Char
  | [] => []
  | [g] => Text.hex g.toNat
  | g :: rest => Text.hex g.toNat ++ ':' :: IPv6.groupsText rest

def IPv6.zerosFrom (groups : List UInt16) (i : Nat) : Nat :=
  ((groups.drop i).takeWhile (· == 0)).length

/-- Start and length of the first of the longest runs of zero groups. -/
def IPv6.longestZeros (groups : List UInt16) : Nat × Nat :=
  (List.range groups.length).foldl
    (fun best i => if best.2 < IPv6.zerosFrom groups i then (i, IPv6.zerosFrom groups i) else best)
    (0, 0)

/-- The version 4 address that this one is mapped from. -/
def IPv6.mapped? (ip : IPv6) : Option IPv4 :=
  match ip.groups with
  | [0, 0, 0, 0, 0, 0xFFFF, g, h] =>
    some ⟨(g >>> 8).toUInt8, g.toUInt8, (h >>> 8).toUInt8, h.toUInt8⟩
  | _ => none

/-- The groups with the longest run of zeros left out. -/
def IPv6.compressed (ip : IPv6) : List Char :=
  let (start, length) := IPv6.longestZeros ip.groups
  if 1 < length then
    IPv6.groupsText (ip.groups.take start) ++ [':', ':'] ++
      IPv6.groupsText (ip.groups.drop (start + length))
  else IPv6.groupsText ip.groups

def IPv6.text (ip : IPv6) : List Char :=
  match ip.mapped? with
  | some v4 => [':', ':', 'f', 'f', 'f', 'f', ':'] ++ v4.text
  | none => ip.compressed

end Lookout
