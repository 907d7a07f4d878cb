import Lookout.Ip
import Lookout.Url.Name
import Lookout.Url.Percent

/-!
# Hosts of web addresses

The host of a web address is an IP address or a name. A version 6 address stands in brackets. A name
whose last label is a number is a version 4 address, whose parts may be written in three bases and
of which the last one fills what is left. Where the scheme says nothing about hosts, a name is kept
as it is.
-/
set_option autoImplicit false

namespace Lookout.Url

/-! ## Version 4 addresses in any base -/

def number? (cs : List Char) : Option Nat :=
  let inBase (base : Nat) (ds : List Char) : Option Nat :=
    if ds.all (Text.isDigit base) then some (Text.valueOf base ds) else none
  match cs with
  | [] => none
  | '0' :: 'x' :: ds => inBase 16 ds
  | '0' :: 'X' :: ds => inBase 16 ds
  | '0' :: d :: ds => inBase 8 (d :: ds)
  | _ => inBase 10 cs

/-- The labels of a name without one empty label at the end. -/
def labels (name : List Char) : List (List Char) :=
  let parts := splitOn '.' name
  if 1 < parts.length ∧ parts.getLast? = some [] then parts.dropLast else parts

def endsInNumber (name : List Char) : Bool :=
  match (labels name).getLast? with
  | none => false
  | some last => (!last.isEmpty && last.all (Text.isDigit 10)) || (number? last).isSome

def ipv4? (numbers : List Nat) : Option IPv4 :=
  match numbers.reverse with
  | [] => none
  | last :: front =>
    let front := front.reverse
    if 3 < front.length || front.any (255 < ·) || Nat.pow 256 (4 - front.length) ≤ last then none
    else
      let n := (front.mapIdx fun i part => part * Nat.pow 256 (3 - i)).foldl (· + ·) last
      some ⟨.ofNat (n / 16777216), .ofNat (n / 65536), .ofNat (n / 256), .ofNat n⟩

def bracketed? (cs : List Char) : Option (List Char) :=
  if cs.getLast? ≠ some ']' then none
  else
    match IPv6.read cs.dropLast with
    | some (ip, []) => some ('[' :: ip.compressed ++ [']'])
    | _ => none

def host? : List Char → Option (List Char)
  | '[' :: rest => bracketed? rest
  | cs => do
    let name ← asciiName? (← decodeText? cs).toList
    if name.isEmpty then none
    else if endsInNumber name then
      (ipv4? (← (labels name).mapM number?)).map IPv4.text
    else some name

/-- A host under a scheme that says nothing about hosts. -/
def opaqueHost? : List Char → Option (List Char)
  | '[' :: rest => bracketed? rest
  | cs =>
    let isRefused (c : Char) : Bool := c.toNat = 0 || c = ' ' || delimiters.contains c
    if cs.isEmpty || cs.any isRefused then none else some (encode [] cs)

end Lookout.Url
