import Lookout.Ip
import Lookout.Text.Blank

/-!
# Network addresses

An address is a text `host:port` in one normal spelling. `normalize?` brings a host and a port into
that spelling: an IP address in its canonical text, version 6 in brackets; any other host in lower
case (ASCII letters only) and without trailing dots. `split?` takes a text `host:port` apart, where
a host with colons has to stand in brackets.
-/
set_option autoImplicit false

namespace Lookout.Address

def lowerAscii (c : Char) : Char := c.toLower

/-- Takes one pair of square brackets off, if the text begins and ends with them. -/
def unbracket (cs : List Char) : List Char :=
  match cs with
  | '[' :: rest => if rest.getLast? = some ']' then rest.dropLast else cs
  | _ => cs

def withPort (host : List Char) (port : UInt16) : List Char :=
  host ++ ':' :: Text.decimal port.toNat

def ofIp (ip : Ip) (port : UInt16) : List Char :=
  match ip with
  | .v4 ip => withPort ip.text port
  | .v6 ip => withPort ('[' :: ip.text ++ [']']) port

/-- A host that is no IP address: without the dots at its end and in lower case. -/
def plainHost? (host : List Char) : Option (List Char) :=
  let name := (Text.dropTrailing (· = '.') host).map lowerAscii
  if name.isEmpty || name.contains ':' then none else some name

def normalizeChars? (host : List Char) (port : UInt16) : Option (List Char) :=
  let bare := unbracket (Text.trim host)
  if bare.isEmpty then none
  else
    match Ip.parse? bare with
    | some ip => some (ofIp ip port)
    | none => (plainHost? bare).map (withPort · port)

/-- The normal spelling of a host and a port; `none` when the host is empty or is no IP address
and has a colon. -/
def normalize? (host : String) (port : UInt16) : Option String :=
  (normalizeChars? host.toList port).map String.ofList

def splitFirst? (c : Char) (cs : List Char) : Option (List Char × List Char) :=
  match cs.dropWhile (· != c) with
  | [] => none
  | _ :: after => some (cs.takeWhile (· != c), after)

def splitLast? (c : Char) (cs : List Char) : Option (List Char × List Char) :=
  (splitFirst? c cs.reverse).map fun r => (r.2.reverse, r.1.reverse)

def port? (cs : List Char) : Option UInt16 :=
  (Text.unsigned? 65535 cs).map UInt16.ofNat

def splitBracketed? (cs : List Char) : Option (List Char × List Char) :=
  match splitFirst? ']' cs with
  | some (host, ':' :: port) => some (host, port)
  | _ => none

def splitChars? (address : List Char) : Option (List Char × UInt16) :=
  match Text.trim address with
  | '[' :: rest => do
    let (host, port) ← splitBracketed? rest
    if host.isEmpty then none else (port? port).map (host, ·)
  | plain => do
    let (host, port) ← splitLast? ':' plain
    if host.isEmpty || host.contains ':' then none else (port? port).map (host, ·)

def split? (address : String) : Option (String × UInt16) :=
  (splitChars? address.toList).map fun r => (String.ofList r.1, r.2)

end Lookout.Address
