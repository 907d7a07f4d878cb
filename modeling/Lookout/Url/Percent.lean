import Lookout.Text.Number

/-!
# Percent-encoding

A byte that may not stand in a part of a URL is written as a percent sign and two hexadecimal
digits. Which bytes these are differs from part to part; bytes outside ASCII always are, and so are
controls.
-/
set_option autoImplicit false

namespace Lookout.Url

/-- The ASCII characters that a part of a URL does not hold as they are, controls aside. -/
abbrev Reserved := List Char

def inFragment : Reserved := [' ', '"', '<', '>', '`']

def inQuery : Reserved := [' ', '"', '#', '<', '>']

def inWebQuery : Reserved := Char.ofNat 0x27 :: inQuery

def inPath : Reserved := [' ', '"', '#', '<', '>', '?', '`', '{', '}']

def inCredentials : Reserved := inPath ++ ['/', ':', ';', '=', '@', '[', '\\', ']', '^', '|']

def hexDigit (n : Nat) : Char := (Nat.digitChar n).toUpper

def encodeByte (b : UInt8) : List Char := ['%', hexDigit (b.toNat / 16), hexDigit (b.toNat % 16)]

def encodeChar (reserved : Reserved) (c : Char) : List Char :=
  if c.toNat < 0x20 || 0x7E < c.toNat || reserved.contains c then
    (String.utf8EncodeChar c).flatMap encodeByte
  else [c]

def encode (reserved : Reserved) (cs : List Char) : List Char :=
  cs.flatMap (encodeChar reserved)

/-- The form in which names and values of a query are added: a space becomes a plus sign. -/
def encodeForm (cs : List Char) : List Char :=
  cs.flatMap fun c =>
    if c.isAlphanum || ['*', '-', '.', '_'].contains c then [c]
    else if c = ' ' then ['+']
    else (String.utf8EncodeChar c).flatMap encodeByte

def decodeBytes : List Char → List UInt8
  | [] => []
  | '%' :: a :: b :: rest =>
    if Text.isDigit 16 a && Text.isDigit 16 b then
      .ofNat (Text.valueOf 16 [a, b]) :: decodeBytes rest
    else String.utf8EncodeChar '%' ++ decodeBytes (a :: b :: rest)
  | c :: rest => String.utf8EncodeChar c ++ decodeBytes rest
termination_by cs => cs.length

def decodeText? (cs : List Char) : Option String := String.fromUTF8? (decodeBytes cs).toByteArray

end Lookout.Url
