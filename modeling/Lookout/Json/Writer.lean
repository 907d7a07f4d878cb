import Lookout.Double.Shortest
import Lookout.Json
import Lookout.Text.Number

/-!
# Writing JSON

One line without spaces. Only the quote, the backslash and the controls are escaped.
-/
set_option autoImplicit false

namespace Lookout.Json

def escapedChar (c : Char) : List Char :=
  if c = '"' then ['\\', '"']
  else if c = '\\' then ['\\', '\\']
  else if c.toNat < 0x20 then
    let digits := Text.hex c.toNat
    ['\\', 'u'] ++ List.replicate (4 - digits.length) '0' ++ digits
  else [c]

def writeText (s : String) : String :=
  String.ofList ('"' :: s.toList.flatMap escapedChar ++ ['"'])

mutual

def write : Json → String
  | .null => "null"
  | .bool true => "true"
  | .bool false => "false"
  | .int n => toString n
  | .real x => String.ofList x.toText
  | .str s => writeText s
  | .arr items => "[" ++ writeItems items ++ "]"
  | .obj members => "\x7b" ++ writeMembers members ++ "\x7d"

def writeItems : List Json → String
  | [] => ""
  | [item] => write item
  | item :: rest => write item ++ "," ++ writeItems rest

def writeMembers : List (String × Json) → String
  | [] => ""
  | [(key, value)] => writeText key ++ ":" ++ write value
  | (key, value) :: rest => writeText key ++ ":" ++ write value ++ "," ++ writeMembers rest

end

end Lookout.Json
