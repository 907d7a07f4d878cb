import Lookout.Text.Number
import Lookout.Text.Shapeless

/-!
# Quoted texts

The form in which a message shows a text: in double quotes, with an escape for the quote, the
backslash, the common controls and every character that has no shape of its own.
-/
set_option autoImplicit false

namespace Lookout.Text

def quotedChar (c : Char) : List Char :=
  if c.toNat = 0 then ['\\', '0']
  else if c = '\t' then ['\\', 't']
  else if c = '\r' then ['\\', 'r']
  else if c = '\n' then ['\\', 'n']
  else if c = '\\' then ['\\', '\\']
  else if c = '"' then ['\\', '"']
  else if isShapeless c then ['\\', 'u', '{'] ++ hex c.toNat ++ ['}']
  else [c]

def quoted (s : String) : String :=
  String.ofList ('"' :: s.toList.flatMap quotedChar ++ ['"'])

end Lookout.Text
