import Lookout.Text.Number

/-!
# Ranges of characters

Sets of characters as closed ranges of code points. They are written as texts: the ranges are words
of the text, each with its first and its last code point in hexadecimal and a hyphen between them.
-/
set_option autoImplicit false

namespace Lookout.Text

def codePoint (text : String) : Nat := valueOf 16 text.toList

def words (text : String) : List String :=
  ((text.splitOn "\n").flatMap fun line => line.splitOn " ").filter (· ≠ "")

abbrev Ranges := List (Nat × Nat)

namespace Ranges

def ofText (text : String) : Ranges :=
  (words text).map fun word =>
    match word.splitOn "-" with
    | [first, last] => (codePoint first, codePoint last)
    | _ => (codePoint word, codePoint word)

def holds (ranges : Ranges) (c : Char) : Bool :=
  ranges.any fun r => r.1 ≤ c.toNat && c.toNat ≤ r.2

def classOf? {α : Type} (classes : List (α × Ranges)) (c : Char) : Option α :=
  (classes.find? fun e => e.2.holds c).map Prod.fst

end Ranges

end Lookout.Text
