/-!
# Blank characters

A blank is a character with the Unicode property `White_Space`. `trim` takes the blanks off both
ends of a text and leaves those inside it alone.
-/
set_option autoImplicit false

namespace Lookout.Text

/-- The code points with the property `White_Space`, as closed ranges. -/
def blankRanges : List (Nat × Nat) :=
  [(0x09, 0x0D), (0x20, 0x20), (0x85, 0x85), (0xA0, 0xA0), (0x1680, 0x1680), (0x2000, 0x200A),
   (0x2028, 0x2029), (0x202F, 0x202F), (0x205F, 0x205F), (0x3000, 0x3000)]

def isBlank (c : Char) : Bool :=
  blankRanges.any fun r => r.1 ≤ c.toNat && c.toNat ≤ r.2

def dropTrailing (p : Char → Bool) (cs : List Char) : List Char :=
  (cs.reverse.dropWhile p).reverse

def trim (cs : List Char) : List Char :=
  dropTrailing isBlank (cs.dropWhile isBlank)

def allBlank (s : String) : Bool := s.toList.all isBlank

end Lookout.Text
