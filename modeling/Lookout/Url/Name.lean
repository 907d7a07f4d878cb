import Lookout.Text.Composed
import Lookout.Text.Direction
import Lookout.Text.Joining
import Lookout.Url.Folding
import Lookout.Url.Punycode

/-!
# Names of hosts

A name consists of labels with points between them. `asciiName?` gives its normal form: characters
are folded and composed, a label outside ASCII is written in Punycode behind `xn--`, and such a
label in the input is checked as if its characters had been written out. No label begins with a
mark; joiners stand where they make a difference; and in a name with characters written from right
to left every label keeps to one direction.
-/
set_option autoImplicit false

namespace Lookout.Url

def splitOn (c : Char) : List Char → List (List Char)
  | [] => [[]]
  | d :: rest =>
    if d = c then [] :: splitOn c rest
    else
      match splitOn c rest with
      | [] => [[d]]
      | part :: parts => (d :: part) :: parts

def isAscii (c : Char) : Bool := c.toNat < 0x80

/-- The signs that a host does not hold, since other parts of an address are told by them. -/
def delimiters : List Char := ['#', '/', ':', '<', '>', '?', '@', '[', '\\', ']', '^', '|']

def isForbidden (c : Char) : Bool :=
  c.toNat ≤ 0x20 || c.toNat = 0x7F || c = '%' || delimiters.contains c

/-! ## Joiners -/

def nonJoiner : Char := '\u200C'

def joiner : Char := '\u200D'

def reaches (letters : Text.Ranges) (cs : List Char) : Bool :=
  (cs.dropWhile Text.transparent.holds).head?.any letters.holds

/-- Whether every joiner stands behind a virama, or keeps two letters apart that are joined
otherwise. `before` holds the characters before, the last one first. -/
def joinersFit (before : List Char) : List Char → Bool
  | [] => true
  | c :: rest =>
    let isBound := before.head?.any Text.isVirama
    let divides := reaches Text.joiningNext before && reaches Text.joiningPrevious rest
    (if c = nonJoiner then isBound || divides else if c = joiner then isBound else true) &&
      joinersFit (c :: before) rest

/-! ## Directions -/

def isRightToLeft (d : Text.Direction) : Bool := d = .rightToLeft || d = .arabicLetter

def isInside (d : Text.Direction) : Bool :=
  !isRightToLeft d && d ≠ .leftToRight && d ≠ .arabicNumber

def directionFits (label : List Char) : Bool :=
  match label.map Text.direction with
  | [] => true
  | first :: rest =>
    let core := (rest.reverse.dropWhile (· = .nonspacing)).reverse
    let endsIn (p : Text.Direction → Bool) : Bool := core.getLast?.all p
    if first = .leftToRight then
      core.all (fun d => d = .leftToRight || isInside d) &&
        endsIn fun d => d = .leftToRight || d = .europeanNumber
    else if isRightToLeft first then
      core.all (fun d => isRightToLeft d || d = .arabicNumber || isInside d) &&
        !(core.contains .arabicNumber && core.contains .europeanNumber) &&
        endsIn fun d => isRightToLeft d || d = .arabicNumber || d = .europeanNumber
    else false

/-- Whether the labels of a name agree with the directions of their characters. A name without
characters from right to left always does. -/
def directionsFit (labels : List (List Char)) : Bool :=
  let mixes (c : Char) : Bool :=
    isRightToLeft (Text.direction c) || Text.direction c = .arabicNumber
  !labels.any (·.any mixes) || labels.all directionFits

/-! ## Labels -/

def encodedStart : List Char := ['x', 'n', '-', '-']

def isEncoded (label : List Char) : Bool := encodedStart.isPrefixOf label

/-- Labels outside ASCII that are longer than this are not written in Punycode. -/
def maxLength : Nat := 1000

/-- Labels in Punycode that are longer than this, their start aside, are not read. -/
def maxEncodedLength : Nat := 2000

def isProper (label : List Char) : Bool :=
  !label.head?.any Text.isMark && joinersFit [] label &&
    (label.all isAscii || label.length ≤ maxLength)

def writtenOut? (label : List Char) : Option (List Char) := do
  if isEncoded label then
    let encoded := label.drop encodedStart.length
    if maxEncodedLength < encoded.length then none
    else
      let shown ← Punycode.decode? encoded
      let isNormal := shown.all (fun c => folded? c == some [c]) && Text.composed shown == shown
      if isNormal && isProper shown then some shown else none
  else if isProper label then some label
  else none

def asciiLabel (label : List Char) : List Char :=
  if label.all isAscii then label else encodedStart ++ Punycode.encode label

def asciiName? (name : List Char) : Option (List Char) := do
  let folded ← name.mapM folded?
  let labels := splitOn '.' (Text.composed folded.flatten)
  let shown ← labels.mapM writtenOut?
  if shown.any (·.any isForbidden) || !directionsFit shown then none
  else some (['.'].intercalate (labels.map asciiLabel))

end Lookout.Url
