import Lookout.Toml.Scalar
import Lookout.Toml.Text
import Lookout.Toml.Tree

/-!
# Reading TOML

Reads a TOML document as a JSON object. Arrays and inline tables nest at most `maxDepth` deep, as
do the tables that one dotted key names, and inline tables may span lines and end in a comma.
-/
set_option autoImplicit false

namespace Lookout.Toml

def maxDepth : Nat := 80

def skipSpaces (cs : List Char) : List Char := cs.dropWhile fun c => c = ' ' || c = '\t'

def skipComment (cs : List Char) : Option (List Char) :=
  let inLine (c : Char) : Bool := c ≠ '\n' && c ≠ '\r'
  if (cs.takeWhile inLine).any isForbidden then none else some (cs.dropWhile inLine)

def skipTrivia : Nat → List Char → Option (List Char)
  | 0, cs => some cs
  | fuel + 1, cs =>
    match skipSpaces cs with
    | '#' :: rest => (skipComment rest).bind (skipTrivia fuel)
    | rest =>
      match lineBreak? rest with
      | some more => skipTrivia fuel more
      | none => some rest

def skipAll (cs : List Char) : Option (List Char) := skipTrivia (cs.length + 1) cs

/-- The rest from the start of the next line on; nothing but a comment may come before it. -/
def endLine (cs : List Char) : Option (List Char) := do
  let rest ← match skipSpaces cs with
    | '#' :: rest => skipComment rest
    | rest => some rest
  if rest.isEmpty then some [] else lineBreak? rest

/-! ## Keys -/

def isBare (c : Char) : Bool := c.isAlphanum || c = '_' || c = '-'

def readSimpleKey (cs : List Char) : Option (String × List Char) :=
  let bare := cs.takeWhile isBare
  if bare.isEmpty then readLineText? cs else some (String.ofList bare, cs.dropWhile isBare)

abbrev DottedKey := List String × String

/-- One or more keys with points between them, and the rest. The first argument bounds how many. -/
def readKeys : Nat → List Char → Option (DottedKey × List Char)
  | 0, _ => none
  | count + 1, cs => do
    let (key, rest) ← readSimpleKey (skipSpaces cs)
    match skipSpaces rest with
    | '.' :: more =>
      let ((path, last), rest) ← readKeys count more
      pure ((key :: path, last), rest)
    | rest => pure (([], key), rest)

def readKey (cs : List Char) : Option (DottedKey × List Char) := readKeys maxDepth cs

/-- A key of an inline table up to the start of its value. Line breaks and comments may stand on
both sides of the equals sign. -/
def readPairKey (cs : List Char) : Option (DottedKey × List Char) := do
  let (key, rest) ← readKey cs
  match ← skipAll rest with
  | '=' :: more => pure (key, ← skipAll more)
  | _ => none

/-! ## Values -/

def isScalarChar (c : Char) : Bool :=
  c.isAlphanum || c = '_' || c = '-' || c = '+' || c = '.' || c = ':'

/-- An unquoted scalar. A date may have a space between itself and a time. -/
def readScalar (cs : List Char) : Option (Json × List Char) :=
  let word := cs.takeWhile isScalarChar
  let rest := cs.dropWhile isScalarChar
  let (word, rest) :=
    match date? word, rest with
    | some (_, []), ' ' :: more =>
      match more with
      | c :: _ =>
        if Text.isDigit 10 c then
          (word ++ ' ' :: more.takeWhile isScalarChar, more.dropWhile isScalarChar)
        else (word, rest)
      | [] => (word, rest)
    | _, _ => (word, rest)
  (scalar? word).map (·, rest)

mutual

/-- A value. The first argument bounds the number of steps, the second the nesting. -/
def readValue : Nat → Nat → List Char → Option (Json × List Char)
  | 0, _, _ => none
  | fuel + 1, depth, cs =>
    match cs, depth with
    | '[' :: _, 0 => none
    | '{' :: _, 0 => none
    | '[' :: rest, depth + 1 => (readItems fuel depth rest).map fun r => (.arr r.1, r.2)
    | '{' :: rest, depth + 1 =>
      (readPairs fuel depth [] rest).map fun r => (.object (membersJson r.1), r.2)
    | c :: _, _ =>
      if c = '"' || c = singleQuote then (readText? cs).map fun r => (.str r.1, r.2)
      else readScalar cs
    | [], _ => none

def readItems : Nat → Nat → List Char → Option (List Json × List Char)
  | 0, _, _ => none
  | fuel + 1, depth, cs =>
    match skipAll cs with
    | none => none
    | some (']' :: more) => some ([], more)
    | some start =>
      match readValue fuel depth start with
      | none => none
      | some (item, rest) =>
        match skipAll rest with
        | some (',' :: more) => (readItems fuel depth more).map fun r => (item :: r.1, r.2)
        | some (']' :: more) => some ([item], more)
        | _ => none

def readPairs : Nat → Nat → Members → List Char → Option (Members × List Char)
  | 0, _, _, _ => none
  | fuel + 1, depth, members, cs =>
    match skipAll cs with
    | none => none
    | some ('}' :: more) => some (members, more)
    | some start =>
      match readPairKey start with
      | none => none
      | some ((path, key), start) =>
        match readValue fuel depth start with
        | none => none
        | some (value, rest) =>
          match Members.set path key (.leaf value) .declared members with
          | none => none
          | some (_, members) =>
            match skipAll rest with
            | some (',' :: more) => readPairs fuel depth members more
            | some ('}' :: more) => some (members, more)
            | _ => none

end

/-! ## Documents -/

def closeHeader : Bool → List Char → Option (List Char)
  | true, ']' :: ']' :: rest => some rest
  | false, ']' :: rest => some rest
  | _, _ => none

/-- Adds a header's table to the document; gives the path to it. -/
def addHeader (many : Bool) (cs : List Char) (root : Members) :
    Option (List String × Members × List Char) := do
  let ((path, key), rest) ← readKey cs
  let rest ← closeHeader many rest
  let action := if many then Members.append key else Members.declare key
  let (_, root) ← Members.alter false action path .declared root
  pure (path ++ [key], root, rest)

def addPair (current : List String) (cs : List Char) (root : Members) :
    Option (Members × List Char) := do
  let ((path, key), rest) ← readKey cs
  match rest with
  | '=' :: rest =>
    let (value, rest) ← readValue (2 * cs.length + 2) maxDepth (skipSpaces rest)
    let (_, root) ←
      Members.alter false (Members.set path key (.leaf value)) current .declared root
    pure (root, rest)
  | _ => none

def readLines : Nat → List String → Members → List Char → Option Members
  | 0, _, _, _ => none
  | fuel + 1, current, root, cs =>
    match skipAll cs with
    | none => none
    | some [] => some root
    | some ('[' :: '[' :: rest) => do
      let (current, root, rest) ← addHeader true rest root
      readLines fuel current root (← endLine rest)
    | some ('[' :: rest) => do
      let (current, root, rest) ← addHeader false rest root
      readLines fuel current root (← endLine rest)
    | some start => do
      let (root, rest) ← addPair current start root
      readLines fuel current root (← endLine rest)

/-- The document as an object. A byte order mark at its start does not count. -/
def parse? (text : String) : Option Json :=
  let cs := match text.toList with
    | '\uFEFF' :: rest => rest
    | cs => cs
  (readLines (cs.length + 1) [] [] cs).map fun members => .object (membersJson members)

end Lookout.Toml
