import Lookout.Json.Reader

/-!
# Reading chosen members

When only some members of an object matter, the values of the others are passed over: they have to
be JSON, but they may nest to any depth, hold numbers of any size and name surrogates that stand
alone. A chosen member must not occur twice.
-/
set_option autoImplicit false

namespace Lookout.Json

inductive Frame where
  | array
  | object

def skipTextBody : Nat → List Char → Option (List Char)
  | 0, _ => none
  | _, [] => none
  | _ + 1, '"' :: rest => some rest
  | fuel + 1, '\\' :: 'u' :: a :: b :: c :: d :: rest =>
    match unit16? a b c d with
    | some _ => skipTextBody fuel rest
    | none => none
  | fuel + 1, '\\' :: c :: rest =>
    match shortEscape? c with
    | some _ => skipTextBody fuel rest
    | none => none
  | fuel + 1, c :: rest => if c.toNat < 0x20 then none else skipTextBody fuel rest

def skipText : List Char → Option (List Char)
  | '"' :: rest => skipTextBody (rest.length + 1) rest
  | _ => none

def skipKey (cs : List Char) : Option (List Char) :=
  match skipText (skipBlank cs) with
  | none => none
  | some rest =>
    match skipBlank rest with
    | ':' :: more => some more
    | _ => none

def skipScalar : List Char → Option (List Char)
  | 'n' :: rest => afterWord ['u', 'l', 'l'] rest
  | 't' :: rest => afterWord ['r', 'u', 'e'] rest
  | 'f' :: rest => afterWord ['a', 'l', 's', 'e'] rest
  | '"' :: rest => skipTextBody (rest.length + 1) rest
  | cs => (readNumeral cs).map Prod.snd

/-- Passes over the rest of a value. The second argument says whether a value comes next or has
just ended, the third what encloses the place. -/
def skipFrom : Nat → Bool → List Frame → List Char → Option (List Char)
  | 0, _, _, _ => none
  | fuel + 1, true, frames, cs =>
    match skipBlank cs with
    | '[' :: rest =>
      match skipBlank rest with
      | ']' :: more => skipFrom fuel false frames more
      | _ => skipFrom fuel true (.array :: frames) rest
    | '{' :: rest =>
      match skipBlank rest with
      | '}' :: more => skipFrom fuel false frames more
      | _ =>
        match skipKey rest with
        | some more => skipFrom fuel true (.object :: frames) more
        | none => none
    | other =>
      match skipScalar other with
      | some rest => skipFrom fuel false frames rest
      | none => none
  | _ + 1, false, [], cs => some cs
  | fuel + 1, false, .array :: frames, cs =>
    match skipBlank cs with
    | ',' :: rest => skipFrom fuel true (.array :: frames) rest
    | ']' :: rest => skipFrom fuel false frames rest
    | _ => none
  | fuel + 1, false, .object :: frames, cs =>
    match skipBlank cs with
    | ',' :: rest =>
      match skipKey rest with
      | some more => skipFrom fuel true (.object :: frames) more
      | none => none
    | '}' :: rest => skipFrom fuel false frames rest
    | _ => none

def skipValue (cs : List Char) : Option (List Char) := skipFrom (stepsFor cs) true [] cs

/-- The chosen members of an object, read from behind its opening brace, where at least one member
stands. `read` holds those read so far. -/
def readChosenFrom (chosen : List String) :
    Nat → List (String × Json) → List Char → Reading (List (String × Json))
  | 0, _, _ => none
  | fuel + 1, read, cs =>
    match readText (skipBlank cs) with
    | none => none
    | some (key, rest) =>
      match skipBlank rest with
      | ':' :: rest =>
        let step? : Reading (List (String × Json)) :=
          if chosen.contains key then
            if read.any (·.1 == key) then none
            else (readValue (stepsFor rest) maxDepth rest).map fun r => ((key, r.1) :: read, r.2)
          else (skipValue rest).map (read, ·)
        match step? with
        | none => none
        | some (read, rest) =>
          match skipBlank rest with
          | ',' :: more => readChosenFrom chosen fuel read more
          | '}' :: more => some (read, more)
          | _ => none
      | _ => none

def readChosen (chosen : List String) : List Char → Reading (List (String × Json))
  | '{' :: rest =>
    match skipBlank rest with
    | '}' :: more => some ([], more)
    | _ => readChosenFrom chosen (stepsFor rest) [] rest
  | _ => none

/-- A whole text as an object of its chosen members or as any other value. -/
def parseChosen? (chosen : List String) (cs : List Char) : Option Json :=
  let start := skipBlank cs
  let read? : Reading Json :=
    match readChosen chosen start with
    | some (members, rest) => some (object members, rest)
    | none => if start.head? = some '{' then none else readValue (stepsFor start) maxDepth start
  match read? with
  | some (value, rest) => if (skipBlank rest).isEmpty then some value else none
  | none => none

end Lookout.Json
