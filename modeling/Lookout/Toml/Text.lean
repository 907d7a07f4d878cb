import Lookout.Text.Number

/-!
# TOML texts

Basic texts stand in double quotes and know escapes, literal texts stand in single quotes and know
none. Both have a form with three quotes that may span lines; there a line break right after the
opening quotes does not count, and every other line break is kept as it is written.
-/
set_option autoImplicit false

namespace Lookout.Toml

def isForbidden (c : Char) : Bool := (c.toNat < 0x20 && c ≠ '\t') || c.toNat = 0x7F

def singleQuote : Char := Char.ofNat 0x27

def numbered? (n : Nat) (cs : List Char) : Option (Char × List Char) :=
  let ds := cs.take n
  let code := Text.valueOf 16 ds
  if ds.length = n && ds.all (Text.isDigit 16) && code.isValidChar then
    some (Char.ofNat code, cs.drop n)
  else none

def escape? : List Char → Option (Char × List Char)
  | 'b' :: rest => some ('\x08', rest)
  | 't' :: rest => some ('\t', rest)
  | 'n' :: rest => some ('\n', rest)
  | 'f' :: rest => some ('\x0c', rest)
  | 'r' :: rest => some ('\r', rest)
  | 'e' :: rest => some ('\x1b', rest)
  | '"' :: rest => some ('"', rest)
  | '\\' :: rest => some ('\\', rest)
  | 'x' :: rest => numbered? 2 rest
  | 'u' :: rest => numbered? 4 rest
  | 'U' :: rest => numbered? 8 rest
  | _ => none

/-- The rest of a basic text on one line. The first argument bounds the number of characters. -/
def basicBody : Nat → List Char → List Char → Option (List Char × List Char)
  | 0, _, _ => none
  | _, _, [] => none
  | _ + 1, read, '"' :: rest => some (read.reverse, rest)
  | fuel + 1, read, '\\' :: rest =>
    match escape? rest with
    | some (c, more) => basicBody fuel (c :: read) more
    | none => none
  | fuel + 1, read, c :: rest => if isForbidden c then none else basicBody fuel (c :: read) rest

def literalBody (cs : List Char) : Option (List Char × List Char) :=
  let body := cs.takeWhile (· ≠ singleQuote)
  match cs.dropWhile (· ≠ singleQuote) with
  | _ :: rest => if body.any isForbidden then none else some (body, rest)
  | [] => none

def lineBreak? : List Char → Option (List Char)
  | '\n' :: rest => some rest
  | '\r' :: '\n' :: rest => some rest
  | _ => none

def skipSpace : List Char → List Char
  | ' ' :: rest => skipSpace rest
  | '\t' :: rest => skipSpace rest
  | '\n' :: rest => skipSpace rest
  | '\r' :: '\n' :: rest => skipSpace rest
  | cs => cs

/-- The rest behind a backslash that ends a line: everything blank up to the next text is gone. -/
def lineEnd? (cs : List Char) : Option (List Char) :=
  (lineBreak? (cs.dropWhile fun c => c = ' ' || c = '\t')).map skipSpace

/-- The text and the rest once the closing quotes are reached: up to two more of them belong to the
text. -/
def closing (quote : Char) (read rest : List Char) : List Char × List Char :=
  let extra := (rest.takeWhile (· = quote)).take 2
  ((extra ++ read).reverse, rest.drop extra.length)

/-- The rest of a text over several lines; `escapes` says whether it knows escapes. -/
def multilineBody (quote : Char) (escapes : Bool) :
    Nat → List Char → List Char → Option (List Char × List Char)
  | 0, _, _ => none
  | _, _, [] => none
  | fuel + 1, read, c :: rest =>
    if c = quote && rest.take 2 == [quote, quote] then
      some (closing quote read (rest.drop 2))
    else if escapes && c = '\\' then
      match lineEnd? rest with
      | some more => multilineBody quote escapes fuel read more
      | none =>
        match escape? rest with
        | some (e, more) => multilineBody quote escapes fuel (e :: read) more
        | none => none
    else
      match c, rest with
      | '\r', '\n' :: more => multilineBody quote escapes fuel ('\n' :: '\r' :: read) more
      | _, _ =>
        if isForbidden c && c ≠ '\n' then none
        else multilineBody quote escapes fuel (c :: read) rest

def multiline (quote : Char) (escapes : Bool) (cs : List Char) : Option (List Char × List Char) :=
  multilineBody quote escapes (cs.length + 1) [] ((lineBreak? cs).getD cs)

def readLineText? (cs : List Char) : Option (String × List Char) :=
  match cs with
  | [] => none
  | c :: rest =>
    let body? :=
      if c = '"' then basicBody (rest.length + 1) [] rest
      else if c = singleQuote then literalBody rest
      else none
    body?.map fun r => (String.ofList r.1, r.2)

def readText? (cs : List Char) : Option (String × List Char) :=
  match cs with
  | a :: b :: c :: rest =>
    if a = b && b = c && a = '"' then
      (multiline a true rest).map fun r => (String.ofList r.1, r.2)
    else if a = b && b = c && a = singleQuote then
      (multiline a false rest).map fun r => (String.ofList r.1, r.2)
    else readLineText? cs
  | _ => readLineText? cs

end Lookout.Toml
