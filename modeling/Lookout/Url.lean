import Lookout.Url.Host

/-!
# Addresses of resources

The address of a resource on a host, of the web or under another scheme. `Url.parse?` reads one as
the URL standard has it: a question mark begins the query and a number sign the fragment, dot
segments are resolved, characters that a part cannot hold are percent-encoded, and the port that
goes without saying is left out. In an address of the web a backslash counts as a slash.
-/
set_option autoImplicit false

namespace Lookout

structure Url where
  scheme : List Char
  /-- Empty where there is none, as is the password. -/
  username : List Char
  password : List Char
  host : List Char
  port? : Option Nat
  /-- The segments of the path. There is at least one in an address of the web; it may be empty. -/
  path : List (List Char)
  query? : Option (List Char)
  fragment? : Option (List Char)

namespace Url

/-- What comes before the first character with `p`, and that character with all that follows. -/
def breakAt (p : Char → Bool) (cs : List Char) : List Char × List Char :=
  (cs.takeWhile fun c => !p c, cs.dropWhile fun c => !p c)

def cleaned (cs : List Char) : List Char :=
  let edge (c : Char) : Bool := c.toNat ≤ 0x20
  let inner := ((cs.dropWhile edge).reverse.dropWhile edge).reverse
  inner.filter fun c => c ≠ '\t' && c ≠ '\n' && c ≠ '\r'

def isSlash (c : Char) : Bool := c = '/' || c = '\\'

/-! ## Schemes -/

def webSchemes : List (String × Nat) :=
  [("http", 80), ("https", 443), ("ws", 80), ("wss", 443), ("ftp", 21)]

def defaultPort? (scheme : List Char) : Option Nat := webSchemes.lookup (String.ofList scheme)

def isWeb (scheme : List Char) : Bool := (defaultPort? scheme).isSome

/-- A scheme in small letters. Files are resources on no host. -/
def scheme? (cs : List Char) : Option (List Char) :=
  let isRest (c : Char) : Bool := c.isAlphanum || c = '+' || c = '-' || c = '.'
  let scheme := cs.map Char.toLower
  if cs.head?.any Char.isAlpha && cs.all isRest && String.ofList scheme ≠ "file" then some scheme
  else none

/-! ## Ports -/

/-- Host and port texts. Colons in brackets do not count. -/
def splitPort (authority : List Char) : List Char × Option (List Char) :=
  let (front, rest) := match authority with
    | '[' :: _ => breakAt (· = ']') authority
    | _ => ([], authority)
  let (more, port) := breakAt (· = ':') rest
  match port with
  | [] => (front ++ more, none)
  | _ :: digits => (front ++ more, some digits)

/-- The number of a port; `some none` for a port that need not be written. -/
def portOf? (scheme : List Char) : Option (List Char) → Option (Option Nat)
  | none => some none
  | some [] => some none
  | some digits => do
    let n ← Text.natural? digits
    if 65535 < n then none
    else if defaultPort? scheme = some n then some none
    else some (some n)

/-! ## Paths -/

def afterDot? : List Char → Option (List Char)
  | '.' :: rest => some rest
  | '%' :: '2' :: 'e' :: rest => some rest
  | '%' :: '2' :: 'E' :: rest => some rest
  | _ => none

def isSingleDot (segment : List Char) : Bool := afterDot? segment == some []

def isDoubleDot (segment : List Char) : Bool := (afterDot? segment).bind afterDot? == some []

def isDrive : List Char → Bool
  | [letter, sign] => letter.isAlpha && (sign = ':' || sign = '|')
  | _ => false

/-- Goes up from the last of the segments, which are given in reverse. Nothing is above a drive. -/
def goUp : List (List Char) → List (List Char)
  | [] => []
  | last :: before => if isDrive last then last :: before else before

/-- Resolves dot segments; `done` holds the segments before, the last one first. -/
def resolve : List (List Char) → List (List Char) → List (List Char)
  | done, [] => done.reverse
  | done, [last] =>
    if isDoubleDot last then ([] :: goUp done).reverse
    else if isSingleDot last then ([] :: done).reverse
    else (encode inPath last :: done).reverse
  | done, segment :: rest =>
    if isDoubleDot segment then resolve (goUp done) rest
    else if isSingleDot segment then resolve done rest
    else resolve (encode inPath segment :: done) rest

/-- The segments of a path's text, which begins with a slash unless it is empty. -/
def pathOf (scheme cs : List Char) : List (List Char) :=
  match if isWeb scheme then cs.map fun c => if c = '\\' then '/' else c else cs with
  | [] => if isWeb scheme then [[]] else []
  | _ :: rest => resolve [] (splitOn '/' rest)

/-! ## Whole addresses -/

/-- The host and what comes behind it, from behind the scheme and its colon. An address of the web
needs no slashes before the host. -/
def hostStart? (scheme cs : List Char) : Option (List Char) :=
  if isWeb scheme then some (cs.dropWhile isSlash)
  else
    match cs with
    | '/' :: '/' :: rest => some rest
    | _ => none

def endsHost (scheme : List Char) (c : Char) : Bool :=
  c = '/' || c = '?' || c = '#' || (c = '\\' && isWeb scheme)

def hostOf? (scheme cs : List Char) : Option (List Char) :=
  if isWeb scheme then host? cs else opaqueHost? cs

def endsPath (c : Char) : Bool := c = '?' || c = '#'

def site? (scheme authority : List Char) : Option Url :=
  let hostPort := (authority.reverse.takeWhile (· ≠ '@')).reverse
  let credentials := authority.take (authority.length - hostPort.length - 1)
  let (username, password) := breakAt (· = ':') credentials
  let (hostText, portText?) := splitPort hostPort
  if hostText.isEmpty then none
  else do
    let host ← hostOf? scheme hostText
    let port? ← portOf? scheme portText?
    pure
      { scheme, host, port?
        username := encode inCredentials username
        password := encode inCredentials (password.drop 1)
        path := [], query? := none, fragment? := none }

/-- The address on the same site with the path, the query and the fragment of that text. -/
def withRest (u : Url) (rest : List Char) : Url :=
  let (path, rest) := breakAt endsPath rest
  let (query, rest) := breakAt (· = '#') rest
  let inQuery := if isWeb u.scheme then inWebQuery else inQuery
  { u with
    path := pathOf u.scheme path
    query? := match query with
      | [] => none
      | _ :: q => some (encode inQuery q)
    fragment? := match rest with
      | [] => none
      | _ :: f => some (encode inFragment f) }

def ofRest? (scheme cs : List Char) : Option Url :=
  (hostStart? scheme cs).bind fun cs =>
    let (authority, rest) := breakAt (endsHost scheme) cs
    (site? scheme authority).map (·.withRest rest)

def parse? (text : String) : Option Url :=
  let (scheme, rest) := breakAt (· = ':') (cleaned text.toList)
  match rest with
  | [] => none
  | _ :: rest => (scheme? scheme).bind fun scheme => ofRest? scheme rest

/-- Takes out the user name and the password, which are handed over beside the address. They stay
when the name is no text, and when neither of them is a text with anything in it. -/
def withoutCredentials (u : Url) : Url :=
  let isHandedOver : Bool := match decodeText? u.username with
    | some name => name ≠ "" || (u.password ≠ [] && (decodeText? u.password).isSome)
    | none => false
  if isHandedOver then { u with username := [], password := [] } else u

def addQuery (u : Url) (pairs : List (String × String)) : Url :=
  let added := pairs.map fun p => encodeForm p.1.toList ++ '=' :: encodeForm p.2.toList
  let parts := (u.query?.toList.filter fun q => !q.isEmpty) ++ added
  { u with query? := if parts.isEmpty then none else some (['&'].intercalate parts) }

def pathText (u : Url) : List Char := u.path.flatMap ('/' :: ·)

def credentialsText (u : Url) : List Char :=
  if u.username.isEmpty && u.password.isEmpty then []
  else u.username ++ (if u.password.isEmpty then [] else ':' :: u.password) ++ ['@']

def text (u : Url) : String :=
  String.ofList <|
    u.scheme ++ [':', '/', '/'] ++ u.credentialsText ++ u.host ++
      (match u.port? with
        | some n => ':' :: Text.decimal n
        | none => []) ++
      u.pathText ++
      (match u.query? with
        | some q => '?' :: q
        | none => []) ++
      (match u.fragment? with
        | some f => '#' :: f
        | none => [])

end Url

end Lookout
