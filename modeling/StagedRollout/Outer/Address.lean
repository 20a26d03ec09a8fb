/-
Addresses of requests: scheme, host, port and path. The port that a scheme implies is dropped, and
steps to the same or the upper level are taken out of the path.
-/
import StagedRollout.Outer.Host
import StagedRollout.Outer.Encoding

namespace StagedRollout.Http

structure Address where
  scheme : String
  host : String
  port : Option Int
  path : List Char
  query : Option (List Char)

namespace Address

/-- The most characters that an address or a part of it may have. -/
def maxLength : Nat := 65536

/-! ## Parts of a text -/

def isSchemeChar (c : Char) : Bool := c.isAlphanum || c = '+' || c = '.' || c = '-'

/-- The scheme before a colon, empty if there is none, and the rest. -/
def splitScheme (cs : List Char) : List Char × List Char :=
  let name := cs.takeWhile isSchemeChar
  match cs.drop name.length with
  | ':' :: rest =>
    if name.isEmpty || name.head?.any Char.isAlpha then (name, rest) else ([], cs)
  | _ => ([], cs)

def endsAuthority (c : Char) : Bool := c = '/' || c = '?' || c = '#'

/-- The authority after two slashes, empty if there is none, and the rest. -/
def splitAuthority (cs : List Char) : List Char × List Char :=
  match cs with
  | '/' :: '/' :: rest =>
    (rest.takeWhile fun c => !endsAuthority c, rest.dropWhile fun c => !endsAuthority c)
  | cs => ([], cs)

/-- The part before the last character of a kind, and the part after it. -/
def splitLast (sep : Char) (cs : List Char) : List Char × List Char :=
  let after := cs.reverse.takeWhile (· ≠ sep)
  if after.length = cs.length then ([], cs)
  else (cs.take (cs.length - after.length - 1), after.reverse)

/-- A host and the text of its port. A host in brackets may hold colons. -/
def splitHost (cs : List Char) : List Char × List Char :=
  let (host, rest) :=
    if cs.head? = some '[' && cs.contains ']' then
      let (inner, rest) := splitLast ']' cs
      (inner ++ [']'], rest)
    else (cs.takeWhile (· ≠ ':'), cs.dropWhile (· ≠ ':'))
  match rest with
  | ':' :: port => (host, port)
  | port => (host, port)

/-- The path, and the query after a question mark. What follows a number sign is dropped. -/
def splitPath (cs : List Char) : List Char × Option (List Char) :=
  let cs := cs.takeWhile (· ≠ '#')
  match cs.dropWhile (· ≠ '?') with
  | '?' :: query => (cs.takeWhile (· ≠ '?'), some query)
  | _ => (cs, none)

/-! ## Ports and paths -/

/-- The port that a scheme implies. -/
def defaultPort? (scheme : String) : Option Int :=
  [("ftp", 21), ("http", 80), ("https", 443), ("ws", 80), ("wss", 443)].lookup scheme

/-- The port of a text; nothing is no port. -/
def portOf? (scheme : String) (cs : List Char) : Option (Option Int) :=
  if cs.isEmpty then some none
  else
    (Text.readInt? 10 (String.ofList cs)).map fun n =>
      if defaultPort? scheme = some n then none else some n

/-- One step of a path after the steps before it, the last one first. -/
def takeStep (steps : List (List Char)) (step : List Char) : List (List Char) :=
  if step = ['.'] then steps
  else if step = ['.', '.'] then
    match steps with
    | [] => []
    | [[]] => [[]]
    | _ :: rest => rest
  else step :: steps

/-- The path without steps to the same or the upper level. -/
def normalPath (cs : List Char) : List Char :=
  List.intercalate ['/'] ((Text.splitList '/' cs).foldl takeStep []).reverse

/-- Whether a path may stand after its scheme and host. -/
def isPathAllowed (hasScheme hasHost : Bool) (path : List Char) : Bool :=
  if hasHost then path.isEmpty || path.head? = some '/'
  else hasScheme || !(['/', '/'].isPrefixOf path || path.head? = some ':')

/-! ## Reading -/

/-- A character that no address may hold. -/
def isControl (c : Char) : Bool := c.toNat < 0x20 || c.toNat = 0x7f

/-- The address that a text spells. -/
def ofText? (s : String) : Option Address := do
  let cs := s.toList
  if maxLength < cs.length || cs.any isControl then none
  let (scheme, rest) := splitScheme cs
  let (authority, rest) := splitAuthority rest
  let (path, query) := splitPath rest
  let (user, host) := splitLast '@' authority
  let (host, port) := splitHost host
  let scheme := String.ofList (scheme.map Char.toLower)
  let host ← hostOf? host
  let port ← portOf? scheme port
  let hasHost := !user.isEmpty || host ≠ "" || port.isSome
  if isPathAllowed (scheme ≠ "") hasHost path then
    let path := if scheme ≠ "" || hasHost then normalPath path else path
    return ⟨scheme, host, port, path, query⟩
  else none

/-! ## Requests under an address -/

/-- The path and the query of an address. -/
def target (a : Address) : List Char :=
  (if a.path.isEmpty then ['/'] else a.path) ++
    match a.query with
    | some query => '?' :: query
    | none => []

/-- The target with a slash at its end. -/
def slashed (cs : List Char) : List Char := if cs.getLast? = some '/' then cs else cs ++ ['/']

/-- The address with a relative path added to its target. -/
def under (a : Address) (relative : String) : Address :=
  let (path, query) := splitPath (slashed a.target ++ relative.toList)
  { a with path := normalPath path, query := query }

/-- Scheme, host and port. -/
def origin (a : Address) : String :=
  a.scheme ++ "://" ++ a.host ++
    match a.port with
    | some n => ":" ++ toString n
    | none => ""

/-- The bytes of a text with its escapes read. -/
def unescape : List Char → List UInt8
  | '%' :: a :: b :: rest =>
    if Text.isDigitOf 16 a && Text.isDigitOf 16 b then
      (Text.digitsValue 16 [a, b]).toUInt8 :: unescape rest
    else charBytes '%' ++ unescape (a :: b :: rest)
  | c :: rest => charBytes c ++ unescape rest
  | [] => []

/-- The path in plain text. -/
def pathText (a : Address) : String := (Bytes.utf8 (unescape a.path)).lenient

end Address

end StagedRollout.Http
