/-
The properties of nodes, anchors and tags, and the directives of documents.
-/
import StagedRollout.Text.Numeral
import StagedRollout.Outer.Yaml.Source
import StagedRollout.Outer.Yaml.Token

namespace StagedRollout.Yaml

open Scan

/-! ## Anchors -/

/-- What may follow the name of an anchor or an alias. -/
def endsName (c : Char) : Bool :=
  isBlankOrEnd c || "?:,]\x7d%@\x60".toList.contains c

/-- The name after the mark of an anchor or an alias. -/
def anchorName : Scan String := do
  skip 1
  let name ← takeWhile isNameChar
  if name.isEmpty then fail
  expect endsName
  return String.ofList name

/-! ## Tags -/

/-- The characters of addresses, besides letters and digits. -/
def isAddressChar (c : Char) : Bool :=
  c.isAlphanum || "-;/?:@&=+$,_.!~*'()[]%".toList.contains c

/-- The bytes of escapes that follow one another, each a percent sign and two digits. -/
def escapedBytes : Nat → Scan (List UInt8)
  | 0 => return []
  | fuel + 1 => do
    if (← peek) = '%' then
      skip 1
      let digits := (← get).rest.take 2
      if digits.length = 2 && digits.all (Text.isDigitOf 16) then
        skip 2
        return (Text.digitsValue 16 digits).toUInt8 :: (← escapedBytes fuel)
      else fail
    else return []

/-- The characters of an address, with the bytes of escapes read as text. -/
def addressChars : Nat → Scan (List Char)
  | 0 => return []
  | steps + 1 => do
    let run ← takeWhile fun c => isAddressChar c && c ≠ '%'
    if (← peek) = '%' then
      let bytes ← escapedBytes (← fuel)
      match String.fromUTF8? ⟨bytes.toArray⟩ with
      | some s => return run ++ s.toList ++ (← addressChars steps)
      | none => fail
    else return run

/-- An address, which must not be empty. -/
def address : Scan String := do
  if isAddressChar (← peek) then return String.ofList (← addressChars (← fuel)) else fail

/-- The handle of a tag: an exclamation mark, or a name between two. -/
def tagHandle : Scan String := do
  expect (· = '!')
  if (← peekAt 1) = ' ' then
    skip 1
    return "!"
  else
    let name := ((← get).rest.drop 1).takeWhile isNameChar
    if (← peekAt (name.length + 1)) = '!' then
      skip (name.length + 2)
      return String.ofList ('!' :: name ++ ['!'])
    else fail

/-- Whether another exclamation mark follows the first one before the next gap. -/
def hasHandle (rest : List Char) : Bool :=
  ((rest.drop 1).takeWhile fun c => !isGap c).contains '!'

/-- A tag: a lone exclamation mark, an address between angle brackets, or a handle and a suffix. -/
def tagProperty : Scan Token := do
  let c ← peekAt 1
  let token ←
    if c = '<' then do
      skip 2
      let suffix ← address
      expect (· = '>')
      skip 1
      pure (Token.tag none suffix)
    else if isBlankOrEnd c then do
      skip 1
      pure (Token.tag none "!")
    else if hasHandle (← get).rest then do
      let handle ← tagHandle
      pure (Token.tag (some handle) (← address))
    else do
      skip 1
      pure (Token.tag (some "!") (← address))
  expect isGap
  return token

/-! ## Directives -/

/-- A number of a version. -/
def versionNumber : Scan Nat := do
  let digits ← takeWhile Char.isDigit
  if digits.isEmpty then fail else return Text.digitsValue 10 digits

def versionDirective : Scan Directive := do
  skipWhile isSpace
  let major ← versionNumber
  expect (· = '.')
  skip 1
  let minor ← versionNumber
  expect isGap
  return .version major minor

def tagDirective : Scan Directive := do
  skipWhile isSpace
  let handle ← tagHandle
  expect isSpace
  skipWhile isSpace
  let expansion ← address
  expect isGap
  return .tag handle expansion

/-- A directive, from the percent sign to the end of its line. -/
def directive : Scan Directive := do
  skip 1
  let name := String.ofList (← takeWhile isNameChar)
  if name = "" then fail
  expect isGap
  let d ←
    if name = "YAML" then versionDirective
    else if name = "TAG" then tagDirective
    else do
      skipWhile fun c => !isLineBreak c
      pure (Directive.unknown name)
  skipLine
  return d

end StagedRollout.Yaml
