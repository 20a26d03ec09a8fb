/-
A text that is read from left to right: what is left of it, and the offset, line and column
reached. Reading is a state over such a source; it fails with a fault.
-/
import StagedRollout.Fault

namespace StagedRollout.Yaml

/-! ## Characters -/

/-- Stands for the end of the text, which no text that is read contains. -/
def endMark : Char := '\x00'

def isLineBreak (c : Char) : Bool :=
  c = '\n' || c = '\r' || c = '\u0085' || c = '\u2028' || c = '\u2029'

/-- A line break or the end of the text. -/
def isLineEnd (c : Char) : Bool := c = endMark || isLineBreak c

def isSpace (c : Char) : Bool := c = ' '

def isBlank (c : Char) : Bool := c = ' ' || c = '\t'

/-- A space, a line break or the end of the text. -/
def isGap (c : Char) : Bool := c = ' ' || isLineEnd c

/-- What may follow an indicator: a blank, a line break or the end of the text. -/
def isBlankOrEnd (c : Char) : Bool := c = '\t' || isGap c

/-- The characters that a text may hold. -/
def isPrintable (c : Char) : Bool :=
  let n := c.toNat
  c = '\t' || c = '\n' || c = '\r' || (0x20 ≤ n && n ≤ 0x7e) || n = 0x85 ||
    (0xa0 ≤ n && n ≤ 0xd7ff) || (0xe000 ≤ n && n ≤ 0xfffd) || 0x10000 ≤ n

/-- The characters of names: digits, letters, hyphens and underscores of ASCII. -/
def isNameChar (c : Char) : Bool := c.isAlphanum || c = '-' || c = '_'

/-! ## Sources -/

structure Source where
  rest : List Char
  offset : Nat
  line : Nat
  column : Nat

namespace Source

def ofText (s : String) : Source := ⟨s.toList, 0, 0, 0⟩

/-- One character further. A carriage return before a line feed does not end the line by itself,
and a byte order mark takes no column. -/
def step (s : Source) : Source :=
  match s.rest with
  | [] => s
  | c :: rest =>
    if isLineBreak c && !(c = '\r' && rest.head? = some '\n') then
      ⟨rest, s.offset + 1, s.line + 1, 0⟩
    else ⟨rest, s.offset + 1, s.line, if c = '\ufeff' then s.column else s.column + 1⟩

def advance : Nat → Source → Source
  | 0, s => s
  | n + 1, s => advance n s.step

/-- The character some places ahead. -/
def ahead (s : Source) (n : Nat) : Char := (s.rest.drop n).headD endMark

/-- Whether the mark of a document's start or end stands ahead. -/
def isAtMark (s : Source) (mark : Char) : Bool :=
  s.rest.take 3 == [mark, mark, mark] && isBlankOrEnd (s.ahead 3)

/-- Whether a line ahead starts or ends a document. -/
def isAtSeparator (s : Source) : Bool := s.isAtMark '-' || s.isAtMark '.'

end Source

/-! ## Reading -/

/-- A reading of a source. -/
abbrev Scan (α : Type) := StateT Source (Except Fault) α

namespace Scan

/-- The text does not go on as it must. -/
def fail {α : Type} : Scan α := throw (.yaml .scanner)

def peek : Scan Char := return (← get).ahead 0

def peekAt (n : Nat) : Scan Char := return (← get).ahead n

def skip (n : Nat) : Scan Unit := modify (Source.advance n)

/-- The characters ahead that satisfy `p`, which are passed. -/
def takeWhile (p : Char → Bool) : Scan (List Char) := do
  let run := (← get).rest.takeWhile p
  skip run.length
  return run

def skipWhile (p : Char → Bool) : Scan Unit := do
  let _ ← takeWhile p

/-- The next character must satisfy `p`. -/
def expect (p : Char → Bool) : Scan Unit := do
  unless p (← peek) do fail

/-- A number of steps that no reading of the rest takes. -/
def fuel : Scan Nat := return (← get).rest.length + 1

/-- The line break ahead, if there is one, in its plain form: one line feed, except that the two
separators of lines and paragraphs stay. -/
def lineBreak : Scan (List Char) := do
  let c ← peek
  if c = '\r' && (← peekAt 1) = '\n' then
    skip 2
    return ['\n']
  else if c = '\u2028' || c = '\u2029' then
    skip 1
    return [c]
  else if isLineBreak c then
    skip 1
    return ['\n']
  else return []

/-- Passes spaces and a comment, up to the end of the line. -/
def skipComment : Scan Unit := do
  skipWhile isSpace
  if (← peek) = '#' then skipWhile fun c => !isLineBreak c

/-- Passes the rest of a line that holds nothing but a comment. -/
def skipLine : Scan Unit := do
  skipComment
  expect isLineEnd
  let _ ← lineBreak

/-- Passes spaces, comments and line breaks; says whether a line break was among them. -/
def skipGaps : Nat → Scan Bool
  | 0 => return false
  | fuel + 1 => do
    skipComment
    if (← lineBreak).isEmpty then return false
    else do
      let _ ← skipGaps fuel
      return true

/-- Goes to the next token, past a byte order mark at the start of the text. -/
def toNextToken : Scan Bool := do
  if (← get).offset = 0 && (← peek) = '\ufeff' then skip 1
  skipGaps (← fuel)

end Scan

end StagedRollout.Yaml
