/-
Scalars: quoted ones with their escapes and folded lines, plain ones, which end where the structure
goes on, and block ones, whose lines stand under an indicator.
-/
import StagedRollout.Text.Numeral
import StagedRollout.Outer.Yaml.Source

namespace StagedRollout.Yaml

open Scan

/-- The folding of line breaks: the first one becomes a space if it is a plain one and the only
one; a plain first one before others is dropped. -/
def foldBreaks (first later : List Char) : List Char :=
  (if first ≠ ['\n'] then first else if later.isEmpty then [' '] else []) ++ later

/-! ## Quoted scalars -/

/-- The character that a letter after a backslash stands for. -/
def escaped? (c : Char) : Option Char :=
  [('0', '\x00'), ('a', '\x07'), ('b', '\x08'), ('t', '\t'), ('\t', '\t'), ('n', '\n'),
    ('v', '\x0b'), ('f', '\x0c'), ('r', '\r'), ('e', '\x1b'), (' ', ' '), ('"', '"'),
    ('\\', '\\'), ('/', '/'), ('N', '\u0085'), ('_', '\u00a0'), ('L', '\u2028'),
    ('P', '\u2029')].lookup c

/-- The number of digits of a numbered character. -/
def escapeWidth? (c : Char) : Option Nat := [('x', 2), ('u', 4), ('U', 8)].lookup c

/-- The character of a number. -/
def numberedChar (n : Nat) : Except Fault Char :=
  if n < 0x110000 then .ok (Char.ofNat n)
  else if n < 0x80000000 then .error (.breach (.stated "chr() arg not in range(0x110000)"))
  else .error .outOfRange

/-- A numbered character of so many digits. -/
def numbered (width : Nat) : Scan Char := do
  let digits := (← get).rest.take width
  if digits.length = width && digits.all (Text.isDigitOf 16) then
    skip width
    liftM (numberedChar (Text.digitsValue 16 digits))
  else fail

/-- The line breaks between the lines of a quoted scalar, without the blanks around them. No line
may start or end a document. -/
def quotedBreaks : Nat → Scan (List Char)
  | 0 => return []
  | fuel + 1 => do
    if (← get).isAtSeparator then fail
    skipWhile isBlank
    let first ← lineBreak
    if first.isEmpty then return [] else return first ++ (← quotedBreaks fuel)

/-- What an escape stands for; an escaped line break is dropped. -/
def escape : Scan (List Char) := do
  let c ← peek
  match escaped? c, escapeWidth? c with
  | some d, _ =>
    skip 1
    return [d]
  | none, some width =>
    skip 1
    return [← numbered width]
  | none, none =>
    if isLineBreak c then do
      let _ ← lineBreak
      quotedBreaks (← fuel)
    else fail

/-- Whether a character stands for itself between quotes of both kinds. -/
def isUnquotedChar (c : Char) : Bool :=
  !(c = '\'' || c = '"' || c = '\\' || isBlankOrEnd c)

/-- The characters up to a blank, a line break or the closing quote. -/
def quotedRun (double : Bool) : Nat → Scan (List Char)
  | 0 => return []
  | fuel + 1 => do
    let run ← takeWhile isUnquotedChar
    let c ← peek
    if !double && c = '\'' && (← peekAt 1) = '\'' then
      skip 2
      return run ++ '\'' :: (← quotedRun double fuel)
    else if (double && c = '\'') || (!double && (c = '"' || c = '\\')) then
      skip 1
      return run ++ c :: (← quotedRun double fuel)
    else if double && c = '\\' then
      skip 1
      let middle ← escape
      return run ++ middle ++ (← quotedRun double fuel)
    else return run

/-- Blanks between words, or the folded line breaks between lines. -/
def quotedGap : Scan (List Char) := do
  let blanks ← takeWhile isBlank
  let c ← peek
  if c = endMark then fail
  else if isLineBreak c then do
    let first ← lineBreak
    return foldBreaks first (← quotedBreaks (← fuel))
  else return blanks

/-- The rest of a quoted scalar after its first run of characters. -/
def quotedRest (double : Bool) (quote : Char) : Nat → Scan (List Char)
  | 0 => return []
  | steps + 1 => do
    if (← peek) = quote then
      skip 1
      return []
    else
      let gap ← quotedGap
      let run ← quotedRun double (← fuel)
      return gap ++ run ++ (← quotedRest double quote steps)

/-- A quoted scalar; the quote ahead says which kind it is. -/
def quotedScalar : Scan String := do
  let quote ← peek
  let double := quote = '"'
  skip 1
  let run ← quotedRun double (← fuel)
  return String.ofList (run ++ (← quotedRest double quote (← fuel)))

/-! ## Plain scalars -/

/-- The marks of structure inside brackets. -/
def isFlowMark (c : Char) : Bool := c = ',' || c = '[' || c = ']' || c = '\x7b' || c = '\x7d'

/-- Whether a plain scalar ends before a character and what follows it. -/
def endsPlain (inFlow : Bool) (c : Char) (rest : List Char) : Bool :=
  let next := rest.headD endMark
  isBlankOrEnd c || (c = ':' && (isBlankOrEnd next || (inFlow && isFlowMark next))) ||
    (inFlow && (isFlowMark c || c = '?'))

def plainRun (inFlow : Bool) : List Char → List Char
  | [] => []
  | c :: rest => if endsPlain inFlow c rest then [] else c :: plainRun inFlow rest

/-- The line breaks after the first one, none if a line starts or ends a document. -/
def plainBreaks : Nat → Scan (Option (List Char))
  | 0 => return some []
  | fuel + 1 => do
    skipWhile isSpace
    let first ← lineBreak
    if first.isEmpty then return some []
    else if (← get).isAtSeparator then return none
    else return (← plainBreaks fuel).map (first ++ ·)

/-- Spaces or folded line breaks between the words of a plain scalar, and whether a line break was
passed. -/
def plainGap : Scan (List Char × Bool) := do
  let spaces ← takeWhile isSpace
  let first ← lineBreak
  if first.isEmpty then return (spaces, false)
  else if (← get).isAtSeparator then return ([], true)
  else
    match ← plainBreaks (← fuel) with
    | none => return ([], true)
    | some later => return (foldBreaks first later, true)

/-- The words of a plain scalar after a gap, and whether it ends after a line break. -/
def plainWords (inFlow : Bool) (indent : Int) : Nat → List Char × Bool → Scan (List Char × Bool)
  | 0, (_, crossed) => return ([], crossed)
  | fuel + 1, (gap, crossed) => do
    let run := plainRun inFlow (← get).rest
    if (← peek) = '#' || run.isEmpty then return ([], crossed)
    else
      skip run.length
      let (nextGap, nextCrossed) ← plainGap
      let column : Int := (← get).column
      if nextGap.isEmpty || (← peek) = '#' || (!inFlow && column < indent) then
        return (gap ++ run, nextCrossed)
      else
        let (words, crossed) ← plainWords inFlow indent fuel (nextGap, nextCrossed)
        return (gap ++ run ++ words, crossed)

/-- A plain scalar whose later lines are indented by at least `indent`, and whether it ends after a
line break. -/
def plainScalar (inFlow : Bool) (indent : Int) : Scan (String × Bool) := do
  let (words, crossed) ← plainWords inFlow indent (← fuel) ([], false)
  return (String.ofList words, crossed)

/-! ## Block scalars -/

/-- What becomes of the line breaks at the end of a block scalar. -/
inductive Chomping where
  /-- All are dropped. -/
  | strip
  /-- The first one stays. -/
  | clip
  | keep
  deriving DecidableEq

def chomping? (c : Char) : Option Chomping := [('+', .keep), ('-', .strip)].lookup c

/-- A chomping indicator, if there is one. -/
def chompingIndicator : Scan (Option Chomping) := do
  match chomping? (← peek) with
  | some chomping =>
    skip 1
    return some chomping
  | none => return none

/-- An indentation indicator, if there is one; zero is refused. -/
def indentIndicator : Scan (Option Nat) := do
  let c ← peek
  if c = '0' then fail
  else if c.isDigit then
    skip 1
    return some (Text.digitValue c)
  else return none

/-- The indicators of a block scalar, in either order. -/
def blockIndicators : Scan (Chomping × Option Nat) := do
  let first ← chompingIndicator
  let increment ← indentIndicator
  let chomping ← match first, increment with
    | none, some _ => chompingIndicator
    | first, _ => pure first
  expect isGap
  return (chomping.getD .clip, increment)

/-- The line breaks before the first line, and the widest indentation seen on the way. -/
def leadingBreaks : Nat → Nat → Scan (List Char × Nat)
  | 0, widest => return ([], widest)
  | fuel + 1, widest => do
    skipWhile isSpace
    let widest := max widest (← get).column
    let first ← lineBreak
    if first.isEmpty then return ([], widest)
    else
      let (later, widest) ← leadingBreaks fuel widest
      return (first ++ later, widest)

/-- Passes spaces up to a column. -/
def skipIndent (indent : Nat) : Scan Unit := do
  let s ← get
  skip ((s.rest.take (indent - s.column)).takeWhile isSpace).length

/-- The line breaks before the next line of the given indentation. -/
def blockBreaks (indent : Nat) : Nat → Scan (List Char)
  | 0 => return []
  | fuel + 1 => do
    skipIndent indent
    let first ← lineBreak
    if first.isEmpty then return [] else return first ++ (← blockBreaks indent fuel)

/-- What stands between two lines of a block scalar. In a folded one, a plain line break between
lines that do not start with a blank becomes a space, or nothing before empty lines. -/
def blockJoint (folded startsPlain nextPlain : Bool) (first later : List Char) : List Char :=
  if folded && first = ['\n'] && startsPlain && nextPlain then
    if later.isEmpty then [' '] else []
  else first

/-- The lines of a block scalar, from one that is indented; with them the line break after the last
line and the breaks that follow it. -/
def blockLines (folded : Bool) (indent : Nat) (breaks : List Char) :
    Nat → Scan (List Char × List Char × List Char)
  | 0 => return ([], [], breaks)
  | steps + 1 => do
    let startsPlain := !isBlank (← peek)
    let line ← takeWhile fun c => !isLineBreak c
    let first ← lineBreak
    let later ← blockBreaks indent (← fuel)
    let c ← peek
    if (← get).column = indent && c ≠ endMark then
      let joint := blockJoint folded startsPlain (!isBlank c) first later
      let (rest, tail) ← blockLines folded indent later steps
      return (breaks ++ line ++ joint ++ rest, tail)
    else return (breaks ++ line, first, later)

/-- A block scalar under an indicator, inside a structure of the given indentation. -/
def blockScalar (folded : Bool) (parent : Int) : Scan String := do
  skip 1
  let (chomping, increment) ← blockIndicators
  skipLine
  let least := (max 1 (parent + 1)).toNat
  let (breaks, indent) ← match increment with
    | some n => do
      let indent := least + n - 1
      pure (← blockBreaks indent (← fuel), indent)
    | none => do
      let (breaks, widest) ← leadingBreaks (← fuel) 0
      pure (breaks, max least widest)
  let (text, last, tail) ←
    if (← get).column = indent && (← peek) ≠ endMark then
      blockLines folded indent breaks (← fuel)
    else pure ([], [], breaks)
  let ending := match chomping with
    | .strip => []
    | .clip => last
    | .keep => last ++ tail
  return String.ofList (text ++ ending)

end StagedRollout.Yaml
