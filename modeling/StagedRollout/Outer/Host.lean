/-
Hosts of addresses: numbers in four parts or in groups of hexadecimal digits between brackets, which
must be right, or names, in which what is not allowed is escaped.
-/
import StagedRollout.Text.Lowercase
import StagedRollout.Text.Numeral
import StagedRollout.Text.Quoted
import StagedRollout.Text.Basic

namespace StagedRollout.Http

/-! ## Escapes -/

/-- The bytes of a character. -/
def charBytes (c : Char) : List UInt8 := (String.singleton c).toUTF8.toList

/-- A byte as an escape. -/
def escapeText (b : UInt8) : String :=
  "%" ++ String.ofList ((Text.hexPadded 2 b.toNat).toList.map Char.toUpper)

/-- The characters that stand for themselves in every part of an address. -/
def isUnreserved (c : Char) : Bool := c.isAlphanum || "-._~".toList.contains c

/-- The text with the bytes of all other characters escaped. -/
def escape (isSafe : Char → Bool) (s : String) : String :=
  String.join (s.toList.map fun c =>
    if isSafe c then c.toString else String.join ((charBytes c).map escapeText))

/-! ## Numbers in four parts -/

/-- The runs of decimal digits between other characters. -/
def digitRuns : List Char → List (List Char)
  | [] => [[]]
  | c :: rest =>
    match digitRuns rest with
    | run :: runs => if c.isDigit then (c :: run) :: runs else [] :: run :: runs
    | [] => [[]]

/-- Whether a host looks like four numbers with one character between any two. A digit may be taken
as such a character. -/
def looksNumeric (cs : List Char) : Bool :=
  let runs := digitRuns cs
  let spare := (runs.map fun run => (run.length - 1) / 2).foldl (· + ·) 0
  runs.all (fun run => !run.isEmpty) && runs.length ≤ 4 && 4 ≤ runs.length + spare

/-- A number from 0 to 255 without needless zeros. -/
def isOctet (cs : List Char) : Bool :=
  !cs.isEmpty && cs.all Char.isDigit && cs.length ≤ 3 && (cs.length = 1 || cs.head? ≠ some '0') &&
    Text.digitsValue 10 cs ≤ 255

def isFourPart (cs : List Char) : Bool :=
  let parts := Text.splitList '.' cs
  parts.length = 4 && parts.all isOctet

/-! ## Groups of hexadecimal digits -/

def isGroup (cs : List Char) : Bool :=
  !cs.isEmpty && cs.length ≤ 4 && cs.all (Text.isDigitOf 16)

/-- The groups with a number in four parts at the end written as two groups. -/
def plainGroups? (groups : List (List Char)) : Option (List (List Char)) :=
  match groups.getLast? with
  | some last =>
    if last.contains '.' then
      if isFourPart last then some (groups.dropLast ++ [['0'], ['0']]) else none
    else some groups
  | none => none

/-- The groups on either side of a gap; an empty side is a single empty group. -/
def sideLength? (side : List (List Char)) : Option Nat :=
  if side = [[]] then some 0 else if side.all isGroup then some side.length else none

/-- Eight groups, or fewer on both sides of one gap. -/
def isGrouped (groups : List (List Char)) : Bool :=
  match groups with
  | first :: rest =>
    let inner := rest.dropLast
    match inner.idxOf? [] with
    | none => groups.length = 8 && groups.all isGroup
    | some i =>
      match sideLength? (first :: inner.take i), sideLength? (rest.drop (i + 1)) with
      | some a, some b => a + b ≤ 7
      | _, _ => false
  | [] => false

/-- Whether the text between brackets is an address of groups, perhaps with the name of a zone. -/
def isBracketAddress (cs : List Char) : Bool :=
  let zone := (cs.dropWhile (· ≠ '%')).drop 1
  let zoneFits := !cs.contains '%' || (!zone.isEmpty && !zone.contains '%')
  let groups := Text.splitList ':' (cs.takeWhile (· ≠ '%'))
  zoneFits && !cs.contains '/' && 3 ≤ groups.length && groups.length ≤ 9 &&
    (plainGroups? groups).any isGrouped

/-! ## Hosts -/

/-- The characters that stand for themselves in the name of a host. -/
def isHostChar (c : Char) : Bool :=
  isUnreserved c || "!$&'()*+,;=\"\x60\x7b\x7d%|\\".toList.contains c

/-- A host in its usual form, if it is right. -/
def hostOf? (cs : List Char) : Option String :=
  if looksNumeric cs then (if isFourPart cs then some (String.ofList cs) else none)
  else if cs.head? = some '[' && cs.getLast? = some ']' then
    if isBracketAddress (cs.drop 1).dropLast then some (String.ofList cs) else none
  else if cs.all (·.toNat < 0x80) then
    some (escape isHostChar (String.ofList (cs.map Char.toLower)))
  else some (Text.lowerString (String.ofList cs))

end StagedRollout.Http
