/-
Lower-casing of text: character by character, except that a capital I with a dot above becomes two
characters and that a capital sigma takes its final form at the end of a word.
-/
import StagedRollout.Text.CaseTable

namespace StagedRollout.Text

def isCased (c : Char) : Bool := Range.contains casedRanges c

def isCaseIgnorable (c : Char) : Bool := Range.contains caseIgnorableRanges c

/-- Whether the nearest character that case does not look through is a cased one. -/
def meetsCased (cs : List Char) : Bool :=
  match cs.dropWhile isCaseIgnorable with
  | [] => false
  | c :: _ => isCased c

/-- The lower-case form of a character on its own. -/
def lowerChar (c : Char) : Char :=
  if c.toNat < 0x80 then (if 'A' ≤ c ∧ c ≤ 'Z' then Char.ofNat (c.toNat + 32) else c)
  else
    match caseRuns.findSome? fun run => run.lower? c.toNat with
    | some n => Char.ofNat n
    | none => c

/-- The lower-case form of a character between the characters before it, nearest first, and the
characters after it. -/
def lowerBetween (before : List Char) (c : Char) (after : List Char) : List Char :=
  if c = 'Σ' then [if meetsCased before && !meetsCased after then 'ς' else 'σ']
  else if c = 'İ' then ['i', '\u0307']
  else [lowerChar c]

def lowerFrom (before : List Char) : List Char → List Char
  | [] => []
  | c :: after => lowerBetween before c after ++ lowerFrom (c :: before) after

def lowerString (s : String) : String := String.ofList (lowerFrom [] s.toList)

/-- The text in lower case. Half a character has no case, and no word goes on beyond it. -/
def lower : Text → Text
  | plain s => plain (lowerString s)
  | broken s half rest => broken (lowerString s) half rest.lower

end StagedRollout.Text
