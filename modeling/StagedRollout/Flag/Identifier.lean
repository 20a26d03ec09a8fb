/-
Experiment identifiers: 128-bit numbers, written as 32 hexadecimal digits in five groups and read
from several spellings.
-/
import StagedRollout.Text.Numeral
import StagedRollout.Text.Quoted

namespace StagedRollout

structure Identifier where
  number : Nat
  deriving DecidableEq

namespace Identifier

/-- The characters without the occurrences of a word, taken from left to right; `skip` counts the
characters of the last occurrence that are still to go. -/
def withoutFrom (word : List Char) (skip : Nat) : List Char → List Char
  | [] => []
  | c :: rest =>
    match skip with
    | skip + 1 => withoutFrom word skip rest
    | 0 =>
      if word.isPrefixOf (c :: rest) then withoutFrom word (word.length - 1) rest
      else c :: withoutFrom word 0 rest

def without (word cs : List Char) : List Char := withoutFrom word 0 cs

/-- The digits of a spelling: scheme words, braces around it and hyphens do not count. -/
def digits (s : Text) : List Char :=
  let bare := without "uuid:".toList (without "urn:".toList s.chars)
  (Text.trimList (fun c => c = '\x7b' || c = '\x7d') bare).filter (· ≠ '-')

/-- The identifier that a text spells: 32 characters that make a base-16 numeral. -/
def ofText? (s : Text) : Option Identifier :=
  let ds := digits s
  if ds.length = 32 then
    (Text.readInt? 16 (String.ofList ds)).map fun n => ⟨n.toNat⟩
  else none

/-- The identifier in lower case, in groups of 8, 4, 4, 4 and 12 digits. -/
def text (i : Identifier) : String :=
  let ds := (Text.hexPadded 32 i.number).toList
  String.intercalate "-"
    ([ds.take 8, (ds.drop 8).take 4, (ds.drop 12).take 4, (ds.drop 16).take 4, ds.drop 20].map
      String.ofList)

end Identifier

end StagedRollout
