/-
Quoted text: between apostrophes, or between quotation marks when only apostrophes occur inside,
with everything unprintable written as an escape.
-/
import StagedRollout.Text.Unprintable

namespace StagedRollout.Text

/-- The low `width` hexadecimal digits of a number, padded with zeros. -/
def hexPadded (width n : Nat) : String :=
  let digits := Nat.toDigits 16 n
  String.ofList (List.replicate (width - digits.length) '0' ++ digits)

/-- How a character is written between quotes of the given kind. -/
def quotedChar (quote c : Char) : String :=
  if c = quote ∨ c = '\\' then String.ofList ['\\', c]
  else if c = '\n' then "\\n"
  else if c = '\r' then "\\r"
  else if c = '\t' then "\\t"
  else if isUnprintable c then
    if c.toNat < 0x100 then "\\x" ++ hexPadded 2 c.toNat
    else if c.toNat < 0x10000 then "\\u" ++ hexPadded 4 c.toNat
    else "\\U" ++ hexPadded 8 c.toNat
  else c.toString

/-- The kind of quote that needs fewer escapes, the apostrophe on a tie. -/
def quoteFor (cs : List Char) : Char :=
  if cs.contains '\'' && !cs.contains '"' then '"' else '\''

def quotedPoint (quote : Char) : Point → String
  | .char c => quotedChar quote c
  | .lone half => "\\u" ++ hexPadded 4 half.number

def quoted (s : Text) : String :=
  let quote := quoteFor s.chars
  quote.toString ++ String.join (s.points.map (quotedPoint quote)) ++ quote.toString

end StagedRollout.Text
