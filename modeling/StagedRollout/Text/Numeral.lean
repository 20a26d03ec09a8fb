/-
Numbers read from text. White space may surround a numeral, digits of every script count, and one
underscore may stand between two digits.
-/
import StagedRollout.Number.Decimal
import StagedRollout.Text.Basic

namespace StagedRollout.Text

open Number

/-! ## Digits of every script

Each script's ten digits follow one another, zero first. -/

/-- The code points of the zeros. -/
def digitZeros : List Nat :=
  [0x30, 0x660, 0x6f0, 0x7c0, 0x966, 0x9e6, 0xa66, 0xae6, 0xb66, 0xbe6, 0xc66, 0xce6, 0xd66,
   0xde6, 0xe50, 0xed0, 0xf20, 0x1040, 0x1090, 0x17e0, 0x1810, 0x1946, 0x19d0, 0x1a80, 0x1a90,
   0x1b50, 0x1bb0, 0x1c40, 0x1c50, 0xa620, 0xa8d0, 0xa900, 0xa9d0, 0xa9f0, 0xaa50, 0xabf0, 0xff10,
   0x104a0, 0x10d30, 0x11066, 0x110f0, 0x11136, 0x111d0, 0x112f0, 0x11450, 0x114d0, 0x11650,
   0x116c0, 0x11730, 0x118e0, 0x11950, 0x11c50, 0x11d50, 0x11da0, 0x16a60, 0x16ac0, 0x16b50,
   0x1d7ce, 0x1d7d8, 0x1d7e2, 0x1d7ec, 0x1d7f6, 0x1e140, 0x1e2f0, 0x1e950, 0x1fbf0]

/-- The value of a decimal digit. -/
def decimalDigit? (c : Char) : Option Nat :=
  (digitZeros.find? fun z => z ≤ c.toNat && c.toNat < z + 10).map (c.toNat - ·)

/-! ## Plain characters -/

/-- A numeral's characters with every script's digits and white space replaced by the plain ones;
what else is not ASCII becomes a character that no numeral has. -/
def plainChar (c : Char) : Char :=
  if c.toNat < 0x80 then c
  else if isBlank c then ' '
  else
    match decimalDigit? c with
    | some d => Char.ofNat (d + 0x30)
    | none => '?'

def isPlainSpace (c : Char) : Bool := c = ' ' || (0x09 ≤ c.toNat && c.toNat ≤ 0x0d)

/-- The plain characters of a numeral, without the white space around it. -/
def plainNumeral (s : Text) : List Char := trimList isPlainSpace (s.chars.map plainChar)

/-- The value of an ASCII digit or letter as a digit. -/
def digitValue (c : Char) : Nat :=
  if '0' ≤ c ∧ c ≤ '9' then c.toNat - 0x30
  else if 'a' ≤ c ∧ c ≤ 'z' then c.toNat - 0x61 + 10
  else if 'A' ≤ c ∧ c ≤ 'Z' then c.toNat - 0x41 + 10
  else 36

def isDigitOf (base : Nat) (c : Char) : Bool := digitValue c < base

/-- The value of a run of digits. -/
def digitsValue (base : Nat) (cs : List Char) : Nat :=
  cs.foldl (fun n c => n * base + digitValue c) 0

/-- A leading sign, whether it is a minus, and what follows it. -/
def splitSign : List Char → Bool × List Char
  | '-' :: rest => (true, rest)
  | '+' :: rest => (false, rest)
  | cs => (false, cs)

/-! ## Whole numbers -/

/-- Digits with single underscores between them, without the underscores. -/
def joinDigits? (base : Nat) : List Char → Option (List Char)
  | [] => none
  | [c] => if isDigitOf base c then some [c] else none
  | c :: '_' :: rest =>
    if isDigitOf base c then (joinDigits? base rest).map (c :: ·) else none
  | c :: rest => if isDigitOf base c then (joinDigits? base rest).map (c :: ·) else none

/-- The letter that marks a base after a zero. -/
def baseMark? (base : Nat) : Option Char := [(2, 'b'), (8, 'o'), (16, 'x')].lookup base

/-- The digits of a numeral without the mark of its base, which an underscore may follow. -/
def dropMark (base : Nat) : List Char → List Char
  | '0' :: x :: rest =>
    if baseMark? base = some x.toLower then
      match rest with
      | '_' :: more => more
      | more => more
    else '0' :: x :: rest
  | cs => cs

/-- A whole number in the given base. -/
def readInt? (base : Nat) (s : Text) : Option Int :=
  let (negative, rest) := splitSign (plainNumeral s)
  (joinDigits? base (dropMark base rest)).map fun digits =>
    let n : Int := digitsValue base digits
    if negative then -n else n

/-! ## Decimals -/

/-- The plain decimal grammar after a sign: digits with at most one point among or around them,
at least one digit, and an optional exponent. -/
def readDecimal? (negative : Bool) (cs : List Char) : Option Double :=
  let whole := cs.takeWhile (isDigitOf 10)
  let afterWhole := cs.dropWhile (isDigitOf 10)
  let (fraction, afterFraction) :=
    match afterWhole with
    | '.' :: rest => (rest.takeWhile (isDigitOf 10), rest.dropWhile (isDigitOf 10))
    | rest => ([], rest)
  let mantissa := digitsValue 10 (whole ++ fraction)
  if whole.isEmpty && fraction.isEmpty then none
  else
    match afterFraction with
    | [] => some (ofDecimal negative mantissa (-fraction.length))
    | e :: rest =>
      let (negativeExponent, digits) := splitSign rest
      if (e = 'e' ∨ e = 'E') ∧ digits ≠ [] ∧ digits.all (isDigitOf 10) then
        let n : Int := digitsValue 10 digits
        some (ofDecimal negative mantissa ((if negativeExponent then -n else n) - fraction.length))
      else none

/-- A decimal numeral, an infinity or a NaN, with an optional sign and nothing around it. -/
def readPlainDouble? (cs : List Char) : Option Double :=
  let (negative, body) := splitSign cs
  let word := String.ofList (body.map Char.toLower)
  if word = "inf" ∨ word = "infinity" then some (.infinity negative)
  else if word = "nan" then some .nan
  else readDecimal? negative body

/-- Every underscore stands between two digits. -/
def underscoresBetweenDigits : Char → List Char → Bool
  | previous, [] => previous ≠ '_'
  | previous, c :: rest =>
    (if c = '_' then isDigitOf 10 previous
     else previous ≠ '_' || isDigitOf 10 c) && underscoresBetweenDigits c rest

/-- A double, with underscores between its digits. -/
def readDouble? (s : Text) : Option Double :=
  let cs := plainNumeral s
  if cs.contains '_' then
    if underscoresBetweenDigits ' ' cs then readPlainDouble? (cs.filter (· ≠ '_')) else none
  else readPlainDouble? cs

end StagedRollout.Text
