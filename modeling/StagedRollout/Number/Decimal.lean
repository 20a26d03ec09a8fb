/-
Doubles and decimals: the double nearest to a decimal, and the text with the fewest digits that
reads back to the same double.
-/
import StagedRollout.Number.Arithmetic

namespace StagedRollout

open Number

namespace Number

/-! ## From a decimal -/

/-- The number of decimal digits of a whole number, zero having none. -/
def digitCount (n : Nat) : Nat := if n = 0 then 0 else (Nat.toDigits 10 n).length

/-- The value `m · 10^e`. -/
def decimalValue (m : Nat) (e : Int) : Rat :=
  mkRat (m * Nat.pow 10 e.toNat : Nat) (Nat.pow 10 (-e).toNat)

/-- The double nearest to `± m · 10^e`. Exponents far outside the range are decided by the number
of digits alone. -/
def ofDecimal (negative : Bool) (m : Nat) (e : Int) : Double :=
  let reach := e + digitCount m
  if m = 0 ∨ reach < -400 then Double.signedZero negative
  else if 400 < reach then .infinity negative
  else
    let x := decimalValue m e
    Format.double.round (if negative then -x else x)

/-! ## The fewest digits -/

/-- A decimal `digits · 10^exponent`. -/
structure Decimal where
  digits : Nat
  exponent : Int
  deriving DecidableEq

def Decimal.value (d : Decimal) : Rat := decimalValue d.digits d.exponent

/-- Whether a decimal rounds to the positive double of value `x`. -/
def Decimal.readsBack (x : Rat) (d : Decimal) : Bool :=
  Format.double.round d.value == .finite x

/-- The least `k` with `x < 10^k`, found by stepping from an estimate by binary exponents. -/
def decimalScale (x : Rat) : Int :=
  let estimate := leadingExponent x.num.natAbs x.den * 30103 / 100000
  if x < decimalValue 1 (estimate - 1) then estimate - 1
  else if x < decimalValue 1 estimate then estimate
  else if x < decimalValue 1 (estimate + 1) then estimate + 1
  else estimate + 2

/-- The decimal of at most `n` digits that reads back to `x`, if there is one: of the two
neighbours of `x` on that grid the nearer, on a tie the even one. -/
def shortestAt? (x : Rat) (scale : Int) (n : Nat) : Option Decimal :=
  let e := scale - n
  let quotient := x / decimalValue 1 e
  let floor := quotient.floor.toNat
  let low : Decimal := ⟨floor, e⟩
  let high : Decimal := ⟨floor + 1, e⟩
  let twice := 2 * (quotient - floor)
  let lowNearer := decide (twice < 1) || (decide (twice = 1) && floor % 2 == 0)
  match low.readsBack x, high.readsBack x with
  | true, true => some (if lowNearer then low else high)
  | true, false => some low
  | false, true => some high
  | false, false => none

/-- Trailing zeros move from the digits into the exponent. -/
def Decimal.strip : Nat → Decimal → Decimal
  | 0, d => d
  | fuel + 1, d =>
    if d.digits ≠ 0 ∧ d.digits % 10 = 0 then strip fuel ⟨d.digits / 10, d.exponent + 1⟩ else d

/-- The decimal with the fewest digits that reads back to the positive double of value `x`. -/
def shortest (x : Rat) : Decimal :=
  let scale := decimalScale x
  let found := (List.range 17).findSome? fun n => shortestAt? x scale (n + 1)
  let d := found.getD ⟨x.num.natAbs, 0⟩
  d.strip (digitCount d.digits)

/-! ## Layout -/

def zeros (n : Nat) : String := String.ofList (List.replicate n '0')

/-- A decimal written with a point and at least one digit on either side of it. -/
def Decimal.positional (d : Decimal) : String :=
  let cs := Nat.toDigits 10 d.digits
  let point : Int := cs.length + d.exponent
  if 0 ≤ d.exponent then String.ofList cs ++ zeros d.exponent.toNat ++ ".0"
  else if 0 < point then
    String.ofList (cs.take point.toNat) ++ "." ++ String.ofList (cs.drop point.toNat)
  else "0." ++ zeros (-point).toNat ++ String.ofList cs

/-- A decimal written as one digit, its fraction and a signed exponent of at least two digits. -/
def Decimal.scientific (d : Decimal) : String :=
  let cs := Nat.toDigits 10 d.digits
  let e : Int := cs.length + d.exponent - 1
  let fraction := match cs.drop 1 with
    | [] => ""
    | rest => "." ++ String.ofList rest
  let exponent := toString e.natAbs
  String.ofList (cs.take 1) ++ fraction ++ (if e < 0 then "e-" else "e+") ++
    zeros (2 - exponent.length) ++ exponent

/-- Positional from `10^-4` to below `10^16`, scientific elsewhere. -/
def Decimal.text (d : Decimal) : String :=
  let e : Int := digitCount d.digits + d.exponent - 1
  if -4 ≤ e ∧ e < 16 then d.positional else d.scientific

end Number

/-- The text of a double: the fewest digits that read back to it. -/
def Double.text : Double → String
  | .nan => "nan"
  | .infinity negative => if negative then "-inf" else "inf"
  | .negZero => "-0.0"
  | .finite x =>
    if x = 0 then "0.0"
    else if x < 0 then "-" ++ (shortest (-x)).text
    else (shortest x).text

end StagedRollout
