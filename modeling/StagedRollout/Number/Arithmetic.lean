/-
Arithmetic and comparison of doubles. Every operation is exact on the values and rounds once; the
remainder takes the divisor's sign, and comparisons with a NaN are false.
-/
import StagedRollout.Number.Rounding

namespace StagedRollout

open Number

namespace Double

def zero : Double := .finite 0

def one : Double := .finite 1

/-- The exact value of a finite double. -/
def value? : Double → Option Rat
  | .nan => none
  | .infinity _ => none
  | .negZero => some 0
  | .finite x => some x

/-- The sign, which a zero has too. -/
def isNegative : Double → Bool
  | .nan => false
  | .infinity negative => negative
  | .negZero => true
  | .finite x => decide (x < 0)

def isZero (x : Double) : Bool := x.value? == some 0

def signedZero (negative : Bool) : Double := if negative then .negZero else zero

def neg : Double → Double
  | .nan => .nan
  | .infinity negative => .infinity !negative
  | .negZero => zero
  | .finite x => if x = 0 then .negZero else .finite (-x)

/-! ## Rounded operations -/

/-- The double nearest to an exact result, whose sign decides the sign of a zero. -/
def ofRat (negativeZero : Bool) (x : Rat) : Double :=
  if x = 0 then signedZero negativeZero else Format.double.round x

def add : Double → Double → Double
  | .nan, _ => .nan
  | _, .nan => .nan
  | .infinity a, .infinity b => if a = b then .infinity a else .nan
  | .infinity a, _ => .infinity a
  | _, .infinity b => .infinity b
  | .negZero, .negZero => .negZero
  | .negZero, .finite y => .finite y
  | .finite x, .negZero => .finite x
  | .finite x, .finite y => ofRat false (x + y)

def sub (x y : Double) : Double := add x (neg y)

def mul (x y : Double) : Double :=
  let negative := x.isNegative != y.isNegative
  match x, y with
  | .nan, _ => .nan
  | _, .nan => .nan
  | .infinity _, _ => if y.isZero then .nan else .infinity negative
  | _, .infinity _ => if x.isZero then .nan else .infinity negative
  | _, _ => ofRat negative ((x.value?.getD 0) * (y.value?.getD 0))

/-- The quotient by a divisor that is not zero. -/
def div (x y : Double) : Double :=
  let negative := x.isNegative != y.isNegative
  match x, y with
  | .nan, _ => .nan
  | _, .nan => .nan
  | .infinity _, .infinity _ => .nan
  | .infinity _, _ => .infinity negative
  | _, .infinity _ => signedZero negative
  | _, _ => ofRat negative ((x.value?.getD 0) / (y.value?.getD 0))

/-- The whole part of a rational, cut toward zero. -/
def cut (x : Rat) : Int := x.num.tdiv x.den

/-- The remainder by a divisor that is not zero; it has the divisor's sign. -/
def mod (x y : Double) : Double :=
  match x, y with
  | .nan, _ => .nan
  | _, .nan => .nan
  | .infinity _, _ => .nan
  | _, .infinity negative =>
    if x.isZero then signedZero negative
    else if x.isNegative = negative then x
    else .infinity negative
  | _, _ =>
    let a := x.value?.getD 0
    let b := y.value?.getD 0
    let r := a - b * (cut (a / b) : Int)
    if r = 0 then signedZero y.isNegative
    else if decide (r < 0) = decide (b < 0) then .finite r
    else ofRat false (r + b)

/-- The value in single precision; magnitudes beyond its range become infinite. -/
def toSingle : Double → Double
  | .nan => .nan
  | .infinity negative => .infinity negative
  | .negZero => .negZero
  | .finite x => Format.single.round x

/-! ## Comparison -/

def eq (x y : Double) : Bool :=
  match x, y with
  | .nan, _ => false
  | _, .nan => false
  | .infinity a, .infinity b => a == b
  | _, _ =>
    match x.value?, y.value? with
    | some a, some b => decide (a = b)
    | _, _ => false

def lt (x y : Double) : Bool :=
  match x, y with
  | .nan, _ => false
  | _, .nan => false
  | .infinity a, .infinity b => a && !b
  | .infinity a, _ => a
  | _, .infinity b => !b
  | _, _ => decide (x.value?.getD 0 < y.value?.getD 0)

def le (x y : Double) : Bool := lt x y || eq x y

/-! ## Whole numbers -/

/-- The double nearest to a whole number, if it is in range. -/
def ofInt? (n : Int) : Option Double :=
  match Format.double.round n with
  | .finite x => some (.finite x)
  | _ => none

/-- The double nearest to a whole number, infinite when out of range. -/
def ofInt (n : Int) : Double := Format.double.round n

/-- The whole number that a finite double is, if it is one. -/
def toInt? (x : Double) : Option Int :=
  match x.value? with
  | some v => if v.den = 1 then some v.num else none
  | none => none

end Double

end StagedRollout
