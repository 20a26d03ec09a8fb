/-
Rounding an exact rational to a binary floating-point format: to the nearest representable value,
a half going to the even neighbour, with gradual underflow and with overflow to infinity.
-/

namespace StagedRollout

/-- A binary floating-point number. A zero reached from below keeps its sign; every other finite
number is its value. -/
inductive Double where
  | nan
  | infinity (negative : Bool)
  | negZero
  | finite (value : Rat)
  deriving DecidableEq

namespace Number

/-! ## Formats -/

/-- A binary format: how many significant digits it keeps, the exponent of its finest step, and
the exponent of the power of two from which on a magnitude is infinite. -/
structure Format where
  digits : Nat
  finest : Int
  top : Nat

/-- The format of ordinary arithmetic. -/
def Format.double : Format := ⟨53, -1074, 1024⟩

/-- The format in which splits and percentages are compared. -/
def Format.single : Format := ⟨24, -149, 128⟩

/-! ## Nearest values -/

/-- The whole number nearest to `n / d`; a half goes to the even neighbour. -/
def roundHalfEven (n d : Nat) : Nat :=
  let q := n / d
  let r := n % d
  if 2 * r < d then q
  else if d < 2 * r then q + 1
  else q + q % 2

/-- The exponent of the leading binary digit of `n / d`, for positive `n` and `d`. -/
def leadingExponent (n d : Nat) : Int :=
  let e : Int := (n.log2 : Int) - (d.log2 : Int)
  if n <<< (-e).toNat < d <<< e.toNat then e - 1 else e

/-- The value `m · 2^e`. -/
def scaled (m : Nat) (e : Int) : Rat := mkRat (m <<< e.toNat : Nat) (1 <<< (-e).toNat)

/-- The exponent of the spacing of the format around `n / d`. -/
def Format.step (f : Format) (n d : Nat) : Int :=
  max f.finest (leadingExponent n d - f.digits + 1)

/-- The multiple of the format's spacing that is nearest to `n / d`. -/
def Format.nearest (f : Format) (n d : Nat) : Rat :=
  if n = 0 then 0
  else
    let e := f.step n d
    scaled (roundHalfEven (n <<< (-e).toNat) (d <<< e.toNat)) e

/-- The floating-point number nearest to a rational. -/
def Format.round (f : Format) (x : Rat) : Double :=
  let m := f.nearest x.num.natAbs x.den
  if (1 <<< f.top : Nat) ≤ m then .infinity (decide (x < 0))
  else if x < 0 then (if m = 0 then .negZero else .finite (-m))
  else .finite m

end Number

end StagedRollout
