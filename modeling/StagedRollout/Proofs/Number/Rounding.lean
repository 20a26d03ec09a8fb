/-
Rounding to a binary format as a function of the exact rational. On positive rationals the result is
the multiple of the format's spacing nearest to the argument, the spacing being a power of two that
only grows with it. From that follow the three laws that everything else about rounded numbers rests
on: the error is at most half the spacing, rounding keeps order, and what the format can hold is left
as it is. The order also tells which whole numbers have no double.
-/
import StagedRollout.Number.Arithmetic
import Mathlib.Algebra.Order.Field.Power
import Mathlib.Data.Int.Log
import Mathlib.Data.Rat.Floor
import Mathlib.Tactic.FieldSimp
import Mathlib.Tactic.Linarith
import Mathlib.Tactic.NormNum
import Mathlib.Tactic.Positivity
import Mathlib.Tactic.Ring

namespace StagedRollout

namespace Number

/-! ## The nearest whole number -/

/-- A whole number that no other is nearer to a rational than; if another is as near, the even one. -/
structure IsNearest (q : ℚ) (m : ℕ) : Prop where
  close : |q - m| ≤ 1 / 2
  even : |q - m| = 1 / 2 → Even m

theorem isNearest_natCast (n : ℕ) : IsNearest n n := by
  constructor
  · rw [sub_self, abs_zero]
    norm_num
  · intro h
    rw [sub_self, abs_zero] at h
    norm_num at h

/-- Nearest whole numbers keep order. Two of them in the wrong order would be neighbours, each half a
unit away, and both even. -/
theorem IsNearest.mono {p q : ℚ} {m n : ℕ} (hm : IsNearest p m) (hn : IsNearest q n) (h : p ≤ q) :
    m ≤ n := by
  obtain ⟨hm₁, hm₂⟩ := abs_le.1 hm.close
  obtain ⟨hn₁, hn₂⟩ := abs_le.1 hn.close
  by_contra hlt
  have hle : (n : ℚ) + 1 ≤ m := by exact_mod_cast Nat.lt_of_not_le hlt
  have hp : p - m = -(1 / 2) := by linarith
  have hq : q - n = 1 / 2 := by linarith
  have hnext : m = n + 1 := by
    have : (m : ℚ) = n + 1 := by linarith
    exact_mod_cast this
  have hem : Even m := hm.even (by rw [hp, abs_neg]; norm_num)
  have hen : Even n := hn.even (by rw [hq]; norm_num)
  rw [hnext] at hem
  exact (Nat.even_add_one.1 hem) hen

theorem isNearest_roundHalfEven (n : ℕ) {d : ℕ} (hd : 0 < d) :
    IsNearest (n / d) (roundHalfEven n d) := by
  have hd' : (0 : ℚ) < d := by exact_mod_cast hd
  have hr : n % d < d := Nat.mod_lt n hd
  -- the distance from the quotient is the remainder, as a part of the divisor
  have hsplit : (n : ℚ) / d = (n / d : ℕ) + (n % d : ℕ) / d := by
    have : (n : ℚ) = d * (n / d : ℕ) + (n % d : ℕ) := by exact_mod_cast (Nat.div_add_mod n d).symm
    field_simp
    linarith
  have hpos : (0 : ℚ) ≤ (n % d : ℕ) / d := by positivity
  have hdouble : 2 * ((n % d : ℕ) / d : ℚ) = (2 * (n % d) : ℕ) / d := by push_cast; ring
  unfold roundHalfEven
  simp only
  split
  · rename_i hlow
    have hx : 2 * ((n % d : ℕ) / d : ℚ) < 1 := by
      rw [hdouble, div_lt_one hd']
      exact_mod_cast hlow
    have hdist : |(n : ℚ) / d - (n / d : ℕ)| < 1 / 2 := by
      rw [hsplit, add_sub_cancel_left, abs_of_nonneg hpos]
      linarith
    exact ⟨hdist.le, fun h => absurd h hdist.ne⟩
  · split
    · rename_i hhigh
      have hx : 1 < 2 * ((n % d : ℕ) / d : ℚ) := by
        rw [hdouble, one_lt_div hd']
        exact_mod_cast hhigh
      have hx' : ((n % d : ℕ) / d : ℚ) < 1 := by
        rw [div_lt_one hd']
        exact_mod_cast hr
      have hdist : |(n : ℚ) / d - (n / d + 1 : ℕ)| < 1 / 2 := by
        rw [hsplit, abs_lt]
        push_cast
        constructor <;> linarith
      exact ⟨hdist.le, fun h => absurd h hdist.ne⟩
    · rename_i hlow hhigh
      -- a tie: the remainder is half the divisor
      have htie : 2 * (n % d) = d := by omega
      have hx : ((n % d : ℕ) / d : ℚ) = 1 / 2 := by
        have : 2 * ((n % d : ℕ) / d : ℚ) = 1 := by rw [hdouble, htie, div_self hd'.ne']
        linarith
      have heven : Even (n / d + n / d % 2) := by
        rcases Nat.even_or_odd (n / d) with h | h
        · rw [Nat.even_iff.1 h]; exact h
        · rw [Nat.odd_iff.1 h]; exact h.add_one
      refine ⟨?_, fun _ => heven⟩
      rw [hsplit, hx]
      rcases Nat.mod_two_eq_zero_or_one (n / d) with h | h <;> rw [h] <;> push_cast <;>
        rw [abs_le] <;> constructor <;> linarith

/-! ## Scales -/

theorem two_zpow_pos (e : ℤ) : (0 : ℚ) < 2 ^ e := zpow_pos (by norm_num) e

/-- A power of two as the quotient of its two halves, one of which is one. -/
theorem two_pow_div (e : ℤ) : (2 : ℚ) ^ e.toNat / 2 ^ (-e).toNat = 2 ^ e := by
  rw [← zpow_natCast, ← zpow_natCast, ← zpow_sub₀ (by norm_num)]
  congr 1
  omega

theorem scaled_eq (m : ℕ) (e : ℤ) : scaled m e = m * 2 ^ e := by
  unfold scaled
  rw [Rat.mkRat_eq_div, Nat.shiftLeft_eq, Nat.shiftLeft_eq, ← two_pow_div e]
  push_cast
  ring

/-- Scaling numerator and denominator to the place of the power of two. -/
theorem shifted_div (n d : ℕ) (e : ℤ) :
    ((n <<< (-e).toNat : ℕ) : ℚ) / (d <<< e.toNat : ℕ) = n / d / 2 ^ e := by
  rw [Nat.shiftLeft_eq, Nat.shiftLeft_eq, ← two_pow_div e]
  push_cast
  field_simp

theorem log_eq {q : ℚ} {e : ℤ} (hlow : 2 ^ e ≤ q) (hhigh : q < 2 ^ (e + 1)) : Int.log 2 q = e := by
  have hq : 0 < q := lt_of_lt_of_le (two_zpow_pos e) hlow
  have hle : e ≤ Int.log 2 q := (Int.zpow_le_iff_le_log one_lt_two hq).1 (by exact_mod_cast hlow)
  have hlt : Int.log 2 q < e + 1 := (Int.lt_zpow_iff_log_lt one_lt_two hq).1 (by exact_mod_cast hhigh)
  omega

/-- The exponent of the leading digit is the whole part of the logarithm. -/
theorem leadingExponent_eq {n d : ℕ} (hn : 0 < n) (hd : 0 < d) :
    leadingExponent n d = Int.log 2 ((n : ℚ) / d) := by
  have hd' : (0 : ℚ) < d := by exact_mod_cast hd
  have hn₁ : (2 : ℚ) ^ (n.log2 : ℤ) ≤ n := by exact_mod_cast Nat.log2_self_le hn.ne'
  have hn₂ : (n : ℚ) < 2 ^ ((n.log2 : ℤ) + 1) := by exact_mod_cast Nat.lt_log2_self
  have hd₁ : (2 : ℚ) ^ (d.log2 : ℤ) ≤ d := by exact_mod_cast Nat.log2_self_le hd.ne'
  have hd₂ : (d : ℚ) < 2 ^ ((d.log2 : ℤ) + 1) := by exact_mod_cast Nat.lt_log2_self
  -- the quotient is within a factor of two of the quotient of the leading powers
  have hlow : (2 : ℚ) ^ ((n.log2 : ℤ) - d.log2 - 1) < n / d := by
    rw [lt_div_iff₀ hd']
    calc (2 : ℚ) ^ ((n.log2 : ℤ) - d.log2 - 1) * d
        < 2 ^ ((n.log2 : ℤ) - d.log2 - 1) * 2 ^ ((d.log2 : ℤ) + 1) :=
          mul_lt_mul_of_pos_left hd₂ (two_zpow_pos _)
      _ = 2 ^ (n.log2 : ℤ) := by rw [← zpow_add₀ (by norm_num)]; congr 1; ring
      _ ≤ n := hn₁
  have hhigh : (n : ℚ) / d < 2 ^ ((n.log2 : ℤ) - d.log2 + 1) := by
    rw [div_lt_iff₀ hd']
    calc (n : ℚ) < 2 ^ ((n.log2 : ℤ) + 1) := hn₂
      _ = 2 ^ ((n.log2 : ℤ) - d.log2 + 1) * 2 ^ (d.log2 : ℤ) := by
        rw [← zpow_add₀ (by norm_num)]; congr 1; ring
      _ ≤ 2 ^ ((n.log2 : ℤ) - d.log2 + 1) * d := mul_le_mul_of_nonneg_left hd₁ (two_zpow_pos _).le
  -- and the test says on which side of it
  have htest : n <<< (-((n.log2 : ℤ) - d.log2)).toNat < d <<< ((n.log2 : ℤ) - d.log2).toNat ↔
      (n : ℚ) / d < 2 ^ ((n.log2 : ℤ) - d.log2) := by
    have hshift : 0 < d <<< ((n.log2 : ℤ) - d.log2).toNat := by
      rw [Nat.shiftLeft_eq]
      positivity
    rw [← div_lt_one (two_zpow_pos _), ← shifted_div, div_lt_one (by exact_mod_cast hshift)]
    exact_mod_cast Iff.rfl
  unfold leadingExponent
  simp only
  split
  · rename_i h
    exact (log_eq hlow.le (by simpa using htest.1 h)).symm
  · rename_i h
    exact (log_eq (not_lt.1 fun hl => h (htest.2 hl)) hhigh).symm

/-! ## The nearest number of a format -/

namespace Format

variable (f : Format)

/-- The exponent of the spacing of the format around a rational. -/
def spacing (x : ℚ) : ℤ := max f.finest (Int.log 2 x - f.digits + 1)

/-- The number of the format nearest to the magnitude of a rational, as if there were no largest. -/
def nearestTo (x : ℚ) : ℚ := f.nearest x.num.natAbs x.den

@[simp] theorem nearestTo_zero : f.nearestTo 0 = 0 := by
  show f.nearest 0 1 = 0
  rw [nearest, if_pos rfl]

/-- A positive rational goes to the nearest multiple of the spacing around it. -/
theorem nearestTo_eq {x : ℚ} (hx : 0 < x) :
    ∃ m : ℕ, IsNearest (x / 2 ^ f.spacing x) m ∧ f.nearestTo x = m * 2 ^ f.spacing x := by
  have hn : 0 < x.num.natAbs := Int.natAbs_pos.2 (Rat.num_pos.2 hx).ne'
  have hfrac : (x.num.natAbs : ℚ) / x.den = x := by
    have : ((x.num.natAbs : ℤ) : ℚ) = x.num := by rw [Int.natAbs_of_nonneg (Rat.num_pos.2 hx).le]
    rw [← Int.cast_natCast, this, Rat.num_div_den]
  have hs : f.step x.num.natAbs x.den = f.spacing x := by
    rw [step, spacing, leadingExponent_eq hn x.den_pos, hfrac]
  have hd : 0 < x.den <<< (f.spacing x).toNat := by
    rw [Nat.shiftLeft_eq]
    exact Nat.mul_pos x.den_pos (by positivity)
  have hm := isNearest_roundHalfEven (x.num.natAbs <<< (-f.spacing x).toNat) hd
  rw [shifted_div, hfrac] at hm
  refine ⟨_, hm, ?_⟩
  rw [nearestTo, nearest, if_neg hn.ne']
  simp only
  rw [hs, scaled_eq]

theorem nearestTo_nonneg {x : ℚ} (hx : 0 ≤ x) : 0 ≤ f.nearestTo x := by
  rcases hx.eq_or_lt with rfl | hx
  · rw [nearestTo_zero]
  · obtain ⟨m, -, h⟩ := f.nearestTo_eq hx
    rw [h]
    exact mul_nonneg (Nat.cast_nonneg m) (two_zpow_pos _).le

/-! ### Error -/

theorem abs_nearestTo_sub_le {x : ℚ} (hx : 0 < x) :
    |f.nearestTo x - x| ≤ 2 ^ f.spacing x / 2 := by
  obtain ⟨m, hm, h⟩ := f.nearestTo_eq hx
  have hp : (0 : ℚ) < 2 ^ f.spacing x := two_zpow_pos _
  have hdiff : f.nearestTo x - x = -(x / 2 ^ f.spacing x - m) * 2 ^ f.spacing x := by
    rw [h]
    field_simp
    ring
  rw [hdiff, abs_mul, abs_neg, abs_of_pos hp]
  linarith [mul_le_mul_of_nonneg_right hm.close hp.le]

/-- Below a power of two the spacing is at most that of the digits just below it. -/
theorem spacing_le {x : ℚ} {e : ℤ} (hx : 0 < x) (he : x < 2 ^ e) (hf : f.finest ≤ e - f.digits) :
    f.spacing x ≤ e - f.digits := by
  have hlog : Int.log 2 x < e := (Int.lt_zpow_iff_log_lt one_lt_two hx).1 (by exact_mod_cast he)
  unfold spacing
  omega

/-- The error below a power of two. -/
theorem abs_nearestTo_sub_le_of_lt {x : ℚ} {e : ℤ} (hx : 0 ≤ x) (he : x < 2 ^ e)
    (hf : f.finest ≤ e - f.digits) : |f.nearestTo x - x| ≤ 2 ^ (e - f.digits) / 2 := by
  rcases hx.eq_or_lt with rfl | hx
  · rw [nearestTo_zero, sub_self, abs_zero]
    exact (half_pos (two_zpow_pos _)).le
  · have hle : (2 : ℚ) ^ f.spacing x ≤ 2 ^ (e - f.digits) :=
      zpow_le_zpow_right₀ one_le_two (f.spacing_le hx he hf)
    linarith [f.abs_nearestTo_sub_le hx]

/-! ### What the format can hold -/

/-- The numbers of the format: few enough digits on a step that is not too fine. -/
def Holds (x : ℚ) : Prop := ∃ (m : ℕ) (e : ℤ), m ≤ 2 ^ f.digits ∧ f.finest ≤ e ∧ x = m * 2 ^ e

/-- A multiple of a power of two is a multiple of any smaller one. -/
theorem exists_multiple (m : ℕ) {e s : ℤ} (h : s ≤ e) : ∃ k : ℕ, (m : ℚ) * 2 ^ e = k * 2 ^ s := by
  refine ⟨m * 2 ^ (e - s).toNat, ?_⟩
  have he : e = ((e - s).toNat : ℤ) + s := by omega
  conv_lhs => rw [he, zpow_add₀ (by norm_num), zpow_natCast]
  push_cast
  ring

theorem holds_two_zpow {e : ℤ} (he : f.finest ≤ e) : f.Holds (2 ^ e) :=
  ⟨1, e, Nat.one_le_two_pow, he, by rw [Nat.cast_one, one_mul]⟩

theorem holds_nearestTo {x : ℚ} (hx : 0 ≤ x) : f.Holds (f.nearestTo x) := by
  rcases hx.eq_or_lt with rfl | hx
  · exact ⟨0, f.finest, Nat.zero_le _, le_rfl, by rw [nearestTo_zero, Nat.cast_zero, zero_mul]⟩
  · obtain ⟨m, hm, h⟩ := f.nearestTo_eq hx
    refine ⟨m, f.spacing x, ?_, le_max_left _ _, h⟩
    have hlog : x < 2 ^ (Int.log 2 x + 1) := by exact_mod_cast Int.lt_zpow_succ_log_self one_lt_two x
    have hexp : Int.log 2 x + 1 ≤ (f.digits : ℤ) + f.spacing x := by
      unfold spacing
      omega
    have hlt : x / 2 ^ f.spacing x ≤ (2 ^ f.digits : ℕ) := by
      rw [div_le_iff₀ (two_zpow_pos _)]
      calc x ≤ 2 ^ (Int.log 2 x + 1) := hlog.le
        _ ≤ 2 ^ ((f.digits : ℤ) + f.spacing x) := zpow_le_zpow_right₀ one_le_two hexp
        _ = (2 ^ f.digits : ℕ) * 2 ^ f.spacing x := by
          rw [zpow_add₀ (by norm_num), zpow_natCast]
          push_cast
          rfl
    exact hm.mono (isNearest_natCast _) hlt

variable {f}

/-- A number of the format is a multiple of the spacing around it. Only the power of two that a carry
leads to lies on a coarser step than it is written with. -/
theorem Holds.multiple {x : ℚ} (hf : 0 < f.digits) (h : f.Holds x) (hx : 0 < x) :
    ∃ k : ℕ, x = k * 2 ^ f.spacing x := by
  obtain ⟨m, e, hm, he, hv⟩ := h
  rcases le_or_gt (f.spacing x) e with hs | hs
  · obtain ⟨k, hk⟩ := exists_multiple m hs
    exact ⟨k, by rw [← hk, ← hv]⟩
  · have hle : x ≤ 2 ^ ((f.digits : ℤ) + e) := by
      rw [hv, zpow_add₀ (by norm_num), zpow_natCast]
      exact mul_le_mul_of_nonneg_right (by exact_mod_cast hm) (two_zpow_pos e).le
    have hlow : (2 : ℚ) ^ Int.log 2 x ≤ x := by exact_mod_cast Int.zpow_log_le_self one_lt_two hx
    have hlog : Int.log 2 x ≤ (f.digits : ℤ) + e :=
      (zpow_le_zpow_iff_right₀ one_lt_two).1 (hlow.trans hle)
    have hexp : Int.log 2 x = (f.digits : ℤ) + e := by
      unfold spacing at hs
      omega
    rw [hexp] at hlow
    have hx' : x = (1 : ℕ) * 2 ^ ((f.digits : ℤ) + e) := by
      rw [Nat.cast_one, one_mul]
      exact le_antisymm hle hlow
    have hs' : f.spacing x ≤ (f.digits : ℤ) + e := by
      unfold spacing
      omega
    obtain ⟨k, hk⟩ := exists_multiple 1 hs'
    exact ⟨k, by rw [← hk, ← hx']⟩

/-- A multiple of the spacing stays as it is. -/
theorem nearestTo_of_multiple {x : ℚ} (hx : 0 < x) {k : ℕ} (h : x = k * 2 ^ f.spacing x) :
    f.nearestTo x = x := by
  obtain ⟨m, hm, hv⟩ := f.nearestTo_eq hx
  have hk : x / 2 ^ f.spacing x = k := by rw [div_eq_iff (two_zpow_pos _).ne']; exact h
  rw [hk] at hm
  have hmk : m = k := le_antisymm (hm.mono (isNearest_natCast k) le_rfl)
    ((isNearest_natCast k).mono hm le_rfl)
  rw [hv, hmk, ← h]

/-- Rounding leaves the numbers of the format as they are. -/
theorem nearestTo_of_holds {x : ℚ} (hf : 0 < f.digits) (h : f.Holds x) : f.nearestTo x = x := by
  have hx : 0 ≤ x := by
    obtain ⟨m, e, -, -, rfl⟩ := h
    exact mul_nonneg (Nat.cast_nonneg m) (two_zpow_pos e).le
  rcases hx.eq_or_lt with rfl | hx
  · exact f.nearestTo_zero
  · obtain ⟨k, hk⟩ := h.multiple hf hx
    exact nearestTo_of_multiple hx hk

/-! ### Order -/

/-- Rounding does not go past a multiple of the spacing around the argument. -/
theorem nearestTo_le_multiple {x v : ℚ} (hx : 0 < x) {k : ℕ} (hv : v = k * 2 ^ f.spacing x)
    (h : x ≤ v) : f.nearestTo x ≤ v := by
  obtain ⟨m, hm, hr⟩ := f.nearestTo_eq hx
  have hk : x / 2 ^ f.spacing x ≤ k := by rw [div_le_iff₀ (two_zpow_pos _), ← hv]; exact h
  rw [hr, hv]
  exact mul_le_mul_of_nonneg_right (by exact_mod_cast hm.mono (isNearest_natCast k) hk)
    (two_zpow_pos _).le

theorem multiple_le_nearestTo {x v : ℚ} (hx : 0 < x) {k : ℕ} (hv : v = k * 2 ^ f.spacing x)
    (h : v ≤ x) : v ≤ f.nearestTo x := by
  obtain ⟨m, hm, hr⟩ := f.nearestTo_eq hx
  have hk : (k : ℚ) ≤ x / 2 ^ f.spacing x := by rw [le_div_iff₀ (two_zpow_pos _), ← hv]; exact h
  rw [hr, hv]
  exact mul_le_mul_of_nonneg_right (by exact_mod_cast (isNearest_natCast k).mono hm hk)
    (two_zpow_pos _).le

/-- Rounding keeps order. Where the spacing grows from one argument to the other, the power of two
from which on it does lies between them and belongs to either grid. -/
theorem nearestTo_mono (hf : 0 < f.digits) {x y : ℚ} (hx : 0 ≤ x) (h : x ≤ y) :
    f.nearestTo x ≤ f.nearestTo y := by
  rcases hx.eq_or_lt with rfl | hx
  · rw [nearestTo_zero]
    exact f.nearestTo_nonneg h
  have hy : 0 < y := lt_of_lt_of_le hx h
  have hlog : Int.log 2 x ≤ Int.log 2 y := Int.log_mono_right hx h
  rcases eq_or_ne (f.spacing x) (f.spacing y) with hs | hs
  · obtain ⟨m, hm, hmx⟩ := f.nearestTo_eq hx
    obtain ⟨n, hn, hny⟩ := f.nearestTo_eq hy
    rw [hs] at hm hmx
    have hq : x / 2 ^ f.spacing y ≤ y / 2 ^ f.spacing y :=
      div_le_div_of_nonneg_right h (two_zpow_pos _).le
    rw [hmx, hny]
    exact mul_le_mul_of_nonneg_right (by exact_mod_cast hm.mono hn hq) (two_zpow_pos _).le
  · have hgrow : Int.log 2 x < Int.log 2 y ∧ f.spacing x ≤ Int.log 2 y ∧
        f.spacing y ≤ Int.log 2 y := by
      unfold spacing at hs ⊢
      omega
    have hxv : x ≤ 2 ^ Int.log 2 y := by
      have hlt : x < 2 ^ (Int.log 2 x + 1) := by exact_mod_cast Int.lt_zpow_succ_log_self one_lt_two x
      exact hlt.le.trans (zpow_le_zpow_right₀ one_le_two (by omega))
    have hvy : 2 ^ Int.log 2 y ≤ y := by exact_mod_cast Int.zpow_log_le_self one_lt_two hy
    obtain ⟨k, hk⟩ := exists_multiple 1 hgrow.2.1
    obtain ⟨l, hl⟩ := exists_multiple 1 hgrow.2.2
    rw [Nat.cast_one, one_mul] at hk hl
    exact (nearestTo_le_multiple hx hk hxv).trans (multiple_le_nearestTo hy hl hvy)

/-- Rounding stays below a number of the format that its argument is below. -/
theorem nearestTo_le_of_holds (hf : 0 < f.digits) {x v : ℚ} (hx : 0 ≤ x) (hv : f.Holds v)
    (h : x ≤ v) : f.nearestTo x ≤ v :=
  (nearestTo_mono hf hx h).trans_eq (nearestTo_of_holds hf hv)

/-! ### Floating-point numbers -/

/-- The floating-point number nearest to a magnitude is infinite from the format's top on. -/
theorem round_eq_ite {x : ℚ} (hx : 0 ≤ x) : f.round x =
    if ((1 <<< f.top : ℕ) : ℚ) ≤ f.nearestTo x then .infinity false else .finite (f.nearestTo x) := by
  unfold round nearestTo
  simp only
  rw [decide_eq_false (not_lt.2 hx), if_neg (not_lt.2 hx)]

/-- In range, the floating-point number nearest to a magnitude is that number of the format. -/
theorem round_of_nonneg {x : ℚ} (hx : 0 ≤ x) (h : f.nearestTo x < (1 <<< f.top : ℕ)) :
    f.round x = .finite (f.nearestTo x) := by
  rw [f.round_eq_ite hx, if_neg (not_le.2 h)]

/-! ### Range -/

theorem nearest_le_nearest {a b : ℕ} (h : a ≤ b) : double.nearest a 1 ≤ double.nearest b 1 := by
  have hmono : double.nearestTo a ≤ double.nearestTo b :=
    nearestTo_mono (by decide) (Nat.cast_nonneg a) (by exact_mod_cast h)
  exact hmono

/-- The least whole number that has no double. It lies half a step above the largest double, and the
half goes to the power of two that is out of range. -/
def beyond : ℕ := 2 ^ 1024 - 2 ^ 970

theorem nearest_beyond : double.nearest beyond 1 = (1 <<< double.top : ℕ) := by decide +kernel

theorem nearest_below_beyond : double.nearest (beyond - 1) 1 < (1 <<< double.top : ℕ) := by
  decide +kernel

theorem top_le_nearest {n : ℕ} : (1 <<< double.top : ℕ) ≤ double.nearest n 1 ↔ beyond ≤ n := by
  constructor
  · intro h
    by_contra hn
    have hle : n ≤ beyond - 1 := Nat.le_sub_one_of_lt (not_le.1 hn)
    exact absurd ((nearest_le_nearest hle).trans_lt nearest_below_beyond) (not_lt.2 h)
  · intro h
    rw [← nearest_beyond]
    exact nearest_le_nearest h

end Format

end Number

theorem Double.ofInt?_eq_none {n : ℤ} : ofInt? n = none ↔ Number.Format.beyond ≤ n.natAbs := by
  rw [← Number.Format.top_le_nearest]
  -- a negative number does not come out as the zero that has no value of its own
  have hpos : n < 0 → Number.Format.double.nearest n.natAbs 1 ≠ 0 := fun hn h => by
    have hone : Number.Format.double.nearest 1 1 = 1 := by decide +kernel
    have hle := Number.Format.nearest_le_nearest (Int.natAbs_pos.2 hn.ne)
    rw [hone, h] at hle
    exact absurd hle (by decide)
  unfold ofInt? Number.Format.round
  simp only [Rat.num_intCast, Rat.den_intCast, Int.cast_lt_zero]
  split_ifs with h hn hz
  · simp [h]
  · exact absurd hz (hpos hn)
  · simp [h, hz]
  · simp [h]

theorem Double.round_of_ofInt? {n : ℤ} {x : Double} (h : ofInt? n = some x) :
    Number.Format.double.round n = x := by
  unfold ofInt? at h
  split at h
  · rename_i hr
    cases h
    exact hr
  · cases h

end StagedRollout
