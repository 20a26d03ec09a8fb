/-
Magnitudes in single precision: what is kept of a rational that comes as the double nearest to it. From
zero to two, what is kept lies within a fixed margin of the rational; it is kept unchanged a second
time, and in the order of the rationals. Shares of a hundred and sums of splits are such rationals, and
comparisons of them are comparisons of what is kept. What is too large to be kept is infinite.
-/
import StagedRollout.Decision.Evaluate
import StagedRollout.Hash
import StagedRollout.Proofs.Number.Rounding

namespace StagedRollout

open Number

/-! ## Comparison by value -/

namespace Double

theorem lt_of_value {x y : Double} {a b : ℚ} (hx : x.value? = some a) (hy : y.value? = some b) :
    x.lt y = decide (a < b) := by
  cases x <;> cases y <;> simp_all [value?, lt]

theorem eq_of_value {x y : Double} {a b : ℚ} (hx : x.value? = some a) (hy : y.value? = some b) :
    x.eq y = decide (a = b) := by
  cases x <;> cases y <;> simp_all [value?, eq]

theorem le_of_value {x y : Double} {a b : ℚ} (hx : x.value? = some a) (hy : y.value? = some b) :
    x.le y = decide (a ≤ b) := by
  unfold le
  rw [lt_of_value hx hy, eq_of_value hx hy, ← Bool.decide_or, decide_eq_decide]
  exact le_iff_lt_or_eq.symm

/-- A number between zero and one is no infinity. -/
theorem exists_value {x : Double} (h0 : zero.le x = true) (h1 : x.le one = true) :
    ∃ a, x.value? = some a ∧ 0 ≤ a ∧ a ≤ 1 := by
  obtain ⟨a, ha⟩ : ∃ a, x.value? = some a := by
    cases x with
    | nan => cases h0
    | infinity negative =>
      cases negative with
      | false => exact absurd h1 (by decide)
      | true => exact absurd h0 (by decide)
    | negZero => exact ⟨0, rfl⟩
    | finite v => exact ⟨v, rfl⟩
  have hz : zero.value? = some 0 := rfl
  have ho : one.value? = some 1 := rfl
  rw [le_of_value hz ha] at h0
  rw [le_of_value ha ho] at h1
  exact ⟨a, ha, of_decide_eq_true h0, of_decide_eq_true h1⟩

end Double

/-! ## In range -/

namespace Number

/-- The two formats have digits, hold two and reach far beyond it. -/
structure Format.Usual (f : Format) : Prop where
  digits : 0 < f.digits
  two : f.Holds 2
  top : (2 : ℚ) < (1 <<< f.top : ℕ)

theorem Format.usual_double : Format.double.Usual where
  digits := by decide
  two := by simpa using Format.double.holds_two_zpow (e := 1) (by decide)
  top := by exact_mod_cast (by decide : 2 < 1 <<< Format.double.top)

theorem Format.usual_single : Format.single.Usual where
  digits := by decide
  two := by simpa using Format.single.holds_two_zpow (e := 1) (by decide)
  top := by exact_mod_cast (by decide : 2 < 1 <<< Format.single.top)

theorem Format.Usual.nearestTo_le_two {f : Format} (hf : f.Usual) {x : ℚ} (h0 : 0 ≤ x) (h2 : x ≤ 2) :
    f.nearestTo x ≤ 2 :=
  f.nearestTo_le_of_holds hf.digits h0 hf.two h2

theorem Format.Usual.round_eq {f : Format} (hf : f.Usual) {x : ℚ} (h0 : 0 ≤ x) (h2 : x ≤ 2) :
    f.round x = .finite (f.nearestTo x) :=
  f.round_of_nonneg h0 (lt_of_le_of_lt (hf.nearestTo_le_two h0 h2) hf.top)

/-! ## What is kept -/

/-- What single precision keeps of a rational that comes as the double nearest to it. -/
def kept (x : ℚ) : ℚ := Format.single.nearestTo (Format.double.nearestTo x)

/-- How far from a rational below two that may be. -/
def margin : ℚ := 1 / 2 ^ 22

@[simp] theorem kept_zero : kept 0 = 0 := by
  rw [kept, Format.nearestTo_zero, Format.nearestTo_zero]

theorem kept_nonneg {x : ℚ} (hx : 0 ≤ x) : 0 ≤ kept x :=
  Format.single.nearestTo_nonneg (Format.double.nearestTo_nonneg hx)

theorem abs_kept_sub_le {x : ℚ} (h0 : 0 ≤ x) (h2 : x < 2) : |kept x - x| ≤ margin := by
  have hd : |Format.double.nearestTo x - x| ≤ 2 ^ (1 - 53 : ℤ) / 2 :=
    Format.double.abs_nearestTo_sub_le_of_lt h0 (by simpa using h2) (by decide)
  have hle : Format.double.nearestTo x ≤ 2 := Format.usual_double.nearestTo_le_two h0 h2.le
  have hs : |kept x - Format.double.nearestTo x| ≤ 2 ^ (2 - 24 : ℤ) / 2 :=
    Format.single.abs_nearestTo_sub_le_of_lt (Format.double.nearestTo_nonneg h0)
      (lt_of_le_of_lt hle (by norm_num)) (by decide)
  calc |kept x - x|
      ≤ |kept x - Format.double.nearestTo x| + |Format.double.nearestTo x - x| :=
        abs_sub_le _ _ _
    _ ≤ 2 ^ (2 - 24 : ℤ) / 2 + 2 ^ (1 - 53 : ℤ) / 2 := add_le_add hs hd
    _ ≤ margin := by norm_num [margin]

theorem holds_kept {x : ℚ} (hx : 0 ≤ x) : Format.single.Holds (kept x) :=
  Format.single.holds_nearestTo (Format.double.nearestTo_nonneg hx)

/-- Doubles hold all that single precision holds, so what it holds is kept as it is. -/
theorem kept_of_holds {x : ℚ} (h : Format.single.Holds x) : kept x = x := by
  have hd : Format.double.Holds x := by
    obtain ⟨m, e, hm, he, hx⟩ := h
    exact ⟨m, e, hm.trans (Nat.pow_le_pow_right two_pos (by decide)), le_trans (by decide) he, hx⟩
  rw [kept, Format.nearestTo_of_holds Format.usual_double.digits hd,
    Format.nearestTo_of_holds Format.usual_single.digits h]

theorem holds_one : Format.single.Holds 1 := by
  simpa using Format.single.holds_two_zpow (e := 0) (by decide)

theorem holds_zero : Format.single.Holds 0 := by
  simpa using holds_kept (x := 0) le_rfl

theorem kept_mono {x y : ℚ} (hx : 0 ≤ x) (h : x ≤ y) : kept x ≤ kept y :=
  Format.single.nearestTo_mono Format.usual_single.digits (Format.double.nearestTo_nonneg hx)
    (Format.double.nearestTo_mono Format.usual_double.digits hx h)

/-! ## What is stored -/

/-- The least magnitude that is infinite in single precision. -/
def singleTop : ℚ := 2 ^ 128

theorem singleTop_eq : ((1 <<< Format.single.top : ℕ) : ℚ) = singleTop := by
  rw [singleTop]
  exact_mod_cast (by decide : 1 <<< Format.single.top = 2 ^ 128)

theorem Format.single_round {x : ℚ} (hx : 0 ≤ x) :
    Format.single.round x =
      if singleTop ≤ Format.single.nearestTo x then .infinity false
      else .finite (Format.single.nearestTo x) := by
  rw [round_eq_ite hx, singleTop_eq]

/-- A magnitude that comes as the double nearest to it, in single precision: what is kept of it, or
infinite. -/
def stored (x : ℚ) : Double := if singleTop ≤ kept x then .infinity false else .finite (kept x)

theorem toSingle_round {x : ℚ} (hx : 0 ≤ x) : (Format.double.round x).toSingle = stored x := by
  have hd := Format.double.nearestTo_nonneg hx
  rw [Format.round_eq_ite hx]
  split
  · -- what is infinite as a double is so in single precision
    rename_i h
    have htop : Format.single.Holds singleTop := by
      simpa [singleTop] using Format.single.holds_two_zpow (e := 128) (by decide)
    have hle : singleTop ≤ Format.double.nearestTo x := by
      refine le_trans ?_ h
      rw [← singleTop_eq]
      exact_mod_cast (by decide : 1 <<< Format.single.top ≤ 1 <<< Format.double.top)
    have hkept : singleTop ≤ kept x := by
      rw [kept, ← Format.nearestTo_of_holds Format.usual_single.digits htop]
      exact Format.nearestTo_mono Format.usual_single.digits (by norm_num [singleTop]) hle
    rw [stored, if_pos hkept]
    rfl
  · exact Format.single_round hd

theorem stored_of_holds {x : ℚ} (h : Format.single.Holds x) (ht : x < singleTop) :
    stored x = .finite x := by
  rw [stored, kept_of_holds h, if_neg (not_le.2 ht)]

theorem stored_of_le_two {x : ℚ} (h0 : 0 ≤ x) (h2 : x ≤ 2) : stored x = .finite (kept x) := by
  have hle : kept x ≤ 2 := (kept_mono h0 h2).trans_eq (kept_of_holds Format.usual_single.two)
  have htop : (2 : ℚ) < singleTop := by norm_num [singleTop]
  rw [stored, if_neg (not_le.2 (hle.trans_lt htop))]

end Number

/-! ## Doubles in single precision -/

theorem Double.value_toSingle {x : Double} {a : ℚ} (hx : x.value? = some a) (h0 : 0 ≤ a)
    (h2 : a ≤ 2) : x.toSingle.value? = some (Format.single.nearestTo a) := by
  cases x with
  | nan => cases hx
  | infinity negative => cases hx
  | negZero =>
    cases hx
    rw [Format.nearestTo_zero]
    rfl
  | finite v =>
    cases hx
    show (Format.single.round a).value? = _
    rw [Format.usual_single.round_eq h0 h2]
    rfl

theorem Double.toSingle_finite {x : ℚ} (h0 : 0 ≤ x) (h2 : x ≤ 2) :
    (Double.finite x).toSingle = .finite (Format.single.nearestTo x) :=
  Format.usual_single.round_eq h0 h2

theorem Double.toSingle_ofRat {x : ℚ} (hx : 0 ≤ x) : (ofRat false x).toSingle = stored x := by
  unfold ofRat
  split
  · rename_i h
    rw [h, stored_of_le_two le_rfl zero_le_two, kept_zero]
    exact (toSingle_finite le_rfl zero_le_two).trans (by rw [Format.nearestTo_zero])
  · exact toSingle_round hx

/-- The sum of two splits is kept in single precision. -/
theorem Decision.nextTotal_finite {x y : ℚ} (hx : 0 ≤ x) (hy : 0 ≤ y) (h : x + y ≤ 2) :
    nextTotal (.finite x) (.finite y) = .finite (kept (x + y)) := by
  have h0 : 0 ≤ x + y := add_nonneg hx hy
  rw [← stored_of_le_two h0 h]
  exact Double.toSingle_ofRat h0

/-! ## Checked shares -/

theorem Ratio.exists_value (r : Ratio) : ∃ a, r.number.value? = some a ∧ 0 ≤ a ∧ a ≤ 1 := by
  have h := r.inRange
  unfold Value.isRatio at h
  unfold number
  split at h
  · rename_i x hx
    rw [Bool.and_eq_true] at h
    rw [hx, Option.getD_some]
    exact Double.exists_value h.1 h.2
  · cases h

/-- A checked share in single precision. -/
theorem Ratio.single_value {r : Ratio} {a : ℚ} (h : r.number.value? = some a) (h0 : 0 ≤ a)
    (h1 : a ≤ 1) : r.single.value? = some (Format.single.nearestTo a) :=
  Double.value_toSingle h h0 (h1.trans one_le_two)

/-! ## Shares of a hundred -/

theorem Hash.toSingle_share {n : ℕ} (hn : n ≤ 100) :
    (share n).toSingle = .finite (kept (n / 100)) := by
  have h0 : (0 : ℚ) ≤ n / 100 := by positivity
  have h2 : (n : ℚ) / 100 ≤ 2 := by
    have : (n : ℚ) ≤ 100 := by exact_mod_cast hn
    linarith
  have hs : share n = Double.ofRat false (n / 100) := by
    have hneg : ((Double.finite n).isNegative != (Double.finite 100).isNegative) = false := by
      show (decide ((n : ℚ) < 0) != decide ((100 : ℚ) < 0)) = false
      rw [decide_eq_false (not_lt.2 n.cast_nonneg), decide_eq_false (by norm_num)]
      rfl
    show Double.ofRat ((Double.finite n).isNegative != (Double.finite 100).isNegative) _ = _
    rw [hneg]
    rfl
  rw [hs, Double.toSingle_ofRat h0, stored_of_le_two h0 h2]

theorem Hash.bucket_lt (s : String) : bucket s < 100 := Nat.mod_lt _ (by decide)

end StagedRollout
