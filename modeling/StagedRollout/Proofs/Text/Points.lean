/-
A text is its code points: it is made from them again, joining texts joins them, and texts are in the
order of their numbers, in which different texts differ.
-/
import StagedRollout.Text.Basic
import Mathlib.Data.List.Basic

namespace StagedRollout

/-! ## Numbers -/

theorem Point.number_inj {p q : Point} : p.number = q.number ↔ p = q := by
  refine ⟨fun h => ?_, fun h => h ▸ rfl⟩
  have hrange : ∀ (c : Char) (half : Surrogate), c.toNat ≠ half.number := by
    intro c half
    have hc : c.toNat.isValidChar := c.valid
    have hhalf := half.index.isLt
    unfold Surrogate.number
    rcases hc with hc | ⟨hc, -⟩ <;> omega
  match p, q, h with
  | .char c, .char d, h => rw [Char.toNat_inj.1 h]
  | .char c, .lone half, h => exact absurd h (hrange c half)
  | .lone half, .char c, h => exact absurd h.symm (hrange c half)
  | .lone a, .lone b, h =>
    have hindex : a.index = b.index := Fin.ext (Nat.add_left_cancel h)
    rw [show a = b from congrArg Surrogate.mk hindex]

namespace Text

/-! ## Code points -/

theorem points_ofPointsAfter (before : List Char) (ps : List Point) :
    (ofPointsAfter before ps).points = before.reverse.map .char ++ ps := by
  induction ps generalizing before with
  | nil => simp [ofPointsAfter, points]
  | cons p rest ih =>
    cases p with
    | char c => simp [ofPointsAfter, ih]
    | lone half => simp [ofPointsAfter, points, ih]

/-- The code points of a text made from code points. -/
@[simp] theorem points_ofPoints (ps : List Point) : (ofPoints ps).points = ps :=
  points_ofPointsAfter [] ps

theorem ofPointsAfter_chars (before cs : List Char) (ps : List Point) :
    ofPointsAfter before (cs.map .char ++ ps) = ofPointsAfter (cs.reverse ++ before) ps := by
  induction cs generalizing before with
  | nil => rfl
  | cons c rest ih =>
    rw [List.map_cons, List.cons_append, ofPointsAfter, ih]
    simp

/-- A text is made from its code points. -/
@[simp] theorem ofPoints_points (s : Text) : ofPoints s.points = s := by
  induction s with
  | plain s =>
    have h := ofPointsAfter_chars [] s.toList []
    rw [List.append_nil] at h
    rw [ofPoints, points, h]
    simp [ofPointsAfter]
  | broken s half rest ih =>
    rw [ofPoints, points, ofPointsAfter_chars, ofPointsAfter]
    rw [ofPoints] at ih
    simp [ih]

theorem points_inj {s t : Text} : s.points = t.points ↔ s = t :=
  ⟨fun h => by rw [← ofPoints_points s, h, ofPoints_points], fun h => h ▸ rfl⟩

theorem points_after (s : String) (t : Text) :
    (t.after s).points = s.toList.map .char ++ t.points := by
  cases t <;> simp [after, points]

@[simp] theorem points_append (s t : Text) : (s ++ t).points = s.points ++ t.points := by
  show (s.append t).points = _
  induction s with
  | plain s => exact points_after s t
  | broken s half rest ih => simp [append, points, ih]

/-! ## Characters -/

@[simp] theorem chars_plain (s : String) : (plain s).chars = s.toList := by
  have hshown : Point.shown ∘ Point.char = id := rfl
  rw [chars, points, List.map_map, hshown, List.map_id]

@[simp] theorem chars_append (s t : Text) : (s ++ t).chars = s.chars ++ t.chars := by
  rw [chars, points_append, List.map_append]
  rfl

theorem length_chars (s : Text) : s.chars.length = s.length := List.length_map _

/-- What is shown as itself is in a text as a character. -/
theorem mem_chars {c : Char} (hc : c ≠ '\ufffd') {s : Text} : c ∈ s.chars ↔ .char c ∈ s.points := by
  rw [chars, List.mem_map]
  constructor
  · rintro ⟨p, hp, hshown⟩
    cases p with
    | char d => exact (hshown : d = c) ▸ hp
    | lone half => exact absurd hshown.symm hc
  · exact fun h => ⟨_, h, rfl⟩

/-! ## Order -/

theorem numbers_inj {s t : Text} : s.numbers = t.numbers ↔ s = t := by
  rw [← points_inj]
  exact (List.map_injective_iff.2 fun _ _ => Point.number_inj.1).eq_iff

/-- Texts that neither come before the other are one text. -/
theorem eq_of_not_lt {s t : Text} (h : ¬ s < t) (h' : ¬ t < s) : s = t :=
  numbers_inj.1 (List.le_antisymm h' h)

theorem not_lt_total (s t : Text) : ¬ s < t ∨ ¬ t < s :=
  (List.le_total t.numbers s.numbers)

theorem not_lt_trans {s t u : Text} (h : ¬ t < s) (h' : ¬ u < t) : ¬ u < s :=
  List.le_trans h h'

end Text

end StagedRollout
