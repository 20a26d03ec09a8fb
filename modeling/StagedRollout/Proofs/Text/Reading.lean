/-
Reading text: the parts that separators cut it into, which are the only ones without a separator that
make up the text again, and whole numbers, of which each is read from its own decimal.
-/
import StagedRollout.Text.Numeral
import StagedRollout.Proofs.Text.Points

namespace StagedRollout.Text

/-! ## Parts -/

/-- The parts of a text: none holds the separator, and joined by separators they are the text. -/
structure IsSplit (sep : Char) (s : Text) (parts : List Text) : Prop where
  ne_nil : parts ≠ []
  plain : ∀ part ∈ parts, .char sep ∉ part.points
  joined : intercalate (String.singleton sep) parts = s

theorem points_singleton (sep : Char) : points (String.singleton sep) = [.char sep] := by
  rw [points, String.toList_singleton]
  rfl

theorem points_intercalate (sep : Text) (parts : List Text) :
    (intercalate sep parts).points = sep.points.intercalate (parts.map points) := by
  induction parts with
  | nil => rfl
  | cons s rest ih =>
    cases rest with
    | nil => simp [intercalate]
    | cons t more =>
      rw [intercalate, points_append, points_append, ih]
      · simp [List.intercalate]
      · simp

theorem splitList_eq {α : Type} [DecidableEq α] (sep : α) (cs : List α) :
    splitList sep cs = cs.splitOn sep := by
  induction cs with
  | nil => rfl
  | cons c rest ih =>
    rw [splitList, ih, List.splitOn_cons_eq_if_modifyHead]
    by_cases h : c = sep
    · simp [h]
    · cases hs : rest.splitOn sep with
      | nil => exact absurd hs (List.splitOn_ne_nil sep rest)
      | cons part parts => simp [h]

theorem not_mem_of_mem_splitList {α : Type} [DecidableEq α] {sep : α} {cs part : List α}
    (h : part ∈ splitList sep cs) : sep ∉ part := by
  induction cs generalizing part with
  | nil =>
    rw [List.mem_singleton.1 h]
    exact List.not_mem_nil
  | cons c rest ih =>
    unfold splitList at h
    split at h
    · rcases List.mem_cons.1 h with rfl | h
      · exact List.not_mem_nil
      · exact ih h
    · rename_i hc
      split at h
      · rename_i first parts hs
        rcases List.mem_cons.1 h with rfl | h
        · exact List.not_mem_cons_of_ne_of_not_mem (Ne.symm hc) (ih (hs ▸ List.mem_cons_self))
        · exact ih (hs ▸ List.mem_cons_of_mem first h)
      · rw [List.mem_singleton.1 h]
        exact List.not_mem_cons_of_ne_of_not_mem (Ne.symm hc) List.not_mem_nil

theorem split_eq_iff {sep : Char} {s : Text} {parts : List Text} :
    split sep s = parts ↔ IsSplit sep s parts := by
  constructor
  · rintro rfl
    refine ⟨?_, fun part hp => ?_, ?_⟩
    · rw [split, splitList_eq]
      simp
    · obtain ⟨ps, hps, rfl⟩ := List.mem_map.1 hp
      rw [points_ofPoints]
      exact not_mem_of_mem_splitList hps
    · have hid : points ∘ ofPoints = id := funext points_ofPoints
      rw [← points_inj, points_intercalate, points_singleton, split, splitList_eq, List.map_map,
        hid, List.map_id]
      exact List.intercalate_splitOn _
  · rintro ⟨hne, hplain, rfl⟩
    have hparts : ∀ ps ∈ parts.map points, Point.char sep ∉ ps := List.forall_mem_map.2 hplain
    have hmap : parts.map points ≠ [] := by simpa using hne
    have hid : ofPoints ∘ points = id := funext ofPoints_points
    rw [split, splitList_eq, points_intercalate, points_singleton,
      List.splitOn_intercalate _ hparts hmap, List.map_map, hid, List.map_id]

/-! ## Whole numbers -/

theorem dropWhile_of_none {p : Char → Bool} {cs : List Char} (h : ∀ c ∈ cs, p c = false) :
    cs.dropWhile p = cs := by
  cases cs with
  | nil => rfl
  | cons c rest =>
    exact List.dropWhile_cons_of_neg (ne_true_of_eq_false (h c List.mem_cons_self))

theorem plainNumeral_of_plain {s : Text}
    (h : ∀ c ∈ s.chars, c.toNat < 0x80 ∧ isPlainSpace c = false) : plainNumeral s = s.chars := by
  have hmap : s.chars.map plainChar = s.chars.map id :=
    List.map_congr_left fun c hc => if_pos (h c hc).1
  have hspace : ∀ c ∈ s.chars, isPlainSpace c = false := fun c hc => (h c hc).2
  unfold plainNumeral trimList
  rw [hmap, List.map_id, dropWhile_of_none hspace, dropWhile_of_none, List.reverse_reverse]
  exact fun c hc => hspace c (List.mem_reverse.1 hc)

theorem joinDigits?_of_digits {base : Nat} {cs : List Char} (hne : cs ≠ [])
    (h : ∀ c ∈ cs, isDigitOf base c = true ∧ c ≠ '_') : joinDigits? base cs = some cs := by
  induction cs with
  | nil => exact absurd rfl hne
  | cons c rest ih =>
    obtain ⟨⟨hc, -⟩, hrest⟩ := List.forall_mem_cons.1 h
    cases rest with
    | nil => rw [joinDigits?, if_pos hc]
    | cons d more =>
      have hd : d ≠ '_' := (hrest d List.mem_cons_self).2
      rw [joinDigits?, if_pos hc, ih (List.cons_ne_nil _ _) hrest]
      · rfl
      all_goals simp [hd]

theorem dropMark_of_none {base : Nat} (h : baseMark? base = none) (cs : List Char) :
    dropMark base cs = cs := by
  unfold dropMark
  split
  · rw [h, if_neg nofun]
  · rfl

section Decimal

variable {ds : List Char} (h : ∀ c ∈ ds, c.isDigit = true)

theorem isDigit_iff {c : Char} : c.isDigit = true ↔ 0x30 ≤ c.toNat ∧ c.toNat ≤ 0x39 := by
  unfold Char.isDigit
  rw [Bool.and_eq_true, decide_eq_true_eq, decide_eq_true_eq]
  exact Iff.rfl

theorem digitValue_of_isDigit {c : Char} (hc : c.isDigit = true) : digitValue c = c.toNat - 0x30 :=
  if_pos (isDigit_iff.1 hc)

include h

theorem digitsValue_eq : digitsValue 10 ds = Nat.ofDigitChars 10 ds 0 := by
  rw [digitsValue, Nat.ofDigitChars_eq_foldl]
  refine List.foldl_ext _ _ 0 fun n c hc => ?_
  rw [digitValue_of_isDigit (h c hc), Nat.mul_comm]
  rfl

theorem splitSign_of_digits (negative : Bool) :
    splitSign (if negative then '-' :: ds else ds) = (negative, ds) := by
  cases negative with
  | true => rfl
  | false =>
    show splitSign ds = (false, ds)
    unfold splitSign
    split
    · exact absurd (h '-' List.mem_cons_self) (by decide)
    · exact absurd (h '+' List.mem_cons_self) (by decide)
    · rfl

/-- A row of digits, with a minus before it or not, is the number they make. -/
theorem readInt?_of_digits (negative : Bool) (hne : ds ≠ []) :
    readInt? 10 (String.ofList (if negative then '-' :: ds else ds)) =
      some (if negative then -(digitsValue 10 ds : Int) else digitsValue 10 ds) := by
  have hdigit : ∀ c ∈ ds, c.toNat < 0x80 ∧ isPlainSpace c = false := by
    intro c hc
    have hrange := isDigit_iff.1 (h c hc)
    refine ⟨by omega, ?_⟩
    have hspace : c ≠ ' ' := by
      rintro rfl
      exact absurd hrange.1 (by decide)
    simp only [isPlainSpace, hspace, decide_false, Bool.false_or, Bool.and_eq_false_iff,
      decide_eq_false_iff_not]
    omega
  have hplain : plainNumeral (String.ofList (if negative then '-' :: ds else ds)) =
      if negative then '-' :: ds else ds := by
    rw [plainNumeral_of_plain, chars_plain, String.toList_ofList]
    rw [chars_plain, String.toList_ofList]
    cases negative with
    | true => exact List.forall_mem_cons.2 ⟨by decide, hdigit⟩
    | false => exact hdigit
  have hjoin : joinDigits? 10 ds = some ds := by
    refine joinDigits?_of_digits hne fun c hc => ⟨?_, ?_⟩
    · have hrange := isDigit_iff.1 (h c hc)
      rw [isDigitOf, digitValue_of_isDigit (h c hc), decide_eq_true_eq]
      omega
    · rintro rfl
      exact absurd (h '_' hc) (by decide)
  rw [readInt?, hplain, splitSign_of_digits h]
  show Option.map _ (joinDigits? 10 (dropMark 10 ds)) = _
  rw [dropMark_of_none rfl, hjoin]
  rfl

end Decimal

/-- Every whole number is read from its decimal. -/
theorem readInt?_toString (i : Int) : readInt? 10 (toString i) = some i := by
  have hdigits : ∀ n : Nat, ∀ c ∈ Nat.toDigits 10 n, c.isDigit = true := fun n c hc =>
    Nat.isDigit_of_mem_toDigits (by decide) (by decide) hc
  have hvalue : ∀ n : Nat, digitsValue 10 (Nat.toDigits 10 n) = n := fun n => by
    rw [digitsValue_eq (hdigits n), Nat.ofDigitChars_toDigits (by decide) (by decide)]
  cases i with
  | ofNat n =>
    have h := readInt?_of_digits (hdigits n) false Nat.toDigits_ne_nil
    rw [hvalue] at h
    exact h
  | negSucc n =>
    have htext : toString (Int.negSucc n) = String.ofList ('-' :: Nat.toDigits 10 (n + 1)) := by
      show "-" ++ toString (n + 1) = _
      rw [Nat.toString_eq_ofList_toDigits, ← String.toList_inj]
      simp
    have h := readInt?_of_digits (hdigits (n + 1)) true Nat.toDigits_ne_nil
    rw [hvalue] at h
    rw [htext]
    exact h

end StagedRollout.Text
