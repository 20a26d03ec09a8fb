/-
Lower-casing of a text that is in lower case. No run of the case table leads to a code point that a run
starts from, so the characters of a lowered text stay as they are: lowering a text a second time
changes nothing.
-/
import StagedRollout.Text.Lowercase

namespace StagedRollout.Text

/-! ## Runs -/

/-- The first code point that a run leads to. -/
def CaseRun.low (run : CaseRun) : Nat := (run.first + run.shift).toNat

/-- The last code point that a run leads to. -/
def CaseRun.high (run : CaseRun) : Nat := (run.last + run.shift).toNat

/-- The code points that a run leads to lie beside another run: before it, behind it, or between its
strides. -/
def CaseRun.leadsBeside (run other : CaseRun) : Bool :=
  run.high.blt other.first || other.last.blt run.low ||
    ((run.stride == 2 || run.first == run.last) && other.stride == 2 &&
      0 != run.low && (run.low + other.first) % 2 == 1)

theorem CaseRun.lower?_eq_none {run other : CaseRun} (h : run.leadsBeside other = true) {n m : Nat}
    (hn : run.lower? n = some m) : other.lower? m = none := by
  simp only [leadsBeside, Bool.or_eq_true, Bool.and_eq_true, Nat.blt_eq, beq_iff_eq, bne_iff_ne,
    low, high] at h
  unfold lower? at *
  split at hn
  · rename_i hr
    cases hn
    refine if_neg fun ho => ?_
    rcases h with (h | h) | ⟨⟨⟨hs, hother⟩, h0⟩, h⟩
    · omega
    · omega
    · rw [hother] at ho
      rcases hs with hs | hs
      · rw [hs] at hr
        omega
      · omega
  · cases hn

/-- The runs of the table, and the capital I with a dot above. -/
def upperRuns : List CaseRun := ⟨0x130, 0x130, 1, -199⟩ :: caseRuns

theorem leadsBeside_upperRuns :
    (caseRuns.all fun run => upperRuns.all run.leadsBeside) = true := by decide +kernel

/-- The letters from A to Z are the only code points of ASCII in the table. -/
theorem caseRuns_ascii : ∃ rest, caseRuns = ⟨0x41, 0x5a, 1, 32⟩ :: rest ∧
    ∀ run ∈ rest, 0x80 ≤ run.first := by
  have hrest : (caseRuns.tail.all fun run => Nat.ble 0x80 run.first) = true := by decide +kernel
  exact ⟨caseRuns.tail, rfl, fun run hr => Nat.le_of_ble_eq_true (List.all_eq_true.1 hrest run hr)⟩

/-! ## Characters -/

/-- A character that no lower-case form differs from. -/
def IsLower (c : Char) : Prop := ∀ run ∈ upperRuns, run.lower? c.toNat = none

/-- Whether no run starts from a code point. -/
def isLowerCode (n : Nat) : Bool := upperRuns.all fun run => (run.lower? n).isNone

theorem isLowerCode_iff {n : Nat} :
    isLowerCode n = true ↔ ∀ run ∈ upperRuns, run.lower? n = none := by
  rw [isLowerCode, List.all_eq_true]
  simp only [Option.isNone_iff_eq_none]

instance (c : Char) : Decidable (IsLower c) := decidable_of_iff _ isLowerCode_iff

theorem findSome?_ascii {n : Nat} (h : n < 0x80) : caseRuns.findSome? (·.lower? n) =
    if 0x41 ≤ n ∧ n ≤ 0x5a then some (n + 32) else none := by
  obtain ⟨rest, hruns, hbeyond⟩ := caseRuns_ascii
  have hrest : rest.findSome? (·.lower? n) = none :=
    List.findSome?_eq_none_iff.2 fun run hr => if_neg fun hin => by
      have := hbeyond run hr
      omega
  have hfirst : CaseRun.lower? ⟨0x41, 0x5a, 1, 32⟩ n =
      if 0x41 ≤ n ∧ n ≤ 0x5a then some (n + 32) else none := by
    have hshift : ((n : Int) + 32).toNat = n + 32 := by omega
    simp [CaseRun.lower?, Nat.mod_one, hshift]
  rw [hruns, List.findSome?_cons, hrest, hfirst]
  by_cases hin : 0x41 ≤ n ∧ n ≤ 0x5a
  · simp only [if_pos hin]
  · simp only [if_neg hin]

theorem lowerChar_eq (c : Char) :
    lowerChar c = ((caseRuns.findSome? (·.lower? c.toNat)).map Char.ofNat).getD c := by
  unfold lowerChar
  split
  · rename_i hc
    rw [findSome?_ascii hc]
    have hletter : ('A' ≤ c ∧ c ≤ 'Z') ↔ 0x41 ≤ c.toNat ∧ c.toNat ≤ 0x5a := Iff.rfl
    by_cases h : 0x41 ≤ c.toNat ∧ c.toNat ≤ 0x5a
    · rw [if_pos (hletter.2 h), if_pos h]
      rfl
    · rw [if_neg fun h' => h (hletter.1 h'), if_neg h]
      rfl
  · cases caseRuns.findSome? (·.lower? c.toNat) <;> rfl

theorem toNat_ofNat (n : Nat) : (Char.ofNat n).toNat = n ∨ (Char.ofNat n).toNat = 0 := by
  unfold Char.ofNat
  by_cases h : n.isValidChar
  · rw [dif_pos h]
    exact .inl rfl
  · rw [dif_neg h]
    exact .inr rfl

theorem isLower_lowerChar {c : Char} (hc : c ≠ 'İ') : IsLower (lowerChar c) := by
  rw [lowerChar_eq]
  cases hf : caseRuns.findSome? (·.lower? c.toNat) with
  | none =>
    have hdotted : CaseRun.lower? ⟨0x130, 0x130, 1, -199⟩ c.toNat = none := by
      refine if_neg fun h => hc (Char.toNat_inj.1 ?_)
      exact Nat.le_antisymm h.2.1 h.1
    exact List.forall_mem_cons.2 ⟨hdotted, List.findSome?_eq_none_iff.1 hf⟩
  | some n =>
    obtain ⟨run, hr, hn⟩ := List.exists_of_findSome?_eq_some hf
    have hbeside := List.all_eq_true.1 (List.all_eq_true.1 leadsBeside_upperRuns run hr)
    intro other ho
    show other.lower? (Char.ofNat n).toNat = none
    rcases toNat_ofNat n with h | h
    · rw [h]
      exact CaseRun.lower?_eq_none (hbeside other ho) hn
    · have hzero : isLowerCode 0 = true := by decide +kernel
      rw [h]
      exact isLowerCode_iff.1 hzero other ho

theorem IsLower.lowerChar_eq {c : Char} (h : IsLower c) : lowerChar c = c := by
  have hnone : caseRuns.findSome? (·.lower? c.toNat) = none :=
    List.findSome?_eq_none_iff.2 (List.forall_mem_cons.1 h).2
  rw [Text.lowerChar_eq, hnone]
  rfl

theorem IsLower.lowerBetween_eq {c : Char} (h : IsLower c) (before after : List Char) :
    lowerBetween before c after = [c] := by
  have hsigma : c ≠ 'Σ' := by
    rintro rfl
    exact absurd h (by decide +kernel)
  have hdotted : c ≠ 'İ' := by
    rintro rfl
    exact absurd h (by decide +kernel)
  rw [lowerBetween, if_neg hsigma, if_neg hdotted, h.lowerChar_eq]

theorem isLower_lowerBetween {before after : List Char} {c : Char} :
    ∀ d ∈ lowerBetween before c after, IsLower d := by
  have hsigmas : IsLower 'ς' ∧ IsLower 'σ' := by decide +kernel
  have hdotted : IsLower 'i' ∧ IsLower '\u0307' := by decide +kernel
  unfold lowerBetween
  split
  · refine List.forall_mem_singleton.2 ?_
    split
    · exact hsigmas.1
    · exact hsigmas.2
  · split
    · exact List.forall_mem_cons.2 ⟨hdotted.1, List.forall_mem_singleton.2 hdotted.2⟩
    · rename_i hc
      exact List.forall_mem_singleton.2 (isLower_lowerChar hc)

/-! ## Texts -/

theorem isLower_lowerFrom (before cs : List Char) : ∀ d ∈ lowerFrom before cs, IsLower d := by
  induction cs generalizing before with
  | nil => exact fun d hd => by cases hd
  | cons c after ih =>
    rw [lowerFrom]
    exact List.forall_mem_append.2 ⟨isLower_lowerBetween, ih (c :: before)⟩

theorem lowerFrom_of_isLower {cs : List Char} (h : ∀ c ∈ cs, IsLower c) (before : List Char) :
    lowerFrom before cs = cs := by
  induction cs generalizing before with
  | nil => rfl
  | cons c after ih =>
    obtain ⟨hc, hafter⟩ := List.forall_mem_cons.1 h
    rw [lowerFrom, hc.lowerBetween_eq, ih hafter]
    rfl

theorem lowerString_lowerString (s : String) : lowerString (lowerString s) = lowerString s := by
  have h := lowerFrom_of_isLower (isLower_lowerFrom [] s.toList) []
  unfold lowerString
  rw [String.toList_ofList, h]

/-- A text in lower case is left as it is. -/
theorem lower_lower (s : Text) : s.lower.lower = s.lower := by
  induction s with
  | plain s => exact congrArg plain (lowerString_lowerString s)
  | broken s half rest ih =>
    rw [lower, lower, lowerString_lowerString, ih]

end StagedRollout.Text
