/-
What is missing, against the look-up. A key is absent if its look-up comes to null or to the empty text.
`missing` comes to the absent keys, as often as they are named and in their order. `missing_some` comes
to nothing if as many of the keys as needed are there, and else to the same keys; so to need more never
makes an answer empty, and to need all keys is to ask for every missing one.
-/
import StagedRollout.Proofs.Number.Single
import StagedRollout.Proofs.Rule.Evaluation

namespace StagedRollout.Rule

/-- The look-up of a key. -/
def lookupOf (key : Text) : Value := operation "var" [.text key]

/-- The keys of which it is asked which are missing. -/
def missingOf (keys : List Text) : Value := operation "missing" (keys.map .text)

/-- The same of keys that stand in a list of their own. -/
def missingOfList (keys : List Text) : Value := operation "missing" [.list (keys.map .text)]

/-- The keys of which some number is needed. -/
def missingSome (need : Nat) (keys : List Text) : Value :=
  operation "missing_some" [.int need, .list (keys.map .text)]

/-! ## Absent keys -/

/-- A key whose look-up comes to null or to the empty text. -/
def IsAbsent (data : Value) (key : Text) : Prop :=
  apply data (lookupOf key) = .ok .null ∨ apply data (lookupOf key) = .ok (.text "")

variable {data : Value}

theorem apply_lookupOf (key : Text) :
    apply data (lookupOf key) = .ok ((lookup? data (.text key)).getD .null) := by
  have hop : Operation.ofName? "var" = some .lookup := rfl
  have hkey : apply data (.text key) = .ok (.text key) := apply_literal rfl
  rw [lookupOf, apply_of_name hop (.cons hkey .nil)]
  rfl

theorem isMissing_iff {key : Text} : isMissing data (.text key) = true ↔ IsAbsent data key := by
  rw [IsAbsent, apply_lookupOf, isMissing]
  cases lookup? data (.text key) with
  | none => simp
  | some v => cases v <;> simp

instance : DecidablePred (IsAbsent data) := fun _ => decidable_of_iff _ isMissing_iff

/-- The absent ones among some keys, in their order. -/
def absentKeys (data : Value) (keys : List Text) : List Text := keys.filter (IsAbsent data ·)

/-- How many of some keys are there. -/
def presentCount (data : Value) (keys : List Text) : Nat := keys.countP (¬ IsAbsent data ·)

theorem presentCount_add (data : Value) (keys : List Text) :
    presentCount data keys + (absentKeys data keys).length = keys.length := by
  have h := List.length_eq_countP_add_countP (IsAbsent data ·) (l := keys)
  rw [absentKeys, ← List.countP_eq_length_filter, presentCount]
  simp only [decide_eq_true_eq] at h
  omega

/-! ## The operations -/

theorem runMissing_list (keys : List Text) :
    runMissing data [.list (keys.map .text)] = (absentKeys data keys).map .text := by
  show (keys.map Value.text).filter (isMissing data) = _
  rw [List.filter_map, absentKeys]
  congr 1
  refine List.filter_congr fun key _ => ?_
  rw [Bool.eq_iff_iff, decide_eq_true_eq]
  exact isMissing_iff

/-- Texts as operands are themselves the keys. -/
theorem runMissing_texts (keys : List Text) :
    runMissing data (keys.map .text) = (absentKeys data keys).map .text := by
  rw [← runMissing_list]
  match keys with
  | [] => rfl
  | [_] => rfl
  | _ :: _ :: _ => rfl

theorem apply_texts (keys : List Text) :
    List.Forall₂ (fun rule v => apply data rule = .ok v) (keys.map .text) (keys.map .text) := by
  refine List.forall₂_same.2 (List.forall_mem_map.2 fun key _ => ?_)
  exact apply_literal rfl

theorem apply_textList (keys : List Text) :
    apply data (.list (keys.map .text)) = .ok (.list (keys.map .text)) := by
  rw [apply_list, applyAll_eq, mapM_ok_iff.2 (apply_texts keys)]
  rfl

theorem apply_missingOf (keys : List Text) :
    apply data (missingOf keys) = .ok (.list ((absentKeys data keys).map .text)) := by
  have hop : Operation.ofName? "missing" = some .missing := rfl
  rw [missingOf, apply_of_name hop (apply_texts keys), ← runMissing_texts]
  rfl

theorem apply_missingOfList (keys : List Text) :
    apply data (missingOfList keys) = .ok (.list ((absentKeys data keys).map .text)) := by
  have hop : Operation.ofName? "missing" = some .missing := rfl
  rw [missingOfList, apply_of_name hop (.cons (apply_textList keys) .nil), ← runMissing_list]
  rfl

theorem runMissingSome_eq (need : Nat) (keys : List Text) :
    runMissingSome data [.int need, .list (keys.map .text)] =
      .ok (if need ≤ presentCount data keys then [] else (absentKeys data keys).map .text) := by
  have hcount := presentCount_add data keys
  have hpresent : ((keys.map Value.text).length : Int) -
      ((absentKeys data keys).map Value.text).length = presentCount data keys := by
    rw [List.length_map, List.length_map]
    omega
  have hle : (Double.finite (need : Int)).le (.finite (presentCount data keys : Int)) =
      decide (need ≤ presentCount data keys) := by
    rw [Double.le_of_value rfl rfl, decide_eq_decide]
    exact_mod_cast Iff.rfl
  show (.ok (if (Double.finite (need : Int)).le (.finite
    (((keys.map Value.text).length : Int) - (runMissing data [.list (keys.map .text)]).length : Int))
      then [] else runMissing data [.list (keys.map .text)]) : Except Fault (List Value)) = _
  rw [runMissing_list, hpresent, hle]
  congr 1
  by_cases h : need ≤ presentCount data keys <;> simp [h]

theorem apply_missingSome (need : Nat) (keys : List Text) :
    apply data (missingSome need keys) = .ok (.list
      (if need ≤ presentCount data keys then [] else (absentKeys data keys).map .text)) := by
  have hop : Operation.ofName? "missing_some" = some .missingSome := rfl
  have hneed : apply data (.int need) = .ok (.int need) := apply_literal rfl
  rw [missingSome, apply_of_name hop (.cons hneed (.cons (apply_textList keys) .nil))]
  show (do return Value.list (← runMissingSome data [.int need, .list (keys.map .text)])) = _
  rw [runMissingSome_eq]
  rfl

/-! ## Agreement -/

/-- The look-up and the two questions what is missing agree, on any data and keys. The missing keys are
the absent ones, whether the keys are the operands or stand in a list. Where some number of keys is
needed and as many are there, none is given out, otherwise all the absent ones are; an answer that is
not empty stays so if more are needed; and if all keys are needed it is that of what is missing. -/
theorem missing_agrees_with_lookup (data : Value) (keys : List Text) :
    apply data (missingOf keys) = .ok (.list ((absentKeys data keys).map .text)) ∧
    apply data (missingOfList keys) = apply data (missingOf keys) ∧
    (∀ need, presentCount data keys ≥ need →
      apply data (missingSome need keys) = .ok (.list [])) ∧
    (∀ need, presentCount data keys < need →
      apply data (missingSome need keys) = apply data (missingOf keys)) ∧
    (∀ need more, need ≤ more → apply data (missingSome need keys) ≠ .ok (.list []) →
      apply data (missingSome more keys) ≠ .ok (.list [])) ∧
    apply data (missingSome keys.length keys) = apply data (missingOf keys) := by
  have hcount := presentCount_add data keys
  simp only [apply_missingOf, apply_missingOfList, apply_missingSome]
  refine ⟨trivial, trivial, fun need h => ?_, fun need h => ?_, fun need more h hne => ?_, ?_⟩
  · rw [if_pos h]
  · rw [if_neg (Nat.not_le.2 h)]
  · have hneed : ¬ need ≤ presentCount data keys := fun hn => hne (by rw [if_pos hn])
    have hmore : ¬ more ≤ presentCount data keys := fun hm => hneed (h.trans hm)
    rw [if_neg hneed] at hne
    rwa [if_neg hmore]
  · by_cases h : keys.length ≤ presentCount data keys
    · -- all keys are there, so that none is absent
      have hnone : absentKeys data keys = [] := List.length_eq_zero_iff.1 (by omega)
      rw [if_pos h, hnone]
      rfl
    · rw [if_neg h]

/-- Of an age and a plan asked for twice the age is there and the plan is empty: one of them is enough,
two are not, nor are three. -/
theorem missing_agrees_with_lookup_on_repeated_key :
    let data : Value := .object [(.text "age", .int 25), (.text "plan", .text "")]
    let keys := ["plan", "age", "plan"]
    let plans : Value := .list [.text "plan", .text "plan"]
    apply data (missingOf keys) = .ok plans ∧
      (presentCount data keys ≥ 1 ∧ apply data (missingSome 1 keys) = .ok (.list [])) ∧
      (presentCount data keys < 2 ∧ apply data (missingSome 2 keys) = .ok plans) ∧
      apply data (missingSome 2 keys) ≠ .ok (.list []) ∧
      apply data (missingSome 3 keys) ≠ .ok (.list []) := by
  intro data keys plans
  obtain ⟨hmissing, -, henough, hfew, hmore, -⟩ := missing_agrees_with_lookup data keys
  have habsent : absentKeys data keys = ["plan", "plan"] := by decide
  have hpresent : presentCount data keys = 1 := by decide
  rw [habsent] at hmissing
  have htwo : apply data (missingSome 2 keys) = .ok plans :=
    (hfew 2 (by rw [hpresent]; decide)).trans hmissing
  have hne : apply data (missingSome 2 keys) ≠ .ok (.list []) := by
    rw [htwo]
    simp [plans]
  exact ⟨hmissing, ⟨hpresent.ge, henough 1 hpresent.ge⟩, ⟨by rw [hpresent]; decide, htwo⟩, hne,
    hmore 2 3 (by decide) hne⟩

end StagedRollout.Rule
