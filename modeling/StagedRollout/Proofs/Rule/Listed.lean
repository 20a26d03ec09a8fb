/-
The older form of targeting: values that properties must have. Properties match if they have a value
under each of the listed keys that meets the listed one, texts in any letter case. Nothing is also met
by nothing: a listed null asks for no more than that no other value be there.
-/
import StagedRollout.Rule.Match
import StagedRollout.Proofs.Outcome
import StagedRollout.Proofs.Value.Same

namespace StagedRollout.Rule

/-! ## One value -/

/-- An actual value meets a listed one: texts by their lower-case forms, other values as equals. -/
inductive Meets : Value → Value → Prop
  | text {s t : Text} (h : Text.lower s = Text.lower t) : Meets (.text s) (.text t)
  | same {e a : Value} (h : e.same a = true) : Meets e a

theorem hasListed_iff {e a : Value} : hasListed e a = true ↔ Meets e a := by
  constructor
  · intro h
    unfold hasListed at h
    split at h
    · exact .same (Value.same_null_left.2 rfl)
    · cases h
    · cases h
    · exact .text (beq_iff_eq.1 h)
    · exact .same h
  · intro h
    cases h with
    | text h => exact beq_iff_eq.2 h
    | same h =>
      unfold hasListed
      split
      · rfl
      · rename_i hne
        exact absurd (Value.same_null_left.1 h) hne
      · rename_i hne
        exact absurd (Value.same_null_right.1 h) hne
      · exact beq_iff_eq.2 (congrArg Text.lower (Value.same_text.1 h))
      · exact h

/-- Null is met by null alone. -/
theorem meets_null_iff {e : Value} : Meets e .null ↔ e = .null := by
  rw [← hasListed_iff]
  cases e <;> simp [hasListed]

/-! ## All listed values -/

/-- Properties have a value under a listed key that meets the listed one. -/
def HasRow (properties : Members) (row : Key × Value) : Prop :=
  ∃ a, Table.find? properties row.1 = some a ∧ Meets row.2 a

/-- Nothing is listed under a key, and nothing is there. -/
def LacksRow (properties : Members) (row : Key × Value) : Prop :=
  row.2 = .null ∧ Table.find? properties row.1 = none

theorem hasAllListed_iff {definition properties : Members} :
    hasAllListed definition properties = true ↔
      ∀ row ∈ definition, HasRow properties row ∨ LacksRow properties row := by
  unfold hasAllListed HasRow LacksRow
  rw [List.all_eq_true]
  refine forall₂_congr fun row _ => ?_
  rw [hasListed_iff]
  cases Table.find? properties row.1 with
  | none => simp [meets_null_iff]
  | some a => simp

theorem matchesListed_object (definition members : Members) :
    matchesListed (.object definition) (.object members) = .ok (hasAllListed definition members) := by
  rfl

/-- Properties that are neither null nor an object are never asked if nothing is listed. -/
theorem matchesListed_other {properties : Value} (hn : properties ≠ .null)
    (ho : ∀ members, properties ≠ .object members) (definition : Members) :
    matchesListed (.object definition) properties =
      if definition = [] then .ok true else .error .noMembers := by
  cases properties with
  | null => exact absurd rfl hn
  | object members => exact absurd rfl (ho members)
  | _ => cases definition <;> rfl

/-- What a definition comes to on any properties. It matches exactly if there are properties and every
listed key has a value that meets the listed one, or nothing is listed under it and nothing is there.
It comes to an answer on every object and on null, and on other properties only if it is empty. -/
theorem listed_values_are_met (definition : Members) (properties : Value) :
    (matchesListed (.object definition) properties = .ok true ↔
      properties ≠ .null ∧ ∀ row ∈ definition, ∃ members, properties = .object members ∧
        (HasRow members row ∨ LacksRow members row)) ∧
    (Returns (matchesListed (.object definition) properties) ↔
      properties = .null ∨ (∃ members, properties = .object members) ∨ definition = []) := by
  by_cases hn : properties = .null
  · subst hn
    exact ⟨⟨nofun, fun h => absurd rfl h.1⟩, fun _ => .inl rfl, fun _ => returns_ok false⟩
  by_cases ho : ∃ members, properties = .object members
  · obtain ⟨members, rfl⟩ := ho
    rw [matchesListed_object, Except.ok.injEq, hasAllListed_iff]
    refine ⟨⟨fun h => ⟨hn, fun row hr => ⟨members, rfl, h row hr⟩⟩, fun h row hr => ?_⟩,
      fun _ => .inr (.inl ⟨members, rfl⟩), fun _ => returns_ok _⟩
    obtain ⟨_, he, hrow⟩ := h.2 row hr
    cases he
    exact hrow
  · rw [matchesListed_other hn fun members he => ho ⟨members, he⟩]
    -- what is listed first is looked up in vain, and nothing is looked up for an empty definition
    cases definition with
    | nil =>
      refine ⟨⟨fun _ => ⟨hn, fun _ hr => ?_⟩, fun _ => rfl⟩, fun _ => .inr (.inr rfl), fun _ => ?_⟩
      · cases hr
      · exact returns_ok true
    | cons row rest =>
      rw [if_neg (List.cons_ne_nil row rest)]
      refine ⟨⟨nofun, fun h => ?_⟩, fun h => ?_, fun h => ?_⟩
      · obtain ⟨members, he, -⟩ := h.2 row List.mem_cons_self
        exact absurd ⟨members, he⟩ ho
      · obtain ⟨_, h⟩ := h
        cases h
      · rcases h with h | h | h
        · exact absurd h hn
        · exact absurd h ho
        · cases h

/-- Properties without a plan match a definition that lists a plan that is null. -/
theorem absent_plan_meets_null :
    let definition : Members := [(.text "plan", .null)]
    matchesListed (.object definition) (.object []) = .ok true ∧
      ¬ ∀ row ∈ definition, HasRow [] row := by
  refine ⟨rfl, fun h => ?_⟩
  obtain ⟨a, ha, -⟩ := h _ List.mem_cons_self
  cases ha

end StagedRollout.Rule
