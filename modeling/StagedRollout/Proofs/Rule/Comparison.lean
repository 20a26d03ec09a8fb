/-
Comparisons of two operands and of three. With three operands `<` and `<=` hold if they hold of the
first two and of the last two, and the last two are compared only if the first two compare as they
should. `>` and `>=` turn two operands round; a third one they evaluate and then leave aside, so it
bounds nothing.
-/
import StagedRollout.Proofs.Rule.Evaluation

namespace StagedRollout.Rule

variable {data p q r a b c : Value}

/-! ## Two comparisons -/

/-- What two comparisons come to together, if the second one is made only after the first one held. -/
structure IsConjunction (first second both : Except Fault Value) : Prop where
  true_iff : both = .ok (.bool true) ↔ first = .ok (.bool true) ∧ second = .ok (.bool true)
  false_iff : both = .ok (.bool false) ↔
    first = .ok (.bool false) ∨ first = .ok (.bool true) ∧ second = .ok (.bool false)
  error_iff : ∀ e, both = .error e ↔
    first = .error e ∨ first = .ok (.bool true) ∧ second = .error e

/-- The truth value that a comparison comes to. -/
def answer (x : Except Fault Bool) : Except Fault Value := do return .bool (← x)

theorem isConjunction_answer (x y : Except Fault Bool) :
    IsConjunction (answer x) (answer y) (answer (do if ← x then y else return false)) := by
  cases x with
  | error e => constructor <;> simp [answer, bind, Except.bind]
  | ok first => cases first <;> constructor <;> simp [answer, bind, Except.bind, pure, Except.pure]

/-! ## Operations -/

/-- Ascending comparisons are made pair by pair. -/
theorem isConjunction_of_chain {name : Text} {op : Operation}
    {compare : Value → Value → Except Fault Bool} (hop : Operation.ofName? name = some op)
    (hrun : ∀ args, op.run data args = answer (chain compare args))
    (hp : apply data p = .ok a) (hq : apply data q = .ok b) (hr : apply data r = .ok c) :
    IsConjunction (apply data (binary name p q)) (apply data (binary name q r))
      (apply data (operation name [p, q, r])) := by
  have hthree := apply_of_name hop (.cons hp (.cons hq (.cons hr .nil)))
  rw [apply_binary hop hp hq, apply_binary hop hq hr, hthree, hrun, hrun, hrun]
  exact isConjunction_answer (compare a b) (compare b c)

/-- Descending comparisons are ascending ones turned round, and see two operands only. -/
theorem descending_eq {name turned : Text} {op op' : Operation}
    (hop : Operation.ofName? name = some op) (hop' : Operation.ofName? turned = some op')
    (hrun : ∀ x y rest, op.run data (x :: y :: rest) = op'.run data [y, x])
    (hp : apply data p = .ok a) (hq : apply data q = .ok b) (hr : apply data r = .ok c) :
    apply data (operation name [p, q, r]) = apply data (binary name p q) ∧
      apply data (binary name p q) = apply data (binary turned q p) := by
  have hthree := apply_of_name hop (.cons hp (.cons hq (.cons hr .nil)))
  rw [hthree, apply_binary hop hp hq, apply_binary hop' hq hp, hrun, hrun]
  exact ⟨rfl, rfl⟩

/-- Three operands in order. The ascending comparisons of three come to what the comparisons of the
first two and of the last two come to together; the descending ones come to what that of the first two
comes to, which is the ascending one of these two turned round. -/
theorem comparisons_of_three (hp : apply data p = .ok a) (hq : apply data q = .ok b)
    (hr : apply data r = .ok c) :
    (∀ name ∈ ["<", "<="], IsConjunction (apply data (binary name p q))
      (apply data (binary name q r)) (apply data (operation name [p, q, r]))) ∧
    ∀ names ∈ [(">", "<"), (">=", "<=")],
      apply data (operation names.1 [p, q, r]) = apply data (binary names.1 p q) ∧
        apply data (binary names.1 p q) = apply data (binary names.2 q p) := by
  have hless : Operation.ofName? "<" = some .less := rfl
  have hlessOrEqual : Operation.ofName? "<=" = some .lessOrEqual := rfl
  have hgreater : Operation.ofName? ">" = some .greater := rfl
  have hgreaterOrEqual : Operation.ofName? ">=" = some .greaterOrEqual := rfl
  constructor
  · refine List.forall_mem_cons.2 ⟨?_, List.forall_mem_singleton.2 ?_⟩
    · exact isConjunction_of_chain hless (fun _ => rfl) hp hq hr
    · exact isConjunction_of_chain hlessOrEqual (fun _ => rfl) hp hq hr
  · refine List.forall_mem_cons.2 ⟨?_, List.forall_mem_singleton.2 ?_⟩
    · exact descending_eq hgreater hless (fun _ _ _ => rfl) hp hq hr
    · exact descending_eq hgreaterOrEqual hlessOrEqual (fun _ _ _ => rfl) hp hq hr

/-- An age between two bounds: in ascending order both of them count. -/
theorem comparisons_of_three_on_age :
    let data : Value := .object [(.text "age", .int 25)]
    let age : Value := operation "var" [.text "age"]
    apply data age = .ok (.int 25) ∧
      apply data (operation "<=" [.int 18, age, .int 30]) = .ok (.bool true) ∧
      apply data (operation "<" [.int 18, age, .text "20"]) = .ok (.bool false) := by
  intro data age
  have hage : apply data age = .ok (.int 25) := rfl
  have h18 : apply data (.int 18) = .ok (.int 18) := apply_literal rfl
  have h30 : apply data (.int 30) = .ok (.int 30) := apply_literal rfl
  have h20 : apply data (.text "20") = .ok (.text "20") := apply_literal rfl
  have hwithin := (comparisons_of_three h18 hage h30).1 "<=" (by decide)
  have hbeyond := (comparisons_of_three h18 hage h20).1 "<" (by decide)
  refine ⟨hage, hwithin.true_iff.2 ⟨?_, ?_⟩, hbeyond.false_iff.2 (.inr ⟨?_, ?_⟩)⟩
  · rfl
  · rfl
  · rfl
  · rfl

/-- Descending, a third operand bounds nothing: two numbers that fall are as good as three that do not,
and it is not even asked to be a number. -/
theorem last_of_three_descending_is_ignored :
    let falls (name : Text) (z : Value) : Prop :=
      apply .null (operation name [.int 3, .int 2, z]) = .ok (.bool true)
    (falls ">" (.int 5) ∧ apply .null (binary ">" (.int 2) (.int 5)) = .ok (.bool false)) ∧
      (falls ">=" (.int 5) ∧ apply .null (binary ">=" (.int 2) (.int 5)) = .ok (.bool false)) ∧
      falls ">" (.list []) ∧ ¬ IsConjunction (apply .null (binary ">" (.int 3) (.int 2)))
        (apply .null (binary ">" (.int 2) (.int 5)))
        (apply .null (operation ">" [.int 3, .int 2, .int 5])) := by
  intro falls
  have hsecond : apply .null (binary ">" (.int 2) (.int 5)) = .ok (.bool false) := rfl
  refine ⟨⟨rfl, hsecond⟩, ⟨rfl, rfl⟩, rfl, fun h => ?_⟩
  have htrue := (h.true_iff.1 rfl).2
  rw [hsecond] at htrue
  cases htrue

end StagedRollout.Rule
