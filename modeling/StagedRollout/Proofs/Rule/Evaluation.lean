/-
Evaluation by the shape of a rule. A rule is a literal, a list of rules or an operation on its
operands, and what it comes to follows from what its parts come to; a proof about every rule is an
induction over these three shapes.
-/
import StagedRollout.Rule.Match
import StagedRollout.Proofs.Outcome

namespace StagedRollout.Rule

/-! ## Shapes -/

/-- The operands in a member's value. -/
def operands : Value → List Value
  | .list args => args
  | arg => [arg]

/-- An operation on a list of operands. -/
def operation (name : Text) (rules : List Value) : Value := .object [(.text name, .list rules)]

/-- An operation on two operands. -/
def binary (name : Text) (p q : Value) : Value := .object [(.text name, .list [p, q])]

/-- A rule that stands for itself. -/
def isLiteral : Value → Bool
  | .list _ => false
  | .object [(.text _, _)] => false
  | _ => true

theorem shape_of_not_literal {rule : Value} (h : isLiteral rule = false) :
    (∃ rules, rule = .list rules) ∨ ∃ name arg, rule = .object [(.text name, arg)] := by
  unfold isLiteral at h
  split at h
  · exact .inl ⟨_, rfl⟩
  · exact .inr ⟨_, _, rfl⟩
  · cases h

theorem operands_of_single {arg : Value} (h : ∀ args, arg = .list args → False) :
    operands arg = [arg] := by
  unfold operands
  split
  · exact absurd rfl (h _)
  · rfl

theorem sizeOf_operands {arg rule : Value} (h : rule ∈ operands arg) :
    sizeOf rule ≤ sizeOf arg := by
  unfold operands at h
  split at h
  · have hlt := List.sizeOf_lt_of_mem h
    rw [Value.list.sizeOf_spec]
    omega
  · exact Nat.le_of_eq (congrArg sizeOf (List.mem_singleton.1 h))

/-- What holds of literals, of lists if it holds of their elements, and of operations if it holds of
their operands, holds of every rule. -/
theorem rule_induction {P : Value → Prop} (literal : ∀ rule, isLiteral rule = true → P rule)
    (list : ∀ rules, (∀ rule ∈ rules, P rule) → P (.list rules))
    (operation : ∀ name arg, (∀ rule ∈ operands arg, P rule) → P (.object [(.text name, arg)]))
    (rule : Value) : P rule := by
  -- an operand may stand three constructors below its operation, so the induction is on sizes
  induction h : sizeOf rule using Nat.strongRecOn generalizing rule with
  | _ n ih =>
    subst h
    cases hl : isLiteral rule with
    | true => exact literal rule hl
    | false =>
      rcases shape_of_not_literal hl with ⟨rules, rfl⟩ | ⟨name, arg, rfl⟩
      · refine list rules fun r hr => ih _ ?_ r rfl
        have hlt := List.sizeOf_lt_of_mem hr
        rw [Value.list.sizeOf_spec]
        omega
      · refine operation name arg fun r hr => ih _ ?_ r rfl
        have hle := sizeOf_operands hr
        simp only [Value.object.sizeOf_spec, List.cons.sizeOf_spec, Prod.mk.sizeOf_spec]
        omega

/-! ## Values by shapes -/

variable {data : Value}

theorem applyAll_eq (rules : List Value) : applyAll data rules = rules.mapM (apply data) := by
  induction rules with
  | nil => rfl
  | cons rule rest ih => rw [applyAll, ih, List.mapM_cons]

theorem apply_literal {rule : Value} (h : isLiteral rule = true) : apply data rule = .ok rule := by
  unfold isLiteral at h
  rw [apply.eq_def]
  split <;> first | rfl | cases h

theorem apply_list (rules : List Value) :
    apply data (.list rules) = do return .list (← applyAll data rules) := by
  rw [apply]

/-- The value of an operation by its name: of a control operation on the operands as they stand, of
any other on their values. -/
def operate (data : Value) (name : Text) (args : List Value) : Except Fault Value :=
  match name with
  | "if" => choose data args
  | "?:" => choose data args
  | "and" => conjunction data args
  | "or" => disjunction data args
  | name =>
    match Operation.ofName? name with
    | none => .error (.breach (.unknownOperation name))
    | some op => do op.run data (← applyAll data args)

theorem apply_operation_list (name : Text) (args : List Value) :
    apply data (.object [(.text name, .list args)]) = operate data name args := by
  unfold operate
  split
  · rw [apply]
  · rw [apply]
  · rw [apply]
  · rw [apply]
  · rewrite [apply]
    · cases Operation.ofName? name <;> rfl
    all_goals assumption

theorem apply_operation_single (name : Text) {arg : Value}
    (h : ∀ args, arg = .list args → False) :
    apply data (.object [(.text name, arg)]) = operate data name [arg] := by
  unfold operate
  split
  · rw [apply, choose]
    exact h
  · rw [apply, choose]
    exact h
  · rw [apply, conjunction]
    exact h
  · rw [apply, disjunction]
    exact h
  · rewrite [apply]
    · cases Operation.ofName? name with
      | none => rfl
      | some op =>
        dsimp only
        rw [applyAll, applyAll]
        cases apply data arg <;> rfl
    all_goals first | assumption | exact fun args ha _ => h args ha

/-- An operation that evaluates all its operands runs on their values. -/
theorem operate_of_name {name : Text} {op : Operation} (hop : Operation.ofName? name = some op)
    (args : List Value) : operate data name args = (do op.run data (← applyAll data args)) := by
  unfold operate
  split
  · exact absurd hop nofun
  · exact absurd hop nofun
  · exact absurd hop nofun
  · exact absurd hop nofun
  · rw [hop]

/-- An operation is evaluated on its operands, be they a list or a single one. -/
theorem apply_operation (name : Text) (arg : Value) :
    apply data (.object [(.text name, arg)]) = operate data name (operands arg) := by
  by_cases h : ∃ args, arg = .list args
  · obtain ⟨args, rfl⟩ := h
    exact apply_operation_list name args
  · rw [operands_of_single fun args ha => h ⟨args, ha⟩]
    exact apply_operation_single name fun args ha => h ⟨args, ha⟩

/-- An operation that evaluates all its operands runs on what they come to. -/
theorem apply_of_name {name : Text} {op : Operation} (hop : Operation.ofName? name = some op)
    {rules values : List Value}
    (h : List.Forall₂ (fun rule v => apply data rule = .ok v) rules values) :
    apply data (operation name rules) = op.run data values := by
  rw [operation, apply_operation_list, operate_of_name hop, applyAll_eq, mapM_ok_iff.2 h]
  rfl

theorem apply_binary {p q a b : Value} {name : Text} {op : Operation}
    (hop : Operation.ofName? name = some op) (hp : apply data p = .ok a) (hq : apply data q = .ok b) :
    apply data (binary name p q) = op.run data [a, b] :=
  apply_of_name hop (.cons hp (.cons hq .nil))

/-! ## Verdicts -/

/-- The verdict on an object is that of the rule on it, both in lower case. -/
theorem verdict_object (rule : Value) (members : Members) :
    verdict rule (.object members) =
      (do return truthy (← apply (lowerAll (.object members)) (lowerLeaves rule))) := by
  cases members <;> rfl

end StagedRollout.Rule
