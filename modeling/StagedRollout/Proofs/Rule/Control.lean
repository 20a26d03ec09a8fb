/-
The operations that choose what to evaluate. `and` and `or` evaluate their operands in turn, up to the
one that decides; `if` evaluates its conditions in turn and the result of the first true one. What the
operation comes to, a value or a fault, is what the operand decided on comes to, and the rules that are
left out may be any rules. Main statements: which operand or branch is decided on, for any number of
them (`control_operations_decide`), and that a negation goes past `and` and `or` by exchanging the two
(`negation_exchanges_and_or`).
-/
import StagedRollout.Proofs.Rule.Evaluation

namespace StagedRollout.Rule

variable {data : Value}

/-! ## Operands in turn -/

/-- The value of the last of the rules that are evaluated in turn. -/
def lastTried (data : Value) (stops : Value → Bool) : List Value → Except Fault Value
  | [] => .ok .null
  | [last] => apply data last
  | rule :: second :: rest => do
    let v ← apply data rule
    if stops v then return v else lastTried data stops (second :: rest)

theorem conjunction_eq (rules : List Value) :
    conjunction data rules = lastTried data (fun v => !truthy v) rules := by
  fun_induction lastTried data (fun v => !truthy v) rules with
  | case1 => rw [conjunction]
  | case2 last => rw [conjunction]
  | case3 rule second rest ih =>
    rw [conjunction, ih]
    · refine bind_congr fun v => ?_
      cases truthy v <;> rfl
    · exact List.cons_ne_nil second rest

theorem disjunction_eq (rules : List Value) :
    disjunction data rules = lastTried data truthy rules := by
  fun_induction lastTried data truthy rules with
  | case1 => rw [disjunction]
  | case2 last => rw [disjunction]
  | case3 rule second rest ih =>
    rw [disjunction, ih]
    exact List.cons_ne_nil second rest

theorem apply_and (rules : List Value) :
    apply data (operation "and" rules) = lastTried data (fun v => !truthy v) rules := by
  rw [operation, apply, conjunction_eq]

theorem apply_or (rules : List Value) :
    apply data (operation "or" rules) = lastTried data truthy rules := by
  rw [operation, apply, disjunction_eq]

/-- A rule with a value that lets an evaluation in turn go on. -/
def Passes (data : Value) (stops : Value → Bool) (rule : Value) : Prop :=
  ∃ v, apply data rule = .ok v ∧ stops v = false

variable {stops : Value → Bool} {rule : Value} {before after : List Value}

theorem not_passes_iff : ¬ Passes data stops rule ↔
    (∃ e, apply data rule = .error e) ∨ ∃ v, apply data rule = .ok v ∧ stops v = true := by
  unfold Passes
  cases apply data rule <;> simp

theorem lastTried_of_passes (h : Passes data stops rule) (hr : after ≠ []) :
    lastTried data stops (rule :: after) = lastTried data stops after := by
  obtain ⟨v, hv, hs⟩ := h
  cases after with
  | nil => exact absurd rfl hr
  | cons second rest =>
    rw [lastTried, hv]
    exact if_neg (ne_true_of_eq_false hs)

/-- A first operand decides if it does not pass or is the only one. -/
theorem lastTried_of_first (hd : Passes data stops rule → after = []) :
    lastTried data stops (rule :: after) = apply data rule := by
  cases after with
  | nil => rw [lastTried]
  | cons second rest =>
    have hp : ¬ Passes data stops rule := fun hp => List.cons_ne_nil second rest (hd hp)
    rcases not_passes_iff.1 hp with ⟨e, he⟩ | ⟨v, hv, hs⟩
    · rw [lastTried, he]
      rfl
    · rw [lastTried, hv]
      exact if_pos hs

/-- After operands that pass, the next one decides if it does not pass or is the last one. -/
theorem lastTried_of_decides (hb : ∀ r ∈ before, Passes data stops r)
    (hd : Passes data stops rule → after = []) :
    lastTried data stops (before ++ rule :: after) = apply data rule := by
  induction before with
  | nil => exact lastTried_of_first hd
  | cons first rest ih =>
    obtain ⟨hfirst, hrest⟩ := List.forall_mem_cons.1 hb
    rw [List.cons_append, lastTried_of_passes hfirst (by simp), ih hrest]

/-- All elements have a property, or there is a first one without it. -/
theorem all_or_first {α : Type} (P : α → Prop) (xs : List α) : (∀ x ∈ xs, P x) ∨
    ∃ before x after, xs = before ++ x :: after ∧ (∀ y ∈ before, P y) ∧ ¬ P x := by
  classical
  cases h : xs.find? (fun x => decide ¬ P x) with
  | none => exact .inl fun x hx => by simpa using List.find?_eq_none.1 h x hx
  | some x =>
    obtain ⟨hx, before, after, rfl, hb⟩ := List.find?_eq_some_iff_append.1 h
    exact .inr ⟨before, x, after, rfl, fun y hy => by simpa using hb y hy, by simpa using hx⟩

/-- Some operand decides, if there is any. -/
theorem exists_deciding_operand (data : Value) (stops : Value → Bool) {rules : List Value}
    (h : rules ≠ []) : ∃ before rule after, rules = before ++ rule :: after ∧
      (∀ r ∈ before, Passes data stops r) ∧ (Passes data stops rule → after = []) := by
  rcases all_or_first (Passes data stops) rules with hall | ⟨before, rule, after, hrules, hb, hp⟩
  · have hrules : rules = rules.dropLast ++ [rules.getLast h] := (List.dropLast_append_getLast h).symm
    exact ⟨_, _, [], hrules, fun r hr => hall r (List.dropLast_subset rules hr), fun _ => rfl⟩
  · exact ⟨before, rule, after, hrules, hb, fun h => absurd h hp⟩

/-- An operation that evaluates its operands in turn, up to one whose value stops the evaluation. -/
structure DecidesInTurn (data : Value) (name : Text) (stops : Value → Bool) : Prop where
  /-- Without operands the value is null. -/
  empty : apply data (operation name []) = .ok .null
  /-- Of operands there is one that decides: those before it pass, and it does not or is the last. -/
  exists_deciding : ∀ rules ≠ [], ∃ before rule after, rules = before ++ rule :: after ∧
    (∀ r ∈ before, Passes data stops r) ∧ (Passes data stops rule → after = [])
  /-- The operation comes to what that one comes to. -/
  decided : ∀ before rule after, (∀ r ∈ before, Passes data stops r) →
    (Passes data stops rule → after = []) →
    apply data (operation name (before ++ rule :: after)) = apply data rule
  /-- It fails if an operand does and those before that one pass. -/
  fails_iff : ∀ rules e, apply data (operation name rules) = .error e ↔
    ∃ before rule after, rules = before ++ rule :: after ∧ (∀ r ∈ before, Passes data stops r) ∧
      apply data rule = .error e
  /-- What follows an operand that does not pass may be any rules. -/
  unread : ∀ before rule after after', ¬ Passes data stops rule →
    apply data (operation name (before ++ rule :: after)) =
      apply data (operation name (before ++ rule :: after'))

theorem lastTried_eq_error {rules : List Value} {e : Fault} :
    lastTried data stops rules = .error e ↔ ∃ before rule after, rules = before ++ rule :: after ∧
      (∀ r ∈ before, Passes data stops r) ∧ apply data rule = .error e := by
  constructor
  · intro h
    have hne : rules ≠ [] := by
      rintro rfl
      cases h
    obtain ⟨before, rule, after, rfl, hb, hd⟩ := exists_deciding_operand data stops hne
    rw [lastTried_of_decides hb hd] at h
    exact ⟨before, rule, after, rfl, hb, h⟩
  · rintro ⟨before, rule, after, rfl, hb, h⟩
    have hp : ¬ Passes data stops rule := not_passes_iff.2 (.inl ⟨e, h⟩)
    rw [lastTried_of_decides hb fun h => absurd h hp, h]

theorem lastTried_unread (h : ¬ Passes data stops rule) (after' : List Value) :
    lastTried data stops (before ++ rule :: after) =
      lastTried data stops (before ++ rule :: after') := by
  rcases all_or_first (Passes data stops) before with hb | ⟨before, first, between, rfl, hb, hp⟩
  · rw [lastTried_of_decides hb fun hp => absurd hp h, lastTried_of_decides hb fun hp => absurd hp h]
  · -- an earlier operand decides already
    rw [List.append_assoc, List.append_assoc, List.cons_append, List.cons_append,
      lastTried_of_decides hb fun h => absurd h hp, lastTried_of_decides hb fun h => absurd h hp]

theorem decidesInTurn {name : Text}
    (h : ∀ rules, apply data (operation name rules) = lastTried data stops rules) :
    DecidesInTurn data name stops where
  empty := h []
  exists_deciding _ hne := exists_deciding_operand data stops hne
  decided _ _ _ hb hd := (h _).trans (lastTried_of_decides hb hd)
  fails_iff rules e := by rw [h, lastTried_eq_error]
  unread before rule after after' hp := by rw [h, h, lastTried_unread hp after']

/-! ## Branches -/

/-- Conditions, each with its result, as operands, and perhaps a last result without a condition. -/
def branchOperands (branches : List (Value × Value)) (last : Option Value) : List Value :=
  branches.flatMap (fun b => [b.1, b.2]) ++ last.toList

theorem exists_branches : ∀ rules, ∃ branches last, rules = branchOperands branches last
  | [] => ⟨[], none, rfl⟩
  | [last] => ⟨[], some last, rfl⟩
  | condition :: result :: rest => by
    obtain ⟨branches, last, h⟩ := exists_branches rest
    exact ⟨(condition, result) :: branches, last, by rw [h]; rfl⟩

variable {condition result : Value} {last : Option Value}

theorem choose_of_passes (h : Passes data truthy condition) (rest : List Value) :
    choose data (condition :: result :: rest) = choose data rest := by
  obtain ⟨v, hv, ht⟩ := h
  rw [choose, hv]
  exact if_neg (ne_true_of_eq_false ht)

theorem choose_of_true {v : Value} (hv : apply data condition = .ok v) (ht : truthy v = true)
    (rest : List Value) : choose data (condition :: result :: rest) = apply data result := by
  rw [choose, hv]
  exact if_pos ht

theorem choose_of_error {e : Fault} (he : apply data condition = .error e) (rest : List Value) :
    choose data (condition :: result :: rest) = .error e := by
  rw [choose, he]
  rfl

/-- Branches whose conditions pass might as well be missing. -/
theorem choose_past {before after : List (Value × Value)}
    (hb : ∀ b ∈ before, Passes data truthy b.1) :
    choose data (branchOperands (before ++ after) last) = choose data (branchOperands after last) := by
  induction before with
  | nil => rfl
  | cons first rest ih =>
    obtain ⟨hfirst, hrest⟩ := List.forall_mem_cons.1 hb
    exact (choose_of_passes hfirst _).trans (ih hrest)

/-- Without a true condition the last result is left, or null. -/
theorem choose_last {branches : List (Value × Value)}
    (hb : ∀ b ∈ branches, Passes data truthy b.1) :
    choose data (branchOperands branches last) = (last.map (apply data)).getD (.ok .null) := by
  rw [← List.append_nil branches, choose_past hb]
  cases last with
  | none => exact choose.eq_1 data
  | some rule => exact choose.eq_2 data rule

/-- An operation that evaluates conditions in turn, and of the results only that of the first true
condition, or the last one if no condition is true. -/
structure DecidesByBranch (data : Value) (name : Text) : Prop where
  /-- Any operands are conditions with their results, and perhaps a last result. -/
  exists_branches : ∀ rules, ∃ branches last, rules = branchOperands branches last
  /-- The result of the first true condition is taken. -/
  taken : ∀ before condition result after last v, (∀ b ∈ before, Passes data truthy b.1) →
    apply data condition = .ok v → truthy v = true →
    apply data (operation name (branchOperands (before ++ (condition, result) :: after) last)) =
      apply data result
  /-- Without a true condition the last result is taken, or null. -/
  otherwise : ∀ branches last, (∀ b ∈ branches, Passes data truthy b.1) →
    apply data (operation name (branchOperands branches last)) =
      (last.map (apply data)).getD (.ok .null)
  /-- The first condition with its result is a choice of two, the second being all the rest. -/
  nested : ∀ condition result rest, apply data (operation name (condition :: result :: rest)) =
    apply data (operation name [condition, result, operation name rest])
  /-- The operation fails if a condition does before any is true, or the result that is taken. -/
  fails_iff : ∀ branches last e,
    apply data (operation name (branchOperands branches last)) = .error e ↔
      (∃ before condition result after, branches = before ++ (condition, result) :: after ∧
        (∀ b ∈ before, Passes data truthy b.1) ∧ (apply data condition = .error e ∨
          (∃ v, apply data condition = .ok v ∧ truthy v = true) ∧ apply data result = .error e)) ∨
      (∀ b ∈ branches, Passes data truthy b.1) ∧ ∃ rule, last = some rule ∧ apply data rule = .error e
  /-- Results before the first condition that does not pass, and all that follows it with its result,
  may be any rules. -/
  unread : ∀ before before' condition result after after' last last',
    before.map (·.1) = before'.map (·.1) → (∀ b ∈ before, Passes data truthy b.1) →
    ¬ Passes data truthy condition →
    apply data (operation name (branchOperands (before ++ (condition, result) :: after) last)) =
      apply data (operation name (branchOperands (before' ++ (condition, result) :: after') last'))

theorem choose_branch {before after : List (Value × Value)}
    (hb : ∀ b ∈ before, Passes data truthy b.1) (hc : ¬ Passes data truthy condition) :
    choose data (branchOperands (before ++ (condition, result) :: after) last) =
      (do let _ ← apply data condition; apply data result) := by
  rw [choose_past hb]
  rcases not_passes_iff.1 hc with ⟨e, he⟩ | ⟨v, hv, ht⟩
  · rw [he]
    exact choose_of_error he _
  · rw [hv]
    exact choose_of_true hv ht _

theorem choose_eq_error {branches : List (Value × Value)} {e : Fault} :
    choose data (branchOperands branches last) = .error e ↔
      (∃ before condition result after, branches = before ++ (condition, result) :: after ∧
        (∀ b ∈ before, Passes data truthy b.1) ∧ (apply data condition = .error e ∨
          (∃ v, apply data condition = .ok v ∧ truthy v = true) ∧ apply data result = .error e)) ∨
      (∀ b ∈ branches, Passes data truthy b.1) ∧
        ∃ rule, last = some rule ∧ apply data rule = .error e := by
  constructor
  · intro h
    rcases all_or_first (fun b => Passes data truthy b.1) branches with
      hb | ⟨before, ⟨condition, result⟩, after, rfl, hb, hc⟩
    · rw [choose_last hb] at h
      cases last with
      | none => cases h
      | some rule => exact .inr ⟨hb, rule, rfl, h⟩
    · rw [choose_branch hb hc] at h
      refine .inl ⟨before, condition, result, after, rfl, hb, ?_⟩
      rcases not_passes_iff.1 hc with ⟨e', he⟩ | htrue
      · rw [he] at h
        cases h
        exact .inl he
      · obtain ⟨v, hv, ht⟩ := htrue
        rw [hv] at h
        exact .inr ⟨⟨v, hv, ht⟩, h⟩
  · rintro (⟨before, condition, result, after, rfl, hb, hc | ⟨⟨v, hv, ht⟩, hr⟩⟩ | ⟨hb, rule, rfl, h⟩)
    · rw [choose_branch hb (not_passes_iff.2 (.inl ⟨e, hc⟩)), hc]
      rfl
    · rw [choose_branch hb (not_passes_iff.2 (.inr ⟨v, hv, ht⟩)), hv]
      exact hr
    · rw [choose_last hb]
      exact h

theorem decidesByBranch {name : Text}
    (h : ∀ rules, apply data (operation name rules) = choose data rules) :
    DecidesByBranch data name where
  exists_branches := exists_branches
  taken before condition result after last v hb hv ht := by
    rw [h, choose_past hb]
    exact choose_of_true hv ht _
  otherwise branches last hb := by rw [h, choose_last hb]
  nested condition result rest := by
    rw [h, h, choose, choose, choose, h]
  fails_iff branches last e := by rw [h, choose_eq_error]
  unread before before' condition result after after' last last' hconditions hb hc := by
    have hb' : ∀ b ∈ before', Passes data truthy b.1 := by
      intro b hm
      have hcondition : b.1 ∈ before.map (·.1) := hconditions ▸ List.mem_map_of_mem hm
      obtain ⟨b', hm', he⟩ := List.mem_map.1 hcondition
      exact he ▸ hb b' hm'
    rw [h, h, choose_branch hb hc, choose_branch hb' hc]

/-- Which operands the control operations evaluate, and what they come to: `and` and `or` what the
first false or true operand comes to, `if` under either of its names what the branch of the first true
condition comes to. -/
theorem control_operations_decide (data : Value) :
    DecidesInTurn data "and" (fun v => !truthy v) ∧ DecidesInTurn data "or" truthy ∧
      DecidesByBranch data "if" ∧ DecidesByBranch data "?:" := by
  refine ⟨decidesInTurn apply_and, decidesInTurn apply_or, ?_, ?_⟩
  · exact decidesByBranch fun rules => by rw [operation, apply]
  · exact decidesByBranch fun rules => by rw [operation, apply]

/-! ## Negation -/

/-- The negation of a rule. -/
def negation (rule : Value) : Value := operation "!" [rule]

theorem apply_negation (rule : Value) :
    apply data (negation rule) = (do return .bool !truthy (← apply data rule)) := by
  have hop : Operation.ofName? "!" = some .negation := rfl
  rw [negation, operation, apply_operation, operate_of_name hop, operands, applyAll, applyAll]
  cases apply data rule <;> rfl

section Stops

variable {stops' : Value → Bool} (hstops : ∀ v, stops' (.bool !truthy v) = stops v)

include hstops

theorem passes_negation : Passes data stops' (negation rule) ↔ Passes data stops rule := by
  unfold Passes
  rw [apply_negation]
  cases apply data rule with
  | error e => exact ⟨nofun, nofun⟩
  | ok v =>
    constructor
    · rintro ⟨_, hw, hs⟩
      cases hw
      exact ⟨v, rfl, (hstops v).symm.trans hs⟩
    · rintro ⟨_, hw, hs⟩
      cases hw
      exact ⟨_, rfl, (hstops v).trans hs⟩

/-- Negated operands are evaluated as far as the operands are, if their values stop the evaluation
where the values of those do. -/
theorem lastTried_negation {rules : List Value} (hne : rules ≠ []) :
    lastTried data stops' (rules.map negation) =
      (do return .bool !truthy (← lastTried data stops rules)) := by
  induction rules with
  | nil => exact absurd rfl hne
  | cons rule rest ih =>
    rw [List.map_cons]
    by_cases hp : Passes data stops rule ∧ rest ≠ []
    · obtain ⟨hp, hrest⟩ := hp
      have hmap : rest.map negation ≠ [] := by simpa using hrest
      rw [lastTried_of_passes ((passes_negation hstops).2 hp) hmap, ih hrest,
        lastTried_of_passes hp hrest]
    · have hd : Passes data stops rule → rest = [] := not_and_not_right.1 hp
      have hd' : Passes data stops' (negation rule) → rest.map negation = [] := fun hr =>
        List.map_eq_nil_iff.2 (hd ((passes_negation hstops).1 hr))
      rw [lastTried_of_first hd, lastTried_of_first hd', apply_negation]

end Stops

/-- A negation goes past `and` and `or` by exchanging them, with every operand negated: of one or more
operands, both forms come to the same truth value or the same fault. -/
theorem negation_exchanges_and_or (data : Value) {rules : List Value} (h : rules ≠ []) :
    apply data (negation (operation "and" rules)) =
        apply data (operation "or" (rules.map negation)) ∧
      apply data (negation (operation "or" rules)) =
        apply data (operation "and" (rules.map negation)) ∧
      ∀ rule v, apply data (negation rule) = .ok v → ∃ t : Bool, v = .bool t := by
  have htruthy : ∀ v, truthy (.bool !truthy v) = !truthy v := fun _ => rfl
  refine ⟨?_, ?_, fun rule v hv => ?_⟩
  · rw [apply_negation, apply_and, apply_or, lastTried_negation htruthy h]
  · have hstops : ∀ v, (!truthy (.bool !truthy v)) = truthy v := fun v => Bool.not_not (truthy v)
    rw [apply_negation, apply_and, apply_or, lastTried_negation hstops h]
  · rw [apply_negation] at hv
    obtain ⟨w, -, hv⟩ := bind_ok hv
    cases hv
    exact ⟨_, rfl⟩

/-- Both forms skip an operand that cannot be evaluated, or both fail with it. -/
theorem negation_exchanges_and_or_past_unknown_operation :
    let unknown : Value := operation "none" []
    let rules : List Value := [.text "a", .list [], unknown]
    rules ≠ [] ∧
      apply .null (operation "or" (rules.map negation)) = .ok (.bool true) ∧
      apply .null (operation "and" ([.int 0, unknown].map negation)) =
        .error (.breach (.unknownOperation "none")) := by
  intro unknown rules
  have hne : rules ≠ [] := List.cons_ne_nil _ _
  have hor := (negation_exchanges_and_or .null hne).1
  have hand := (negation_exchanges_and_or .null (List.cons_ne_nil (.int 0) [unknown])).2.1
  refine ⟨hne, ?_, ?_⟩
  · rw [← hor]
    rfl
  · rw [← hand]
    rfl

end StagedRollout.Rule
