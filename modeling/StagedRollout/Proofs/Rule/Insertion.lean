/-
Targeting and the order of insertion. Properties that hold the same members in different orders satisfy
the same rules, at whatever depth they differ. There are two exceptions: keys that are one key in lower
case, of which the one that came last stays, and operations that write an object as text, in which its
order shows.
-/
import StagedRollout.Proofs.Rule.Control
import StagedRollout.Proofs.Rule.Lowering
import StagedRollout.Proofs.Rule.Operands
import StagedRollout.Proofs.Rule.Listed
import StagedRollout.Decision.Evaluate

namespace StagedRollout.Rule

open Value (Rearranged)

/-! ## What evaluation comes to -/

/-- What is evaluated after a value, if there is one. -/
def after (x : Except Fault Value) (rest : Value → List Value) : List Value :=
  match x with
  | .ok v => rest v
  | .error _ => []

/-- The rules that are evaluated in turn, up to one that fails or whose value stops the evaluation. -/
def triedUntil (data : Value) (stops : Value → Bool) : List Value → List Value
  | [] => []
  | rule :: rest =>
    rule :: after (apply data rule) fun v => if stops v then [] else triedUntil data stops rest

/-- The conditions that are evaluated in turn, and the result of the first true one. -/
def triedInChoice (data : Value) : List Value → List Value
  | [] => []
  | [last] => [last]
  | condition :: result :: rest =>
    condition :: after (apply data condition) fun v =>
      if truthy v then [result] else triedInChoice data rest

/-- The operands of an operation that are evaluated. -/
def tried (data : Value) (name : Text) (args : List Value) : List Value :=
  match name with
  | "if" => triedInChoice data args
  | "?:" => triedInChoice data args
  | "and" => triedUntil data (fun v => !truthy v) args
  | "or" => triedUntil data truthy args
  | name => if (Operation.ofName? name).isSome then triedUntil data (fun _ => false) args else []

/-- The rules that the evaluation of a rule comes to. -/
inductive Reaches (data : Value) : Value → Value → Prop
  | self (rule : Value) : Reaches data rule rule
  | element {rules : List Value} {rule sub : Value}
    (hm : rule ∈ triedUntil data (fun _ => false) rules) (h : Reaches data rule sub) :
    Reaches data (.list rules) sub
  | operand {name : Text} {arg rule sub : Value} (hm : rule ∈ tried data name (operands arg))
    (h : Reaches data rule sub) : Reaches data (.object [(.text name, arg)]) sub

/-- The evaluation of a rule writes no object with two members as text. -/
def SpellsPlainly (data rule : Value) : Prop :=
  ∀ name arg op args, Reaches data rule (.object [(.text name, arg)]) →
    Operation.ofName? name = some op → applyAll data (operands arg) = .ok args →
    ∀ v ∈ op.spelled args, v.IsOrderless

section Evaluation

variable {data data' : Value}

theorem mem_after {x : Except Fault Value} {rest : Value → List Value} {rule : Value} :
    rule ∈ after x rest ↔ ∃ v, x = .ok v ∧ rule ∈ rest v := by
  cases x <;> simp [after]

theorem mem_of_triedUntil {stops : Value → Bool} {rules : List Value} {rule : Value}
    (h : rule ∈ triedUntil data stops rules) : rule ∈ rules := by
  induction rules with
  | nil => exact h
  | cons first rest ih =>
    rw [triedUntil, List.mem_cons, mem_after] at h
    rcases h with rfl | ⟨v, -, h⟩
    · exact List.mem_cons_self
    · split_ifs at h
      · cases h
      · exact List.mem_cons_of_mem first (ih h)

theorem mem_of_triedInChoice {rules : List Value} {rule : Value}
    (h : rule ∈ triedInChoice data rules) : rule ∈ rules := by
  fun_induction triedInChoice data rules with
  | case1 => exact h
  | case2 last => exact h
  | case3 condition result rest ih =>
    rw [List.mem_cons, mem_after] at h
    rcases h with rfl | ⟨v, -, h⟩
    · exact List.mem_cons_self
    · split_ifs at h
      · rw [List.mem_singleton.1 h]
        exact List.mem_cons_of_mem _ List.mem_cons_self
      · exact List.mem_cons_of_mem _ (List.mem_cons_of_mem _ (ih h))

theorem mem_of_tried {name : Text} {args : List Value} {rule : Value}
    (h : rule ∈ tried data name args) : rule ∈ args := by
  unfold tried at h
  split at h
  · exact mem_of_triedInChoice h
  · exact mem_of_triedInChoice h
  · exact mem_of_triedUntil h
  · exact mem_of_triedUntil h
  · split at h
    · exact mem_of_triedUntil h
    · cases h

theorem tried_of_name {name : Text} {op : Operation} (hop : Operation.ofName? name = some op)
    (args : List Value) : tried data name args = triedUntil data (fun _ => false) args := by
  unfold tried
  split
  · exact absurd hop nofun
  · exact absurd hop nofun
  · exact absurd hop nofun
  · exact absurd hop nofun
  · rw [hop]
    rfl

/-- A rule that comes to alike values on two data. -/
def Steady (data data' rule : Value) : Prop :=
  Alike (Rearranged id) (apply data rule) (apply data' rule)

theorem steady_after {rule : Value} {rest : Value → List Value} {v : Value}
    (h : ∀ r ∈ rule :: after (apply data rule) rest, Steady data data' r)
    (hv : apply data rule = .ok v) : ∀ r ∈ rest v, Steady data data' r :=
  fun r hr => h r (List.mem_cons_of_mem _ (mem_after.2 ⟨v, hv, hr⟩))

theorem applyAll_alike {rules : List Value}
    (h : ∀ rule ∈ triedUntil data (fun _ => false) rules, Steady data data' rule) :
    Alike (List.Forall₂ (Rearranged id)) (applyAll data rules) (applyAll data' rules) := by
  induction rules with
  | nil => exact .ok .nil
  | cons rule rest ih =>
    rw [applyAll, applyAll]
    refine (h rule List.mem_cons_self).bind fun v w hv hvw => ?_
    exact (ih (steady_after h hv)).bind fun vs ws _ hall => .ok (.cons hvw hall)

theorem choose_alike {rules : List Value}
    (h : ∀ rule ∈ triedInChoice data rules, Steady data data' rule) :
    Alike (Rearranged id) (choose data rules) (choose data' rules) := by
  fun_induction triedInChoice data rules with
  | case1 =>
    rw [choose, choose]
    exact .ok (.scalar rfl)
  | case2 last =>
    rw [choose, choose]
    exact h last List.mem_cons_self
  | case3 condition result rest ih =>
    rw [choose, choose]
    refine (h condition List.mem_cons_self).bind fun v w hv hvw => ?_
    have hafter := steady_after h hv
    -- alike conditions are both true or both false, and so is tried the same in both
    rw [← truthy_congr hvw]
    cases ht : truthy v with
    | true =>
      rw [ht] at hafter
      exact hafter result List.mem_cons_self
    | false =>
      rw [ht] at hafter
      exact ih hafter

theorem lastTried_alike {stops : Value → Bool} {rules : List Value}
    (hstops : ∀ {v w}, Rearranged id v w → stops v = stops w)
    (h : ∀ rule ∈ triedUntil data stops rules, Steady data data' rule) :
    Alike (Rearranged id) (lastTried data stops rules) (lastTried data' stops rules) := by
  fun_induction lastTried data stops rules with
  | case1 => exact .ok (.scalar rfl)
  | case2 last => exact h last List.mem_cons_self
  | case3 rule second rest ih =>
    refine (h rule List.mem_cons_self).bind fun v w hv hvw => ?_
    have hafter := steady_after h hv
    rw [← hstops hvw]
    cases ht : stops v with
    | true => exact .ok hvw
    | false =>
      rw [ht] at hafter
      exact ih hafter

/-- An operation whose operands come to alike values does so too. -/
theorem operate_alike (hd : Rearranged id data data') {name : Text} {args : List Value}
    (h : ∀ rule ∈ tried data name args, Steady data data' rule)
    (ho : ∀ op vs, Operation.ofName? name = some op → applyAll data args = .ok vs →
      ∀ v ∈ op.spelled vs, v.IsOrderless) :
    Alike (Rearranged id) (operate data name args) (operate data' name args) := by
  unfold operate
  split
  · exact choose_alike h
  · exact choose_alike h
  · rw [conjunction_eq, conjunction_eq]
    exact lastTried_alike (fun hv => congrArg Bool.not (truthy_congr hv)) h
  · rw [disjunction_eq, disjunction_eq]
    exact lastTried_alike truthy_congr h
  · cases hop : Operation.ofName? name with
    | none => exact .error _ _
    | some op =>
      rw [tried_of_name hop] at h
      exact (applyAll_alike h).bind fun vs ws hvs hall => run_alike op hd hall (ho op vs hop hvs)

theorem keyed_operands {name : Text} {arg : Value}
    (h : (Value.object [(.text name, arg)]).IsKeyed) : ∀ rule ∈ operands arg, rule.IsKeyed := by
  intro rule hr
  cases h with
  | scalar hs => cases hs
  | object _ h =>
    have harg := h _ List.mem_cons_self
    unfold operands at hr
    split at hr
    · cases harg with
      | scalar hs => cases hs
      | list hitems => exact hitems rule hr
    · rw [List.mem_singleton.1 hr]
      exact harg

/-- A rule comes to alike values on rearranged data, if no order shows in what it writes as text. -/
theorem apply_alike (hd : Rearranged id data data') {rule : Value} (hk : rule.IsKeyed)
    (hs : SpellsPlainly data rule) : Steady data data' rule := by
  induction rule using rule_induction with
  | literal rule hl =>
    unfold Steady
    rw [apply_literal hl, apply_literal hl]
    exact .ok (.refl hk)
  | list rules ih =>
    have hsteady : ∀ rule ∈ triedUntil data (fun _ => false) rules, Steady data data' rule := by
      intro rule hr
      refine ih rule (mem_of_triedUntil hr) ?_ fun name arg op args hreach => ?_
      · cases hk with
        | scalar h => cases h
        | list h => exact h rule (mem_of_triedUntil hr)
      · exact hs name arg op args (.element hr hreach)
    unfold Steady
    rw [apply_list, apply_list]
    exact (applyAll_alike hsteady).bind fun _ _ _ h => .ok (Value.rearranged_list_iff.2 h)
  | operation name arg ih =>
    -- nothing is known of operands that a control operation leaves out
    have hsteady : ∀ rule ∈ tried data name (operands arg), Steady data data' rule := by
      intro rule hr
      refine ih rule (mem_of_tried hr) (keyed_operands hk rule (mem_of_tried hr)) ?_
      exact fun name' arg' op args hreach => hs name' arg' op args (.operand hr hreach)
    unfold Steady
    rw [apply_operation, apply_operation]
    exact operate_alike hd hsteady fun op vs hop hvs => hs name arg op vs (.self _) hop hvs

end Evaluation

/-! ## Rules without the second exception -/

/-- A rule that looks up by texts that stand in it, and beside that only decides, compares and
reckons. -/
inductive IsPlain : Value → Prop
  | literal {rule : Value} (h : isLiteral rule = true) : IsPlain rule
  | list {rules : List Value} (h : ∀ rule ∈ rules, IsPlain rule) : IsPlain (.list rules)
  | texts {name : Text} {arg : Value} (h : ∀ rule ∈ operands arg, ∃ s, rule = .text s) :
    IsPlain (.object [(.text name, arg)])
  | silent {name : Text} {arg : Value}
    (hop : ∀ op, Operation.ofName? name = some op → ∀ args, op.spelled args = [])
    (h : ∀ rule ∈ operands arg, IsPlain rule) : IsPlain (.object [(.text name, arg)])

theorem IsPlain.of_reaches {data rule sub : Value} (h : IsPlain rule) (hr : Reaches data rule sub) :
    IsPlain sub := by
  induction hr with
  | self => exact h
  | element hm _ ih =>
    cases h with
    | literal h => cases h
    | list h => exact ih (h _ (mem_of_triedUntil hm))
  | operand hm _ ih =>
    cases h with
    | literal h => cases h
    | texts h =>
      obtain ⟨s, rfl⟩ := h _ (mem_of_tried hm)
      exact ih (.literal rfl)
    | silent _ h => exact ih (h _ (mem_of_tried hm))

theorem mem_of_spelled {op : Operation} {args : List Value} (h : ∀ v ∈ args, ∃ s, v = .text s)
    {v : Value} (hv : v ∈ op.spelled args) : v ∈ args := by
  have hkeys : ∀ vs : List Value, (∀ v ∈ vs, ∃ s, v = .text s) → namedKeys vs = vs := by
    intro vs hvs
    unfold namedKeys
    split
    · obtain ⟨s, hs⟩ := hvs _ List.mem_cons_self
      cases hs
    · rfl
  unfold Operation.spelled at hv
  split at hv
  · rw [List.mem_singleton.1 hv]
    exact List.mem_cons_self
  · rw [hkeys _ h] at hv
    exact hv
  · rename_i need keys rest
    have hone : ∀ v ∈ [keys], ∃ s, v = .text s :=
      List.forall_mem_singleton.2 (h keys (List.mem_cons_of_mem _ List.mem_cons_self))
    rw [hkeys _ hone] at hv
    rw [List.mem_singleton.1 hv]
    exact List.mem_cons_of_mem _ List.mem_cons_self
  · exact hv
  · cases hv

/-- What a plain rule writes are texts as they stand. -/
theorem IsPlain.spellsPlainly {rule : Value} (h : IsPlain rule) (data : Value) :
    SpellsPlainly data rule := by
  intro name arg op args hreach hop hargs v hv
  cases h.of_reaches hreach with
  | literal h => cases h
  | texts h =>
    have htexts : ∀ v ∈ args, ∃ s, v = .text s := by
      rw [applyAll_eq, mapM_ok_iff] at hargs
      intro v hv
      obtain ⟨rule, hr, happly⟩ := Value.forall₂_mem_right hargs v hv
      obtain ⟨s, rfl⟩ := h rule hr
      cases happly
      exact ⟨s, rfl⟩
    obtain ⟨s, rfl⟩ := htexts v (mem_of_spelled htexts hv)
    exact .scalar rfl
  | silent hsilent _ =>
    rw [hsilent op hop] at hv
    cases hv

/-! ## Targeting -/

variable {ms ns : Members}

theorem verdict_alike (h : Rearranged lowerKey (.object ms) (.object ns)) {rule : Value}
    (hk : rule.IsKeyed) (hs : SpellsPlainly (lowerAll (.object ms)) (lowerLeaves rule)) :
    Alike Eq (verdict rule (.object ms)) (verdict rule (.object ns)) := by
  rw [verdict_object, verdict_object]
  exact (apply_alike (lowerAll_rearranged h) (lowerLeaves_keyed hk) hs).bind
    fun v w _ hvw => .ok (truthy_congr hvw)

theorem report_eq (h : Rearranged lowerKey (.object ms) (.object ns)) {rule : Value}
    (hk : rule.IsKeyed) (hs : SpellsPlainly (lowerAll (.object ms)) (lowerLeaves rule)) :
    report rule (.object ms) = report rule (.object ns) := by
  have halike := verdict_alike h hk hs
  unfold report isMatch
  generalize verdict rule (.object ms) = x, verdict rule (.object ns) = y at halike
  cases halike with
  | ok h => rw [h]
  | error e e' => rfl

theorem hasListed_congr {view : Key → Key} (expected : Value) {actual actual' : Value}
    (h : Rearranged view actual actual') : hasListed expected actual = hasListed expected actual' := by
  cases h with
  | scalar _ => rfl
  | list hl h => cases expected <;> first | rfl | exact Value.same_congr_right (.list hl h)
  | object hm hn hk hv hl =>
    cases expected <;> first | rfl | exact Value.same_congr_right (.object hm hn hk hv hl)

theorem hasAllListed_congr (h : Rearranged id (.object ms) (.object ns)) (definition : Members) :
    hasAllListed definition ms = hasAllListed definition ns := by
  unfold hasAllListed
  congr 1
  funext m
  have hfound := h.find? m.1
  generalize Table.find? ms m.1 = x, Table.find? ns m.1 = y at hfound
  cases hfound with
  | none => rfl
  | some hv => exact hasListed_congr m.2 hv

/-- A stage of a rollout is meant for a context whatever the order of its properties. If the stage has a
rule, the two exceptions are to be kept out; listed values know no exception. -/
theorem isTargeted_eq (h : Rearranged id (.object ms) (.object ns)) (rollout : Rollout) (user : Value)
    (hrule : rollout.hasRule = true → Rearranged lowerKey (.object ms) (.object ns) ∧
      rollout.rule.IsKeyed ∧ SpellsPlainly (lowerAll (.object ms)) (lowerLeaves rollout.rule)) :
    Decision.isTargeted rollout ⟨user, some ms⟩ = Decision.isTargeted rollout ⟨user, some ns⟩ := by
  unfold Decision.isTargeted
  split
  · rename_i hr
    obtain ⟨hlower, hk, hs⟩ := hrule hr
    exact report_eq hlower hk hs
  · split
    · rename_i m rest _
      show Reported.ofExcept (matchesListed (.object (m :: rest)) (.object ms)) =
        Reported.ofExcept (matchesListed (.object (m :: rest)) (.object ns))
      rw [matchesListed_object, matchesListed_object, hasAllListed_congr h]
    · rfl

/-- Targeting does not depend on the order in which properties were inserted, at any depth. For rules,
of keys that are one key in lower case the same has to come last, and the rule must write no object
with two members as text; for listed values nothing is asked. -/
theorem targeting_ignores_insertion (ms ns : Members) :
    (∀ rule : Value, rule.IsKeyed → Rearranged lowerKey (.object ms) (.object ns) →
      SpellsPlainly (lowerAll (.object ms)) (lowerLeaves rule) →
      isMatch rule (.object ms) = isMatch rule (.object ns)) ∧
    ∀ (rollout : Rollout) (user : Value), Rearranged id (.object ms) (.object ns) →
      (rollout.hasRule = true → Rearranged lowerKey (.object ms) (.object ns) ∧
        rollout.rule.IsKeyed ∧ SpellsPlainly (lowerAll (.object ms)) (lowerLeaves rollout.rule)) →
      Decision.isTargeted rollout ⟨user, some ms⟩ = Decision.isTargeted rollout ⟨user, some ns⟩ := by
  refine ⟨fun rule hk h hs => ?_, fun rollout user h hrule => isTargeted_eq h rollout user hrule⟩
  have hreport := report_eq h hk hs
  exact Except.ok.inj (congrArg Reported.outcome hreport)

/-- Users on one plan in one team are targeted alike, whatever came first. -/
theorem targeting_ignores_insertion_of_plan_and_team :
    let isPro : Value :=
      .object [(.text "==", .list [.object [(.text "var", .text "plan")], .text "pro"])]
    let plan : Key × Value := (.text "plan", .text "PRO")
    let size : Key × Value := (.text "size", .int 3)
    let city : Key × Value := (.text "city", .text "Kyoto")
    let team (rows : Members) : Key × Value := (.text "team", .object rows)
    isMatch isPro (.object [plan, team [size, city]]) =
      isMatch isPro (.object [team [city, size], plan]) := by
  intro isPro plan size city team
  have hkeyed : isPro.IsKeyed := by
    refine .object (by decide +kernel) (List.forall_mem_singleton.2 (.list ?_))
    refine List.forall_mem_cons.2 ⟨.object (by decide +kernel) ?_, ?_⟩
    · exact List.forall_mem_singleton.2 (.scalar rfl)
    · exact List.forall_mem_singleton.2 (.scalar rfl)
  have hplain : IsPlain (lowerLeaves isPro) := by
    refine .silent (fun op hop => ?_) (List.forall_mem_cons.2 ⟨.texts ?_, ?_⟩)
    · cases hop
      exact fun _ => rfl
    · exact List.forall_mem_singleton.2 ⟨_, rfl⟩
    · exact List.forall_mem_singleton.2 (.literal rfl)
  have hteam : Rearranged lowerKey (team [size, city]).2 (team [city, size]).2 :=
    .swap (by decide +kernel) (by decide +kernel) ⟨rfl, .refl (.scalar rfl)⟩
      ⟨rfl, .refl (.scalar rfl)⟩
  have h : Rearranged lowerKey (.object [plan, team [size, city]])
      (.object [team [city, size], plan]) :=
    .swap (by decide +kernel) (by decide +kernel) ⟨rfl, .refl (.scalar rfl)⟩ ⟨rfl, hteam⟩
  exact (targeting_ignores_insertion _ _).1 isPro hkeyed h (hplain.spellsPlainly _)

/-- The order of insertion shows in two ways: of two spellings of one key the later one decides, and a
concatenation writes the members of an object in their order. -/
theorem insertion_shows :
    let isPro : Value :=
      .object [(.text "==", .list [.object [(.text "var", .text "plan")], .text "pro"])]
    let free : Key × Value := (.text "Plan", .text "free")
    let pro : Key × Value := (.text "plan", .text "pro")
    let startsWithOne : Value := .object [(.text "in",
      .list [.text "1,", .object [(.text "cat", .object [(.text "var", .text "team")])]])]
    let one : Key × Value := (.text "a", .int 1)
    let two : Key × Value := (.text "b", .int 2)
    let team (rows : Members) : Value := .object [(.text "team", .object rows)]
    (Rearranged id (.object [free, pro]) (.object [pro, free]) ∧
      isMatch isPro (.object [free, pro]) = true ∧ isMatch isPro (.object [pro, free]) = false) ∧
    Rearranged lowerKey (team [one, two]) (team [two, one]) ∧
      isMatch startsWithOne (team [one, two]) = true ∧
      isMatch startsWithOne (team [two, one]) = false := by
  intro isPro free pro startsWithOne one two team
  refine ⟨⟨?_, by decide +kernel, by decide +kernel⟩, ?_, by decide +kernel, by decide +kernel⟩
  · exact .swap (by decide +kernel) (by decide +kernel) ⟨rfl, .refl (.scalar rfl)⟩
      ⟨rfl, .refl (.scalar rfl)⟩
  · have hteam : Rearranged lowerKey (.object [one, two]) (.object [two, one]) :=
      .swap (by decide +kernel) (by decide +kernel) ⟨rfl, .refl (.scalar rfl)⟩
        ⟨rfl, .refl (.scalar rfl)⟩
    have hrows : List.Forall₂ (fun m n : Key × Value => m.1 = n.1 ∧ Rearranged lowerKey m.2 n.2)
        [(.text "team", .object [one, two])] [(.text "team", .object [two, one])] :=
      .cons ⟨rfl, hteam⟩ .nil
    exact .of_perm (by decide +kernel) (by decide +kernel) hrows (.refl _)

end StagedRollout.Rule
