/-
What an evaluation is decided by. Before it looks at any stage of the rollout, an evaluation is settled
by a missing flag, a missing property or an arm fixed for the user, or it goes on with the text that is
hashed into a bucket. From there the first stage that takes the context decides, and nothing else about
the list of stages matters.
-/
import StagedRollout.Decision.Evaluate
import StagedRollout.Proofs.Outcome

namespace StagedRollout.Decision

/-! ## Stages -/

/-- Whether a stage is meant for a context. -/
def isMeant (rollout : Rollout) (context : Context) : Bool :=
  match (isTargeted rollout context).outcome with
  | .ok b => b
  | .error _ => false

/-- It is always told whether a stage is meant for a context, with properties or without. -/
theorem isTargeted_outcome (rollout : Rollout) (context : Context) :
    (isTargeted rollout context).outcome = .ok (isMeant rollout context) := by
  obtain ⟨b, hb⟩ : Returns (isTargeted rollout context).outcome := by
    unfold isTargeted
    split
    · exact returns_ok _
    · split
      · unfold Context.propertiesValue
        split <;> exact returns_ok _
      · exact returns_ok _
  unfold isMeant
  rw [hb]

/-- A stage whose rule cannot be evaluated is meant for no one. -/
theorem isMeant_of_fault {rollout : Rollout} {context : Context} {e : Fault}
    (hr : rollout.hasRule = true)
    (h : Rule.verdict rollout.rule context.propertiesValue = .error e) :
    isMeant rollout context = false := by
  have hm : Rule.isMatch rollout.rule context.propertiesValue = false := by
    unfold Rule.isMatch
    rw [h]
  have ht : (isTargeted rollout context).outcome = .ok false := by
    unfold isTargeted Rule.report
    rw [if_pos hr, hm]
  unfold isMeant
  rw [ht]

/-- The bucket of a text, as stages compare it with their percentage. -/
def bucketOf (bucketing : String) : Double := (Hash.rolloutPosition bucketing).toSingle

/-- Whether a stage is meant for a context and admits its bucket. -/
def takes (context : Context) (bucketing : String) (rollout : Rollout) : Bool :=
  isMeant rollout context && admits rollout (bucketOf bucketing)

theorem firstRollout_outcome (context : Context) (bucketing : String) (rollouts : List Rollout) :
    (firstRollout context (bucketOf bucketing) rollouts).outcome =
      .ok (rollouts.find? (takes context bucketing)) := by
  induction rollouts with
  | nil => rfl
  | cons rollout rest ih =>
    have ht : takes context bucketing rollout =
        (isMeant rollout context && admits rollout (bucketOf bucketing)) := rfl
    unfold firstRollout
    rw [Reported.outcome_bind, isTargeted_outcome, List.find?_cons, ht]
    show Reported.outcome (if _ then _ else _) = _
    split
    · rename_i h
      rw [h]
      rfl
    · rename_i h
      rw [ih, eq_false_of_ne_true h]

/-- The arm that the first stage which takes a context gives. -/
def firstVariant (ruleset : RuleSet) (context : Context) (bucketing : String)
    (rollouts : List Rollout) : Except Fault (Option Variant) :=
  match rollouts.find? (takes context bucketing) with
  | some rollout => resolve ruleset rollout bucketing
  | none => .ok none

section First

variable {ruleset : RuleSet} {context : Context} {bucketing : String} {rollout : Rollout}
  {before rest : List Rollout}

theorem firstVariant_cons_of_takes (h : takes context bucketing rollout = true) :
    firstVariant ruleset context bucketing (rollout :: rest) =
      resolve ruleset rollout bucketing := by
  unfold firstVariant
  rw [List.find?_cons, h]

theorem firstVariant_cons_of_idle (h : takes context bucketing rollout = false) :
    firstVariant ruleset context bucketing (rollout :: rest) =
      firstVariant ruleset context bucketing rest := by
  unfold firstVariant
  rw [List.find?_cons, h]

/-- Stages that do not take a context may as well not be there. -/
theorem firstVariant_append_of_idle (h : ∀ r ∈ before, takes context bucketing r = false) :
    firstVariant ruleset context bucketing (before ++ rest) =
      firstVariant ruleset context bucketing rest := by
  induction before with
  | nil => rfl
  | cons first others ih =>
    rw [List.cons_append, firstVariant_cons_of_idle (h first List.mem_cons_self)]
    exact ih fun r hr => h r (List.mem_cons_of_mem first hr)

/-- Behind a stage that takes a context, no stage matters. -/
theorem firstVariant_append_of_takes (h : ¬ ∀ r ∈ before, takes context bucketing r = false) :
    firstVariant ruleset context bucketing (before ++ rest) =
      firstVariant ruleset context bucketing before := by
  unfold firstVariant
  rw [List.find?_append]
  cases hf : before.find? (takes context bucketing) with
  | none => exact absurd (fun r hr => eq_false_of_ne_true (List.find?_eq_none.1 hf r hr)) h
  | some rollout => rfl

/-- Behind other stages, lists of stages that come to the same still do. -/
theorem firstVariant_append_congr (before : List Rollout) {rest' : List Rollout}
    (h : firstVariant ruleset context bucketing rest = firstVariant ruleset context bucketing rest') :
    firstVariant ruleset context bucketing (before ++ rest) =
      firstVariant ruleset context bucketing (before ++ rest') := by
  by_cases hb : ∀ r ∈ before, takes context bucketing r = false
  · rw [firstVariant_append_of_idle hb, firstVariant_append_of_idle hb, h]
  · rw [firstVariant_append_of_takes hb, firstVariant_append_of_takes hb]

end First

theorem rolloutVariant_outcome (ruleset : RuleSet) (context : Context) (flagKey : Value)
    (bucketing : String) :
    (rolloutVariant ruleset context flagKey bucketing).outcome =
      firstVariant ruleset context bucketing ruleset.rollouts := by
  unfold rolloutVariant firstVariant
  show Reported.outcome (firstRollout context (bucketOf bucketing) _ >>= _) = _
  rw [Reported.outcome_bind, firstRollout_outcome]
  cases ruleset.rollouts.find? (takes context bucketing) with
  | none => rfl
  | some rollout =>
    show Reported.outcome (Reported.ofExcept _ >>= _) = resolve ruleset rollout bucketing
    rw [Reported.outcome_bind, Reported.outcome_ofExcept]
    cases resolve ruleset rollout bucketing with
    | error e => rfl
    | ok variant => cases variant <;> rfl

/-! ## Before the stages -/

theorem identityText_of_writable {identity : Value} (hb : ∀ b, identity ≠ .bool b)
    (h : identity.isWritable = true) : identityText identity = .ok identity.asText := by
  unfold identityText
  split
  · exact absurd rfl (hb _)
  · rw [if_pos h]

/-- How far an evaluation comes before it looks at a stage. -/
inductive Approach where
  /-- Nothing is known about the flag. -/
  | unknown
  /-- The property by which users are put into buckets is missing. -/
  | noIdentity
  /-- An arm is fixed for the user. -/
  | tester (variant : Variant)
  /-- The stages decide, by this text. -/
  | stages (bucketing : String)

/-- The approach for a user whose bucketing property is known. -/
def approachFor (ruleset : RuleSet) (context : Context) (flagKey identity : Value) :
    Except Fault Approach := do
  match ← testVariant ruleset context.distinctId with
  | some variant => return .tester variant
  | none => return .stages (← bucketingText identity flagKey)

def approach (definition : Definition) (context : Context) (flagKey : Value) :
    Except Fault Approach :=
  if flagKey.isTruthy then
    match definition with
    | .unknown => .ok .unknown
    | definition => do
      match ← context.property definition.bucketingName with
      | .null => return .noIdentity
      | identity => approachFor definition.ruleset context flagKey identity
  else .error (.breach .emptyFlagKey)

/-- The selection of an arm that a stage gave, if it gave one. -/
def Definition.selected (definition : Definition) (variant : Option Variant) : Option Selection :=
  variant.map fun v => definition.selection v false

/-- What comes of an approach to a list of stages. -/
def Approach.selection (definition : Definition) (context : Context) (rollouts : List Rollout) :
    Approach → Except Fault (Option Selection)
  | .unknown => .ok none
  | .noIdentity => .ok none
  | .tester variant => .ok (some (definition.selection variant true))
  | .stages bucketing =>
    (firstVariant definition.ruleset context bucketing rollouts).map definition.selected

theorem selectFor_outcome (definition : Definition) (context : Context) (flagKey identity : Value) :
    (selectFor definition context flagKey identity).outcome =
      approachFor definition.ruleset context flagKey identity >>=
        Approach.selection definition context definition.ruleset.rollouts := by
  unfold selectFor approachFor
  rw [Reported.outcome_bind, Reported.outcome_ofExcept]
  cases testVariant definition.ruleset context.distinctId with
  | error e => rfl
  | ok tester =>
    cases tester with
    | some variant => rfl
    | none =>
      show Reported.outcome (Reported.ofExcept _ >>= _) = (bucketingText _ _ >>= _) >>= _
      rw [Reported.outcome_bind, Reported.outcome_ofExcept]
      cases bucketingText identity flagKey with
      | error e => rfl
      | ok bucketing =>
        show Reported.outcome (rolloutVariant _ _ _ _ >>= _) = Except.map _ (firstVariant _ _ _ _)
        rw [Reported.outcome_bind, rolloutVariant_outcome]
        cases firstVariant definition.ruleset context bucketing definition.ruleset.rollouts <;> rfl

/-- An evaluation is its approach and what comes of that. -/
theorem evaluate_outcome (definition : Definition) (context : Context) (flagKey : Value) :
    (evaluate definition context flagKey).outcome =
      approach definition context flagKey >>=
        Approach.selection definition context definition.ruleset.rollouts := by
  unfold evaluate approach
  split
  · cases definition with
    | unknown => rfl
    | _ =>
      show Reported.outcome (Reported.ofExcept _ >>= _) = (Context.property _ _ >>= _) >>= _
      rw [Reported.outcome_bind, Reported.outcome_ofExcept]
      generalize context.property _ = found
      cases found with
      | error e => rfl
      | ok identity =>
        cases identity with
        | null => rfl
        | _ => exact selectFor_outcome _ _ _ _
  · rfl

/-! ## Other stages -/

/-- What is known about a flag, with other stages. -/
def Definition.withRollouts (definition : Definition) (rollouts : List Rollout) : Definition :=
  match definition with
  | .unknown => .unknown
  | .rules r => .rules { r with rollouts }
  | .flag f => .flag { f with ruleset := { f.ruleset with rollouts } }

theorem approach_withRollouts (definition : Definition) (context : Context) (flagKey : Value)
    (rollouts : List Rollout) :
    approach (definition.withRollouts rollouts) context flagKey =
      approach definition context flagKey := by
  cases definition <;> rfl

/-- The stages have no part in the approach, and only the list of them has one in what follows. -/
theorem evaluate_withRollouts (definition : Definition) (context : Context) (flagKey : Value)
    (rollouts : List Rollout) :
    (evaluate (definition.withRollouts rollouts) context flagKey).outcome =
      approach definition context flagKey >>= Approach.selection definition context rollouts := by
  rw [evaluate_outcome, approach_withRollouts]
  cases definition with
  | unknown =>
    unfold approach
    split <;> rfl
  | _ => rfl

section Outcome

variable {definition : Definition} {context : Context} {flagKey : Value}
  {rollouts rollouts' : List Rollout}

theorem outcome_of_stages {bucketing : String}
    (h : approach definition context flagKey = .ok (.stages bucketing)) :
    (evaluate (definition.withRollouts rollouts) context flagKey).outcome =
      (firstVariant definition.ruleset context bucketing rollouts).map definition.selected := by
  rw [evaluate_withRollouts, h]
  rfl

/-- Lists of stages matter only by the arm that they come to, and only where the stages decide. -/
theorem outcome_congr
    (h : ∀ bucketing, approach definition context flagKey = .ok (.stages bucketing) →
      firstVariant definition.ruleset context bucketing rollouts =
        firstVariant definition.ruleset context bucketing rollouts') :
    (evaluate (definition.withRollouts rollouts) context flagKey).outcome =
      (evaluate (definition.withRollouts rollouts') context flagKey).outcome := by
  rw [evaluate_withRollouts, evaluate_withRollouts]
  cases ha : approach definition context flagKey with
  | error e => rfl
  | ok a =>
    cases a with
    | stages bucketing =>
      show Except.map _ _ = Except.map _ _
      rw [h bucketing ha]
    | _ => rfl

end Outcome

end StagedRollout.Decision
