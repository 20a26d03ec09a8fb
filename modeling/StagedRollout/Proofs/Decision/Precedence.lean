/-
Precedence among what may decide an evaluation. An arm fixed for the user wins over every stage; where
none is fixed, the list of test users might as well be missing. Among the stages the first that takes
the context wins: stages that do not take it can be put in and left out anywhere, and nothing behind the
first that does is looked at, not even when that one yields no arm.
-/
import StagedRollout.Proofs.Decision.Deciding

namespace StagedRollout.Decision

/-! ## Fixed arms -/

/-- An arm is fixed for a user: the list of test users has a key for the user, and the arm is the first
under that key. Null is the key of none. -/
def IsFixed (ruleset : RuleSet) (user : Value) (variant : Variant) : Prop :=
  ∃ users name key, ruleset.testUsers = some users ∧ user.toKey? = some name ∧
    Table.find? users name = some key ∧ key ≠ .null ∧ ruleset.findVariant? key = some variant

section Testers

variable {ruleset : RuleSet} {user : Value}

theorem testKey_eq {users : Members} {name : Key} (hu : ruleset.testUsers = some users)
    (hn : user.toKey? = some name) :
    testKey ruleset user = .ok ((Table.find? users name).getD .null) := by
  unfold testKey
  rw [hu, hn]
  cases users <;> rfl

theorem exists_of_testKey {key : Value} (h : testKey ruleset user = .ok key) (hk : key ≠ .null) :
    ∃ users name, ruleset.testUsers = some users ∧ user.toKey? = some name ∧
      Table.find? users name = some key := by
  unfold testKey at h
  split at h
  · rename_i m rest hu
    split at h
    · rename_i name hn
      refine ⟨m :: rest, name, hu, hn, ?_⟩
      cases hf : Table.find? (m :: rest) name with
      | none =>
        rw [hf] at h
        exact absurd (Except.ok.inj h).symm hk
      | some found =>
        rw [hf] at h
        exact congrArg some (Except.ok.inj h)
    · cases h
  · exact absurd (Except.ok.inj h).symm hk

theorem variantOf_eq {key : Value} (h : key ≠ .null) :
    variantOf ruleset key = ruleset.findVariant? key := by
  cases key with
  | null => exact absurd rfl h
  | _ => rfl

/-- The arm that an evaluation takes for a test user is the one fixed for them. -/
theorem testVariant_eq_iff {variant : Variant} :
    testVariant ruleset user = .ok (some variant) ↔ IsFixed ruleset user variant := by
  constructor
  · intro h
    obtain ⟨key, hk, hv⟩ := bind_ok h
    replace hv : variantOf ruleset key = some variant := Except.ok.inj hv
    have hn : key ≠ .null := by
      rintro rfl
      cases hv
    obtain ⟨users, name, hu, hname, hf⟩ := exists_of_testKey hk hn
    rw [variantOf_eq hn] at hv
    exact ⟨users, name, key, hu, hname, hf, hn, hv⟩
  · rintro ⟨users, name, key, hu, hname, hf, hn, hv⟩
    unfold testVariant
    rw [testKey_eq hu hname, hf]
    show Except.ok (variantOf ruleset key) = _
    rw [variantOf_eq hn, hv]

end Testers

/-- What is known about a flag, without its test users. -/
def Definition.withoutTesters : Definition → Definition
  | .unknown => .unknown
  | .rules r => .rules { r with testUsers := none }
  | .flag f => .flag { f with ruleset := { f.ruleset with testUsers := none } }

section Approach

variable {definition : Definition} {context : Context} {flagKey identity : Value}

theorem approachFor_of_fixed {ruleset : RuleSet} {variant : Variant}
    (h : IsFixed ruleset context.distinctId variant) :
    approachFor ruleset context flagKey identity = .ok (.tester variant) := by
  unfold approachFor
  rw [testVariant_eq_iff.2 h]
  rfl

/-- Where no arm is fixed, the approach is the same without test users, if it comes to anything. -/
theorem approachFor_withoutTesters {ruleset : RuleSet} {a : Approach}
    (h : ∀ variant, ¬ IsFixed ruleset context.distinctId variant)
    (ha : approachFor ruleset context flagKey identity = .ok a) :
    approachFor { ruleset with testUsers := none } context flagKey identity = .ok a := by
  unfold approachFor at ha
  obtain ⟨tester, ht, ha⟩ := bind_ok ha
  cases tester with
  | some variant => exact absurd (testVariant_eq_iff.1 ht) (h variant)
  | none => exact ha

/-- Past the test for a key and an identity, what is left of an approach is about the rule set. -/
theorem approach_eq (hk : flagKey.isTruthy = true) (hd : definition ≠ .unknown)
    (hi : context.property definition.bucketingName = .ok identity) (hn : identity ≠ .null) :
    approach definition context flagKey =
      approachFor definition.ruleset context flagKey identity := by
  unfold approach
  rw [if_pos hk]
  cases definition with
  | unknown => exact absurd rfl hd
  | _ =>
    show (Context.property _ _ >>= _) = _
    rw [hi]
    cases identity with
    | null => exact absurd rfl hn
    | _ => rfl

theorem bucketingText_of_stages {ruleset : RuleSet} {bucketing : String}
    (h : approachFor ruleset context flagKey identity = .ok (.stages bucketing)) :
    bucketingText identity flagKey = .ok bucketing := by
  unfold approachFor at h
  obtain ⟨tester, -, h⟩ := bind_ok h
  cases tester with
  | some variant => cases h
  | none =>
    obtain ⟨text, ht, h⟩ := bind_ok h
    cases h
    exact ht

theorem fixed_of_tester {ruleset : RuleSet} {variant : Variant}
    (h : approachFor ruleset context flagKey identity = .ok (.tester variant)) :
    IsFixed ruleset context.distinctId variant := by
  unfold approachFor at h
  obtain ⟨tester, ht, h⟩ := bind_ok h
  cases tester with
  | some fixed =>
    cases h
    exact testVariant_eq_iff.1 ht
  | none =>
    obtain ⟨bucketing, -, h⟩ := bind_ok h
    cases h

theorem ne_unknown_of_approach {a : Approach} (h : approach definition context flagKey = .ok a)
    (ha : a ≠ .unknown) : definition ≠ .unknown := by
  rintro rfl
  unfold approach at h
  split at h
  · exact ha (Except.ok.inj h).symm
  · cases h

theorem outcome_of_fixed {variant : Variant} (hk : flagKey.isTruthy = true)
    (hi : context.property definition.bucketingName = .ok identity) (hn : identity ≠ .null)
    (h : IsFixed definition.ruleset context.distinctId variant) (rollouts : List Rollout) :
    (evaluate (definition.withRollouts rollouts) context flagKey).outcome =
      .ok (some (definition.selection variant true)) := by
  have hd : definition ≠ .unknown := by
    rintro rfl
    obtain ⟨users, -, -, hu, -⟩ := h
    cases hu
  rw [evaluate_withRollouts, approach_eq hk hd hi hn, approachFor_of_fixed h]
  rfl

theorem outcome_withoutTesters {s : Option Selection} (hk : flagKey.isTruthy = true)
    (hi : context.property definition.bucketingName = .ok identity) (hn : identity ≠ .null)
    (h : ∀ variant, ¬ IsFixed definition.ruleset context.distinctId variant)
    (hs : (evaluate definition context flagKey).outcome = .ok s) :
    (evaluate definition.withoutTesters context flagKey).outcome = .ok s := by
  by_cases hd : definition = .unknown
  · rw [hd] at hs ⊢
    exact hs
  · have hd' : definition.withoutTesters ≠ .unknown := by
      cases definition with
      | unknown => exact absurd rfl hd
      | _ => nofun
    have hi' : context.property definition.withoutTesters.bucketingName = .ok identity := by
      cases definition <;> exact hi
    rw [evaluate_outcome, approach_eq hk hd hi hn] at hs
    obtain ⟨a, ha, hs⟩ := bind_ok hs
    have ha' : approachFor definition.withoutTesters.ruleset context flagKey identity = .ok a := by
      cases definition with
      | unknown => exact absurd rfl hd
      | _ => exact approachFor_withoutTesters h ha
    rw [evaluate_outcome, approach_eq hk hd' hi' hn, ha']
    cases definition with
    | unknown => exact absurd rfl hd
    | _ => exact hs

end Approach

/-! ## Stages that do not take the context -/

/-- Why a stage does not take a context. -/
inductive Idle (context : Context) (bucketing : String) (rollout : Rollout) : Prop where
  /-- The context is not meant. -/
  | unmet (h : (isTargeted rollout context).outcome = .ok false)
  /-- The rule that says for whom the stage is meant cannot be evaluated. -/
  | ruleFails (e : Fault) (hr : rollout.hasRule = true)
      (h : Rule.verdict rollout.rule context.propertiesValue = .error e)
  /-- The bucket is not below the percentage. -/
  | above (h : rollout.percentage.single.le (bucketOf bucketing) = true)

theorem idle_iff {context : Context} {bucketing : String} {rollout : Rollout} :
    Idle context bucketing rollout ↔ takes context bucketing rollout = false := by
  unfold takes
  constructor
  · rintro (h | ⟨e, hr, h⟩ | h)
    · rw [isTargeted_outcome] at h
      rw [Except.ok.inj h, Bool.false_and]
    · rw [isMeant_of_fault hr h, Bool.false_and]
    · unfold admits
      rw [h, Bool.not_true, Bool.and_false]
  · intro h
    cases hm : isMeant rollout context with
    | false =>
      refine .unmet ?_
      rw [isTargeted_outcome, hm]
    | true =>
      rw [hm, Bool.true_and] at h
      exact .above (by simpa [admits] using h)

/-- Two lists of stages that differ only by stages which do not take the context, put in or left out at
any places. -/
inductive DifferByIdle (context : Context) (bucketing : String) : List Rollout → List Rollout → Prop
  | nil : DifferByIdle context bucketing [] []
  | keep (rollout : Rollout) {rs ts : List Rollout} (h : DifferByIdle context bucketing rs ts) :
      DifferByIdle context bucketing (rollout :: rs) (rollout :: ts)
  | putIn {rollout : Rollout} {rs ts : List Rollout} (hi : Idle context bucketing rollout)
      (h : DifferByIdle context bucketing rs ts) : DifferByIdle context bucketing rs (rollout :: ts)
  | leaveOut {rollout : Rollout} {rs ts : List Rollout} (hi : Idle context bucketing rollout)
      (h : DifferByIdle context bucketing rs ts) : DifferByIdle context bucketing (rollout :: rs) ts

theorem DifferByIdle.firstVariant_eq {ruleset : RuleSet} {context : Context} {bucketing : String}
    {rs ts : List Rollout} (h : DifferByIdle context bucketing rs ts) :
    firstVariant ruleset context bucketing rs = firstVariant ruleset context bucketing ts := by
  induction h with
  | nil => rfl
  | keep rollout _ ih => exact firstVariant_append_congr [rollout] ih
  | putIn hi _ ih => rw [firstVariant_cons_of_idle (idle_iff.1 hi), ih]
  | leaveOut hi _ ih => rw [firstVariant_cons_of_idle (idle_iff.1 hi), ih]

/-- The first stage that takes the context, whatever is behind it. -/
theorem firstVariant_of_first {ruleset : RuleSet} {context : Context} {bucketing : String}
    {before after : List Rollout} {rollout : Rollout} (hb : ∀ r ∈ before, Idle context bucketing r)
    (h : ¬ Idle context bucketing rollout) :
    firstVariant ruleset context bucketing (before ++ rollout :: after) =
      resolve ruleset rollout bucketing := by
  have ht : takes context bucketing rollout = true :=
    eq_true_of_ne_false fun hf => h (idle_iff.2 hf)
  rw [firstVariant_append_of_idle fun r hr => idle_iff.1 (hb r hr), firstVariant_cons_of_takes ht]

/-! ## Precedence -/

/-- Precedence in an evaluation for a user whose identity is known, under a key. An arm fixed for the
user is the result, whatever the stages are. Where none is fixed, the result is that without any test
users; it stays when stages that do not take the context are put in or left out, and when everything
behind the first stage that takes it is replaced, and it is the caller's fallback if that stage yields
no arm. The stages tell users apart by the text of their identity and the key; without one they take
no one. -/
theorem precedence_of_deciders (definition : Definition) (context : Context) {key : Text}
    (hk : key ≠ "") {identity : Value}
    (hi : context.property definition.bucketingName = .ok identity) (hn : identity ≠ .null) :
    let IsBucketedBy (bucketing : String) := bucketingText identity (.text key) = .ok bucketing
    let result (rollouts : List Rollout) :=
      (evaluate (definition.withRollouts rollouts) context (.text key)).outcome
    (∀ variant, IsFixed definition.ruleset context.distinctId variant →
      ∀ rollouts, result rollouts = .ok (some (definition.selection variant true))) ∧
    ((∀ variant, ¬ IsFixed definition.ruleset context.distinctId variant) →
      (∀ s, (evaluate definition context (.text key)).outcome = .ok s →
        (evaluate definition.withoutTesters context (.text key)).outcome = .ok s) ∧
      (∀ rs ts, (∀ bucketing, IsBucketedBy bucketing → DifferByIdle context bucketing rs ts) →
        result rs = result ts) ∧
      ∀ before rollout, (∀ bucketing, IsBucketedBy bucketing →
          (∀ r ∈ before, Idle context bucketing r) ∧ ¬ Idle context bucketing rollout) →
        ∀ after, (∀ after', result (before ++ rollout :: after) =
            result (before ++ rollout :: after')) ∧
          ((∀ bucketing, IsBucketedBy bucketing →
              resolve definition.ruleset rollout bucketing = .ok none) →
            ∀ s, result (before ++ rollout :: after) = .ok s → s = none)) := by
  intro IsBucketedBy result
  have ht : (Value.text key).isTruthy = true := decide_eq_true hk
  have happ : ∀ a, a ≠ .unknown → approach definition context (.text key) = .ok a →
      approachFor definition.ruleset context (.text key) identity = .ok a := by
    intro a hne ha
    rw [← approach_eq ht (ne_unknown_of_approach ha hne) hi hn]
    exact ha
  -- where the stages decide, they do so by this text
  have hb : ∀ b, approach definition context (.text key) = .ok (.stages b) → IsBucketedBy b :=
    fun b ha => bucketingText_of_stages (happ _ nofun ha)
  refine ⟨fun variant hf rollouts => outcome_of_fixed ht hi hn hf rollouts, fun hno => ⟨?_, ?_, ?_⟩⟩
  · exact fun s hs => outcome_withoutTesters ht hi hn hno hs
  · intro rs ts hd
    exact outcome_congr fun b ha => (hd b (hb b ha)).firstVariant_eq
  · intro before rollout hfirst after
    constructor
    · intro after'
      refine outcome_congr fun b ha => ?_
      obtain ⟨hidle, hr⟩ := hfirst b (hb b ha)
      rw [firstVariant_of_first hidle hr, firstVariant_of_first hidle hr]
    · intro hnone s hs
      replace hs : (evaluate _ _ _).outcome = _ := hs
      rw [evaluate_withRollouts] at hs
      obtain ⟨a, ha, hs⟩ := bind_ok hs
      cases a with
      | unknown => exact (Except.ok.inj hs).symm
      | noIdentity => exact (Except.ok.inj hs).symm
      | tester variant => exact absurd (fixed_of_tester (happ _ nofun ha)) (hno variant)
      | stages b =>
        replace hs : Except.map _ (firstVariant _ _ _ _) = _ := hs
        obtain ⟨hidle, hr⟩ := hfirst b (hb b ha)
        rw [firstVariant_of_first hidle hr, hnone b (hb b ha)] at hs
        exact (Except.ok.inj hs).symm

/-- A test user gets their arm from any stages; for another user a closed stage in front does nothing. -/
theorem precedence_of_deciders_with_tester :
    let closed : Rollout := ⟨⟨.int 0, by decide +kernel⟩, .null, none, some (.text "off"), none⟩
    let arm : Variant := ⟨.text "on", .bool true, .bool false, ⟨.int 1, by decide +kernel⟩⟩
    let definition : Definition := .rules ⟨[arm], [], some [(.text "qa", .text "on")]⟩
    let result (user : String) (rollouts : List Rollout) :=
      (evaluate (definition.withRollouts rollouts) ⟨.text user, some []⟩ (.text "f")).outcome
    (∀ rollouts, result "qa" rollouts = .ok (some (definition.selection arm true))) ∧
      ∀ rollouts, result "user" (closed :: rollouts) = result "user" rollouts := by
  intro closed arm definition result
  have hkey : ("f" : Text) ≠ "" := by decide
  have hidentity : ∀ user, Context.property ⟨.text user, some []⟩ definition.bucketingName =
      .ok (.text user) := fun _ => rfl
  have hqa := precedence_of_deciders definition _ hkey (hidentity "qa") nofun
  have huser := precedence_of_deciders definition _ hkey (hidentity "user") nofun
  have hfixed : IsFixed definition.ruleset (.text "qa") arm :=
    ⟨_, .text "qa", .text "on", rfl, rfl, by rfl, nofun, by rfl⟩
  have hfree : ∀ variant, ¬ IsFixed definition.ruleset (.text "user") variant := by
    rintro variant ⟨users, name, key, hu, hname, hf, -⟩
    cases hu
    cases hname
    simp [Table.find?, Key.same, Key.number?] at hf
  have hclosed : Idle ⟨.text "user", some []⟩ "userf" closed := .above (by decide +kernel)
  have hsame : ∀ rollouts, DifferByIdle ⟨.text "user", some []⟩ "userf" rollouts rollouts :=
    fun rollouts => by
      induction rollouts with
      | nil => exact .nil
      | cons rollout rest ih => exact .keep rollout ih
  have htext : bucketingText (.text "user") (.text "f") = .ok "userf" := by rfl
  refine ⟨hqa.1 arm hfixed, fun rollouts => (huser.2 hfree).2.1 _ _ fun bucketing hb => ?_⟩
  cases htext.symm.trans hb
  exact .leaveOut hclosed (hsame rollouts)

end StagedRollout.Decision
