/-
What an evaluation depends on. The user counts only by the text of the property that puts users into
buckets, by what the list of test users holds for them and by the stages that are meant for them; the
flag counts only by its rule set and by the name of that property. Two evaluations that agree in this
select the same arm, both leave the fallback, or both come to a fault: who the users are, which other
properties they have and what else is known of the flags is never looked at.
-/
import StagedRollout.Proofs.Decision.Precedence

namespace StagedRollout.Decision

/-! ## Agreement of results -/

/-- Selections of the same arm, both for a test user or neither. They may tell of different
experiments. -/
structure SameArm (s t : Selection) : Prop where
  key : s.key = t.key
  value : s.value = t.value
  isTester : s.isTester = t.isTester

theorem selection_sameArm (d e : Definition) (variant : Variant) (isTester : Bool) :
    SameArm (d.selection variant isTester) (e.selection variant isTester) := by
  cases d <;> cases e <;> exact ⟨rfl, rfl, rfl⟩

/-- Both evaluations select the same arm, both leave the fallback, or both come to a fault. -/
def Agree (x y : Except Fault (Option Selection)) : Prop := Alike (Option.Rel SameArm) x y

/-- Where one of two evaluations that agree selects an arm, the other selects it as well. -/
theorem Agree.selected {x y : Except Fault (Option Selection)} {s : Selection} (h : Agree x y)
    (hs : x = .ok (some s)) : ∃ t, y = .ok (some t) ∧ SameArm s t := by
  subst hs
  cases h with
  | ok h =>
    cases h with
    | some h => exact ⟨_, rfl, h⟩

/-! ## What the parts of an evaluation depend on -/

section Contexts

variable {ruleset : RuleSet} {a b : Context} {bucketing : String} {rollouts : List Rollout}

theorem isMeant_congr {rollout : Rollout}
    (h : (isTargeted rollout a).outcome = (isTargeted rollout b).outcome) :
    isMeant rollout a = isMeant rollout b := by
  rw [isTargeted_outcome, isTargeted_outcome] at h
  exact Except.ok.inj h

/-- The stages see a context only by whether they are meant for it. -/
theorem firstVariant_congr (h : ∀ r ∈ rollouts, isMeant r a = isMeant r b) :
    firstVariant ruleset a bucketing rollouts = firstVariant ruleset b bucketing rollouts := by
  induction rollouts with
  | nil => rfl
  | cons rollout rest ih =>
    have hrest := ih fun r hr => h r (List.mem_cons_of_mem rollout hr)
    have ht : takes a bucketing rollout = takes b bucketing rollout := by
      unfold takes
      rw [h rollout List.mem_cons_self]
    cases htb : takes b bucketing rollout with
    | true =>
      rw [firstVariant_cons_of_takes (ht.trans htb), firstVariant_cons_of_takes htb]
    | false =>
      rw [firstVariant_cons_of_idle (ht.trans htb), firstVariant_cons_of_idle htb, hrest]

/-- The approach sees a user only by the arm that is fixed for them and by the text of their
identity. -/
theorem approachFor_congr {flagKey i j : Value}
    (ht : testVariant ruleset a.distinctId = testVariant ruleset b.distinctId)
    (hi : identityText i = identityText j) :
    approachFor ruleset a flagKey i = approachFor ruleset b flagKey j := by
  unfold approachFor bucketingText
  rw [ht, hi]

theorem testVariant_congr {u v : Value} (h : testKey ruleset u = testKey ruleset v) :
    testVariant ruleset u = testVariant ruleset v := by
  unfold testVariant
  rw [h]

end Contexts

/-- What comes of an approach is the same arm for two contexts that the stages do not tell apart. -/
theorem Approach.selection_agree {d e : Definition} {a b : Context} {rollouts : List Rollout}
    (hr : d.ruleset = e.ruleset) (hm : ∀ r ∈ rollouts, isMeant r a = isMeant r b)
    (approach : Approach) :
    Agree (approach.selection d a rollouts) (approach.selection e b rollouts) := by
  cases approach with
  | unknown => exact .ok .none
  | noIdentity => exact .ok .none
  | tester variant => exact .ok (.some (selection_sameArm d e variant true))
  | stages bucketing =>
    show Agree (Except.map _ (firstVariant _ _ _ _)) (Except.map _ (firstVariant _ _ _ _))
    rw [hr, firstVariant_congr hm]
    cases firstVariant e.ruleset b bucketing rollouts with
    | error f => exact .error f f
    | ok variant =>
      cases variant with
      | none => exact .ok .none
      | some v => exact .ok (.some (selection_sameArm d e v false))

/-! ## Evaluations -/

/-- Two users with an identity of the same text, with the same arm fixed for them or none, and with the
same stages meant for them. -/
structure SeenAlike (flag : Flag) (a b : Context) : Prop where
  identity : ∃ i j, a.property flag.context = .ok i ∧ b.property flag.context = .ok j ∧
    i ≠ .null ∧ j ≠ .null ∧ identityText i = identityText j
  tester : testVariant flag.ruleset a.distinctId = testVariant flag.ruleset b.distinctId
  targeting : ∀ rollout ∈ flag.ruleset.rollouts,
    (isTargeted rollout a).outcome = (isTargeted rollout b).outcome

/-- Users who are seen alike get the same arm from flags that differ at most in their metadata. -/
theorem SeenAlike.agree {f g : Flag} {a b : Context} (h : SeenAlike f a b)
    (hr : f.ruleset = g.ruleset) (hc : f.context = g.context) (flagKey : Value) :
    Agree (evaluate (.flag f) a flagKey).outcome (evaluate (.flag g) b flagKey).outcome := by
  obtain ⟨i, j, hi, hj, hni, hnj, hij⟩ := h.identity
  by_cases hk : flagKey.isTruthy = true
  · have hf : Definition.flag f ≠ .unknown := nofun
    have hg : Definition.flag g ≠ .unknown := nofun
    have hj' : b.property (Definition.flag g).bucketingName = .ok j := by
      show b.property g.context = .ok j
      rw [← hc]
      exact hj
    have hrules : (Definition.flag f).ruleset = (Definition.flag g).ruleset := hr
    have happroach : approach (.flag f) a flagKey = approach (.flag g) b flagKey := by
      rw [approach_eq hk hf hi hni, approach_eq hk hg hj' hnj]
      rw [← hrules]
      exact approachFor_congr h.tester hij
    have hm : ∀ r ∈ g.ruleset.rollouts, isMeant r a = isMeant r b := by
      rw [← hr]
      exact fun r hrollout => isMeant_congr (h.targeting r hrollout)
    rw [evaluate_outcome, evaluate_outcome, happroach, hrules]
    exact Alike.bind_right _ fun approach => approach.selection_agree hrules hm
  · unfold evaluate
    rw [if_neg hk, if_neg hk]
    exact .error _ _

/-- Of two evaluations under one key, of flags with the same rule set that put users into buckets by the
same property, for users whose identities have the same text, for whom the list of test users has the
same entry and for whom the same stages are meant, both select the same arm, both leave the fallback or
both come to a fault. Above all, users who are no test users share their arm if they share the property
and the stages that are meant for them. -/
theorem arm_depends_on_bucket_and_targeting (f g : Flag) (a b : Context) (flagKey : Value)
    (hr : f.ruleset = g.ruleset) (hc : f.context = g.context)
    (ht : ∀ rollout ∈ f.ruleset.rollouts,
      (isTargeted rollout a).outcome = (isTargeted rollout b).outcome) :
    (∀ i j, a.property f.context = .ok i → b.property g.context = .ok j → i ≠ .null → j ≠ .null →
      identityText i = identityText j →
      testKey f.ruleset a.distinctId = testKey f.ruleset b.distinctId →
      Agree (evaluate (.flag f) a flagKey).outcome (evaluate (.flag g) b flagKey).outcome) ∧
    (∀ identity, a.property f.context = .ok identity → b.property f.context = .ok identity →
      identity ≠ .null → testVariant f.ruleset a.distinctId = .ok none →
      testVariant f.ruleset b.distinctId = .ok none →
      Agree (evaluate (.flag f) a flagKey).outcome (evaluate (.flag g) b flagKey).outcome) := by
  constructor
  · intro i j hi hj hni hnj hij htester
    have h : SeenAlike f a b := ⟨⟨i, j, hi, hc ▸ hj, hni, hnj, hij⟩, testVariant_congr htester, ht⟩
    exact h.agree hr hc flagKey
  · intro identity ha hb hn hta htb
    have h : SeenAlike f a b :=
      ⟨⟨identity, identity, ha, hb, hn, hn, rfl⟩, hta.trans htb.symm, ht⟩
    exact h.agree hr hc flagKey

theorem isRatio_one : (Value.int 1).isRatio = true := by decide +kernel

theorem isRatio_half : (Value.float (.finite (1 / 2))).isRatio = true := by decide +kernel

/-- Two users of one company on one plan, written in different ways, share the arm of a flag that is
another flag's copy under another experiment. -/
theorem arm_depends_on_bucket_and_targeting_for_colleagues :
    let arm (key : String) : Variant :=
      ⟨.text key, .null, .bool false, ⟨.float (.finite (1 / 2)), isRatio_half⟩⟩
    let onPlan : Value :=
      .object [(.text "==", .list [.object [(.text "var", .text "plan")], .text "pro"])]
    let stage : Rollout := ⟨⟨.int 1, isRatio_one⟩, onPlan, none, none, none⟩
    let rules : RuleSet := ⟨[arm "a", arm "b"], [stage], some [(.text "qa", .text "a")]⟩
    let f : Flag := ⟨.text "f", rules, .text "1", .text "", .text "", .int 0, .text "company", none,
      .null⟩
    let g : Flag := { f with id := .text "2", experimentId := some ⟨5⟩, isActive := .bool true }
    let ann : Context := ⟨.text "ann", some [(.text "company", .int 7), (.text "plan", .text "pro")]⟩
    let bob : Context := ⟨.text "bob", some [(.text "plan", .text "PRO"),
      (.text "company", .text "7"), (.text "age", .int 30)]⟩
    ∃ s t, (evaluate (.flag f) ann (.text "f")).outcome = .ok (some s) ∧
      (evaluate (.flag g) bob (.text "f")).outcome = .ok (some t) ∧ SameArm s t := by
  intro arm onPlan stage rules f g ann bob
  have hmeant : isMeant stage ann = isMeant stage bob := by decide +kernel
  have ht : ∀ rollout ∈ f.ruleset.rollouts,
      (isTargeted rollout ann).outcome = (isTargeted rollout bob).outcome := by
    intro rollout hr
    rw [List.mem_singleton.1 hr, isTargeted_outcome, isTargeted_outcome, hmeant]
  have hshort : (Value.int 7).isWritable = true := by decide +kernel
  have htext : identityText (.int 7) = identityText (.text "7") := by
    rw [identityText_of_writable (by nofun) hshort]
    rfl
  have hagree := (arm_depends_on_bucket_and_targeting f g ann bob (.text "f") rfl rfl ht).1
    (.int 7) (.text "7") rfl rfl nofun nofun htext rfl
  have hselects : (evaluate (.flag f) ann (.text "f")).outcome.toOption.join.isSome = true := by
    decide +kernel
  obtain ⟨s, hs⟩ := Option.isSome_iff_exists.1 hselects
  obtain ⟨t, ht, hst⟩ := hagree.selected (toOption_join_eq_some.1 hs)
  exact ⟨s, t, toOption_join_eq_some.1 hs, ht, hst⟩

end StagedRollout.Decision
