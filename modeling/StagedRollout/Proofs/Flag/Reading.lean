/-
What the reader of each part of a flag has read, field by field. Everything about accepted documents
is drawn from these facts; no later proof opens a reader again.
-/
import StagedRollout.Flag.Document
import StagedRollout.Proofs.Outcome

namespace StagedRollout

theorem Ratio.value_of_ofValue {name : String} {v : Value} {r : Ratio}
    (h : Ratio.ofValue name v = .ok r) : r.value = v := by
  unfold Ratio.ofValue at h
  split at h
  · cases h
  · split at h
    · cases h; rfl
    · cases h

namespace Document

/-! ## Fields -/

/-- A value stands under a name. -/
def Under (data : Value) (name : String) (v : Value) : Prop := field data name = .ok v

theorem Under.unique {data v w : Value} {name : String} (hv : Under data name v)
    (hw : Under data name w) : v = w := by
  unfold Under at hv hw
  rw [hv] at hw
  exact Except.ok.inj hw

/-! ## Arms and stages -/

/-- An arm as it was read. -/
structure ReadsVariant (data : Value) (v : Variant) : Prop where
  key : ∃ s, textField data "key" = .ok s ∧ v.key = .text s
  value : Under data "value" v.value
  isControl : ∃ w, Under data "is_control" w ∧ v.isControl = .bool w.isTruthy
  split : ∃ w, Under data "split" w ∧ toShare w = .ok v.split.value

theorem readVariant_reads {data : Value} {v : Variant} (h : readVariant data = .ok v) :
    ReadsVariant data v := by
  unfold readVariant at h
  obtain ⟨key, hk, h⟩ := bind_ok h
  obtain ⟨value, hv, h⟩ := bind_ok h
  obtain ⟨isControl, hc, h⟩ := bind_ok h
  obtain ⟨splitData, hd, h⟩ := bind_ok h
  obtain ⟨split, hs, h⟩ := bind_ok h
  obtain ⟨ratio, hr, h⟩ := bind_ok h
  cases h
  rw [← Ratio.value_of_ofValue hr] at hs
  exact ⟨⟨key, hk, rfl⟩, hv, ⟨isControl, hc, rfl⟩, ⟨splitData, hd, hs⟩⟩

/-- The splits of a stage as they were read: those of an object, under texts. -/
inductive ReadsSplits : Value → Option Members → Prop
  | object {rows read : List (Key × Value)} (h : rows.mapM readSplit = .ok read) :
    ReadsSplits (.object rows) (some (Table.ofRows read))
  | other {data : Value} (h : ∀ rows, data ≠ .object rows) : ReadsSplits data none

theorem readSplits_reads {data splits : Value} {members : Option Members}
    (h : readSplits data = .ok splits) (hm : Rollout.membersOrNone splits = .ok members) :
    ReadsSplits data members := by
  unfold readSplits at h
  split at h
  · obtain ⟨read, hr, h⟩ := bind_ok h
    cases h
    cases hm
    exact .object hr
  · rename_i hno
    cases h
    cases hm
    exact .other hno

/-- A stage as it was read. -/
structure ReadsRollout (data : Value) (r : Rollout) : Prop where
  override : ∃ w, Under data "variant_override" w ∧ r.override = readOverride w
  listed : ∃ w, Under data "runtime_evaluation_definition" w ∧ r.listed = w.members?
  percentage : ∃ w, Under data "rollout_percentage" w ∧ toShare w = .ok r.percentage.value
  rule : Under data "runtime_evaluation_rule" r.rule
  splits : ∃ w, Under data "variant_splits" w ∧ ReadsSplits w r.splits

theorem readRollout_reads {data : Value} {r : Rollout} (h : readRollout data = .ok r) :
    ReadsRollout data r := by
  unfold readRollout at h
  obtain ⟨overrideData, ho, h⟩ := bind_ok h
  obtain ⟨listedData, hl, h⟩ := bind_ok h
  obtain ⟨percentageData, hp, h⟩ := bind_ok h
  obtain ⟨percentage, hs, h⟩ := bind_ok h
  obtain ⟨rule, hr, h⟩ := bind_ok h
  obtain ⟨splitsData, hd, h⟩ := bind_ok h
  obtain ⟨splits, ht, h⟩ := bind_ok h
  unfold Rollout.make at h
  obtain ⟨ratio, hv, h⟩ := bind_ok h
  obtain ⟨listed, hm, h⟩ := bind_ok h
  obtain ⟨members, hn, h⟩ := bind_ok h
  cases h
  rw [← Ratio.value_of_ofValue hv] at hs
  have hlisted : listed = listedData.members? := by
    cases listedData <;> exact (Except.ok.inj hm).symm
  exact ⟨⟨_, ho, rfl⟩, ⟨_, hl, hlisted⟩, ⟨_, hp, hs⟩, hr, ⟨_, hd, readSplits_reads ht hn⟩⟩

/-! ## Rule sets -/

/-- A list under a name, read element by element. -/
def ReadsList {α : Type} (data : Value) (name : String) (read : Value → Except Fault α)
    (parts : List α) : Prop :=
  ∃ w items, Under data name w ∧ elements w = .ok items ∧ items.mapM read = .ok parts

/-- A rule set as it was read. -/
structure ReadsRuleSet (data : Value) (r : RuleSet) : Prop where
  variants : ∃ arms, ReadsList data "variants" readVariant arms ∧
    r.variants = arms.mergeSort variantBefore
  rollouts : ReadsList data "rollout" readRollout r.rollouts
  testUsers : ∃ w, Under data "test" w ∧ r.testUsers = readTestUsers w

theorem readRuleSet_reads {data : Value} {r : RuleSet} (h : readRuleSet data = .ok r) :
    data.isTruthy = false ∧ r = RuleSet.empty ∨ ReadsRuleSet data r := by
  unfold readRuleSet at h
  split at h
  · obtain ⟨variantsData, hv, h⟩ := bind_ok h
    obtain ⟨variantItems, hi, h⟩ := bind_ok h
    obtain ⟨variants, ha, h⟩ := bind_ok h
    obtain ⟨rolloutData, hr, h⟩ := bind_ok h
    obtain ⟨rolloutItems, hj, h⟩ := bind_ok h
    obtain ⟨rollouts, hb, h⟩ := bind_ok h
    obtain ⟨testData, ht, h⟩ := bind_ok h
    cases h
    exact .inr ⟨⟨_, ⟨_, _, hv, hi, ha⟩, rfl⟩, ⟨_, _, hr, hj, hb⟩, ⟨_, ht, rfl⟩⟩
  · rename_i hd
    cases h
    exact .inl ⟨eq_false_of_ne_true hd, rfl⟩

/-! ## Flags -/

/-- A flag as it was read, its experiment apart. -/
structure ReadsFlag (data : Value) (f : Flag) : Prop where
  isActive : ∃ w, Under data "is_experiment_active" w ∧ f.isActive = readOptionalBool w
  key : ∃ s, textField data "key" = .ok s ∧ f.key = .text s
  ruleset : ∃ w, Under data "ruleset" w ∧ readRuleSet w = .ok f.ruleset
  id : ∃ s, textField data "id" = .ok s ∧ f.id = .text s
  name : ∃ s, textField data "name" = .ok s ∧ f.name = .text s
  status : ∃ s, textField data "status" = .ok s ∧ f.status = .text s
  projectId : ∃ w n, Under data "project_id" w ∧ toInt (w.orElse (.int 0)) = .ok n ∧
    f.projectId = .int n
  context : ∃ w, Under data "context" w ∧
    f.context = .text (w.orElse (.text distinctIdName)).asText

theorem readUnidentified_reads {data : Value} {f : Flag} (h : readUnidentified data = .ok f) :
    ReadsFlag data f := by
  unfold readUnidentified at h
  obtain ⟨isActive, ha, h⟩ := bind_ok h
  obtain ⟨key, hk, h⟩ := bind_ok h
  obtain ⟨rulesetData, hd, h⟩ := bind_ok h
  obtain ⟨ruleset, hr, h⟩ := bind_ok h
  obtain ⟨id, hi, h⟩ := bind_ok h
  obtain ⟨name, hn, h⟩ := bind_ok h
  obtain ⟨status, hs, h⟩ := bind_ok h
  obtain ⟨projectData, hp, h⟩ := bind_ok h
  obtain ⟨projectId, hm, h⟩ := bind_ok h
  obtain ⟨context, hc, h⟩ := bind_ok h
  cases h
  exact ⟨⟨_, ha, rfl⟩, ⟨_, hk, rfl⟩, ⟨_, hd, hr⟩, ⟨_, hi, rfl⟩, ⟨_, hn, rfl⟩, ⟨_, hs, rfl⟩,
    ⟨_, _, hp, hm, rfl⟩, ⟨_, hc, rfl⟩⟩

theorem readFlag_reads {data : Value} {f : Flag} (h : (readFlag data).outcome = .ok f) :
    ReadsFlag data f := by
  unfold readFlag at h
  rw [Reported.outcome_bind] at h
  obtain ⟨unidentified, hu, h⟩ := bind_ok h
  cases h
  have hr : ReadsFlag data unidentified := readUnidentified_reads hu
  exact ⟨hr.isActive, hr.key, hr.ruleset, hr.id, hr.name, hr.status, hr.projectId, hr.context⟩

/-- The first flag of a list is stored before the others are read. -/
theorem readFlags_cons {first : Value} {rest : List Value} {t flags : Table Flag}
    (h : (readFlags t (first :: rest)).outcome = .ok flags) :
    ∃ f, ReadsFlag first f ∧ (readFlags (Table.put t (flagKey f) f) rest).outcome = .ok flags := by
  unfold readFlags at h
  rw [Reported.outcome_bind] at h
  obtain ⟨f, hf, h⟩ := bind_ok h
  exact ⟨f, readFlag_reads hf, h⟩

end Document

end StagedRollout
