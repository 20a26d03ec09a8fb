/-
What an accepted document is sure to hold. Keys of flags, arms and overrides are texts, and so is
the name of the property by which a flag puts users into buckets; the splits of a rollout are doubles
under texts, though not all of them shares; every flag stands under its own key, and no two under one.
-/
import StagedRollout.Proofs.Flag.Reading
import StagedRollout.Proofs.Value.Table

namespace StagedRollout

/-! ## Types of parts -/

/-- A stage whose override and whose splits have the types of a document's. -/
structure Rollout.Typed (r : Rollout) : Prop where
  override : ∀ key ∈ r.override, ∃ s, key = .text s
  splits : ∀ members ∈ r.splits, ∀ row ∈ members, (∃ s, row.1 = .text s) ∧ ∃ x, row.2 = .float x

structure RuleSet.Typed (r : RuleSet) : Prop where
  variants : ∀ v ∈ r.variants, ∃ s, v.key = .text s
  rollouts : ∀ rollout ∈ r.rollouts, rollout.Typed

structure Flag.Typed (f : Flag) : Prop where
  key : ∃ s, f.key = .text s
  context : ∃ s, f.context = .text s
  ruleset : f.ruleset.Typed

namespace Document

/-! ## Rule sets -/

theorem readVariant_key {data : Value} {v : Variant} (h : readVariant data = .ok v) :
    ∃ s, v.key = .text s := by
  obtain ⟨s, -, hs⟩ := (readVariant_reads h).key
  exact ⟨s, hs⟩

theorem readOverride_text {data key : Value} (h : readOverride data = some key) :
    ∃ s, key = .text s := by
  unfold readOverride at h
  split at h
  · split at h
    · split at h
      · cases h; exact ⟨_, rfl⟩
      · cases h
    · cases h
  · cases h

/-- A split that was read is a double, not checked further, under a text. -/
theorem readSplit_typed {row split : Key × Value} (h : readSplit row = .ok split) :
    (∃ s, split.1 = .text s) ∧ ∃ x, split.2 = .float x := by
  unfold readSplit at h
  obtain ⟨share, hs, h⟩ := bind_ok h
  unfold toShare at hs
  obtain ⟨x, -, hs⟩ := bind_ok hs
  cases hs
  cases h
  exact ⟨⟨_, rfl⟩, _, rfl⟩

theorem readSplits_typed {data : Value} {members : Members}
    (h : ReadsSplits data (some members)) :
    ∀ row ∈ members, (∃ s, row.1 = .text s) ∧ ∃ x, row.2 = .float x := by
  cases h with
  | object hr =>
    exact Table.forall_ofRows (mapM_ok (fun _ _ => readSplit_typed) hr)
      fun _ _ _ _ hk ha => ⟨hk.1, ha.2⟩

theorem readRollout_typed {data : Value} {r : Rollout} (h : readRollout data = .ok r) :
    r.Typed := by
  have hr : ReadsRollout data r := readRollout_reads h
  constructor
  · intro key hk
    obtain ⟨w, -, ho⟩ := hr.override
    rw [ho] at hk
    exact readOverride_text hk
  · intro members hm
    obtain ⟨w, -, hs⟩ := hr.splits
    rw [hm] at hs
    exact readSplits_typed hs

theorem readRuleSet_typed {data : Value} {r : RuleSet} (h : readRuleSet data = .ok r) :
    r.Typed := by
  rcases readRuleSet_reads h with ⟨-, rfl⟩ | hr
  · exact ⟨(fun _ hv => by cases hv), (fun _ hr => by cases hr)⟩
  · constructor
    · obtain ⟨arms, ⟨_, _, -, -, ha⟩, hv⟩ := hr.variants
      intro v hm
      rw [hv] at hm
      exact mapM_ok (fun _ _ => readVariant_key) ha v (List.mem_mergeSort.1 hm)
    · obtain ⟨_, _, -, -, hb⟩ := hr.rollouts
      exact mapM_ok (fun _ _ => readRollout_typed) hb

/-! ## Flags -/

theorem ReadsFlag.typed {data : Value} {f : Flag} (h : ReadsFlag data f) : f.Typed := by
  obtain ⟨key, -, hk⟩ := h.key
  obtain ⟨context, -, hc⟩ := h.context
  obtain ⟨rulesetData, -, hr⟩ := h.ruleset
  exact ⟨⟨key, hk⟩, ⟨_, hc⟩, readRuleSet_typed hr⟩

/-! ## Documents -/

/-- A row of the table of flags of a document. -/
def TypedRow (row : Key × Flag) : Prop := row.2.Typed ∧ row.1 = flagKey row.2

theorem readFlags_typed {data : List Value} {t flags : Table Flag} (ht : ∀ row ∈ t, TypedRow row)
    (h : (readFlags t data).outcome = .ok flags) : ∀ row ∈ flags, TypedRow row := by
  induction data generalizing t with
  | nil => cases h; exact ht
  | cons first rest ih =>
    obtain ⟨f, hf, h⟩ := readFlags_cons h
    -- a flag that takes an earlier one's place takes its key, which is the same text
    refine ih (Table.forall_put ht ⟨hf.typed, rfl⟩ fun k b _ hk => ?_) h
    exact ⟨hf.typed, Key.same_text.1 hk⟩

/-- Every flag of an accepted document has the types of a document's and stands under its own
key. -/
theorem read_typed {payload : Value} {flags : Table Flag} (h : (read payload).outcome = .ok flags) :
    ∀ row ∈ flags, TypedRow row := by
  have hn : ∀ row ∈ ([] : Table Flag), TypedRow row := fun row hr => by cases hr
  unfold read at h
  split at h
  · split at h
    · cases h; exact hn
    · rename_i items _
      exact readFlags_typed hn (mapError_ok h)
    · cases h
  · cases h

theorem readFlags_apart {data : List Value} {t flags : Table Flag} (ht : Table.IsApart t)
    (h : (readFlags t data).outcome = .ok flags) : Table.IsApart flags := by
  induction data generalizing t with
  | nil => cases h; exact ht
  | cons first rest ih =>
    obtain ⟨f, -, h⟩ := readFlags_cons h
    exact ih (Table.isApart_put ht _ f) h

/-- No two flags of an accepted document are under one key. -/
theorem read_apart {payload : Value} {flags : Table Flag} (h : (read payload).outcome = .ok flags) :
    Table.IsApart flags := by
  unfold read at h
  split at h
  · split at h
    · cases h; exact List.Pairwise.nil
    · exact readFlags_apart List.Pairwise.nil (mapError_ok h)
    · cases h
  · cases h

end Document

end StagedRollout
