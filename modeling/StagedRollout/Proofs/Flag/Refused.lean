/-
What a document is refused with. The reader turns a broken rule, a value of a wrong kind and a missing
mapping anywhere in a flag into one fault of the document. Numbers out of range are the exception: a
whole number that has no double where a share is read, and an infinity where a project's number is
read. A document that holds one is never accepted, and its fault may pass the reader as it is.
-/
import StagedRollout.Proofs.Flag.Reading
import StagedRollout.Proofs.Number.Rounding

namespace StagedRollout

variable {α : Type} {p q : Prop}

/-! ## Numbers out of range -/

/-- A whole number that has no double. -/
def Value.IsHuge (v : Value) : Prop := ∃ n : Int, v = .int n ∧ Number.Format.beyond ≤ n.natAbs

/-- An infinity, which has no whole number. -/
def Value.IsInfinite (v : Value) : Prop := ∃ negative, v = .float (.infinity negative)

namespace Document

/-- Some value stands under a name and has a property. -/
def HoldsAt (data : Value) (name : String) (P : Value → Prop) : Prop :=
  ∃ v, Under data name v ∧ P v

/-- Some element of the list under a name has a property. -/
def HoldsIn (data : Value) (name : String) (P : Value → Prop) : Prop :=
  HoldsAt data name fun v => ∃ items, elements v = .ok items ∧ ∃ item ∈ items, P item

def HugeArm (data : Value) : Prop := HoldsAt data "split" Value.IsHuge

/-- A stage of a rollout with a percentage or a split that has no double. -/
def HugeStage (data : Value) : Prop :=
  HoldsAt data "rollout_percentage" Value.IsHuge ∨
    HoldsAt data "variant_splits" fun v => ∃ rows, v = .object rows ∧ ∃ row ∈ rows, row.2.IsHuge

def HugeRuleSet (data : Value) : Prop :=
  HoldsIn data "variants" HugeArm ∨ HoldsIn data "rollout" HugeStage

/-- A flag with a number out of range where the reader asks for one. -/
def OutOfRangeFlag (data : Value) : Prop :=
  HoldsAt data "ruleset" HugeRuleSet ∨ HoldsAt data "project_id" Value.IsInfinite

/-- A document with such a flag. -/
def OutOfRange (payload : Value) : Prop :=
  HoldsAt payload "flags" fun v => ∃ flags, v = .list flags ∧ ∃ data ∈ flags, OutOfRangeFlag data

/-! ## Refusals -/

/-- A fault that becomes one of the document, or a number out of range if there can be one. -/
def Refusal (p : Prop) (e : Fault) : Prop :=
  wrap e = .service .parse "Failed to parse flag definitions" (some e) ∨ e = .outOfRange ∧ p

theorem widen {x : Except Fault α} (h : p → q) (hx : FailsOnly (Refusal p) x) :
    FailsOnly (Refusal q) x :=
  hx.mono fun _ he => he.imp_right fun hr => ⟨hr.1, h hr.2⟩

/-! ## Fields -/

theorem field?_refuses (data : Value) (name : String) :
    FailsOnly (Refusal p) (field? data name) := by
  unfold field?
  split
  · exact failsOnly_ok _
  · exact failsOnly_error (.inl rfl)

theorem field_refuses (data : Value) (name : String) : FailsOnly (Refusal p) (field data name) :=
  failsOnly_bind (field?_refuses data name) fun _ _ => failsOnly_ok _

theorem textField_refuses (data : Value) (name : String) :
    FailsOnly (Refusal p) (textField data name) :=
  failsOnly_bind (field?_refuses data name) fun _ _ => failsOnly_ok _

theorem toDouble_refuses (v : Value) : FailsOnly (Refusal v.IsHuge) (toDouble v) := by
  unfold toDouble
  split
  · exact failsOnly_ok _
  · rename_i n
    split
    · exact failsOnly_ok _
    · rename_i h
      exact failsOnly_error (.inr ⟨rfl, n, rfl, Double.ofInt?_eq_none.1 h⟩)
  · exact failsOnly_ok _
  · split
    · exact failsOnly_ok _
    · exact failsOnly_error (.inl rfl)
  · exact failsOnly_error (.inl rfl)

theorem toShare_refuses (v : Value) : FailsOnly (Refusal v.IsHuge) (toShare v) := by
  refine failsOnly_bind ?_ fun _ _ => failsOnly_ok _
  unfold Value.orElse
  split
  · exact toDouble_refuses v
  · exact failsOnly_ok _

theorem toInt_refuses (v : Value) :
    FailsOnly (Refusal v.IsInfinite) (toInt (v.orElse (.int 0))) := by
  unfold Value.orElse
  split
  · unfold toInt
    split
    · exact failsOnly_ok _
    · exact failsOnly_ok _
    · split
      · exact failsOnly_error (.inl rfl)
      · exact failsOnly_error (.inr ⟨rfl, _, rfl⟩)
      · exact failsOnly_ok _
    · split
      · exact failsOnly_ok _
      · exact failsOnly_error (.inl rfl)
    · exact failsOnly_error (.inl rfl)
  · exact failsOnly_ok _

theorem elements_refuses (v : Value) : FailsOnly (Refusal p) (elements v) := by
  unfold elements
  split
  · exact failsOnly_ok _
  · exact failsOnly_error (.inl rfl)

theorem ofValue_refuses (name : String) (v : Value) :
    FailsOnly (Refusal p) (Ratio.ofValue name v) := by
  unfold Ratio.ofValue
  split
  · exact failsOnly_error (.inl rfl)
  · split
    · exact failsOnly_ok _
    · exact failsOnly_error (.inl rfl)

/-! ## Parts of a flag -/

theorem readVariant_refuses (data : Value) :
    FailsOnly (Refusal (HugeArm data)) (readVariant data) := by
  unfold readVariant
  refine failsOnly_bind (textField_refuses data "key") fun key _ => ?_
  refine failsOnly_bind (field_refuses data "value") fun value _ => ?_
  refine failsOnly_bind (field_refuses data "is_control") fun isControl _ => ?_
  refine failsOnly_bind (field_refuses data "split") fun splitData hs => ?_
  refine failsOnly_bind (widen (fun h => ⟨_, hs, h⟩) (toShare_refuses splitData)) fun split _ => ?_
  unfold Variant.make
  exact failsOnly_bind (ofValue_refuses "split" split) fun _ _ => failsOnly_ok _

theorem readSplits_refuses (data : Value) :
    FailsOnly (Refusal (∃ rows, data = .object rows ∧ ∃ row ∈ rows, row.2.IsHuge))
      (readSplits data) := by
  unfold readSplits
  split
  · rename_i rows
    refine failsOnly_bind (failsOnly_mapM fun row hr => ?_) fun _ _ => failsOnly_ok _
    refine failsOnly_bind (widen (fun h => ?_) (toShare_refuses row.2)) fun _ _ => failsOnly_ok _
    exact ⟨rows, rfl, row, hr, h⟩
  · exact failsOnly_ok _

theorem toRows_refuses (position : Nat) (items : List Value) :
    FailsOnly (Refusal p) (Value.toRows position items) := by
  induction items generalizing position with
  | nil => exact failsOnly_ok []
  | cons v rest ih =>
    unfold Value.toRows
    refine failsOnly_bind ?_ fun row _ => failsOnly_bind (ih _) fun _ _ => failsOnly_ok _
    unfold Value.toRow
    split
    · exact failsOnly_error (.inl rfl)
    · split
      · exact failsOnly_ok _
      · exact failsOnly_error (.inl rfl)
    · exact failsOnly_error (.inl rfl)

theorem membersOrNone_refuses (v : Value) : FailsOnly (Refusal p) (Rollout.membersOrNone v) := by
  unfold Rollout.membersOrNone
  split
  · exact failsOnly_ok _
  · refine failsOnly_bind ?_ fun _ _ => failsOnly_ok _
    unfold Value.toMembers
    split
    · exact failsOnly_ok _
    · split
      · exact failsOnly_error (.inl rfl)
      · exact failsOnly_bind (toRows_refuses 0 _) fun _ _ => failsOnly_ok _

theorem readRollout_refuses (data : Value) :
    FailsOnly (Refusal (HugeStage data)) (readRollout data) := by
  unfold readRollout
  refine failsOnly_bind (field_refuses data "variant_override") fun override _ => ?_
  refine failsOnly_bind (field_refuses data "runtime_evaluation_definition") fun listed _ => ?_
  refine failsOnly_bind (field_refuses data "rollout_percentage") fun percentageData hp => ?_
  refine failsOnly_bind (widen (fun h => .inl ⟨_, hp, h⟩) (toShare_refuses percentageData))
    fun percentage _ => ?_
  refine failsOnly_bind (field_refuses data "runtime_evaluation_rule") fun rule _ => ?_
  refine failsOnly_bind (field_refuses data "variant_splits") fun splitsData hs => ?_
  refine failsOnly_bind (widen (fun h => .inr ⟨_, hs, h⟩) (readSplits_refuses splitsData))
    fun splits _ => ?_
  unfold Rollout.make
  refine failsOnly_bind (ofValue_refuses _ _) fun ratio _ => ?_
  refine failsOnly_bind (membersOrNone_refuses _) fun members _ => ?_
  exact failsOnly_bind (membersOrNone_refuses _) fun _ _ => failsOnly_ok _

theorem readRuleSet_refuses (data : Value) :
    FailsOnly (Refusal (HugeRuleSet data)) (readRuleSet data) := by
  unfold readRuleSet
  split
  · refine failsOnly_bind (field_refuses data "variants") fun variantsData hv => ?_
    refine failsOnly_bind (elements_refuses variantsData) fun variantItems hi => ?_
    refine failsOnly_bind (failsOnly_mapM fun item hm => ?_) fun variants _ => ?_
    · exact widen (fun h => .inl ⟨_, hv, _, hi, item, hm, h⟩) (readVariant_refuses item)
    refine failsOnly_bind (field_refuses data "rollout") fun rolloutData hr => ?_
    refine failsOnly_bind (elements_refuses rolloutData) fun rolloutItems hj => ?_
    refine failsOnly_bind (failsOnly_mapM fun item hm => ?_) fun rollouts _ => ?_
    · exact widen (fun h => .inr ⟨_, hr, _, hj, item, hm, h⟩) (readRollout_refuses item)
    exact failsOnly_bind (field_refuses data "test") fun _ _ => failsOnly_ok _
  · exact failsOnly_ok _

/-! ## Flags -/

theorem readUnidentified_refuses (data : Value) :
    FailsOnly (Refusal (OutOfRangeFlag data)) (readUnidentified data) := by
  unfold readUnidentified
  refine failsOnly_bind (field_refuses data "is_experiment_active") fun isActive _ => ?_
  refine failsOnly_bind (textField_refuses data "key") fun key _ => ?_
  refine failsOnly_bind (field_refuses data "ruleset") fun rulesetData hr => ?_
  refine failsOnly_bind (widen (fun h => .inl ⟨_, hr, h⟩) (readRuleSet_refuses rulesetData))
    fun ruleset _ => ?_
  refine failsOnly_bind (textField_refuses data "id") fun id _ => ?_
  refine failsOnly_bind (textField_refuses data "name") fun name _ => ?_
  refine failsOnly_bind (textField_refuses data "status") fun status _ => ?_
  refine failsOnly_bind (field_refuses data "project_id") fun projectData hp => ?_
  refine failsOnly_bind (widen (fun h => .inr ⟨_, hp, h⟩) (toInt_refuses projectData))
    fun projectId _ => ?_
  exact failsOnly_bind (field_refuses data "context") fun _ _ => failsOnly_ok _

theorem readFlag_refuses (data : Value) :
    FailsOnly (Refusal (OutOfRangeFlag data)) (readFlag data).outcome := by
  unfold readFlag
  rw [Reported.outcome_bind]
  exact failsOnly_bind (readUnidentified_refuses data) fun _ _ => failsOnly_ok _

theorem readFlags_refuses (t : Table Flag) (data : List Value) :
    FailsOnly (Refusal (∃ d ∈ data, OutOfRangeFlag d)) (readFlags t data).outcome := by
  induction data generalizing t with
  | nil => exact failsOnly_ok t
  | cons first rest ih =>
    unfold readFlags
    rw [Reported.outcome_bind]
    refine failsOnly_bind (widen (fun h => ⟨first, List.mem_cons_self, h⟩) (readFlag_refuses first))
      fun flag _ => widen (fun h => ?_) (ih _)
    obtain ⟨d, hd, h⟩ := h
    exact ⟨d, List.mem_cons_of_mem first hd, h⟩

/-! ## Accepted parts -/

theorem HoldsAt.property {data v : Value} {name : String} {P : Value → Prop}
    (h : HoldsAt data name P) (hv : Under data name v) : P v := by
  obtain ⟨w, hw, hP⟩ := h
  rw [hv.unique hw]
  exact hP

/-- An element with a property in a list that was read was read itself. -/
theorem HoldsIn.read {data : Value} {name : String} {P : Value → Prop} {f : Value → Except Fault α}
    {parts : List α} (h : HoldsIn data name P) (hr : ReadsList data name f parts) :
    ∃ item, P item ∧ Returns (f item) := by
  obtain ⟨w, items, hw, hi, hm⟩ := hr
  obtain ⟨others, ho, item, hmem, hP⟩ := HoldsAt.property h hw
  rw [hi] at ho
  cases ho
  exact ⟨item, hP, returns_of_mapM hm item hmem⟩

/-- A value that says nothing holds no lists. -/
theorem not_holdsIn_of_idle {data : Value} {name : String} {P : Value → Prop}
    (h : data.isTruthy = false) : ¬ HoldsIn data name P := by
  rintro ⟨v, hv, items, hi, item, hm, -⟩
  cases data with
  | object members =>
    cases members with
    | nil => cases hv; cases hi; cases hm
    | cons row rest => cases h
  | _ => cases hv

theorem not_huge_of_toShare {v share : Value} (h : toShare v = .ok share) : ¬ v.IsHuge := by
  rintro ⟨n, rfl, hn⟩
  -- a number so large is not zero, so it is not taken for a share that is missing
  have hpos : 0 < Number.Format.beyond := by decide +kernel
  have htruthy : (Value.int n).isTruthy = true := by
    refine decide_eq_true fun hz => ?_
    rw [hz] at hn
    exact absurd hn (not_le.2 hpos)
  unfold toShare at h
  obtain ⟨x, hx, -⟩ := bind_ok h
  unfold Value.orElse toDouble at hx
  rw [if_pos htruthy] at hx
  simp only [Double.ofInt?_eq_none.2 hn] at hx
  cases hx

theorem not_huge_of_readVariant {data : Value} {v : Variant} (h : readVariant data = .ok v) :
    ¬ HugeArm data := by
  obtain ⟨w, hw, hs⟩ := (readVariant_reads h).split
  exact fun hh => not_huge_of_toShare hs (hh.property hw)

theorem not_huge_of_readSplits {rows : Members} {read : Option Members}
    (h : ReadsSplits (.object rows) read) : ¬ ∃ row ∈ rows, row.2.IsHuge := by
  rintro ⟨row, hm, hh⟩
  cases h with
  | object hr =>
    obtain ⟨split, hs⟩ := returns_of_mapM hr row hm
    obtain ⟨share, hs, -⟩ := bind_ok hs
    exact not_huge_of_toShare hs hh
  | other hno => exact hno rows rfl

theorem not_huge_of_readRollout {data : Value} {r : Rollout} (h : readRollout data = .ok r) :
    ¬ HugeStage data := by
  have hr : ReadsRollout data r := readRollout_reads h
  rintro (hh | hh)
  · obtain ⟨w, hw, hs⟩ := hr.percentage
    exact not_huge_of_toShare hs (hh.property hw)
  · obtain ⟨w, hw, hs⟩ := hr.splits
    obtain ⟨rows, rfl, hrows⟩ := hh.property hw
    exact not_huge_of_readSplits hs hrows

theorem not_huge_of_readRuleSet {data : Value} {r : RuleSet} (h : readRuleSet data = .ok r) :
    ¬ HugeRuleSet data := by
  rcases readRuleSet_reads h with ⟨hd, -⟩ | hr
  · exact fun hh => hh.elim (not_holdsIn_of_idle hd) (not_holdsIn_of_idle hd)
  · rintro (hh | hh)
    · obtain ⟨arms, ha, -⟩ := hr.variants
      obtain ⟨item, hi, v, hv⟩ := HoldsIn.read hh ha
      exact not_huge_of_readVariant hv hi
    · obtain ⟨item, hi, r, hr⟩ := HoldsIn.read hh hr.rollouts
      exact not_huge_of_readRollout hr hi

theorem ReadsFlag.in_range {data : Value} {f : Flag} (h : ReadsFlag data f) :
    ¬ OutOfRangeFlag data := by
  rintro (hh | hh)
  · obtain ⟨w, hw, hr⟩ := h.ruleset
    exact not_huge_of_readRuleSet hr (hh.property hw)
  · obtain ⟨w, n, hw, hn, -⟩ := h.projectId
    obtain ⟨negative, rfl⟩ := hh.property hw
    cases hn

theorem in_range_of_readFlags {t flags : Table Flag} {data : List Value}
    (h : (readFlags t data).outcome = .ok flags) : ¬ ∃ d ∈ data, OutOfRangeFlag d := by
  induction data generalizing t with
  | nil => rintro ⟨d, hd, -⟩; cases hd
  | cons first rest ih =>
    obtain ⟨f, hf, h⟩ := readFlags_cons h
    rintro ⟨d, hd, hh⟩
    rcases List.mem_cons.1 hd with rfl | hd
    · exact hf.in_range hh
    · exact ih h ⟨d, hd, hh⟩

/-! ## Documents -/

/-- A document is read to flags, or refused as one that cannot be read, unless it holds a number out
of range: it is then never read, and may be refused with a fault of another kind. Nesting is taken
without the recursion limit of an interpreter, which values that lie some five hundred levels deep would
meet when they are frozen. -/
theorem read_outcomes (payload : Value) :
    (∃ flags, (read payload).outcome = .ok flags) ∧ ¬ OutOfRange payload ∨
      (∃ detail cause, (read payload).outcome = .error (.service .parse detail cause)) ∨
      (read payload).outcome = .error .outOfRange ∧ OutOfRange payload := by
  unfold read
  split
  · rename_i members
    split
    · rename_i hf
      refine .inl ⟨⟨_, rfl⟩, fun h => ?_⟩
      obtain ⟨flags, hv, -⟩ := h.property rfl
      rw [hf] at hv
      cases hv
    · rename_i flags hf
      have hfield : field (.object members) "flags" = .ok (.list flags) := congrArg Except.ok hf
      have hr := readFlags_refuses [] flags
      -- from here on only the fault of the first flag that cannot be read counts
      dsimp only
      cases ho : (readFlags [] flags).outcome with
      | ok t =>
        refine .inl ⟨⟨t, rfl⟩, fun h => ?_⟩
        obtain ⟨others, hv, hh⟩ := h.property hfield
        cases hv
        exact in_range_of_readFlags ho hh
      | error e =>
        rcases hr e ho with he | ⟨rfl, hh⟩
        · exact .inr (.inl ⟨_, _, congrArg Except.error he⟩)
        · exact .inr (.inr ⟨rfl, _, hfield, flags, rfl, hh⟩)
    · exact .inr (.inl ⟨_, _, rfl⟩)
  · exact .inr (.inl ⟨_, _, rfl⟩)

/-- The fault of another kind does come up: for a project whose number is infinite. -/
theorem infinite_project_escapes : ¬ ∀ payload : Value,
    (∃ flags, (read payload).outcome = .ok flags) ∨
      ∃ detail cause, (read payload).outcome = .error (.service .parse detail cause) := by
  intro h
  obtain ⟨payload, hp⟩ : ∃ payload, (read payload).outcome = .error .outOfRange :=
    ⟨.object [(.text "flags", .list [.object [(.text "key", .text "x"),
      (.text "project_id", .float (.infinity false))]])], rfl⟩
  rcases h payload with ⟨flags, hf⟩ | ⟨detail, cause, hf⟩
  · rw [hp] at hf; cases hf
  · rw [hp] at hf; cases hf

end Document

end StagedRollout
