/-
Ramping up a stage. A bucket, kept in single precision, lies below one, and a percentage is kept in the
order of percentages; so a stage admits a bucket under a higher percentage if it does under a lower one,
none under zero and all under one. The arm that a stage gives does not depend on its percentage. Hence
no user who was decided for up to a stage is decided for otherwise when its percentage rises, and any
other user keeps their result or gets what the stage gives.
-/
import StagedRollout.Proofs.Decision.Deciding
import StagedRollout.Proofs.Number.Single

namespace StagedRollout

open Number

/-- The stage with another percentage. -/
def Rollout.withPercentage (rollout : Rollout) (p : Ratio) : Rollout :=
  { rollout with percentage := p }

namespace Decision

/-! ## Buckets and percentages -/

/-- The bucket of a text is one of the shares of a hundred below one. -/
theorem bucketOf_value (bucketing : String) :
    ∃ b, (bucketOf bucketing).value? = some b ∧ 0 ≤ b ∧ b < 1 := by
  have hn : Hash.bucket (bucketing ++ Hash.rolloutSalt) < 100 := Hash.bucket_lt _
  have hv : bucketOf bucketing =
      .finite (kept (Hash.bucket (bucketing ++ Hash.rolloutSalt) / 100)) :=
    Hash.toSingle_share hn.le
  generalize Hash.bucket (bucketing ++ Hash.rolloutSalt) = n at hn hv
  have hn' : (n : ℚ) ≤ 99 := by exact_mod_cast Nat.le_of_lt_succ hn
  have h0 : (0 : ℚ) ≤ n / 100 := by positivity
  have herr : |kept (n / 100) - n / 100| ≤ margin := abs_kept_sub_le h0 (by linarith)
  have hm : margin < 1 / 100 := by norm_num [margin]
  refine ⟨kept (n / 100), by rw [hv]; rfl, kept_nonneg h0, ?_⟩
  linarith [(abs_le.1 herr).2]

section Admission

variable {rollout : Rollout} {p p' : Ratio} {bucketing : String}

/-- A stage admits the buckets below its percentage, both in single precision. -/
theorem admits_eq {bucket : Double} {a b : ℚ} (ha : p.number.value? = some a) (h0 : 0 ≤ a)
    (h1 : a ≤ 1) (hb : bucket.value? = some b) :
    admits (rollout.withPercentage p) bucket = decide (b < Format.single.nearestTo a) := by
  unfold admits
  show (!p.single.le bucket) = _
  rw [Double.le_of_value (Ratio.single_value ha h0 h1) hb, ← decide_not, decide_eq_decide]
  exact not_le

/-- Who is admitted stays admitted under a higher percentage. -/
theorem admits_mono (h : p.number.le p'.number = true)
    (ha : admits (rollout.withPercentage p) (bucketOf bucketing) = true) :
    admits (rollout.withPercentage p') (bucketOf bucketing) = true := by
  obtain ⟨a, hp, h0, h1⟩ := p.exists_value
  obtain ⟨a', hp', h0', h1'⟩ := p'.exists_value
  obtain ⟨b, hb, -, -⟩ := bucketOf_value bucketing
  rw [Double.le_of_value hp hp', decide_eq_true_eq] at h
  rw [admits_eq hp h0 h1 hb, decide_eq_true_eq] at ha
  rw [admits_eq hp' h0' h1' hb, decide_eq_true_eq]
  exact lt_of_lt_of_le ha (Format.nearestTo_mono Format.usual_single.digits h0 h)

/-- A percentage of zero admits no one. -/
theorem admits_zero (h : p.number.eq Double.zero = true) :
    admits (rollout.withPercentage p) (bucketOf bucketing) = false := by
  obtain ⟨a, hp, h0, h1⟩ := p.exists_value
  obtain ⟨b, hb, hb0, -⟩ := bucketOf_value bucketing
  have hz : a = 0 := by
    rw [Double.eq_of_value hp (rfl : Double.zero.value? = some 0), decide_eq_true_eq] at h
    exact h
  rw [admits_eq hp h0 h1 hb, hz, Format.nearestTo_zero, decide_eq_false_iff_not]
  exact not_lt.2 hb0

/-- A percentage of one admits everyone. -/
theorem admits_one (h : p.number.eq Double.one = true) :
    admits (rollout.withPercentage p) (bucketOf bucketing) = true := by
  obtain ⟨a, hp, h0, h1⟩ := p.exists_value
  obtain ⟨b, hb, -, hb1⟩ := bucketOf_value bucketing
  have ho : a = 1 := by
    rw [Double.eq_of_value hp (rfl : Double.one.value? = some 1), decide_eq_true_eq] at h
    exact h
  rw [admits_eq hp h0 h1 hb, ho, Format.nearestTo_of_holds Format.usual_single.digits holds_one,
    decide_eq_true_eq]
  exact hb1

end Admission

/-! ## Another percentage in a list of stages -/

section Stages

variable {ruleset : RuleSet} {context : Context} {bucketing : String} {p p' : Ratio}
  {rollout : Rollout} {before after : List Rollout}

theorem takes_withPercentage :
    takes context bucketing (rollout.withPercentage p) =
      (isMeant rollout context && admits (rollout.withPercentage p) (bucketOf bucketing)) := rfl

/-- The arm of the first stage that takes a context stays the same under a higher percentage of one
stage, unless no stage up to that one took the context; then it may be the arm of that stage. -/
theorem firstVariant_ramp (h : p.number.le p'.number = true) :
    firstVariant ruleset context bucketing (before ++ rollout.withPercentage p' :: after) =
        firstVariant ruleset context bucketing (before ++ rollout.withPercentage p :: after) ∨
      (∀ r ∈ before ++ [rollout.withPercentage p], takes context bucketing r = false) ∧
        firstVariant ruleset context bucketing (before ++ rollout.withPercentage p' :: after) =
          resolve ruleset rollout bucketing := by
  rcases hlow : takes context bucketing (rollout.withPercentage p) with _ | _
  · rcases hhigh : takes context bucketing (rollout.withPercentage p') with _ | _
    · left
      apply firstVariant_append_congr
      rw [firstVariant_cons_of_idle hlow, firstVariant_cons_of_idle hhigh]
    · by_cases hb : ∀ r ∈ before, takes context bucketing r = false
      · right
        refine ⟨fun r hr => ?_, ?_⟩
        · rcases List.mem_append.1 hr with hr | hr
          · exact hb r hr
          · rw [List.mem_singleton.1 hr]
            exact hlow
        · rw [firstVariant_append_of_idle hb, firstVariant_cons_of_takes hhigh]
          rfl
      · left
        rw [firstVariant_append_of_takes hb, firstVariant_append_of_takes hb]
  · left
    have hhigh : takes context bucketing (rollout.withPercentage p') = true := by
      rw [takes_withPercentage, Bool.and_eq_true] at hlow ⊢
      exact ⟨hlow.1, admits_mono h hlow.2⟩
    -- either way the stage decides, and its arm does not depend on its percentage
    apply firstVariant_append_congr
    rw [firstVariant_cons_of_takes hlow, firstVariant_cons_of_takes hhigh]
    rfl

end Stages

/-! ## Ramping up -/

/-- What is known about a flag, with another percentage for the stage at a position. -/
def Definition.ramp (definition : Definition) (i : Nat) (p : Ratio) : Definition :=
  definition.withRollouts (definition.ruleset.rollouts.modify i (·.withPercentage p))

/-- The position of the stage that decides an evaluation, if one does. -/
def decidingStage? (definition : Definition) (context : Context) (flagKey : Value) : Option Nat :=
  match approach definition context flagKey with
  | .ok (.stages bucketing) => definition.ruleset.rollouts.findIdx? (takes context bucketing)
  | _ => none

/-- What a stage selects for the users that it takes. -/
def stageSelection (definition : Definition) (bucketing : String) (rollout : Rollout) :
    Except Fault (Option Selection) :=
  (resolve definition.ruleset rollout bucketing).map definition.selected

section Ramp

variable {definition : Definition} {context : Context} {flagKey : Value} {i : Nat} {p p' : Ratio}
  {bucketing : String} {rollout : Rollout}

theorem ramp_rollouts : (definition.ramp i p).ruleset.rollouts =
    definition.ruleset.rollouts.modify i (·.withPercentage p) := by
  cases definition with
  | unknown => cases i <;> rfl
  | _ => rfl

theorem approach_ramp :
    approach (definition.ramp i p) context flagKey = approach definition context flagKey :=
  approach_withRollouts definition context flagKey _

/-- Only where the stages decide, one of them does; and then the result is what it selects. -/
theorem outcome_of_decides {j : Nat} (h : decidingStage? definition context flagKey = some j) :
    ∃ bucketing rollout, approach definition context flagKey = .ok (.stages bucketing) ∧
      definition.ruleset.rollouts[j]? = some rollout ∧
      (evaluate definition context flagKey).outcome =
        stageSelection definition bucketing rollout := by
  unfold decidingStage? at h
  split at h
  · rename_i bucketing ha
    obtain ⟨hj, ht, hidle⟩ := List.findIdx?_eq_some_iff_getElem.1 h
    -- the list is cut at the deciding stage, before which none takes the context
    have hsplit : definition.ruleset.rollouts =
        definition.ruleset.rollouts.take j ++
          definition.ruleset.rollouts[j] :: definition.ruleset.rollouts.drop (j + 1) := by
      rw [List.getElem_cons_drop, List.take_append_drop]
    refine ⟨bucketing, _, ha, List.getElem?_eq_getElem hj, ?_⟩
    generalize definition.ruleset.rollouts[j] = rollout at ht hsplit ⊢
    rw [evaluate_outcome, ha]
    show Except.map _ (firstVariant _ _ _ _) = _
    rw [hsplit, firstVariant_append_of_idle, firstVariant_cons_of_takes ht]
    · rfl
    · intro r hr
      obtain ⟨k, hk, rfl⟩ := List.mem_take_iff_getElem.1 hr
      exact eq_false_of_ne_true (hidle k (by omega))
  · cases h

theorem decidingStage?_ramp (h : approach definition context flagKey = .ok (.stages bucketing)) :
    decidingStage? (definition.ramp i p) context flagKey =
      (definition.ruleset.rollouts.modify i (·.withPercentage p)).findIdx?
        (takes context bucketing) := by
  unfold decidingStage?
  rw [approach_ramp, h, ramp_rollouts]

theorem outcome_ramp_of_stages
    (h : approach definition context flagKey = .ok (.stages bucketing)) :
    (evaluate (definition.ramp i p) context flagKey).outcome =
      (firstVariant definition.ruleset context bucketing
        (definition.ruleset.rollouts.modify i (·.withPercentage p))).map definition.selected :=
  outcome_of_stages h

theorem modify_eq (h : definition.ruleset.rollouts[i]? = some rollout) :
    definition.ruleset.rollouts.modify i (·.withPercentage p) =
      definition.ruleset.rollouts.take i ++
        rollout.withPercentage p :: definition.ruleset.rollouts.drop (i + 1) := by
  obtain ⟨hi, rfl⟩ := List.getElem?_eq_some_iff.1 h
  exact List.modify_eq_take_cons_drop hi

/-- Where no stage up to a position takes the context, none of them decides. -/
theorem lt_of_decides {j : Nat} (hr : definition.ruleset.rollouts[i]? = some rollout)
    (ha : approach definition context flagKey = .ok (.stages bucketing))
    (hidle : ∀ r ∈ definition.ruleset.rollouts.take i ++ [rollout.withPercentage p],
      takes context bucketing r = false)
    (h : decidingStage? (definition.ramp i p) context flagKey = some j) : i < j := by
  obtain ⟨hi, -⟩ := List.getElem?_eq_some_iff.1 hr
  have hlen : (definition.ruleset.rollouts.take i ++ [rollout.withPercentage p]).length = i + 1 := by
    rw [List.length_append, List.length_take_of_le hi.le, List.length_singleton]
  rw [decidingStage?_ramp ha, modify_eq hr, List.append_cons, List.findIdx?_append,
    List.findIdx?_eq_none_iff.2 hidle, Option.none_or, Option.map_eq_some_iff, hlen] at h
  obtain ⟨k, -, hk⟩ := h
  omega

/-- Under a higher percentage of a stage the result stays, unless no stage up to that one decided; then
it may be what the stage selects. -/
theorem outcome_ramp (h : p.number.le p'.number = true) :
    (evaluate (definition.ramp i p') context flagKey).outcome =
        (evaluate (definition.ramp i p) context flagKey).outcome ∨
      ∃ bucketing rollout, approach definition context flagKey = .ok (.stages bucketing) ∧
        definition.ruleset.rollouts[i]? = some rollout ∧
        (∀ j, decidingStage? (definition.ramp i p) context flagKey = some j → i < j) ∧
        (evaluate (definition.ramp i p') context flagKey).outcome =
          stageSelection definition bucketing rollout := by
  by_cases hs : ∃ bucketing, approach definition context flagKey = .ok (.stages bucketing)
  · obtain ⟨bucketing, ha⟩ := hs
    rw [outcome_ramp_of_stages ha, outcome_ramp_of_stages ha]
    rcases hr : definition.ruleset.rollouts[i]? with _ | rollout
    · left
      have hi : definition.ruleset.rollouts.length ≤ i := List.getElem?_eq_none_iff.1 hr
      rw [List.modify_eq_self hi, List.modify_eq_self hi]
    · rw [modify_eq hr, modify_eq hr]
      rcases firstVariant_ramp h with heq | ⟨hidle, heq⟩
      · left
        rw [heq]
      · right
        refine ⟨bucketing, rollout, ha, rfl, fun j hj => lt_of_decides hr ha hidle hj, ?_⟩
        rw [heq]
        rfl
  · -- where the stages do not decide, their percentages do not matter
    left
    exact outcome_congr fun bucketing ha => absurd ⟨bucketing, ha⟩ hs

/-- At zero percent a stage decides for no one, as if it were not there. -/
theorem outcome_ramp_zero (h : p.number.eq Double.zero = true) :
    decidingStage? (definition.ramp i p) context flagKey ≠ some i ∧
      (evaluate (definition.ramp i p) context flagKey).outcome =
        (evaluate (definition.withRollouts (definition.ruleset.rollouts.eraseIdx i)) context
          flagKey).outcome := by
  have hnot : ∀ bucketing (rollout : Rollout),
      takes context bucketing (rollout.withPercentage p) = false := by
    intro bucketing rollout
    rw [takes_withPercentage, admits_zero h, Bool.and_false]
  constructor
  · intro hd
    obtain ⟨bucketing, -, ha, -⟩ := outcome_of_decides hd
    rw [approach_ramp] at ha
    rw [decidingStage?_ramp ha, List.findIdx?_eq_some_iff_getElem] at hd
    obtain ⟨hi, ht, -⟩ := hd
    rw [List.getElem_modify_eq, hnot] at ht
    cases ht
  · refine outcome_congr fun bucketing _ => ?_
    rcases hr : definition.ruleset.rollouts[i]? with _ | rollout
    · have hi : definition.ruleset.rollouts.length ≤ i := List.getElem?_eq_none_iff.1 hr
      rw [List.modify_eq_self hi, List.eraseIdx_of_length_le hi]
    · rw [modify_eq hr, List.eraseIdx_eq_take_drop_succ]
      exact firstVariant_append_congr _ (firstVariant_cons_of_idle (hnot bucketing rollout))

/-- At a hundred percent a stage decides for everyone who is meant and comes to it. -/
theorem outcome_ramp_one (h : p.number.eq Double.one = true)
    (ha : approach definition context flagKey = .ok (.stages bucketing))
    (hr : definition.ruleset.rollouts[i]? = some rollout) (hm : isMeant rollout context = true)
    (hidle : ∀ r ∈ definition.ruleset.rollouts.take i, takes context bucketing r = false) :
    decidingStage? (definition.ramp i p) context flagKey = some i ∧
      (evaluate (definition.ramp i p) context flagKey).outcome =
        stageSelection definition bucketing rollout := by
  have ht : takes context bucketing (rollout.withPercentage p) = true := by
    rw [takes_withPercentage, hm, admits_one h]
    rfl
  obtain ⟨hi, -⟩ := List.getElem?_eq_some_iff.1 hr
  constructor
  · rw [decidingStage?_ramp ha, modify_eq hr, List.findIdx?_append,
      List.findIdx?_eq_none_iff.2 hidle, Option.none_or, List.findIdx?_cons, ht,
      List.length_take_of_le hi.le]
    simp
  · rw [outcome_ramp_of_stages ha, modify_eq hr, firstVariant_append_of_idle hidle,
      firstVariant_cons_of_takes ht]
    rfl

end Ramp

/-- Ramping up is sticky. Let the percentage of one stage rise. Who was decided for before the stages,
by an earlier stage or by this one keeps their result, and any other user keeps theirs or gets what
this stage selects. At zero percent the stage decides for no one, as if it were not there; at a hundred
percent it decides for everyone it is meant for whom no earlier stage takes. The stage that decides is
the one whose selection is the result; a result of none is the caller's fallback. -/
theorem ramp_is_sticky (definition : Definition) (context : Context) (flagKey : Value) (i : Nat)
    {p p' : Ratio} (h : p.number.le p'.number = true) :
    let before := definition.ramp i p
    let after := definition.ramp i p'
    let result := (evaluate before context flagKey).outcome
    let result' := (evaluate after context flagKey).outcome
    (∀ j, decidingStage? before context flagKey = some j → ∃ bucketing rollout,
      before.ruleset.rollouts[j]? = some rollout ∧ result = stageSelection before bucketing rollout) ∧
    ((∀ bucketing, approach before context flagKey ≠ .ok (.stages bucketing)) ∨
      (∃ j ≤ i, decidingStage? before context flagKey = some j) → result' = result) ∧
    (result' = result ∨ ∃ bucketing rollout,
      approach before context flagKey = .ok (.stages bucketing) ∧
      definition.ruleset.rollouts[i]? = some rollout ∧
      result' = stageSelection definition bucketing rollout) ∧
    (p.number.eq Double.zero = true → decidingStage? before context flagKey ≠ some i ∧
      result = (evaluate (definition.withRollouts (definition.ruleset.rollouts.eraseIdx i)) context
        flagKey).outcome) ∧
    (p'.number.eq Double.one = true → ∀ bucketing rollout,
      approach after context flagKey = .ok (.stages bucketing) →
      definition.ruleset.rollouts[i]? = some rollout → isMeant rollout context = true →
      (∀ r ∈ definition.ruleset.rollouts.take i, takes context bucketing r = false) →
      decidingStage? after context flagKey = some i ∧
        result' = stageSelection definition bucketing rollout) := by
  intro before after result result'
  have hstep : result' = result ∨ _ := outcome_ramp h
  refine ⟨fun j hj => ?_, ?_, ?_, outcome_ramp_zero, fun ho bucketing rollout ha hr hm hidle => ?_⟩
  · obtain ⟨bucketing, rollout, -, hr, hs⟩ := outcome_of_decides hj
    exact ⟨bucketing, rollout, hr, hs⟩
  · intro hd
    rcases hstep with heq | ⟨bucketing, -, ha, -, hlater, -⟩
    · exact heq
    · rw [← approach_ramp] at ha
      rcases hd with hno | ⟨j, hj, hdec⟩
      · exact absurd ha (hno bucketing)
      · exact absurd (hlater j hdec) (not_lt.2 hj)
  · rcases hstep with heq | ⟨bucketing, rollout, ha, hr, -, heq⟩
    · exact .inl heq
    · exact .inr ⟨bucketing, rollout, approach_ramp.trans ha, hr, heq⟩
  · exact outcome_ramp_one ho (approach_ramp.symm.trans ha) hr hm hidle

/-- A user in the 39th of a hundred buckets is admitted at a half, and keeps their arm at the whole. -/
theorem ramp_is_sticky_from_half :
    let half : Ratio := ⟨.float (.finite (mkRat 1 2)), by decide +kernel⟩
    let whole : Ratio := ⟨.float Double.one, by decide +kernel⟩
    let arms : List Variant := [⟨.text "on", .bool true, .bool false, whole⟩]
    let stage : Rollout := ⟨half, .null, none, none, none⟩
    let definition : Definition := .rules ⟨arms, [stage], none⟩
    let context : Context := ⟨.text "user-5", some []⟩
    half.number.le whole.number = true ∧
      decidingStage? (definition.ramp 0 half) context (.text "test-flag") = some 0 ∧
      (evaluate (definition.ramp 0 whole) context (.text "test-flag")).outcome =
        (evaluate (definition.ramp 0 half) context (.text "test-flag")).outcome := by
  intro half whole arms stage definition context
  have hle : half.number.le whole.number = true := by decide +kernel
  have hd : decidingStage? (definition.ramp 0 half) context (.text "test-flag") = some 0 := by
    decide +kernel
  have hs := ramp_is_sticky definition context (.text "test-flag") 0 hle
  exact ⟨hle, hd, hs.2.1 (.inr ⟨0, le_rfl, hd⟩)⟩

end Decision

end StagedRollout
