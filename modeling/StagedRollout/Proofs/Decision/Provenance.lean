/-
Where a selection comes from. Keys of the arms of an accepted document are texts, so the arm under a
key is the first one that has it, and a key that no arm has leads nowhere. A selection is drawn from one
arm: the one that the list of test users names for the user, the one whose key the deciding stage names,
or the one that the walk along the arms' own splits reaches.
-/
import StagedRollout.Client.Call
import StagedRollout.Proofs.Decision.Precedence
import StagedRollout.Proofs.Flag.Accepted

namespace StagedRollout

/-- Only the text itself is the same value as a text. -/
theorem Value.text_same {s : Text} {v : Value} : (Value.text s).same v = true ↔ v = .text s := by
  cases v <;> simp [Value.same, Value.toKey?, Key.same, Key.number?, eq_comm]

namespace RuleSet

variable {r : RuleSet} {key : Value} {v : Variant}

/-- The first arm that has a key. -/
def IsFirst (r : RuleSet) (key : Value) (v : Variant) : Prop :=
  ∃ before after, r.variants = before ++ v :: after ∧ v.key = key ∧ ∀ w ∈ before, w.key ≠ key

theorem IsFirst.mem (h : r.IsFirst key v) : v ∈ r.variants := by
  obtain ⟨before, after, hv, -⟩ := h
  rw [hv]
  exact List.mem_append_right _ List.mem_cons_self

theorem same_key (h : r.Typed) (hv : v ∈ r.variants) : v.key.same key = true ↔ v.key = key := by
  obtain ⟨s, hs⟩ := h.variants v hv
  rw [hs, Value.text_same, eq_comm]

theorem findVariant?_eq_some (h : r.Typed) (hv : r.findVariant? key = some v) :
    r.IsFirst key v := by
  obtain ⟨hk, before, after, heq, hb⟩ := List.find?_eq_some_iff_append.1 hv
  have hmem : v ∈ r.variants := heq ▸ List.mem_append_right _ List.mem_cons_self
  refine ⟨before, after, heq, (same_key h hmem).1 hk, fun w hw he => ?_⟩
  have hwm : w ∈ r.variants := heq ▸ List.mem_append_left _ hw
  have hs := hb w hw
  rw [(same_key h hwm).2 he] at hs
  cases hs

theorem findVariant?_eq_none (h : r.Typed) :
    r.findVariant? key = none ↔ ∀ w ∈ r.variants, w.key ≠ key := by
  unfold findVariant?
  rw [List.find?_eq_none]
  exact forall₂_congr fun w hw => not_congr (same_key h hw)

end RuleSet

namespace Decision

/-! ## Ways to an arm -/

/-- The list of test users names a key for a user. -/
def NamedForTester (ruleset : RuleSet) (user key : Value) : Prop :=
  ∃ users name, ruleset.testUsers = some users ∧ user.toKey? = some name ∧
    Table.find? users name = some key

/-- The stage that decides an evaluation, and the text by which it does. -/
def Decides (definition : Definition) (context : Context) (flagKey : Value) (rollout : Rollout)
    (bucketing : String) : Prop :=
  approach definition context flagKey = .ok (.stages bucketing) ∧
    definition.ruleset.rollouts.find? (takes context bucketing) = some rollout

/-- A stage names a key: the one that it fixes, or else the one that the walk along its splits
reaches. -/
inductive Names (rollout : Rollout) (bucketing : String) (key : Value) : Prop where
  | fixed (h : rollout.override = some key)
  | reached {m : Key × Value} {rest : Members} (ho : rollout.override = none)
      (hs : rollout.splits = some (m :: rest))
      (hw : select (splitEntries (m :: rest)) (.float (Hash.variantPosition bucketing)) =
        .ok (some key))

/-- How an arm comes to be selected, and whether that is for a test user. -/
inductive Source (definition : Definition) (context : Context) (flagKey : Value) (v : Variant) :
    Bool → Prop where
  /-- The list of test users names its key. -/
  | tester {key : Value} (hk : NamedForTester definition.ruleset context.distinctId key)
      (hv : definition.ruleset.IsFirst key v) : Source definition context flagKey v true
  /-- The stage that decides names its key. -/
  | stage {rollout : Rollout} {bucketing : String} {key : Value}
      (hd : Decides definition context flagKey rollout bucketing)
      (hk : Names rollout bucketing key) (hv : definition.ruleset.IsFirst key v) :
      Source definition context flagKey v false
  /-- The stage that decides names no key, and the walk along the arms' own splits reaches it. -/
  | walk {rollout : Rollout} {bucketing : String}
      (hd : Decides definition context flagKey rollout bucketing)
      (ho : rollout.override = none) (hs : rollout.hasSplits = false)
      (hw : select (variantEntries definition.ruleset)
        (.float (Hash.variantPosition bucketing)) = .ok (some v)) :
      Source definition context flagKey v false

section Resolve

variable {α : Type} {ruleset : RuleSet} {rollout : Rollout} {bucketing : String} {key : Value}
  {v : Variant}

theorem mem_of_walk {entries : List (α × Value)} {position total : Double} {last : Option α} {a : α}
    (h : walk position total last entries = .ok (some a)) :
    last = some a ∨ ∃ e ∈ entries, e.1 = a := by
  induction entries generalizing total last with
  | nil => exact .inl (Except.ok.inj h)
  | cons first rest ih =>
    obtain ⟨item, split⟩ := first
    unfold walk at h
    obtain ⟨share, -, h⟩ := bind_ok h
    split at h
    · cases h
      exact .inr ⟨_, List.mem_cons_self, rfl⟩
    · rcases ih h with he | ⟨e, he, rfl⟩
      · cases he
        exact .inr ⟨_, List.mem_cons_self, rfl⟩
      · exact .inr ⟨e, List.mem_cons_of_mem _ he, rfl⟩

/-- What a walk reaches is one of the entries. -/
theorem mem_of_select {entries : List (α × Value)} {position : Value} {a : α}
    (h : select entries position = .ok (some a)) : ∃ e ∈ entries, e.1 = a := by
  unfold select at h
  obtain ⟨p, -, h⟩ := bind_ok h
  exact (mem_of_walk h).resolve_left nofun

/-- An arm that a stage gives is under the key that the stage names, or it is reached along the arms'
own splits. -/
theorem resolve_some (h : resolve ruleset rollout bucketing = .ok (some v)) :
    (∃ key, Names rollout bucketing key ∧ ruleset.findVariant? key = some v) ∨
      rollout.override = none ∧ rollout.hasSplits = false ∧
        select (variantEntries ruleset) (.float (Hash.variantPosition bucketing)) =
          .ok (some v) := by
  unfold resolve at h
  cases ho : rollout.override with
  | some key =>
    rw [ho] at h
    exact .inl ⟨key, .fixed ho, Except.ok.inj h⟩
  | none =>
    rw [ho] at h
    unfold Rollout.hasSplits
    rcases hs : rollout.splits with _ | _ | ⟨m, rest⟩ <;> rw [hs] at h
    · exact .inr ⟨rfl, rfl, h⟩
    · exact .inr ⟨rfl, rfl, h⟩
    · obtain ⟨reached, hw, h⟩ := bind_ok h
      replace h : variantOf ruleset (reached.getD .null) = some v := Except.ok.inj h
      have hn : reached.getD .null ≠ .null := by
        intro hn
        rw [hn] at h
        cases h
      rw [variantOf_eq hn] at h
      cases reached with
      | none => exact absurd rfl hn
      | some key => exact .inl ⟨key, .reached ho hs hw, h⟩

/-- A stage that names a key which no arm has gives no arm. -/
theorem resolve_of_unknown (hk : Names rollout bucketing key)
    (hn : ruleset.findVariant? key = none) : resolve ruleset rollout bucketing = .ok none := by
  unfold resolve
  rcases hk with ho | ⟨ho, hs, hw⟩
  · rw [ho]
    exact congrArg Except.ok hn
  · rw [ho, hs]
    have hv : variantOf ruleset key = none := by
      cases key with
      | null => rfl
      | _ => exact hn
    show (select _ _ >>= _) = _
    rw [hw]
    exact congrArg Except.ok hv

end Resolve

/-! ## Selections -/

section Selection

variable {definition : Definition} {context : Context} {flagKey : Value} {bucketing : String}
  {rollout : Rollout} {key : Value} {v : Variant} {s : Selection} {b : Bool}

/-- An approach that comes to an arm or to the stages is one for a user whose identity is known. -/
theorem approachFor_of_approach {a : Approach} (h : approach definition context flagKey = .ok a)
    (hu : a ≠ .unknown) (hi : a ≠ .noIdentity) :
    ∃ identity, approachFor definition.ruleset context flagKey identity = .ok a := by
  unfold approach at h
  split at h
  · split at h
    · exact absurd (Except.ok.inj h).symm hu
    · obtain ⟨identity, -, h⟩ := bind_ok h
      split at h
      · exact absurd (Except.ok.inj h).symm hi
      · exact ⟨_, h⟩
  · cases h

theorem not_fixed_of_stages (h : approach definition context flagKey = .ok (.stages bucketing)) :
    ¬ IsFixed definition.ruleset context.distinctId v := by
  intro hv
  obtain ⟨identity, ha⟩ := approachFor_of_approach h nofun nofun
  rw [approachFor_of_fixed hv] at ha
  cases ha

theorem source_of_fixed (h : definition.ruleset.Typed)
    (hv : IsFixed definition.ruleset context.distinctId v) :
    Source definition context flagKey v true := by
  obtain ⟨users, name, key, hu, hn, hf, -, hv⟩ := hv
  exact .tester ⟨users, name, hu, hn, hf⟩ (RuleSet.findVariant?_eq_some h hv)

/-- A key that is named for a test user fixes an arm for them if some arm has it. -/
theorem fixed_of_named (h : definition.ruleset.Typed)
    (hk : NamedForTester definition.ruleset context.distinctId key)
    (hv : ∃ w ∈ definition.ruleset.variants, w.key = key) :
    ∃ v, IsFixed definition.ruleset context.distinctId v := by
  obtain ⟨users, name, hu, hn, hf⟩ := hk
  obtain ⟨w, hw, hwk⟩ := hv
  have hkey : key ≠ .null := by
    obtain ⟨s, hs⟩ := h.variants w hw
    rw [← hwk, hs]
    nofun
  cases hv : definition.ruleset.findVariant? key with
  | none => exact absurd hwk ((RuleSet.findVariant?_eq_none h).1 hv w hw)
  | some v => exact ⟨v, users, name, key, hu, hn, hf, hkey, hv⟩

theorem Source.mem (h : Source definition context flagKey v b) : v ∈ definition.ruleset.variants := by
  cases h with
  | tester hk hv => exact hv.mem
  | stage hd hk hv => exact hv.mem
  | walk hd ho hs hw =>
    obtain ⟨e, he, rfl⟩ := mem_of_select hw
    obtain ⟨w, hm, rfl⟩ := List.mem_map.1 he
    exact hm

/-- The source is the list of test users exactly if that names a key for the user which some arm
has. -/
theorem Source.isTester_iff (h : definition.ruleset.Typed)
    (hs : Source definition context flagKey v b) :
    b = true ↔ ∃ key, NamedForTester definition.ruleset context.distinctId key ∧
      ∃ w ∈ definition.ruleset.variants, w.key = key := by
  constructor
  · rintro rfl
    cases hs with
    | tester hk hv => exact ⟨_, hk, v, hv.mem, hv.choose_spec.choose_spec.2.1⟩
  · rintro ⟨key, hk, hv⟩
    obtain ⟨w, hw⟩ := fixed_of_named h hk hv
    cases hs with
    | tester => rfl
    | stage hd => exact absurd hw (not_fixed_of_stages hd.1)
    | walk hd => exact absurd hw (not_fixed_of_stages hd.1)

theorem source_of_decides (h : definition.ruleset.Typed)
    (hd : Decides definition context flagKey rollout bucketing)
    (hv : resolve definition.ruleset rollout bucketing = .ok (some v)) :
    Source definition context flagKey v false := by
  rcases resolve_some hv with ⟨key, hk, hv⟩ | ⟨ho, hs, hw⟩
  · exact .stage hd hk (RuleSet.findVariant?_eq_some h hv)
  · exact .walk hd ho hs hw

/-- The outcome is what the deciding stage gives. -/
theorem Decides.outcome (hd : Decides definition context flagKey rollout bucketing) :
    (evaluate definition context flagKey).outcome =
      (resolve definition.ruleset rollout bucketing).map definition.selected := by
  rw [evaluate_outcome, hd.1]
  show Except.map _ (firstVariant _ _ _ _) = _
  unfold firstVariant
  rw [hd.2]

/-- Where the stages decide and something is selected, one of them does. -/
theorem exists_decides (ha : approach definition context flagKey = .ok (.stages bucketing))
    (hs : (evaluate definition context flagKey).outcome = .ok (some s)) :
    ∃ rollout, Decides definition context flagKey rollout bucketing := by
  cases hf : definition.ruleset.rollouts.find? (takes context bucketing) with
  | some rollout => exact ⟨rollout, ha, hf⟩
  | none =>
    rw [evaluate_outcome, ha] at hs
    replace hs : Except.map _ (firstVariant _ _ _ _) = _ := hs
    unfold firstVariant at hs
    rw [hf] at hs
    cases hs

/-- Every selection is that of an arm with a source. -/
theorem exists_source (h : definition.ruleset.Typed)
    (hs : (evaluate definition context flagKey).outcome = .ok (some s)) :
    ∃ v b, Source definition context flagKey v b ∧ s = definition.selection v b := by
  have hout := hs
  rw [evaluate_outcome] at hout
  obtain ⟨a, ha, hout⟩ := bind_ok hout
  cases a with
  | unknown => cases hout
  | noIdentity => cases hout
  | tester v =>
    obtain ⟨identity, hi⟩ := approachFor_of_approach ha nofun nofun
    cases hout
    exact ⟨v, true, source_of_fixed h (fixed_of_tester hi), rfl⟩
  | stages bucketing =>
    obtain ⟨rollout, hd⟩ := exists_decides ha hs
    rw [hd.outcome] at hs
    obtain ⟨variant, hv, hs⟩ := map_ok hs
    cases variant with
    | none => cases hs
    | some v =>
      cases hs
      exact ⟨v, false, source_of_decides h hd hv, rfl⟩

end Selection

/-- What comes of the evaluation of a flag of an accepted document is the caller's fallback, or it is
drawn from one arm of the flag: the first under the key that the list of test users or the deciding
stage names, or the one that the walk along the arms' own splits reaches. It has that arm's key and
value and the flag's experiment, and it is one for a test user exactly if the list of test users names
a key for the user that some arm has. A stage that decides by a key which no arm has leaves the
fallback. -/
theorem selection_is_of_one_arm {payload : Value} {flags : Table Flag}
    (h : (Document.read payload).outcome = .ok flags) {row : Key × Flag} (hr : row ∈ flags)
    (context : Context) (flagKey : Value) {fallback result : Selection}
    (hresult : (Call.ofReported (evaluate (.flag row.2) context flagKey)).selection fallback =
      .ok result) :
    let outcome := (evaluate (.flag row.2) context flagKey).outcome
    let arms := row.2.ruleset.variants
    (outcome = .ok none ∧ result = fallback ∨
      outcome = .ok (some result) ∧ result.isSuccess = true ∧
        ∃ v ∈ arms, ∃ isTester, Source (.flag row.2) context flagKey v isTester ∧
          result.key = v.key ∧ result.value = v.value ∧
          result.experimentId = row.2.experimentId ∧ result.isActive = row.2.isActive ∧
          result.isTester = .bool isTester ∧
          (isTester = true ↔
            ∃ key, NamedForTester row.2.ruleset context.distinctId key ∧ ∃ w ∈ arms, w.key = key)) ∧
    ∀ rollout bucketing key, Decides (.flag row.2) context flagKey rollout bucketing →
      Names rollout bucketing key → (∀ w ∈ arms, w.key ≠ key) → outcome = .ok none := by
  intro outcome arms
  have ht : (Definition.flag row.2).ruleset.Typed := (Document.read_typed h row hr).1.ruleset
  constructor
  · obtain ⟨chosen, hc, hresult⟩ := bind_ok hresult
    replace hc : outcome = .ok chosen := hc
    replace hresult : chosen.getD fallback = result := Except.ok.inj hresult
    cases chosen with
    | none => exact .inl ⟨hc, hresult.symm⟩
    | some s =>
      replace hresult : s = result := hresult
      subst hresult
      obtain ⟨v, b, hs, rfl⟩ := exists_source ht hc
      obtain ⟨key, hk⟩ := ht.variants v hs.mem
      refine .inr ⟨hc, ?_, v, hs.mem, b, hs, rfl, rfl, rfl, rfl, rfl, hs.isTester_iff ht⟩
      show (!Selection.isFallback ⟨_, v.key, _, _, _⟩) = true
      rw [hk]
      rfl
  · intro rollout bucketing key hd hk hn
    show (evaluate _ _ _).outcome = _
    rw [hd.outcome, resolve_of_unknown hk ((RuleSet.findVariant?_eq_none ht).2 hn)]
    rfl

/-- A test user whose key no arm has gets what the stages give, and not as a test user, although the
caller's fallback has a key as well. -/
theorem selection_is_of_one_arm_past_unknown_key :
    let arm : Value := .object [(.text "key", .text "on"), (.text "value", .int 7),
      (.text "split", .int 1)]
    let ruleset : Value := .object [(.text "variants", .list [arm]),
      (.text "rollout", .list [.object [(.text "rollout_percentage", .int 1)]]),
      (.text "test", .object [(.text "users", .object [(.text "qa", .text "gone")])])]
    let payload : Value := .object [(.text "flags", .list [.object [(.text "key", .text "f"),
      (.text "ruleset", ruleset)]])]
    let context : Context := ⟨.text "qa", some []⟩
    ∃ flag s, (Document.read payload).outcome = .ok [(.text "f", flag)] ∧
      (Call.ofReported (evaluate (.flag flag) context (.text "f"))).selection
        ⟨.null, .text "gone", none, .null, .null⟩ = .ok s ∧
      ∃ v ∈ flag.ruleset.variants, s.key = v.key ∧ s.value = v.value ∧
        Source (.flag flag) context (.text "f") v false := by
  intro arm ruleset payload context
  obtain ⟨flag, hread⟩ : ∃ flag, (Document.read payload).outcome = .ok [(.text "f", flag)] :=
    ⟨_, by rfl⟩
  have hcheck : ((Document.read payload).outcome.toOption.any fun flags => flags.all fun row =>
      (evaluate (.flag row.2) context (.text "f")).outcome.toOption.join.any fun s =>
        !s.isTester.isTruthy) = true := by decide +kernel
  rw [hread] at hcheck
  replace hcheck : ((evaluate (.flag flag) context (.text "f")).outcome.toOption.join.any fun s =>
      !s.isTester.isTruthy) = true := by simpa [Except.toOption] using hcheck
  cases ho : (evaluate (.flag flag) context (.text "f")).outcome with
  | error e =>
    rw [ho] at hcheck
    cases hcheck
  | ok chosen =>
    cases chosen with
    | none =>
      rw [ho] at hcheck
      cases hcheck
    | some s =>
      rw [ho] at hcheck
      replace hcheck : (!s.isTester.isTruthy) = true := hcheck
      have hs : (Call.ofReported (evaluate (.flag flag) context (.text "f"))).selection
          ⟨.null, .text "gone", none, .null, .null⟩ = .ok s := by
        show ((evaluate _ _ _).outcome >>= _) = _
        rw [ho]
        rfl
      refine ⟨flag, s, hread, hs, ?_⟩
      rcases (selection_is_of_one_arm hread List.mem_cons_self context (.text "f") hs).1 with
        ⟨hn, -⟩ | ⟨-, -, v, hv, isTester, hsource, hkey, hvalue, -, -, ht, -⟩
      · rw [ho] at hn
        cases hn
      · rw [ht] at hcheck
        cases isTester with
        | true => cases hcheck
        | false => exact ⟨v, hv, hkey, hvalue, hsource⟩

end Decision

end StagedRollout
