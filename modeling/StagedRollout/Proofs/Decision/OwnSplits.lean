/-
A stage that lists the arms' own splits. The walk along entries never looks at what they carry, so it
reaches an arm and the arm's key at the same place, and where no two arms have one key the key leads back
to the arm. So a stage with the arms' own splits under their keys does what a stage without splits does.
-/
import StagedRollout.Proofs.Decision.Provenance

namespace StagedRollout

namespace RuleSet

/-! ## Splits under keys -/

/-- The keys of the arms are texts, and no two arms have one. -/
structure IsKeyed (r : RuleSet) : Prop where
  texts : ∀ v ∈ r.variants, ∃ s, v.key = .text s
  apart : r.variants.Pairwise fun v w => v.key ≠ w.key

/-- The arms' own splits under their keys, in the order of the arms. -/
def ownSplits (r : RuleSet) : Members :=
  Table.ofRows (r.variants.map fun v => (.text v.key.asText, v.split.value))

section Keyed

variable {r : RuleSet}

theorem IsKeyed.key_eq (h : r.IsKeyed) {v : Variant} (hv : v ∈ r.variants) :
    v.key = .text v.key.asText := by
  obtain ⟨s, hs⟩ := h.texts v hv
  rw [hs]
  rfl

/-- The key of an arm leads to the arm. -/
theorem IsKeyed.findVariant? (h : r.IsKeyed) {v : Variant} (hv : v ∈ r.variants) :
    r.findVariant? v.key = some v := by
  obtain ⟨before, after, heq⟩ := List.append_of_mem hv
  have hapart := h.apart
  rw [heq, List.pairwise_append] at hapart
  refine List.find?_eq_some_iff_append.2 ⟨?_, before, after, heq, fun w hw => ?_⟩
  · rw [h.key_eq hv]
    exact Value.text_same.2 rfl
  · have hne : w.key ≠ v.key := hapart.2.2 w hw v List.mem_cons_self
    have hwm : w ∈ r.variants := heq ▸ List.mem_append_left _ hw
    rw [Bool.not_eq_true', h.key_eq hwm]
    exact eq_false_of_ne_true fun hs => hne ((h.key_eq hwm).trans (Value.text_same.1 hs).symm)

/-- Under distinct keys no split replaces another one. -/
theorem IsKeyed.ownSplits_eq (h : r.IsKeyed) :
    r.ownSplits = r.variants.map fun v => (.text v.key.asText, v.split.value) := by
  refine Table.ofRows_of_isApart (List.pairwise_map.2 ?_)
  refine h.apart.imp_of_mem fun {v w} hv hw hne => eq_false_of_ne_true fun hs => hne ?_
  rw [h.key_eq hv, h.key_eq hw, Key.text.inj (Key.same_text.1 hs)]

end Keyed

end RuleSet

/-- The stage with other splits. -/
def Rollout.withSplits (splits : Option Members) (stage : Rollout) : Rollout := { stage with splits }

namespace Decision

/-! ## The walk -/

section Walk

variable {α β : Type} (f : α → β)

/-- Along entries that carry something else the walk comes to the same place. -/
theorem walk_map (position total : Double) (last : Option α) (entries : List (α × Value)) :
    walk position total (last.map f) (entries.map fun e => (f e.1, e.2)) =
      (walk position total last entries).map (Option.map f) := by
  induction entries generalizing total last with
  | nil => rfl
  | cons first rest ih =>
    obtain ⟨item, split⟩ := first
    rw [List.map_cons, walk, walk]
    cases split.toSingle with
    | error e => rfl
    | ok share =>
      show (if _ then _ else _) = Except.map _ (if _ then _ else _)
      split
      · rfl
      · exact ih _ (some item)

theorem select_map (entries : List (α × Value)) (position : Value) :
    select (entries.map fun e => (f e.1, e.2)) position =
      (select entries position).map (Option.map f) := by
  unfold select
  cases position.toSingle with
  | error e => rfl
  | ok x => exact walk_map f x Double.zero none entries

end Walk

/-! ## One stage -/

section Stage

variable {r : RuleSet}

/-- The arms' own splits are those of the arms, with the key in the place of each arm. -/
theorem splitEntries_ownSplits (h : r.IsKeyed) :
    splitEntries r.ownSplits = (variantEntries r).map fun e => (e.1.key, e.2) := by
  unfold splitEntries variantEntries
  rw [h.ownSplits_eq, List.map_map, List.map_map]
  refine List.map_congr_left fun v hv => ?_
  exact Prod.ext (h.key_eq hv).symm rfl

/-- The key of the arm that a walk reaches leads to that arm. -/
theorem variantOf_reached (h : r.IsKeyed) {position : Value} {reached : Option Variant}
    (hw : select (variantEntries r) position = .ok reached) :
    variantOf r ((reached.map (·.key)).getD .null) = reached := by
  cases reached with
  | none => rfl
  | some v =>
    obtain ⟨e, he, rfl⟩ := mem_of_select hw
    obtain ⟨w, hv, rfl⟩ := List.mem_map.1 he
    have hkey : w.key ≠ .null := by
      rw [h.key_eq hv]
      nofun
    exact (variantOf_eq hkey).trans (h.findVariant? hv)

/-- A stage with the arms' own splits comes to the arm that it comes to without splits. -/
theorem resolve_ownSplits (h : r.IsKeyed) (stage : Rollout) (bucketing : String) :
    resolve r (stage.withSplits (some r.ownSplits)) bucketing =
      resolve r (stage.withSplits none) bucketing := by
  unfold resolve Rollout.withSplits
  cases stage.override with
  | some key => rfl
  | none =>
    cases hs : r.ownSplits with
    | nil => rfl
    | cons m rest =>
      show (select (splitEntries (m :: rest)) _ >>= _) = select (variantEntries r) _
      rw [← hs, splitEntries_ownSplits h, select_map]
      cases hw : select (variantEntries r) (.float (Hash.variantPosition bucketing)) with
      | error e => rfl
      | ok reached => exact congrArg Except.ok (variantOf_reached h hw)

end Stage

/-! ## Lists of stages -/

/-- Two stages that take the same contexts and come to the same arm. -/
structure ActAlike (r : RuleSet) (context : Context) (bucketing : String) (a b : Rollout) : Prop where
  targeted : isTargeted a context = isTargeted b context
  percentage : a.percentage = b.percentage
  resolved : resolve r a bucketing = resolve r b bucketing

section Stages

variable {r : RuleSet} {context : Context} {flagKey : Value} {bucketing : String}
  {rs ts : List Rollout}

/-- The first stage that takes a context leads on as its counterpart does. -/
theorem firstRollout_bind_congr {α : Type} {bucket : Double} {next : Option Rollout → Reported α}
    (h : List.Forall₂ (fun a b => isTargeted a context = isTargeted b context ∧
      admits a bucket = admits b bucket ∧ next (some a) = next (some b)) rs ts) :
    firstRollout context bucket rs >>= next = firstRollout context bucket ts >>= next := by
  induction h with
  | nil => rfl
  | @cons a b rs ts hab _ ih =>
    obtain ⟨ht, ha, hn⟩ := hab
    rw [firstRollout, firstRollout, bind_assoc, bind_assoc, ht, ha]
    refine bind_congr fun told => ?_
    split
    · exact hn
    · exact ih

theorem rolloutVariant_congr (h : List.Forall₂ (ActAlike r context bucketing) rs ts) :
    rolloutVariant { r with rollouts := rs } context flagKey bucketing =
      rolloutVariant { r with rollouts := ts } context flagKey bucketing := by
  unfold rolloutVariant
  refine firstRollout_bind_congr (h.imp fun a b hab => ⟨hab.targeted, ?_, ?_⟩)
  · unfold admits
    rw [hab.percentage]
  · show (Reported.ofExcept (resolve r a bucketing) >>= _) =
      (Reported.ofExcept (resolve r b bucketing) >>= _)
    rw [hab.resolved]

theorem forall₂_modify {α : Type} {R : α → α → Prop} {f g : α → α} (hs : ∀ a, R a a)
    (hfg : ∀ a, R (f a) (g a)) (xs : List α) (i : Nat) :
    List.Forall₂ R (xs.modify i f) (xs.modify i g) := by
  induction xs generalizing i with
  | nil => cases i <;> exact .nil
  | cons x xs ih =>
    cases i with
    | zero => exact .cons (hfg x) (List.forall₂_same.2 fun a _ => hs a)
    | succ i => exact .cons (hs x) (ih i)

end Stages

/-! ## Evaluation -/

/-- What is known about a flag, with other splits for the stage at a position. -/
def Definition.withSplits (definition : Definition) (i : Nat) (splits : Option Members) :
    Definition :=
  definition.withRollouts (definition.ruleset.rollouts.modify i (·.withSplits splits))

section Congruence

variable {definition : Definition} {context : Context} {rs ts : List Rollout}

theorem selectFor_congr
    (h : ∀ bucketing, List.Forall₂ (ActAlike definition.ruleset context bucketing) rs ts)
    (flagKey identity : Value) :
    selectFor (definition.withRollouts rs) context flagKey identity =
      selectFor (definition.withRollouts ts) context flagKey identity := by
  cases definition with
  | unknown => rfl
  | _ =>
    -- the list of test users is the same, and so is what a stage's arm is made into
    refine bind_congr fun tester => ?_
    cases tester with
    | some variant => rfl
    | none =>
      refine bind_congr fun bucketing => ?_
      exact congrArg (· >>= _) (rolloutVariant_congr (h bucketing))

/-- Lists of stages that act alike one by one come to the same, and log the same. -/
theorem evaluate_congr
    (h : ∀ bucketing, List.Forall₂ (ActAlike definition.ruleset context bucketing) rs ts)
    (flagKey : Value) :
    evaluate (definition.withRollouts rs) context flagKey =
      evaluate (definition.withRollouts ts) context flagKey := by
  unfold evaluate
  split
  · cases definition with
    | unknown => rfl
    | _ =>
      refine bind_congr fun identity => ?_
      cases identity with
      | null => rfl
      | _ => exact selectFor_congr h flagKey _
  · rfl

end Congruence

/-- Let the keys of the arms be distinct texts. A stage at any position that lists the arms' own splits
under their keys, in the order of the arms, does what it does without any splits: for every context, key
and fallback the evaluation comes to the same, and logs the same. -/
theorem own_splits_change_nothing {definition : Definition} (h : definition.ruleset.IsKeyed) (i : Nat)
    (context : Context) (flagKey : Value) :
    evaluate (definition.withSplits i (some definition.ruleset.ownSplits)) context flagKey =
      evaluate (definition.withSplits i none) context flagKey := by
  refine evaluate_congr (fun bucketing => ?_) flagKey
  refine forall₂_modify (fun stage => ⟨rfl, rfl, rfl⟩) (fun stage => ⟨rfl, rfl, ?_⟩) _ i
  exact resolve_ownSplits h stage bucketing

/-- Ten, twenty and seventy percent, listed once more by the stage: a user whose hash is at the end of
the second share gets the third arm, as without the list. -/
theorem own_splits_change_nothing_on_bound :
    let share (n : Nat) : Value := .float (Hash.share n)
    let arm (key : String) (n : Nat) (h : (share n).isRatio = true) : Variant :=
      ⟨.text key, .text key, .bool false, ⟨share n, h⟩⟩
    let rules : RuleSet := ⟨[arm "a" 10 (by decide +kernel), arm "b" 20 (by decide +kernel),
      arm "c" 70 (by decide +kernel)], [⟨⟨share 100, by decide +kernel⟩, .null, none, none, none⟩], none⟩
    let result (splits : Option Members) :=
      evaluate (.withSplits (.rules rules) 0 splits) ⟨.text "u88", some []⟩ (.text "test-flag")
    rules.IsKeyed ∧ result (some rules.ownSplits) = result none ∧
      (result none).outcome.toOption.join.map (·.key.asText) = some "c" := by
  intro share arm rules result
  have hkeyed : rules.IsKeyed := by
    constructor
    · intro v hv
      simp only [rules, arm, List.mem_cons, List.not_mem_nil, or_false] at hv
      rcases hv with rfl | rfl | rfl <;> exact ⟨_, rfl⟩
    · simp [rules, arm]
  have hd : (Definition.rules rules).ruleset.IsKeyed := hkeyed
  exact ⟨hkeyed, own_splits_change_nothing hd 0 _ _, by decide +kernel⟩

end Decision

end StagedRollout
