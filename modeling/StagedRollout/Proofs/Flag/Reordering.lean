/-
The order in which a document lists the arms of a flag. Arms are read one by one and put in the order of
their keys, so a document whose arms are listed in another order is read to the same flags, or to none
as well, as long as no two arms of the list have one key: the order in which equal keys come is kept.
-/
import StagedRollout.Client.Call
import StagedRollout.Proofs.Flag.Reading
import StagedRollout.Proofs.Value.Table
import StagedRollout.Proofs.Text.Points
import Mathlib.Data.List.Nodup

namespace StagedRollout.Document

/-! ## Changes of one member -/

/-- An object with the value of at most one member changed, in the way that `R` says. -/
inductive AtMember (name : String) (R : Value → Value → Prop) : Value → Value → Prop
  | same (v : Value) : AtMember name R v v
  | changed (before after : Members) {v w : Value} (h : R v w) :
    AtMember name R (.object (before ++ (.text name, v) :: after))
      (.object (before ++ (.text name, w) :: after))

namespace AtMember

variable {name : String} {R : Value → Value → Prop} {v w : Value}

theorem field?_other (h : AtMember name R v w) (other : String) (hn : name ≠ other) :
    field? v other = field? w other := by
  cases h with
  | same => rfl
  | changed before after h =>
    simp only [field?, Table.find?_append, Table.find?_cons_text, Text.plain.injEq, if_neg hn]

theorem field_other (h : AtMember name R v w) (other : String) (hn : name ≠ other) :
    field v other = field w other := by
  unfold field
  rw [h.field?_other other hn]

theorem textField_other (h : AtMember name R v w) (other : String) (hn : name ≠ other) :
    textField v other = textField w other := by
  unfold textField
  rw [h.field?_other other hn]

/-- Under the name of the changed member stands the one value and the other, unless an earlier member
of that name hides them. -/
theorem field_alike (h : AtMember name R v w) :
    Alike (fun a b => a = b ∨ R a b) (field v name) (field w name) := by
  cases h with
  | same => exact (Alike.refl _).mono fun _ _ _ => .inl
  | changed before after h =>
    simp only [field, field?, Table.find?_append, Table.find?_cons_text, if_pos]
    cases Table.find? before (.text name) with
    | some hidden => exact .ok (.inl rfl)
    | none => exact .ok (.inr h)

theorem isTruthy_eq (h : AtMember name R v w) : v.isTruthy = w.isTruthy := by
  cases h with
  | same => rfl
  | changed before after h => cases before <;> rfl

end AtMember

/-! ## Rearranged arms -/

/-- The key that an arm has in a document. -/
def armKey? (data : Value) : Option Text := (textField data "key").toOption

/-- A list of arms with distinct keys in another order. -/
inductive ArmsReordered : Value → Value → Prop
  | of {xs ys : List Value} (hp : xs.Perm ys) (hk : (xs.filterMap armKey?).Nodup) :
    ArmsReordered (.list xs) (.list ys)

/-- A flag with the arms of its rule set in another order, or as it is. -/
def FlagReordered : Value → Value → Prop := AtMember "ruleset" (AtMember "variants" ArmsReordered)

/-- Lists of flags that differ in the order of arms, for any number of the flags. -/
inductive FlagsReordered : Value → Value → Prop
  | of {xs ys : List Value} (h : List.Forall₂ FlagReordered xs ys) :
    FlagsReordered (.list xs) (.list ys)

/-- Documents that differ in the order of arms only. -/
def Reordered : Value → Value → Prop := AtMember "flags" FlagsReordered

/-! ## The order of keys -/

theorem variantBefore_iff {a b : Variant} :
    variantBefore a b = true ↔ ¬ b.key.asText < a.key.asText := by
  unfold variantBefore
  rw [Bool.not_eq_true', decide_eq_false_iff_not]

/-- The arms in the order of their keys do not depend on the order in which they come, if their keys
are distinct. -/
theorem sorted_eq {as bs : List Variant} (hp : as.Perm bs)
    (hk : (as.map fun v => v.key.asText).Nodup) :
    as.mergeSort variantBefore = bs.mergeSort variantBefore := by
  have htrans : ∀ a b c, variantBefore a b = true → variantBefore b c = true →
      variantBefore a c = true := fun a b c hab hbc =>
    variantBefore_iff.2 (Text.not_lt_trans (variantBefore_iff.1 hab) (variantBefore_iff.1 hbc))
  have htotal : ∀ a b, (variantBefore a b || variantBefore b a) = true := fun a b => by
    rw [Bool.or_eq_true, variantBefore_iff, variantBefore_iff]
    exact Text.not_lt_total _ _
  have hsorted := List.pairwise_mergeSort htrans htotal
  refine List.Perm.eq_of_pairwise ?_ (hsorted as) (hsorted bs)
    (((List.mergeSort_perm as _).trans hp).trans (List.mergeSort_perm bs _).symm)
  -- arms that come before each other have one key, and of that key there is one arm
  intro a b ha hb hab hba
  have ha : a ∈ as := (List.mergeSort_perm as _).mem_iff.1 ha
  have hb : b ∈ as := hp.mem_iff.2 ((List.mergeSort_perm bs _).mem_iff.1 hb)
  exact List.inj_on_of_nodup_map hk ha hb
    (Text.eq_of_not_lt (variantBefore_iff.1 hba) (variantBefore_iff.1 hab))

/-! ## Reading -/

theorem armKey?_of_read {data : Value} {v : Variant} (h : readVariant data = .ok v) :
    armKey? data = some v.key.asText := by
  obtain ⟨s, hs, hk⟩ := (readVariant_reads h).key
  unfold armKey?
  rw [hs, hk]
  rfl

theorem keys_of_arms {xs : List Value} {as : List Variant} (h : xs.mapM readVariant = .ok as) :
    xs.filterMap armKey? = as.map fun v => v.key.asText := by
  have hall := mapM_ok_iff.1 h
  clear h
  induction hall with
  | nil => rfl
  | cons hx _ ih => rw [List.filterMap_cons_some (armKey?_of_read hx), ih]; rfl

/-- The elements of rearranged arms are the same, or they are the rearranged ones. -/
theorem elements_alike {v w : Value} (h : v = w ∨ ArmsReordered v w) :
    Alike (fun xs ys => xs = ys ∨ xs.Perm ys ∧ (xs.filterMap armKey?).Nodup)
      (elements v) (elements w) := by
  have helements : ∀ xs : List Value, elements (.list xs) = .ok xs := fun xs => by
    cases xs <;> rfl
  rcases h with rfl | h
  · exact (Alike.refl _).mono fun _ _ _ => .inl
  · obtain ⟨hp, hk⟩ := h
    rw [helements, helements]
    exact .ok (.inr ⟨hp, hk⟩)

theorem arms_alike {xs ys : List Value}
    (h : xs = ys ∨ xs.Perm ys ∧ (xs.filterMap armKey?).Nodup) :
    Alike (fun as bs => as.mergeSort variantBefore = bs.mergeSort variantBefore)
      (xs.mapM readVariant) (ys.mapM readVariant) := by
  rcases h with rfl | ⟨hp, hk⟩
  · exact (Alike.refl _).mono fun _ _ _ hab => by rw [hab]
  · refine (alike_mapM hp).mono fun as bs has hperm => sorted_eq hperm ?_
    rw [← keys_of_arms has]
    exact hk

theorem readRuleSet_alike {v w : Value} (h : v = w ∨ AtMember "variants" ArmsReordered v w) :
    Alike Eq (readRuleSet v) (readRuleSet w) := by
  rcases h with rfl | h
  · exact Alike.refl _
  unfold readRuleSet
  rw [← h.isTruthy_eq]
  split
  · refine h.field_alike.bind fun a b _ hab => ?_
    refine (elements_alike hab).bind fun xs ys _ hxy => ?_
    refine (arms_alike hxy).bind fun as bs _ hsorted => ?_
    rw [← h.field_other "rollout" (by decide), ← h.field_other "test" (by decide), ← hsorted]
    exact Alike.refl _
  · exact Alike.refl _

theorem readUnidentified_alike {v w : Value} (h : FlagReordered v w) :
    Alike Eq (readUnidentified v) (readUnidentified w) := by
  unfold readUnidentified
  rw [h.field_other "is_experiment_active" (by decide), h.textField_other "key" (by decide),
    h.textField_other "id" (by decide), h.textField_other "name" (by decide),
    h.textField_other "status" (by decide), h.field_other "project_id" (by decide),
    h.field_other "context" (by decide)]
  refine Alike.bind_right _ fun isActive => Alike.bind_right _ fun key => ?_
  refine h.field_alike.bind fun a b _ hab => (readRuleSet_alike hab).bind fun r _ _ hr => ?_
  rw [← hr]
  exact Alike.refl _

theorem readFlag_alike {v w : Value} (h : FlagReordered v w) :
    Alike Eq (readFlag v).outcome (readFlag w).outcome := by
  unfold readFlag
  rw [Reported.outcome_bind, Reported.outcome_bind,
    h.field_other "experiment_id" (by decide)]
  refine (readUnidentified_alike h).bind fun f _ _ hf => ?_
  rw [← hf]
  exact Alike.refl _

theorem readFlags_alike {xs ys : List Value} (h : List.Forall₂ FlagReordered xs ys)
    (t : Table Flag) : Alike Eq (readFlags t xs).outcome (readFlags t ys).outcome := by
  induction h generalizing t with
  | nil => exact Alike.refl _
  | cons hxy _ ih =>
    unfold readFlags
    rw [Reported.outcome_bind, Reported.outcome_bind]
    refine (readFlag_alike hxy).bind fun f _ _ hf => ?_
    rw [← hf]
    exact ih _

theorem read_alike {payload payload' : Value} (h : Reordered payload payload') :
    Alike Eq (read payload).outcome (read payload').outcome := by
  cases h with
  | same => exact Alike.refl _
  | changed before after h =>
    simp only [read, Table.find?_append, Table.find?_cons_text, if_pos]
    cases Table.find? before (.text "flags") with
    | some hidden => exact Alike.refl _
    | none =>
      obtain ⟨hflags⟩ := h
      exact (readFlags_alike hflags []).mapError wrap

/-- Documents that list arms in another order are read to the same flags, or neither is read; so
everyone gets the same evaluation of every flag from both. -/
theorem variant_order_is_irrelevant {payload payload' : Value} (h : Reordered payload payload') :
    (∀ flags, (read payload).outcome = .ok flags ↔ (read payload').outcome = .ok flags) ∧
    ∀ flags flags', (read payload).outcome = .ok flags → (read payload').outcome = .ok flags' →
      ∀ (key : Key) (context : Context) (flagKey : Value),
        Decision.evaluate (.ofFlag? (Table.find? flags key)) context flagKey =
          Decision.evaluate (.ofFlag? (Table.find? flags' key)) context flagKey := by
  have hread := (read_alike h).ok_iff
  refine ⟨hread, fun flags flags' hf hf' key context flagKey => ?_⟩
  have heq : flags = flags' := by
    rw [(hread flags).1 hf] at hf'
    exact Except.ok.inj hf'
  rw [heq]

/-- A document with one flag of the given arms, behind its key. -/
def oneFlag (arms : List Value) : Value :=
  .object [(.text "flags", .list [.object [(.text "key", .text "checkout"),
    (.text "ruleset", .object [(.text "variants", .list arms)])]])]

/-- An arm with half of the users. -/
def halfArm (key : String) : Value :=
  .object [(.text "key", .text key), (.text "split", .text "0.5")]

theorem variant_order_is_irrelevant_for_two_halves :
    Reordered (oneFlag [halfArm "b", halfArm "a"]) (oneFlag [halfArm "a", halfArm "b"]) ∧
      ∃ flags, (read (oneFlag [halfArm "b", halfArm "a"])).outcome = .ok flags ∧
        (read (oneFlag [halfArm "a", halfArm "b"])).outcome = .ok flags := by
  have h : Reordered (oneFlag [halfArm "b", halfArm "a"]) (oneFlag [halfArm "a", halfArm "b"]) :=
    .changed [] [] (.of (.cons (.changed [(.text "key", .text "checkout")] []
      (.changed [] [] (.of (.swap _ _ []) (by decide)))) .nil))
  obtain ⟨flags, hf⟩ : ∃ flags, (read (oneFlag [halfArm "b", halfArm "a"])).outcome = .ok flags :=
    ⟨_, by rfl⟩
  exact ⟨h, flags, hf, ((variant_order_is_irrelevant h).1 flags).1 hf⟩

end StagedRollout.Document
