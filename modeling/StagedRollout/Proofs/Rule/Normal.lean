/-
Lower case as a normal form. What lowering returns has its texts in lower case, and of data the keys as
well, no key twice; a value of that form is left as it is. So a second lowering changes nothing, and
rules and properties that were lowered in advance are decided as they would have been as they came.
-/
import StagedRollout.Proofs.Rule.Evaluation
import StagedRollout.Proofs.Rule.Lowering
import StagedRollout.Proofs.Text.Lowercase

namespace StagedRollout

/-- The scalars in a value and the tables of its objects are of some kind, at every depth. -/
inductive Value.Throughout (scalar : Value → Prop) (table : Members → Prop) : Value → Prop
  | scalar {v : Value} (hv : v.toKey?.isSome = true) (h : scalar v) : Throughout scalar table v
  | list {items : List Value} (h : ∀ v ∈ items, Throughout scalar table v) :
    Throughout scalar table (.list items)
  | object {members : Members} (ht : table members)
    (h : ∀ m ∈ members, Throughout scalar table m.2) : Throughout scalar table (.object members)

namespace Rule

/-! ## Scalars and keys -/

/-- A text in lower case, or a value of another kind. -/
def IsLowerText (v : Value) : Prop := ∀ s, v = .text s → Text.lower s = s

theorem lowerLeaves_scalar {v : Value} (hv : v.toKey?.isSome = true) :
    (lowerLeaves v).toKey?.isSome = true ∧ IsLowerText (lowerLeaves v) := by
  cases v with
  | text s =>
    refine ⟨rfl, fun t ht => ?_⟩
    cases ht
    exact Text.lower_lower s
  | list => cases hv
  | object => cases hv
  | _ => exact ⟨rfl, nofun⟩

theorem lowerLeaves_of_isLowerText {v : Value} (hv : v.toKey?.isSome = true) (h : IsLowerText v) :
    lowerLeaves v = v := by
  cases v with
  | text s => exact congrArg Value.text (h s rfl)
  | list => cases hv
  | object => cases hv
  | _ => rfl

/-- On scalars the two lowerings are one. -/
theorem lowerAll_scalar {v : Value} (hv : v.toKey?.isSome = true) : lowerAll v = lowerLeaves v := by
  cases v with
  | list => cases hv
  | object => cases hv
  | _ => rfl

theorem lowerKey_lowerKey (k : Key) : lowerKey (lowerKey k) = lowerKey k := by
  cases k with
  | text s => exact congrArg Key.text (Text.lower_lower s)
  | _ => rfl

/-! ## Rules -/

/-- A value whose texts are in lower case; its keys may be any. -/
def HasLowerTexts : Value → Prop := Value.Throughout IsLowerText fun _ => True

theorem hasLowerTexts_lowerLeaves (v : Value) : HasLowerTexts (lowerLeaves v) := by
  induction v using Value.induction_on with
  | scalar v hv =>
    obtain ⟨hv', ht⟩ := lowerLeaves_scalar hv
    exact .scalar hv' ht
  | list items ih =>
    rw [lowerLeaves, lowerLeavesList_eq]
    exact .list (List.forall_mem_map.2 ih)
  | object members ih =>
    rw [lowerLeaves, lowerLeavesMembers_eq]
    exact .object trivial (List.forall_mem_map.2 ih)

theorem lowerLeaves_of_hasLowerTexts {v : Value} (h : HasLowerTexts v) : lowerLeaves v = v := by
  induction h with
  | scalar hv ht => exact lowerLeaves_of_isLowerText hv ht
  | @list items _ ih =>
    have hitems : items.map lowerLeaves = items.map id := List.map_congr_left ih
    rw [lowerLeaves, lowerLeavesList_eq, hitems, List.map_id]
  | @object members _ _ ih =>
    have hmembers : (members.map fun m => (m.1, lowerLeaves m.2)) = members.map id :=
      List.map_congr_left fun m hm => Prod.ext rfl (ih m hm)
    rw [lowerLeaves, lowerLeavesMembers_eq, hmembers, List.map_id]

/-! ## Data -/

/-- A table with its keys in lower case and no key twice. -/
def IsLowerTable (ms : Members) : Prop := Table.IsApart ms ∧ ∀ m ∈ ms, lowerKey m.1 = m.1

/-- A value whose texts and keys are in lower case. -/
def IsLowerCase : Value → Prop := Value.Throughout IsLowerText IsLowerTable

theorem isLowerCase_lowerAll (v : Value) : IsLowerCase (lowerAll v) := by
  induction v using Value.induction_on with
  | scalar v hv =>
    obtain ⟨hv', ht⟩ := lowerLeaves_scalar hv
    rw [lowerAll_scalar hv]
    exact .scalar hv' ht
  | list items ih =>
    rw [lowerAll, lowerAllList_eq]
    exact .list (List.forall_mem_map.2 ih)
  | object members ih =>
    have hrows : ∀ row ∈ lowerAllMembers members, lowerKey row.1 = row.1 ∧ IsLowerCase row.2 := by
      rw [lowerAllMembers_eq]
      exact List.forall_mem_map.2 fun m hm => ⟨lowerKey_lowerKey m.1, ih m hm⟩
    -- a row keeps the key that came first and takes the value that came last
    have htable := Table.forall_ofRows hrows fun _ _ _ _ hk ha => ⟨hk.1, ha.2⟩
    rw [lowerAll]
    exact .object ⟨Table.isApart_ofRows _, fun m hm => (htable m hm).1⟩ fun m hm => (htable m hm).2

/-- Members with keys in lower case and none twice are lowered one by one. -/
theorem lowerAll_object {ms : Members} (h : IsLowerTable ms) :
    lowerAll (.object ms) = .object (ms.map fun m => (m.1, lowerAll m.2)) := by
  have hrows : lowerAllMembers ms = ms.map fun m => (m.1, lowerAll m.2) := by
    rw [lowerAllMembers_eq]
    exact List.map_congr_left fun m hm => Prod.ext (h.2 m hm) rfl
  have hapart : Table.IsApart (ms.map fun m => (m.1, lowerAll m.2)) := List.pairwise_map.2 h.1
  rw [lowerAll, hrows, Table.ofRows_of_isApart hapart]

theorem lowerAll_of_isLowerCase {v : Value} (h : IsLowerCase v) : lowerAll v = v := by
  induction h with
  | scalar hv ht => rw [lowerAll_scalar hv, lowerLeaves_of_isLowerText hv ht]
  | @list items _ ih =>
    have hitems : items.map lowerAll = items.map id := List.map_congr_left ih
    rw [lowerAll, lowerAllList_eq, hitems, List.map_id]
  | @object members ht _ ih =>
    have hmembers : (members.map fun m => (m.1, lowerAll m.2)) = members.map id :=
      List.map_congr_left fun m hm => Prod.ext rfl (ih m hm)
    rw [lowerAll_object ht, hmembers, List.map_id]

/-! ## Lowering in advance -/

theorem lowerLeaves_lowerLeaves (v : Value) : lowerLeaves (lowerLeaves v) = lowerLeaves v :=
  lowerLeaves_of_hasLowerTexts (hasLowerTexts_lowerLeaves v)

theorem lowerAll_lowerAll (v : Value) : lowerAll (lowerAll v) = lowerAll v :=
  lowerAll_of_isLowerCase (isLowerCase_lowerAll v)

theorem verdict_lowered (rule : Value) (members : Members) :
    verdict (lowerLeaves rule) (lowerAll (.object members)) = verdict rule (.object members) := by
  have hmembers : lowerAll (.object (Table.ofRows (lowerAllMembers members))) =
      lowerAll (.object members) := lowerAll_lowerAll (.object members)
  have hlowered : lowerAll (.object members) = .object (Table.ofRows (lowerAllMembers members)) := by
    rw [lowerAll]
  rw [hlowered, verdict_object, verdict_object, hmembers, lowerLeaves_lowerLeaves]

/-- Lowering is done once. It brings a rule's texts into lower case, and data's texts and keys, and
a second time it changes nothing. A rule and properties that were both lowered in advance come to the
same verdict as they do as they are, with the same notice if there is none. -/
theorem lowering_in_advance (v rule : Value) (members : Members) :
    (HasLowerTexts (lowerLeaves v) ∧ lowerLeaves (lowerLeaves v) = lowerLeaves v) ∧
    (IsLowerCase (lowerAll v) ∧ lowerAll (lowerAll v) = lowerAll v) ∧
    isMatch (lowerLeaves rule) (lowerAll (.object members)) = isMatch rule (.object members) ∧
    report (lowerLeaves rule) (lowerAll (.object members)) = report rule (.object members) := by
  have hverdict := verdict_lowered rule members
  refine ⟨⟨hasLowerTexts_lowerLeaves v, lowerLeaves_lowerLeaves v⟩,
    ⟨isLowerCase_lowerAll v, lowerAll_lowerAll v⟩, ?_, ?_⟩
  · unfold isMatch
    rw [hverdict]
  · unfold report isMatch
    rw [hverdict]

end Rule

end StagedRollout
