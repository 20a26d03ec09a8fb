/-
A property and its own value written out in a rule. The value in the rule is brought into lower case as
rules are, which leaves its keys alone, and the property as data are, whose keys change with their
texts. The two come out equal exactly if the keys in the value were in lower case; the case of its texts
does not matter, at whatever depth they stand.
-/
import StagedRollout.Proofs.Rule.Equality
import StagedRollout.Proofs.Rule.Normal
import StagedRollout.Proofs.Rule.Path

namespace StagedRollout

/-- A value as JSON brings it, but for a NaN: the keys of its objects are texts, none twice. -/
def Value.IsJson : Value → Prop :=
  Value.Throughout (· ≠ .float .nan)
    fun ms => Table.IsProper ms ∧ ∀ m ∈ ms, ∃ s, m.1 = .text s

theorem Key.same_self {k : Key} (h : k ≠ .float .nan) : k.same k = true := by
  rw [Key.same_iff]
  cases k with
  | null => exact .inr ⟨rfl, rfl, rfl⟩
  | text s => exact .inr ⟨rfl, rfl, rfl⟩
  | bool b => exact .inl ⟨_, _, rfl, rfl, Double.eq_self_iff.2 nofun⟩
  | int n => exact .inl ⟨_, _, rfl, rfl, Double.eq_self_iff.2 nofun⟩
  | float x =>
    refine .inl ⟨x, x, rfl, rfl, Double.eq_self_iff.2 ?_⟩
    rintro rfl
    exact h rfl

namespace Rule

/-! ## Values that stand for themselves -/

/-- A value in which no operation is reached through lists alone. -/
inductive IsInert : Value → Prop
  | literal {v : Value} (h : isLiteral v = true) : IsInert v
  | list {items : List Value} (h : ∀ v ∈ items, IsInert v) : IsInert (.list items)

theorem apply_of_isInert {data v : Value} (h : IsInert v) : apply data v = .ok v := by
  induction h with
  | literal h => exact apply_literal h
  | list _ ih =>
    rw [apply_list, applyAll_eq, mapM_ok_iff.2 (List.forall₂_same.2 ih)]
    rfl

theorem isLiteral_lowerLeaves {v : Value} (h : isLiteral v = true) :
    isLiteral (lowerLeaves v) = true := by
  cases v with
  | list => cases h
  | object members =>
    match members with
    | [] => rfl
    | [(.text _, _)] => cases h
    | [(.null, _)] => rfl
    | [(.bool _, _)] => rfl
    | [(.int _, _)] => rfl
    | [(.float _, _)] => rfl
    | (k, _) :: (_, _) :: _ => cases k <;> rfl
  | _ => rfl

theorem isInert_lowerLeaves {v : Value} (h : IsInert v) : IsInert (lowerLeaves v) := by
  induction h with
  | literal h => exact .literal (isLiteral_lowerLeaves h)
  | list _ ih =>
    rw [lowerLeaves, lowerLeavesList_eq]
    exact .list (List.forall_mem_map.2 ih)

/-! ## The two lowerings of one value -/

/-- A value with the keys of its objects in lower case, at every depth. -/
def HasLowerKeys : Value → Prop :=
  Value.Throughout (fun _ => True) fun ms => ∀ m ∈ ms, lowerKey m.1 = m.1

theorem lowerLeaves_same_self {v : Value} (hv : v.toKey?.isSome = true) (hn : v ≠ .float .nan) :
    (lowerLeaves v).same (lowerLeaves v) = true := by
  obtain ⟨k, hk, hkn⟩ : ∃ k, (lowerLeaves v).toKey? = some k ∧ k ≠ .float .nan := by
    cases v with
    | list => cases hv
    | object => cases hv
    | float x =>
      refine ⟨.float x, rfl, ?_⟩
      rintro ⟨⟩
      exact hn rfl
    | _ => exact ⟨_, rfl, nofun⟩
  rw [Value.same_scalar hk hk, Key.same_self hkn]

section Objects

variable {ms : Members} (ht : Table.IsProper ms) (hk : ∀ m ∈ ms, ∃ s, m.1 = .text s)

include ht hk

theorem find?_lowerLeavesMembers {m : Key × Value} (hm : m ∈ ms) :
    Table.find? (lowerLeavesMembers ms) m.1 = some (lowerLeaves m.2) := by
  have hproper : Table.IsProper (lowerLeavesMembers ms) := by
    rw [lowerLeavesMembers_eq]
    exact List.pairwise_map.2 ht
  have hmem : (m.1, lowerLeaves m.2) ∈ lowerLeavesMembers ms := by
    rw [lowerLeavesMembers_eq]
    exact List.mem_map_of_mem hm
  obtain ⟨s, hs⟩ := hk m hm
  exact hproper.find?_of_mem hmem (hs ▸ Key.same_text.2 rfl)

/-- If the two lowerings of an object are equal, every key of the one is a key of the other. -/
theorem lower_keys_of_same
    (h : (lowerAll (.object ms)).same (lowerLeaves (.object ms)) = true) :
    ∀ m ∈ ms, lowerKey m.1 = m.1 := by
  intro m hm
  rw [lowerAll, lowerLeaves] at h
  obtain ⟨hproper, hkeys, -⟩ := lowered_members ht
  obtain ⟨hlength, hrows⟩ := Value.same_object_iff.1 h
  -- as many rows as are found for them, so none of the rule's is left over
  obtain ⟨rows, hperm, haligned⟩ := Value.exists_aligned hproper hlength hrows
  have hmem : (m.1, lowerLeaves m.2) ∈ rows := by
    rw [hperm.mem_iff, lowerLeavesMembers_eq]
    exact List.mem_map_of_mem hm
  obtain ⟨row, hrow, hsame, -⟩ := Value.forall₂_mem_right haligned _ hmem
  obtain ⟨l, -, hl⟩ := (hkeys row.1).1 ⟨row.2, hrow⟩
  obtain ⟨s, hs⟩ := hk m hm
  have hkey : row.1 = m.1 := by
    rw [hs] at hsame ⊢
    exact Key.same_text.1 ((Key.same_comm _ _).trans hsame)
  rw [← hkey, ← hl, lowerKey_lowerKey]

theorem lowered_object_same_iff (hlow : ∀ m ∈ ms, lowerKey m.1 = m.1) :
    (lowerAll (.object ms)).same (lowerLeaves (.object ms)) = true ↔
      ∀ m ∈ ms, (lowerAll m.2).same (lowerLeaves m.2) = true := by
  have hapart : Table.IsApart ms := ht.imp fun hr => hr.2
  have hlength : (ms.map fun m => (m.1, lowerAll m.2)).length = (lowerLeavesMembers ms).length := by
    rw [lowerLeavesMembers_eq, List.length_map, List.length_map]
  rw [lowerAll_object ⟨hapart, hlow⟩, lowerLeaves, Value.same_object_iff]
  constructor
  · rintro ⟨-, h⟩ m hm
    obtain ⟨w, hw, hs⟩ := h _ (List.mem_map_of_mem hm)
    rw [find?_lowerLeavesMembers ht hk hm] at hw
    cases hw
    exact hs
  · refine fun h => ⟨hlength, List.forall_mem_map.2 fun m hm => ?_⟩
    have hfound := find?_lowerLeavesMembers ht hk hm
    exact ⟨_, hfound, h m hm⟩

end Objects

/-- The two lowerings of a value are equal exactly if its keys were in lower case. -/
theorem lowered_same_iff {v : Value} (h : v.IsJson) :
    (lowerAll v).same (lowerLeaves v) = true ↔ HasLowerKeys v := by
  induction h with
  | @scalar v hv hn =>
    rw [lowerAll_scalar hv]
    exact iff_of_true (lowerLeaves_same_self hv hn) (.scalar hv trivial)
  | @list items _ ih =>
    rw [lowerAll, lowerLeaves, lowerAllList_eq, lowerLeavesList_eq, Value.same_list_iff,
      List.forall₂_map_left_iff, List.forall₂_map_right_iff, List.forall₂_same]
    constructor
    · exact fun h => .list fun v hv => (ih v hv).1 (h v hv)
    · intro h v hv
      cases h with
      | scalar hs => cases hs
      | list h => exact (ih v hv).2 (h v hv)
  | @object ms ht _ ih =>
    constructor
    · intro h
      have hlow := lower_keys_of_same ht.1 ht.2 h
      have hvalues := (lowered_object_same_iff ht.1 ht.2 hlow).1 h
      exact .object hlow fun m hm => (ih m hm).1 (hvalues m hm)
    · intro h
      cases h with
      | scalar hs => cases hs
      | object hlow h =>
        exact (lowered_object_same_iff ht.1 ht.2 hlow).2 fun m hm => (ih m hm).2 (h m hm)

/-! ## A property and its value -/

theorem looseEquals_self {v : Value} (hv : v.toKey?.isSome = true) (hn : v ≠ .float .nan)
    (hh : ¬ v.IsHuge) : looseEquals v v = .ok true := by
  have hnumber : ∀ x, toNumber v = .ok x → x ≠ .nan → falseOnBreach (sameNumber v v) = .ok true := by
    intro x hx hxn
    rw [sameNumber, hx]
    exact congrArg Except.ok (Double.eq_self_iff.2 hxn)
  cases v with
  | null => rfl
  | text s => exact congrArg Except.ok (beq_self_eq_true s)
  | bool b =>
    cases b
    · exact hnumber Double.zero rfl (by decide)
    · exact hnumber Double.one rfl (by decide)
  | int n =>
    cases hx : Double.ofInt? n with
    | none => exact absurd ⟨n, rfl, Double.ofInt?_eq_none.1 hx⟩ hh
    | some x =>
      have hto : toNumber (.int n) = .ok x := by rw [toNumber, intToNumber, hx]
      exact hnumber x hto (Double.round_of_ofInt? hx ▸ Number.Format.round_ne_nan _ _)
  | float x => exact hnumber x rfl fun hx => hn (congrArg Value.float hx)
  | list => cases hv
  | object => cases hv

/-- Loose equality of the two lowerings of a value is equality, unless it cannot take the value. -/
theorem looseEquals_lowered {v : Value} (h : v.IsJson) (hh : ¬ v.IsHuge) :
    looseEquals (lowerAll v) (lowerLeaves v) = .ok ((lowerAll v).same (lowerLeaves v)) := by
  cases h with
  | scalar hv hn =>
    rw [lowerAll_scalar hv, lowerLeaves_same_self hv hn]
    cases v with
    | text s => exact congrArg Except.ok (beq_self_eq_true _)
    | list => cases hv
    | object => cases hv
    | _ => exact looseEquals_self hv hn hh
  | list _ => rfl
  | object _ _ => rfl

/-- The look-up of a name as it is mostly written, without a list. -/
def property (name : Text) : Value := .object [(.text "var", .text name)]

theorem apply_property {name : Text} (hne : name ≠ "") (hdot : .char '.' ∉ name.points)
    (v : Value) : apply (.object [(.text name, v)]) (property name) = .ok v := by
  have hsplit : Text.split '.' name = [name] := by
    refine Text.split_eq_iff.2 ⟨List.cons_ne_nil _ _, List.forall_mem_singleton.2 hdot, ?_⟩
    rfl
  have hrun : apply (.object [(.text name, v)]) (property name) =
      .ok ((lookup? (.object [(.text name, v)]) (.text name)).getD .null) := rfl
  have hfound : Table.find? [(.text name, v)] (.text name) = some v := by
    rw [Table.find?_cons_text, if_pos rfl]
  rw [hrun, lookup?_text hne, hsplit, follow?, step?, hfound]
  rfl

variable {name : Text} {v : Value}

/-- A property meets its own value written out in a rule exactly if the keys in the value are in lower
case, whatever the case of its texts. The name of the property is one part in lower case, and the value
is no operation, holds no NaN and is no whole number that has no double. -/
theorem property_meets_own_value (hne : name ≠ "") (hlow : Text.lower name = name)
    (hdot : .char '.' ∉ name.points) (hv : v.IsJson) (hh : ¬ v.IsHuge) (hi : IsInert v) :
    isMatch (binary "==" (property name) v) (.object [(.text name, v)]) = true ↔
      HasLowerKeys v := by
  have hdata : lowerAll (.object [(.text name, v)]) = .object [(.text name, lowerAll v)] := by
    refine lowerAll_object ⟨List.pairwise_singleton _ _, List.forall_mem_singleton.2 ?_⟩
    exact congrArg Key.text hlow
  have hrule : lowerLeaves (binary "==" (property name) v) =
      binary "==" (property name) (lowerLeaves v) := by
    show binary "==" (property (Text.lower name)) (lowerLeaves v) = _
    rw [hlow]
  have hverdict : verdict (binary "==" (property name) v) (.object [(.text name, v)]) =
      .ok ((lowerAll v).same (lowerLeaves v)) := by
    rw [verdict_object, hdata, hrule, apply_equal (apply_property hne hdot (lowerAll v))
      (apply_of_isInert (isInert_lowerLeaves hi)), looseEquals_lowered hv hh]
    rfl
  rw [isMatch, hverdict]
  exact lowered_same_iff hv

/-- Capitals in texts do not matter, in a list and in the objects in it. -/
theorem property_meets_own_value_with_capital_texts :
    let v : Value := .list [.text "Ann", .object [(.text "city", .text "Oslo"), (.text "id", .int 7)]]
    HasLowerKeys v ∧ isMatch (binary "==" (property "team") v) (.object [(.text "team", v)]) = true := by
  intro v
  have hthroughout : ∀ {scalar table}, scalar (.text "Ann") → scalar (.text "Oslo") →
      scalar (.int 7) → table [(.text "city", .text "Oslo"), (.text "id", .int 7)] →
      Value.Throughout scalar table v := by
    intro scalar table hname hcity hid ht
    have hmembers : Value.Throughout scalar table _ :=
      .object ht (List.forall_mem_cons.2
        ⟨.scalar rfl hcity, List.forall_mem_singleton.2 (.scalar rfl hid)⟩)
    exact .list (List.forall_mem_cons.2 ⟨.scalar rfl hname, List.forall_mem_singleton.2 hmembers⟩)
  have hkeys : HasLowerKeys v := hthroughout trivial trivial trivial (by decide +kernel)
  have htexts : ∀ m ∈ [(Key.text "city", Value.text "Oslo"), (.text "id", .int 7)],
      ∃ s, m.1 = .text s :=
    List.forall_mem_cons.2 ⟨⟨_, rfl⟩, List.forall_mem_singleton.2 ⟨_, rfl⟩⟩
  have hjson : v.IsJson := hthroughout nofun nofun nofun ⟨by decide, htexts⟩
  have hhuge : ¬ v.IsHuge := fun ⟨_, h, _⟩ => nomatch h
  have hinert : IsInert v :=
    .list (List.forall_mem_cons.2 ⟨.literal rfl, List.forall_mem_singleton.2 (.literal rfl)⟩)
  have hlow : Text.lower "team" = "team" := by decide +kernel
  exact ⟨hkeys, (property_meets_own_value (by decide) hlow (by decide) hjson hhuge hinert).2 hkeys⟩

/-- A capital in a key does: the rule keeps it, and the property does not. -/
theorem capital_key_is_unequal :
    let v : Value := .object [(.text "A", .int 1), (.text "B", .int 2)]
    (v.IsJson ∧ ¬ v.IsHuge ∧ IsInert v) ∧
      (("p" : Text) ≠ "" ∧ Text.lower "p" = "p" ∧ .char '.' ∉ Text.points "p") ∧
      isMatch (binary "==" (property "p") v) (.object [(.text "p", v)]) = false := by
  intro v
  have hjson : v.IsJson := by
    refine .object ⟨by decide, ?_⟩ ?_
    · exact List.forall_mem_cons.2 ⟨⟨_, rfl⟩, List.forall_mem_singleton.2 ⟨_, rfl⟩⟩
    · exact List.forall_mem_cons.2
        ⟨.scalar rfl nofun, List.forall_mem_singleton.2 (.scalar rfl nofun)⟩
  have hhuge : ¬ v.IsHuge := fun ⟨_, h, _⟩ => nomatch h
  exact ⟨⟨hjson, hhuge, .literal rfl⟩, ⟨by decide, by decide +kernel, by decide⟩, by decide +kernel⟩

end Rule

end StagedRollout
