/-
Data and rules in lower case. An object is built anew with every key in lower case, so of the keys that
fall together the one that came last stays: this is the only place where the order of members counts.
-/
import StagedRollout.Proofs.Value.Rearranged
import StagedRollout.Rule.Lowering

namespace StagedRollout.Rule

open Value (Rearranged)

/-! ## Data -/

theorem lowerAllList_eq (items : List Value) : lowerAllList items = items.map lowerAll := by
  induction items with
  | nil => rfl
  | cons v rest ih => rw [lowerAllList, ih, List.map_cons]

theorem lowerAllMembers_eq (members : Members) :
    lowerAllMembers members = members.map fun m => (lowerKey m.1, lowerAll m.2) := by
  induction members with
  | nil => rfl
  | cons m rest ih =>
    obtain ⟨k, v⟩ := m
    rw [lowerAllMembers, ih, List.map_cons]

theorem lowerKey_of_no_text {k : Key} (h : ∀ s, k ≠ .text s) : lowerKey k = k := by
  cases k with
  | text s => exact absurd rfl (h s)
  | _ => rfl

/-- Keys that are apart count as one in lower case just if they become one text. -/
theorem same_lowerKey {k l : Key} (h : k ≠ l ∧ k.same l = false) :
    (lowerKey k).same (lowerKey l) = true ↔ lowerKey k = lowerKey l := by
  by_cases hl : ∃ t, l = .text t
  · obtain ⟨t, rfl⟩ := hl
    exact Key.same_text
  by_cases hk : ∃ s, k = .text s
  · obtain ⟨s, rfl⟩ := hk
    rw [Key.same_comm]
    exact Key.same_text.trans eq_comm
  · rw [lowerKey_of_no_text fun s hs => hk ⟨s, hs⟩, lowerKey_of_no_text fun t ht => hl ⟨t, ht⟩]
    simp [h]

/-- An object in lower case has every key in lower case, and under it the value that came last. -/
theorem lowered_members {ms : Members} (h : Table.IsProper ms) :
    Table.IsProper (Table.ofRows (lowerAllMembers ms)) ∧
    (∀ k, (∃ a, (k, a) ∈ Table.ofRows (lowerAllMembers ms)) ↔
      ∃ l, (∃ v, (l, v) ∈ ms) ∧ lowerKey l = k) ∧
    ∀ k a, (k, a) ∈ Table.ofRows (lowerAllMembers ms) →
      ∃ v, Table.lastUnder lowerKey k ms = some v ∧ a = lowerAll v := by
  -- keys that fall together become one text, so each row of the table is the last of its key
  have hclear : Table.IsClear (lowerAllMembers ms) := by
    rw [lowerAllMembers_eq]
    exact List.pairwise_map.2 (h.imp fun hr => same_lowerKey hr)
  obtain ⟨hproper, hmem⟩ := Table.ofRows_spec hclear
  have hlast : ∀ k, Table.lastUnder id k (lowerAllMembers ms) =
      (Table.lastUnder lowerKey k ms).map lowerAll := fun k => by
    rw [lowerAllMembers_eq, Table.lastUnder_map]
  simp only [hlast] at hmem
  refine ⟨hproper, fun k => ⟨?_, ?_⟩, fun k a ha => ?_⟩
  · rintro ⟨a, ha⟩
    obtain ⟨v, hv, -⟩ := Option.map_eq_some_iff.1 ((hmem k a).1 ha)
    obtain ⟨l, hl, hk⟩ := Table.mem_of_lastUnder hv
    exact ⟨l, ⟨v, hl⟩, hk⟩
  · rintro ⟨l, ⟨v, hv⟩, rfl⟩
    obtain ⟨u, hu⟩ : ∃ u, Table.lastUnder lowerKey (lowerKey l) ms = some u :=
      Table.exists_lastUnder hv
    exact ⟨lowerAll u, (hmem _ _).2 (Option.map_eq_some_iff.2 ⟨u, hu, rfl⟩)⟩
  · obtain ⟨v, hv, he⟩ := Option.map_eq_some_iff.1 ((hmem k a).1 ha)
    exact ⟨v, hv, he.symm⟩

/-- Rearranged values are rearranged in lower case, if the same came last where keys fall together. -/
theorem lowerAll_rearranged {v w : Value} (h : Rearranged lowerKey v w) :
    Rearranged id (lowerAll v) (lowerAll w) := by
  induction h with
  | @scalar v hs =>
    cases v with
    | list => cases hs
    | object => cases hs
    | _ => exact .scalar rfl
  | @list xs ys hl _ ih =>
    rw [lowerAll, lowerAll, lowerAllList_eq, lowerAllList_eq]
    refine .list (by simpa using hl) fun i v w hv hw => ?_
    rw [List.getElem?_map, Option.map_eq_some_iff] at hv hw
    obtain ⟨v, hv, rfl⟩ := hv
    obtain ⟨w, hw, rfl⟩ := hw
    exact ih i v w hv hw
  | @object ms ns hm hn hkeys _ _ _ ih =>
    -- the induction is over the values that came last, of which the relation is part
    obtain ⟨hpm, hkm, hvm⟩ := lowered_members hm
    obtain ⟨hpn, hkn, hvn⟩ := lowered_members hn
    rw [lowerAll, lowerAll]
    refine .object_id hpm hpn (fun k => ?_) fun k a b ha hb => ?_
    · rw [hkm, hkn]
      exact exists_congr fun l => and_congr_left' (hkeys l)
    · obtain ⟨v, hv, rfl⟩ := hvm k a ha
      obtain ⟨w, hw, rfl⟩ := hvn k b hb
      exact ih k v w hv hw

/-! ## Rules -/

theorem lowerLeavesList_eq (items : List Value) :
    lowerLeavesList items = items.map lowerLeaves := by
  induction items with
  | nil => rfl
  | cons v rest ih => rw [lowerLeavesList, ih, List.map_cons]

theorem lowerLeavesMembers_eq (members : Members) :
    lowerLeavesMembers members = members.map fun m => (m.1, lowerLeaves m.2) := by
  induction members with
  | nil => rfl
  | cons m rest ih =>
    obtain ⟨k, v⟩ := m
    rw [lowerLeavesMembers, ih, List.map_cons]

theorem lowerLeaves_keyed {rule : Value} (h : rule.IsKeyed) : (lowerLeaves rule).IsKeyed := by
  induction h with
  | @scalar v hs =>
    cases v with
    | list => cases hs
    | object => cases hs
    | _ => exact .scalar rfl
  | list _ ih =>
    rw [lowerLeaves, lowerLeavesList_eq]
    exact .list (List.forall_mem_map.2 ih)
  | object ht _ ih =>
    rw [lowerLeaves, lowerLeavesMembers_eq]
    exact .object (List.pairwise_map.2 ht) (List.forall_mem_map.2 ih)

end StagedRollout.Rule
