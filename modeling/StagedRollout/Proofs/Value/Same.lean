/-
Equality of values. Two lists are equal element by element; two objects are equal if the rows of one,
in some order, are those of the other, with keys that count as one and equal values. Between values in
which no object has a key twice, equality is symmetric.
-/
import StagedRollout.Value.Text
import StagedRollout.Proofs.Value.Table
import Mathlib.Data.List.Perm.Basic

namespace StagedRollout

namespace Value

/-! ## Induction -/

/-- What holds of scalars, and of lists and objects if it holds of their elements and members, holds
of every value. -/
theorem induction_on {P : Value → Prop} (scalar : ∀ v : Value, v.toKey?.isSome = true → P v)
    (list : ∀ items, (∀ v ∈ items, P v) → P (.list items))
    (object : ∀ members, (∀ m ∈ members, P m.2) → P (.object members)) (v : Value) : P v := by
  induction h : sizeOf v using Nat.strongRecOn generalizing v with
  | _ n ih =>
    subst h
    cases v with
    | list items =>
      refine list items fun v hv => ih _ ?_ v rfl
      have hlt := List.sizeOf_lt_of_mem hv
      rw [Value.list.sizeOf_spec]
      omega
    | object members =>
      refine object members fun m hm => ih _ ?_ m.2 rfl
      have hlt := List.sizeOf_lt_of_mem hm
      have hvalue : sizeOf m.2 < sizeOf m := by
        obtain ⟨k, w⟩ := m
        rw [Prod.mk.sizeOf_spec]
        dsimp only
        omega
      rw [Value.object.sizeOf_spec]
      omega
    | _ => exact scalar _ rfl

/-- No object in the value has a key twice. -/
inductive IsKeyed : Value → Prop
  | scalar {v : Value} (h : v.toKey?.isSome = true) : IsKeyed v
  | list {items : List Value} (h : ∀ v ∈ items, IsKeyed v) : IsKeyed (.list items)
  | object {members : Members} (ht : Table.IsProper members) (h : ∀ m ∈ members, IsKeyed m.2) :
    IsKeyed (.object members)

/-! ## Equality by kinds -/

theorem same_scalar {v w : Value} {k l : Key} (hv : v.toKey? = some k) (hw : w.toKey? = some l) :
    same v w = k.same l := by
  rw [same.eq_def]
  split
  · cases hv
  · cases hv
  · rw [hv, hw]

/-- A scalar equals no list and no object. -/
theorem same_of_kinds {v w : Value} (h : v.toKey?.isSome ≠ w.toKey?.isSome) :
    same v w = false := by
  rw [same.eq_def]
  split
  · exact absurd rfl h
  · exact absurd rfl h
  · cases hv : v.toKey? <;> cases hw : w.toKey? <;> simp_all

theorem same_null_left {v : Value} : same .null v = true ↔ v = .null := by
  cases v <;> simp [same, toKey?, Key.same, Key.number?]

theorem same_null_right {v : Value} : same v .null = true ↔ v = .null := by
  cases v <;> simp [same, toKey?, Key.same, Key.number?]

theorem same_text {s t : Text} : same (.text s) (.text t) = true ↔ s = t := by
  simp [same, toKey?, Key.same, Key.number?]

theorem same_list_iff {xs ys : List Value} :
    same (.list xs) (.list ys) = true ↔ List.Forall₂ (fun x y => x.same y = true) xs ys := by
  rw [same]
  induction xs generalizing ys with
  | nil => cases ys <;> simp [sameList]
  | cons x xs ih =>
    cases ys with
    | nil => simp [sameList]
    | cons y ys => simp [sameList, ih]

theorem sameMembers_iff {ms ns : Members} : sameMembers ms ns = true ↔
    ∀ m ∈ ms, ∃ w, Table.find? ns m.1 = some w ∧ m.2.same w = true := by
  induction ms with
  | nil => simp [sameMembers]
  | cons m rest ih =>
    obtain ⟨k, v⟩ := m
    rw [sameMembers, Bool.and_eq_true, ih, List.forall_mem_cons]
    cases Table.find? ns k <;> simp

theorem same_object_iff {ms ns : Members} : same (.object ms) (.object ns) = true ↔
    ms.length = ns.length ∧
      ∀ m ∈ ms, ∃ w, Table.find? ns m.1 = some w ∧ m.2.same w = true := by
  rw [same, Bool.and_eq_true, beq_iff_eq, sameMembers_iff]

/-! ## Symmetry -/

/-- Rows that are found in a table of their number make up the table, in some order. -/
theorem exists_aligned {ms ns : Members} (hm : Table.IsProper ms) (hl : ms.length = ns.length)
    (h : ∀ m ∈ ms, ∃ w, Table.find? ns m.1 = some w ∧ m.2.same w = true) :
    ∃ rows, List.Perm rows ns ∧
      List.Forall₂ (fun m n => n.1.same m.1 = true ∧ m.2.same n.2 = true) ms rows := by
  induction ms generalizing ns with
  | nil =>
    rw [List.length_eq_zero_iff.1 hl.symm]
    exact ⟨[], .refl _, .nil⟩
  | cons m rest ih =>
    obtain ⟨hfirst, hrest⟩ := List.pairwise_cons.1 hm
    obtain ⟨w, hw, hs⟩ := h m List.mem_cons_self
    obtain ⟨l, hl', hlm⟩ := Table.mem_of_find? hw
    obtain ⟨before, after, rfl⟩ := List.append_of_mem hl'
    -- the row that is found for the first one is found for no other
    have hothers : ∀ r ∈ rest, ∃ w, Table.find? (before ++ after) r.1 = some w ∧
        r.2.same w = true := by
      intro r hr
      obtain ⟨u, hu, hru⟩ := h r (List.mem_cons_of_mem m hr)
      have hlr : l.same r.1 = false := by
        by_contra hsame
        rw [Bool.not_eq_false] at hsame
        have hmr := Key.same_trans ((Key.same_comm m.1 l).trans hlm) hsame
        rw [(hfirst r hr).2] at hmr
        cases hmr
      rw [Table.find?_append, Table.find?, if_neg (ne_true_of_eq_false hlr),
        ← Table.find?_append] at hu
      exact ⟨u, hu, hru⟩
    have hlen : rest.length = (before ++ after).length := by
      simp only [List.length_cons, List.length_append] at hl ⊢
      omega
    obtain ⟨rows, hperm, hrows⟩ := ih hrest hlen hothers
    exact ⟨(l, w) :: rows, (hperm.cons (l, w)).trans List.perm_middle.symm, .cons ⟨hlm, hs⟩ hrows⟩

/-- An element of the one list has a partner in the other. -/
theorem forall₂_mem_right {α β : Type} {R : α → β → Prop} {xs : List α} {ys : List β}
    (h : List.Forall₂ R xs ys) : ∀ y ∈ ys, ∃ x ∈ xs, R x y := by
  induction h with
  | nil => exact fun _ hy => by cases hy
  | cons hxy _ ih =>
    intro y hy
    rcases List.mem_cons.1 hy with rfl | hy
    · exact ⟨_, List.mem_cons_self, hxy⟩
    · obtain ⟨x, hx, hr⟩ := ih y hy
      exact ⟨x, List.mem_cons_of_mem _ hx, hr⟩

theorem same_symm {v w : Value} (hv : v.IsKeyed) (hw : w.IsKeyed) (h : v.same w = true) :
    w.same v = true := by
  induction hv generalizing w with
  | @scalar v hk =>
    obtain ⟨k, hk⟩ := Option.isSome_iff_exists.1 hk
    cases hl : w.toKey? with
    | none =>
      rw [same_of_kinds (by simp [hk, hl])] at h
      cases h
    | some l =>
      rw [same_scalar hk hl] at h
      rw [same_scalar hl hk, Key.same_comm, h]
  | @list xs hxs ih =>
    cases w with
    | list ys =>
      cases hw with
      | scalar hl => cases hl
      | list hys =>
        rw [same_list_iff] at h ⊢
        induction h with
        | nil => exact .nil
        | cons hxy _ ihl =>
          refine .cons (ih _ List.mem_cons_self (hys _ List.mem_cons_self) hxy) (ihl ?_ ?_ ?_)
          · exact fun x hx => hxs x (List.mem_cons_of_mem _ hx)
          · exact fun x hx => ih x (List.mem_cons_of_mem _ hx)
          · exact fun y hy => hys y (List.mem_cons_of_mem _ hy)
    | object => cases h
    | _ =>
      rw [same_of_kinds (by simp [toKey?])] at h
      cases h
  | @object ms hm _ ih =>
    cases w with
    | object ns =>
      cases hw with
      | scalar hl => cases hl
      | object _ hns =>
        obtain ⟨hl, hrows⟩ := same_object_iff.1 h
        obtain ⟨rows, hperm, haligned⟩ := exists_aligned hm hl hrows
        refine same_object_iff.2 ⟨hl.symm, fun n hn => ?_⟩
        obtain ⟨m, hmem, hkey, hs⟩ := forall₂_mem_right haligned n (hperm.mem_iff.2 hn)
        have hmn : m.1.same n.1 = true := by
          rw [Key.same_comm, hkey]
        exact ⟨m.2, hm.find?_of_mem hmem hmn, ih m hmem (hns n hn) hs⟩
    | list => cases h
    | _ =>
      rw [same_of_kinds (by simp [toKey?])] at h
      cases h

/-- Between values in which no object has a key twice, equality is symmetric. -/
theorem same_comm {v w : Value} (hv : v.IsKeyed) (hw : w.IsKeyed) : v.same w = w.same v :=
  Bool.eq_iff_iff.2 ⟨same_symm hv hw, same_symm hw hv⟩

end Value

end StagedRollout
