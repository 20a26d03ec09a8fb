/-
Values that hold the same members in different orders, at any depth. What is looked up in them is
rearranged in turn, equality does not tell them apart, and they are one value if no object in them has
two members. Where keys are going to fall together, the order of those members matters: it is then part
of the relation that the same of them came last.
-/
import StagedRollout.Proofs.Value.Same

namespace StagedRollout

namespace Value

/-- The one value is the other with the members of its objects rearranged, at any depth. Of the members
whose keys are one key when looked at in some way, the same came last in both. -/
inductive Rearranged (view : Key → Key) : Value → Value → Prop
  | scalar {v : Value} (h : v.toKey?.isSome = true) : Rearranged view v v
  | list {xs ys : List Value} (hl : xs.length = ys.length)
    (h : ∀ (i : Nat) v w, xs[i]? = some v → ys[i]? = some w → Rearranged view v w) :
    Rearranged view (.list xs) (.list ys)
  | object {ms ns : Members} (hm : Table.IsProper ms) (hn : Table.IsProper ns)
    (hkeys : ∀ k, (∃ v, (k, v) ∈ ms) ↔ ∃ w, (k, w) ∈ ns)
    (hvalues : ∀ k v w, (k, v) ∈ ms → (k, w) ∈ ns → Rearranged view v w)
    (hlast : ∀ k v w, Table.lastUnder view k ms = some v → Table.lastUnder view k ns = some w →
      Rearranged view v w) :
    Rearranged view (.object ms) (.object ns)

variable {view : Key → Key}

/-! ## Lists -/

theorem rearranged_list_iff {xs ys : List Value} : Rearranged view (.list xs) (.list ys) ↔
    List.Forall₂ (Rearranged view) xs ys := by
  constructor
  · intro h
    cases h with
    | scalar hs => cases hs
    | list hl h =>
      refine List.forall₂_iff_get.2 ⟨hl, fun i hx hy => ?_⟩
      exact h i _ _ (List.getElem?_eq_getElem hx) (List.getElem?_eq_getElem hy)
  · intro h
    refine .list h.length_eq fun i v w hv hw => ?_
    obtain ⟨hi, rfl⟩ := List.getElem?_eq_some_iff.1 hv
    obtain ⟨hj, rfl⟩ := List.getElem?_eq_some_iff.1 hw
    exact h.get hi hj

/-! ## Values without repeated keys -/

theorem Rearranged.keyed {v w : Value} (h : Rearranged view v w) : v.IsKeyed ∧ w.IsKeyed := by
  induction h with
  | scalar hs => exact ⟨.scalar hs, .scalar hs⟩
  | @list xs ys hl _ ih =>
    constructor
    · refine .list fun v hv => ?_
      obtain ⟨i, hi, rfl⟩ := List.getElem_of_mem hv
      exact (ih i _ _ (List.getElem?_eq_getElem hi) (List.getElem?_eq_getElem (hl ▸ hi))).1
    · refine .list fun w hw => ?_
      obtain ⟨i, hi, rfl⟩ := List.getElem_of_mem hw
      exact (ih i _ _ (List.getElem?_eq_getElem (hl.symm ▸ hi)) (List.getElem?_eq_getElem hi)).2
  | object hm hn hkeys _ _ ih _ =>
    constructor
    · refine .object hm fun m hmem => ?_
      obtain ⟨w, hw⟩ := (hkeys m.1).1 ⟨m.2, hmem⟩
      exact (ih m.1 m.2 w hmem hw).1
    · refine .object hn fun n hmem => ?_
      obtain ⟨v, hv⟩ := (hkeys n.1).2 ⟨n.2, hmem⟩
      exact (ih n.1 v n.2 hv hmem).2

/-- Keys that are looked at as they are do not fall together. -/
theorem Rearranged.object_id {ms ns : Members} (hm : Table.IsProper ms) (hn : Table.IsProper ns)
    (hkeys : ∀ k, (∃ v, (k, v) ∈ ms) ↔ ∃ w, (k, w) ∈ ns)
    (hvalues : ∀ k v w, (k, v) ∈ ms → (k, w) ∈ ns → Rearranged id v w) :
    Rearranged id (.object ms) (.object ns) := by
  refine .object hm hn hkeys hvalues fun k v w hv hw => ?_
  obtain ⟨l, hl, hk⟩ := Table.mem_of_lastUnder hv
  obtain ⟨l', hl', hk'⟩ := Table.mem_of_lastUnder hw
  cases hk
  cases hk'
  exact hvalues _ _ _ hl hl'

/-- A value without repeated keys is its own rearrangement. -/
theorem Rearranged.refl {v : Value} (h : v.IsKeyed) : Rearranged view v v := by
  induction h with
  | scalar hs => exact .scalar hs
  | @list xs _ ih =>
    refine .list rfl fun i v w hv hw => ?_
    cases hv.symm.trans hw
    exact ih v (List.mem_of_getElem? hv)
  | @object ms hm _ ih =>
    refine .object hm hm (fun k => Iff.rfl) (fun k v w hv hw => ?_) fun k v w hv hw => ?_
    · rw [hm.eq_of_mem hv hw]
      exact ih _ hw
    · cases hv.symm.trans hw
      obtain ⟨l, hl, -⟩ := Table.mem_of_lastUnder hv
      exact ih _ hl

/-! ## Members -/

section Members

variable {ms ns : Members}

theorem Rearranged.find? (h : Rearranged view (.object ms) (.object ns)) (key : Key) :
    Option.Rel (Rearranged view) (Table.find? ms key) (Table.find? ns key) := by
  cases h with
  | scalar hs => cases hs
  | object hm hn hkeys hvalues _ =>
    cases hf : Table.find? ms key with
    | none =>
      have hnone : Table.find? ns key = none := by
        refine Table.find?_eq_none_iff.2 fun n hmem => ?_
        obtain ⟨v, hv⟩ := (hkeys n.1).2 ⟨n.2, hmem⟩
        exact Table.find?_eq_none_iff.1 hf (n.1, v) hv
      rw [hnone]
      exact .none
    | some v =>
      obtain ⟨k, hmem, hk⟩ := Table.mem_of_find? hf
      obtain ⟨w, hw⟩ := (hkeys k).1 ⟨v, hmem⟩
      rw [hn.find?_of_mem hw hk]
      exact .some (hvalues k v w hmem hw)

theorem nodup_keys (h : Table.IsProper ms) : (Table.keys ms).Nodup :=
  List.pairwise_map.2 (h.imp fun hr => hr.1)

theorem Rearranged.length (h : Rearranged view (.object ms) (.object ns)) :
    ms.length = ns.length := by
  cases h with
  | scalar hs => cases hs
  | object hm hn hkeys _ _ =>
    have hperm : (Table.keys ms).Perm (Table.keys ns) := by
      refine (List.perm_ext_iff_of_nodup (nodup_keys hm) (nodup_keys hn)).2 fun k => ?_
      simpa [Table.keys] using hkeys k
    simpa [Table.keys] using hperm.length_eq

theorem isProper_iff : Table.IsProper ms ↔
    (Table.keys ms).Pairwise fun k l => k ≠ l ∧ k.same l = false := by
  unfold Table.IsProper Table.keys
  rw [List.pairwise_map]

/-- Members whose values are rearranged, and then they themselves, are rearranged if no two of their
keys fall together. -/
theorem Rearranged.of_perm {rows : Members} (hm : Table.IsProper ms)
    (hview : ∀ m ∈ ms, ∀ n ∈ ms, view m.1 = view n.1 → m.1 = n.1)
    (h : List.Forall₂ (fun m n => m.1 = n.1 ∧ Rearranged view m.2 n.2) ms rows)
    (hp : rows.Perm ns) : Rearranged view (.object ms) (.object ns) := by
  have hkeys : Table.keys ms = Table.keys rows := by
    clear hm hview hp
    induction h with
    | nil => rfl
    | cons hmn _ ih => exact congrArg₂ List.cons hmn.1 ih
  have hn : Table.IsProper ns := by
    have hrows : Table.IsProper rows := isProper_iff.2 (hkeys ▸ isProper_iff.1 hm)
    refine hrows.perm hp fun hr => ⟨Ne.symm hr.1, ?_⟩
    rw [Key.same_comm]
    exact hr.2
  have hmem : ∀ k, (∃ v, (k, v) ∈ ms) ↔ ∃ w, (k, w) ∈ ns := fun k => by
    have hk : k ∈ Table.keys ms ↔ k ∈ Table.keys ns := by
      rw [hkeys]
      exact (hp.map _).mem_iff
    simpa [Table.keys] using hk
  have hvalues : ∀ k v w, (k, v) ∈ ms → (k, w) ∈ ns → Rearranged view v w := by
    intro k v w hv hw
    obtain ⟨⟨l, u⟩, hu, rfl, hr⟩ := forall₂_mem_right h (k, w) (hp.mem_iff.2 hw)
    rw [hm.eq_of_mem hv hu]
    exact hr
  refine .object hm hn hmem hvalues fun k v w hv hw => ?_
  -- one key only is looked at as `k`, so under it stand the two that came last
  obtain ⟨l, hl, hlk⟩ := Table.mem_of_lastUnder hv
  obtain ⟨l', hl', rfl⟩ := Table.mem_of_lastUnder hw
  obtain ⟨u, hu⟩ := (hmem l').2 ⟨w, hl'⟩
  cases hview _ hl _ hu hlk
  exact hvalues _ _ _ hl hl'

/-- Two members change places. -/
theorem Rearranged.swap {m m' n n' : Key × Value} (hp : Table.IsProper [m, n])
    (hview : view m.1 ≠ view n.1) (hm : m.1 = m'.1 ∧ Rearranged view m.2 m'.2)
    (hn : n.1 = n'.1 ∧ Rearranged view n.2 n'.2) :
    Rearranged view (.object [m, n]) (.object [n', m']) := by
  refine .of_perm hp ?_ (.cons hm (.cons hn .nil)) (.swap _ _ _)
  simp [hview, hview.symm]

end Members

/-! ## Equality -/

theorem same_scalar_list {v : Value} (h : v.toKey?.isSome = true) (items : List Value) :
    v.same (.list items) = false := same_of_kinds (by rw [h]; exact nofun)

theorem same_scalar_object {v : Value} (h : v.toKey?.isSome = true) (members : Members) :
    v.same (.object members) = false := same_of_kinds (by rw [h]; exact nofun)

theorem same_congr_right {v w w' : Value} (h : Rearranged view w w') : v.same w = v.same w' := by
  induction v using induction_on generalizing w w' with
  | scalar v hv =>
    cases h with
    | scalar _ => rfl
    | list _ _ => rw [same_scalar_list hv, same_scalar_list hv]
    | object _ _ _ _ _ => rw [same_scalar_object hv, same_scalar_object hv]
  | list items ih =>
    cases h with
    | scalar _ => rfl
    | @list xs ys hl h =>
      have hall := rearranged_list_iff.1 (.list hl h)
      rw [same, same]
      clear hl h
      induction hall generalizing items with
      | nil => rfl
      | cons hxy _ ihl =>
        cases items with
        | nil => rfl
        | cons v rest =>
          rw [sameList, sameList, ih v List.mem_cons_self hxy,
            ihl rest fun u hu => ih u (List.mem_cons_of_mem v hu)]
    | object _ _ _ _ _ => rfl
  | object members ih =>
    cases h with
    | scalar _ => rfl
    | list _ _ => rfl
    | @object ms ns hm hn hkeys hvalues hlast =>
      have h : Rearranged view (.object ms) (.object ns) := .object hm hn hkeys hvalues hlast
      rw [Bool.eq_iff_iff, same_object_iff, same_object_iff, h.length]
      refine and_congr_right fun _ => forall₂_congr fun m hmem => ?_
      have hfound := h.find? m.1
      generalize Table.find? ms m.1 = x, Table.find? ns m.1 = y at hfound
      cases hfound with
      | none => rfl
      | some hr => simp [ih m hmem hr]

/-- Equality does not see in which order members stand. -/
theorem same_congr {v v' w w' : Value} (hv : Rearranged view v v') (hw : Rearranged view w w') :
    v.same w = v'.same w' := by
  have hk := hw.keyed.2
  calc v.same w = v.same w' := same_congr_right hw
    _ = w'.same v := same_comm hv.keyed.1 hk
    _ = w'.same v' := same_congr_right hv
    _ = v'.same w' := same_comm hk hv.keyed.2

/-! ## Values that show no order -/

/-- No object in the value has two members. -/
inductive IsOrderless : Value → Prop
  | scalar {v : Value} (h : v.toKey?.isSome = true) : IsOrderless v
  | list {items : List Value} (h : ∀ v ∈ items, IsOrderless v) : IsOrderless (.list items)
  | object {members : Members} (hl : members.length ≤ 1) (h : ∀ m ∈ members, IsOrderless m.2) :
    IsOrderless (.object members)

theorem Rearranged.eq_of_orderless {v w : Value} (h : Rearranged view v w) (ho : v.IsOrderless) :
    v = w := by
  induction h with
  | scalar _ => rfl
  | @list xs ys hl _ ih =>
    cases ho with
    | scalar hs => cases hs
    | list ho =>
      refine congrArg Value.list (List.ext_getElem hl fun i hx hy => ?_)
      exact ih i _ _ (List.getElem?_eq_getElem hx) (List.getElem?_eq_getElem hy)
        (ho _ (List.getElem_mem hx))
  | @object ms ns hm hn hkeys hvalues hlast ih _ =>
    cases ho with
    | scalar hs => cases hs
    | object hl ho =>
      have hlen := (Rearranged.object hm hn hkeys hvalues hlast).length
      match ms, ns, hl, hlen with
      | [], [], _, _ => rfl
      | [(k, v)], [(l, w)], _, _ =>
        obtain ⟨u, hu⟩ := (hkeys k).1 ⟨v, List.mem_cons_self⟩
        cases List.mem_singleton.1 hu
        rw [ih k v w List.mem_cons_self hu (ho _ List.mem_cons_self)]

end Value

end StagedRollout
