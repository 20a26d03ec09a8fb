/-
Settings laid over each other, leaf by leaf. What is no object is a leaf, and its path is the keys on the
way to it. A leaf of the upper document is in the merged one, under the keys that the lower document
has on the way if they count as the same; a leaf of the lower document is there unless the upper one has
a value at its path or a leaf on the way; and there are no other leaves. So merging a second time finds
every leaf where it puts it.
-/
import StagedRollout.Settings.Merge
import StagedRollout.Proofs.Value.Overlay
import Mathlib.Data.List.Forall2

namespace StagedRollout.Settings

open Table (find? put overlaid IsApart)

/-! ## Leaves and paths -/

/-- A value that is no object. -/
def IsLeaf (v : Value) : Prop := v.members? = none

instance (v : Value) : Decidable (IsLeaf v) :=
  decidable_of_iff (v.members?.isNone = true) Option.isNone_iff_eq_none

/-- Keys lead through objects to a leaf. -/
inductive HasLeaf : Value → List Key → Value → Prop
  | here {v : Value} (h : IsLeaf v) : HasLeaf v [] v
  | row {members : Members} {key : Key} {w leaf : Value} {path : List Key}
    (hrow : (key, w) ∈ members) (h : HasLeaf w path leaf) :
    HasLeaf (.object members) (key :: path) leaf

/-- The value has some value at a path, or a leaf on the way. -/
inductive Covers : Value → List Key → Prop
  | here (v : Value) : Covers v []
  | leaf {v : Value} (h : IsLeaf v) (path : List Key) : Covers v path
  | row {members : Members} {key other : Key} {w : Value} {path : List Key}
    (hrow : (other, w) ∈ members) (hkey : other.same key = true) (h : Covers w path) :
    Covers (.object members) (key :: path)

/-- Paths of which the keys, one by one, are one key or count as one. -/
def SamePath : List Key → List Key → Prop :=
  List.Forall₂ fun k l => k = l ∨ k.same l = true

/-- What holds of the members of every object that is reached through objects only. -/
inductive Nested (P : Members → Prop) : Value → Prop
  | leaf {v : Value} (h : IsLeaf v) : Nested P v
  | object {members : Members} (hp : P members) (h : ∀ row ∈ members, Nested P row.2) :
    Nested P (.object members)

theorem SamePath.refl (path : List Key) : SamePath path path :=
  List.forall₂_same.2 fun _ _ => .inl rfl

theorem isLeaf_or_object (v : Value) : IsLeaf v ∨ ∃ members, v = .object members := by
  cases v with
  | object members => exact .inr ⟨members, rfl⟩
  | _ => exact .inl rfl

theorem not_isLeaf_object {members : Members} : ¬ IsLeaf (.object members) := nofun

/-- An object of leaves has no other object in it. -/
theorem Nested.of_leaves {P : Members → Prop} {members : Members} (hp : P members)
    (h : ∀ row ∈ members, IsLeaf row.2) : Nested P (.object members) :=
  .object hp fun row hrow => .leaf (h row hrow)

theorem Nested.of_object {P : Members → Prop} {members : Members} (h : Nested P (.object members)) :
    P members ∧ ∀ row ∈ members, Nested P row.2 := by
  cases h with
  | leaf h => exact absurd h not_isLeaf_object
  | object hp h => exact ⟨hp, h⟩

/-- The rows of a value, of which a leaf has none. -/
def rowsOf (v : Value) : Members := v.members?.getD []

theorem Nested.rows {P : Members → Prop} {v : Value} (h : Nested P v) (hnil : P []) :
    P (rowsOf v) ∧ ∀ row ∈ rowsOf v, Nested P row.2 := by
  cases h with
  | leaf h =>
    rw [rowsOf, h]
    exact ⟨hnil, fun _ => nofun⟩
  | object hp h => exact ⟨hp, h⟩

theorem HasLeaf.of_row {v w leaf : Value} {key : Key} {path : List Key}
    (hrow : (key, w) ∈ rowsOf v) (h : HasLeaf w path leaf) : HasLeaf v (key :: path) leaf := by
  rcases isLeaf_or_object v with hleaf | ⟨members, rfl⟩
  · rw [rowsOf, hleaf] at hrow
    cases hrow
  · exact .row hrow h

/-! ## Rows -/

section Rows

variable {below above : Members}

theorem overlay_leaf {w v : Value} (h : IsLeaf v) : overlay w v = v := by
  cases v with
  | object => exact absurd h not_isLeaf_object
  | _ => rfl

/-- A leaf leaves nothing of itself below another value. -/
theorem overlay_of_leaf {w : Value} (h : IsLeaf w) (v : Value) : overlay w v = v := by
  cases v with
  | object above =>
    cases w with
    | object => exact absurd h not_isLeaf_object
    | _ => rfl
  | _ => rfl

theorem overlay_null (v : Value) : overlay .null v = v :=
  overlay_of_leaf (show Value.members? .null = none from rfl) v

/-- A row is set to its value laid over the one under its key. -/
theorem mergeMembers_cons (below : Members) (k : Key) (v : Value) (rest : Members) :
    mergeMembers below ((k, v) :: rest) =
      mergeMembers (put below k (overlay ((find? below k).getD .null) v)) rest := by
  rw [mergeMembers]
  cases find? below k with
  | none => rw [Option.getD_none, overlay_null]
  | some w => rfl

/-- Rows under keys that count as different are set independently of each other. -/
theorem mergeMembers_eq_foldl (habove : IsApart above) : mergeMembers below above =
    (above.map fun row => (row.1, overlay ((find? below row.1).getD .null) row.2)).foldl
      (fun t row => put t row.1 row.2) below := by
  induction above generalizing below with
  | nil => rfl
  | cons first rest ih =>
    obtain ⟨k, v⟩ := first
    obtain ⟨hfirst, hrest⟩ := List.pairwise_cons.1 habove
    rw [mergeMembers_cons, ih hrest, List.map_cons, List.foldl_cons]
    refine congrArg (List.foldl _ _) (List.map_congr_left fun row hr => ?_)
    rw [Table.find?_put, hfirst row hr, if_neg Bool.false_ne_true]

theorem mergeMembers_eq_overlaid (hbelow : IsApart below) (habove : IsApart above) :
    mergeMembers below above = overlaid below
      (above.map fun row => (row.1, overlay ((find? below row.1).getD .null) row.2)) := by
  rw [mergeMembers_eq_foldl habove, Table.foldl_put hbelow, Table.ofRows_of_isApart]
  exact List.pairwise_map.2 habove

theorem isApart_mergeMembers (hbelow : IsApart below) (above : Members) :
    IsApart (mergeMembers below above) := by
  induction above generalizing below with
  | nil => rwa [mergeMembers]
  | cons first rest ih =>
    rw [mergeMembers_cons]
    exact ih (Table.isApart_put hbelow _ _)

theorem find?_laid (below above : Members) (k : Key) :
    find? (above.map fun row => (row.1, overlay ((find? below row.1).getD .null) row.2)) k =
      (find? above k).map (overlay ((find? below k).getD .null)) :=
  Table.find?_map_value (f := fun l v => overlay ((find? below l).getD .null) v) above
    fun l v hl => by rw [Table.find?_congr below hl]

/-- Under a key lies the upper value, laid over the lower one, or the lower one alone. -/
theorem find?_mergeMembers (hbelow : IsApart below) (habove : IsApart above) (k : Key) :
    find? (mergeMembers below above) k =
      ((find? above k).map (overlay ((find? below k).getD .null))).or (find? below k) := by
  rw [mergeMembers_eq_overlaid hbelow habove, Table.find?_overlaid, find?_laid]

/-- The rows are those of the lower document, with the upper values laid over them, and those of the
upper one under new keys. -/
theorem mem_mergeMembers (hbelow : IsApart below) (habove : IsApart above) {k : Key} {u : Value} :
    (k, u) ∈ mergeMembers below above ↔
      (∃ w, (k, w) ∈ below ∧ u = (find? above k).elim w (overlay w)) ∨
        (k, u) ∈ above ∧ find? below k = none := by
  have hvalue : ∀ w, (k, w) ∈ below →
      ((find? above k).map (overlay ((find? below k).getD .null))).getD w =
        (find? above k).elim w (overlay w) := by
    intro w hw
    cases hv : find? above k with
    | none => rfl
    | some v =>
      rw [hbelow.find?_of_mem hw (Table.same_self_of_find? hv)]
      rfl
  rw [mergeMembers_eq_overlaid hbelow habove, overlaid, List.mem_append, List.mem_map,
    List.mem_filter, List.mem_map, Option.isNone_iff_eq_none]
  refine or_congr ⟨?_, ?_⟩ ⟨?_, ?_⟩
  · rintro ⟨⟨l, w⟩, hw, hrow⟩
    rw [find?_laid] at hrow
    cases hrow
    exact ⟨w, hw, hvalue w hw⟩
  · rintro ⟨w, hw, rfl⟩
    refine ⟨(k, w), hw, ?_⟩
    rw [find?_laid, hvalue w hw]
  · rintro ⟨⟨⟨l, v⟩, hv, hrow⟩, hnone⟩
    cases hrow
    have hnone : find? below l = none := hnone
    rw [hnone, Option.getD_none, overlay_null]
    exact ⟨hv, rfl⟩
  · rintro ⟨hu, hnone⟩
    refine ⟨⟨(k, u), hu, ?_⟩, hnone⟩
    rw [hnone, Option.getD_none, overlay_null]

/-- A value that is laid over a leaf is laid over no rows. -/
theorem overlay_object (w : Value) (habove : IsApart above) :
    overlay w (.object above) = .object (mergeMembers (rowsOf w) above) := by
  rcases isLeaf_or_object w with hw | ⟨below, rfl⟩
  · have hover : overlay w (.object above) = .object above := overlay_of_leaf hw _
    have hnew : above.map (fun row => (row.1, overlay ((find? [] row.1).getD .null) row.2)) =
        above :=
      (List.map_congr_left fun row _ => congrArg (Prod.mk row.1) (overlay_null row.2)).trans
        (List.map_id above)
    have hrows : rowsOf w = [] := by
      rw [rowsOf, hw]
      rfl
    rw [hover, hrows, mergeMembers_eq_foldl habove, hnew]
    exact congrArg Value.object (Table.ofRows_of_isApart habove).symm
  · rfl

end Rows

/-! ## Leaves of the merged document -/

/-- No two keys count as one in the merged document either. -/
theorem Nested.overlay {v w : Value} (hv : Nested IsApart v) (hw : Nested IsApart w) :
    Nested IsApart (overlay w v) := by
  induction hv generalizing w with
  | leaf h => exact (overlay_leaf h).symm ▸ .leaf h
  | @object above habove hrows ih =>
    obtain ⟨hbelow, hlower⟩ := hw.rows .nil
    rw [overlay_object w habove]
    refine .object (isApart_mergeMembers hbelow above) fun row hrow => ?_
    rcases (mem_mergeMembers hbelow habove).1 hrow with ⟨u, hu, hvalue⟩ | ⟨hupper, -⟩
    · rw [hvalue]
      cases hfound : find? above row.1 with
      | none => exact hlower _ hu
      | some u₀ =>
        obtain ⟨l, hl, -⟩ := Table.mem_of_find? hfound
        exact ih _ hl (hlower _ hu)
    · exact hrows _ hupper

/-- A leaf of the upper value is there, under the keys of the lower one where it has them. -/
theorem HasLeaf.over {v leaf : Value} {path : List Key} (h : HasLeaf v path leaf) {w : Value}
    (hv : Nested IsApart v) (hw : Nested IsApart w) :
    ∃ path', SamePath path' path ∧ HasLeaf (overlay w v) path' leaf := by
  induction h generalizing w with
  | here h => exact ⟨[], .nil, (overlay_leaf h).symm ▸ .here h⟩
  | @row above key u leaf path hrow h ih =>
    obtain ⟨habove, hrows⟩ := hv.of_object
    obtain ⟨hbelow, hlower⟩ := hw.rows .nil
    rw [overlay_object w habove]
    cases hfound : find? (rowsOf w) key with
    | none =>
      exact ⟨key :: path, .refl _, .row ((mem_mergeMembers hbelow habove).2 (.inr ⟨hrow, hfound⟩)) h⟩
    | some u₀ =>
      obtain ⟨l, hl, hkey⟩ := Table.mem_of_find? hfound
      have hupper : find? above l = some u :=
        habove.find?_of_mem hrow ((Key.same_comm key l).trans hkey)
      have hmerged : (l, overlay u₀ u) ∈ mergeMembers (rowsOf w) above :=
        (mem_mergeMembers hbelow habove).2 (.inl ⟨u₀, hl, by rw [hupper]; rfl⟩)
      obtain ⟨path', hpath, hleaf⟩ := ih (hrows _ hrow) (hlower _ hl)
      exact ⟨l :: path', .cons (.inr hkey) hpath, .row hmerged hleaf⟩

/-- A leaf of the lower value stays if the upper one does not cover it. -/
theorem HasLeaf.under {w leaf : Value} {path : List Key} (h : HasLeaf w path leaf) {v : Value}
    (hv : Nested IsApart v) (hw : Nested IsApart w) (hfree : ¬ Covers v path) :
    HasLeaf (overlay w v) path leaf := by
  induction h generalizing v with
  | here => exact absurd (.here v) hfree
  | @row below key u leaf path hrow h ih =>
    cases hv with
    | leaf hleaf => exact absurd (.leaf hleaf _) hfree
    | @object above habove hrows =>
      obtain ⟨hbelow, hlower⟩ := hw.rows .nil
      rw [overlay_object _ habove]
      cases hfound : find? above key with
      | none =>
        exact .row ((mem_mergeMembers hbelow habove).2 (.inl ⟨u, hrow, by rw [hfound]; rfl⟩)) h
      | some v₀ =>
        obtain ⟨l, hl, hkey⟩ := Table.mem_of_find? hfound
        have hmerged : (key, overlay u v₀) ∈ mergeMembers below above :=
          (mem_mergeMembers hbelow habove).2 (.inl ⟨u, hrow, by rw [hfound]; rfl⟩)
        exact .row hmerged (ih (hrows _ hl) (hlower _ hrow) fun hc => hfree (.row hl hkey hc))

/-- What covers a path from an object on is the value under its first key. -/
theorem Covers.exists_find? {above : Members} (habove : IsApart above) {key : Key} {path : List Key}
    (h : Covers (.object above) (key :: path)) :
    ∃ v, find? above key = some v ∧ Covers v path := by
  cases h with
  | leaf h => exact absurd h not_isLeaf_object
  | row hrow hkey h => exact ⟨_, habove.find?_of_mem hrow hkey, h⟩

/-- There are no other leaves. -/
theorem HasLeaf.of_overlay {w v leaf : Value} {path : List Key} (h : HasLeaf (overlay w v) path leaf)
    (hv : Nested IsApart v) (hw : Nested IsApart w) :
    (∃ path', SamePath path' path ∧ HasLeaf v path' leaf) ∨
      HasLeaf w path leaf ∧ ¬ Covers v path := by
  induction path generalizing w v with
  | nil =>
    rcases isLeaf_or_object v with hleaf | ⟨above, rfl⟩
    · exact .inl ⟨[], .nil, overlay_leaf hleaf ▸ h⟩
    · rw [overlay_object w hv.of_object.1] at h
      cases h with
      | here h => exact absurd h not_isLeaf_object
  | cons key path ih =>
    cases hv with
    | leaf hleaf => exact .inl ⟨_, .refl _, overlay_leaf hleaf ▸ h⟩
    | @object above habove hrows =>
      obtain ⟨hbelow, hlower⟩ := hw.rows .nil
      rw [overlay_object w habove] at h
      cases h with
      | @row _ _ u _ _ hrow h =>
        rcases (mem_mergeMembers hbelow habove).1 hrow with ⟨w₀, hw₀, rfl⟩ | ⟨hupper, -⟩
        · cases hfound : find? above key with
          | none =>
            rw [hfound] at h
            refine .inr ⟨.of_row hw₀ h, fun hc => ?_⟩
            obtain ⟨v, hv, -⟩ := hc.exists_find? habove
            cases hfound.symm.trans hv
          | some v₀ =>
            obtain ⟨l, hl, hkey⟩ := Table.mem_of_find? hfound
            rw [hfound] at h
            rcases ih h (hrows _ hl) (hlower _ hw₀) with ⟨path', hpath, hleaf⟩ | ⟨hleaf, hfree⟩
            · exact .inl ⟨l :: path', .cons (.inr hkey) hpath, .row hl hleaf⟩
            · refine .inr ⟨.of_row hw₀ hleaf, fun hc => ?_⟩
              obtain ⟨v, hv, hc⟩ := hc.exists_find? habove
              cases hfound.symm.trans hv
              exact hfree hc
        · exact .inl ⟨_, .refl _, .row hupper h⟩

/-! ## Merging a second time -/

section Again

variable {below above : Members} (hbelow : IsApart below) (habove : IsApart above)

include hbelow habove

theorem find?_mergeMembers_of_upper {k : Key} {v : Value} (hv : find? above k = some v) :
    find? (mergeMembers below above) k = some (overlay ((find? below k).getD .null) v) := by
  rw [find?_mergeMembers hbelow habove, hv]
  rfl

/-- What the merged document has under a key of the upper one was laid over something. -/
theorem row_of_merged {k : Key} {u v : Value} (hu : (k, u) ∈ mergeMembers below above)
    (hv : find? above k = some v) : u = overlay ((find? below k).getD .null) v := by
  have hfound := (isApart_mergeMembers hbelow above).find?_of_mem hu (Table.same_self_of_find? hv)
  rw [find?_mergeMembers_of_upper hbelow habove hv] at hfound
  exact (Option.some.inj hfound).symm

end Again

theorem Nested.found {members : Members} (h : ∀ row ∈ members, Nested IsApart row.2) (k : Key) :
    Nested IsApart ((find? members k).getD .null) := by
  cases hfound : find? members k with
  | none => exact .leaf rfl
  | some w =>
    obtain ⟨l, hl, -⟩ := Table.mem_of_find? hfound
    exact h _ hl

/-- Laid over a value a second time, a value leads to the same leaves. -/
theorem hasLeaf_overlay_overlay {v : Value} (hv : Nested IsApart v) {w leaf : Value}
    {path : List Key} (hw : Nested IsApart w) :
    HasLeaf (overlay (overlay w v) v) path leaf ↔ HasLeaf (overlay w v) path leaf := by
  induction hv generalizing w path with
  | leaf h => rw [overlay_leaf h, overlay_leaf h]
  | @object above habove hrows ih =>
    obtain ⟨hbelow, hlower⟩ := hw.rows .nil
    have hmerged := isApart_mergeMembers hbelow above
    rw [overlay_object w habove]
    show HasLeaf (.object (mergeMembers (mergeMembers (rowsOf w) above) above)) path leaf ↔ _
    -- laying over a row a second time keeps its leaves
    have hrow : ∀ {key : Key} {u : Value} {path : List Key},
        (key, u) ∈ mergeMembers (rowsOf w) above →
          (HasLeaf ((find? above key).elim u (overlay u)) path leaf ↔ HasLeaf u path leaf) := by
      intro key u path hu
      cases hfound : find? above key with
      | none => exact Iff.rfl
      | some v =>
        obtain ⟨l, hl, -⟩ := Table.mem_of_find? hfound
        rw [row_of_merged hbelow habove hu hfound]
        exact ih _ hl (Nested.found hlower key)
    constructor
    · intro h
      cases h with
      | here h => exact absurd h not_isLeaf_object
      | @row _ key _ _ _ hagain h =>
        rcases (mem_mergeMembers hmerged habove).1 hagain with ⟨u, hu, rfl⟩ | ⟨hupper, hnone⟩
        · exact .row hu ((hrow hu).1 h)
        · have hnew : find? (rowsOf w) key = none := by
            rw [find?_mergeMembers hbelow habove, Option.or_eq_none_iff] at hnone
            exact hnone.2
          exact .row ((mem_mergeMembers hbelow habove).2 (.inr ⟨hupper, hnew⟩)) h
    · intro h
      cases h with
      | here h => exact absurd h not_isLeaf_object
      | row hu h =>
        exact .row ((mem_mergeMembers hmerged habove).2 (.inl ⟨_, hu, rfl⟩)) ((hrow hu).2 h)

/-- Every key counts as itself, as all keys do but a NaN. -/
def HasOwnKeys (members : Members) : Prop := ∀ row ∈ members, row.1.same row.1 = true

instance (members : Members) : Decidable (HasOwnKeys members) :=
  inferInstanceAs (Decidable (∀ row ∈ members, row.1.same row.1 = true))

theorem overlay_overlay {v w : Value} (hv : Nested IsApart v) (hown : Nested HasOwnKeys v)
    (hw : Nested IsApart w) : overlay (overlay w v) v = overlay w v := by
  induction hv generalizing w with
  | leaf h => rw [overlay_leaf h, overlay_leaf h]
  | @object above habove hrows ih =>
    obtain ⟨hbelow, hlower⟩ := hw.rows .nil
    obtain ⟨hkeys, hown⟩ := hown.of_object
    rw [overlay_object w habove]
    show Value.object (mergeMembers (mergeMembers (rowsOf w) above) above) = _
    rw [mergeMembers_eq_foldl habove, Table.foldl_put_of_found]
    refine List.forall_mem_map.2 fun row hrow => ?_
    have hupper : find? above row.1 = some row.2 := habove.find?_of_mem hrow (hkeys row hrow)
    rw [find?_mergeMembers_of_upper hbelow habove hupper, Option.getD_some,
      ih row hrow (hown row hrow) (Nested.found hlower row.1)]

/-! ## Whole documents -/

/-- Two documents in which no two keys count as one can be merged into such a document. Every leaf of
the upper one is in it at its path; every leaf of the lower one is there at its path unless the upper
one has some value at that path or a leaf on the way; and no other leaf is there. Merging the upper
document in a second time changes no leaf, and if none of its keys at any depth is a NaN, nothing at
all. -/
theorem merge_leaf_by_leaf {base override : Members} (hbase : Nested IsApart (.object base))
    (hoverride : Nested IsApart (.object override)) :
    ∃ merged, merge (.object base) (.object override) = .ok merged ∧ Nested IsApart merged ∧
      (∀ path leaf, HasLeaf (.object override) path leaf →
        ∃ path', SamePath path' path ∧ HasLeaf merged path' leaf) ∧
      (∀ path leaf, HasLeaf (.object base) path leaf → ¬ Covers (.object override) path →
        HasLeaf merged path leaf) ∧
      (∀ path leaf, HasLeaf merged path leaf →
        (∃ path', SamePath path' path ∧ HasLeaf (.object override) path' leaf) ∨
          HasLeaf (.object base) path leaf ∧ ¬ Covers (.object override) path) ∧
      ∃ again, merge merged (.object override) = .ok again ∧
        (∀ path leaf, HasLeaf again path leaf ↔ HasLeaf merged path leaf) ∧
        (Nested HasOwnKeys (.object override) → again = merged) :=
  ⟨overlay (.object base) (.object override), rfl, hoverride.overlay hbase,
    fun _ _ h => h.over hoverride hbase,
    fun _ _ h hfree => h.under hoverride hbase hfree,
    fun _ _ h => h.of_overlay hoverride hbase,
    overlay (overlay (.object base) (.object override)) (.object override), rfl,
    fun _ _ => hasLeaf_overlay_overlay hoverride hbase,
    fun hown => overlay_overlay hoverride hown hbase⟩

/-- A key 1 takes the members that are under true in the upper document; a null hides an object. -/
theorem merge_leaf_by_leaf_under_one_and_true :
    let base : Members :=
      [(.int 1, .object [(.text "a", .int 1), (.text "b", .int 2)]),
        (.text "c", .object [(.text "d", .int 5)])]
    let override : Members :=
      [(.bool true, .object [(.text "a", .object [(.text "x", .int 9)])]), (.text "c", .null)]
    Nested IsApart (.object base) ∧ Nested IsApart (.object override) ∧
      ∃ merged, merge (.object base) (.object override) = .ok merged ∧
        (∃ path, SamePath path [.bool true, .text "a", .text "x"] ∧ HasLeaf merged path (.int 9)) ∧
        HasLeaf merged [.int 1, .text "b"] (.int 2) ∧
        ¬ HasLeaf merged [.text "c", .text "d"] (.int 5) ∧
        merge merged (.object override) = .ok merged := by
  intro base override
  have hbase : Nested IsApart (.object base) := .object (by decide) (List.forall_mem_cons.2
    ⟨.of_leaves (by decide) (by decide), List.forall_mem_singleton.2
      (.of_leaves (by decide) (by decide))⟩)
  have hnested : ∀ {P : Members → Prop}, (∀ s v, P [(.text s, v)]) → P override →
      Nested P (.object override) := fun hone hp => .object hp (List.forall_mem_cons.2
    ⟨.object (hone _ _) (List.forall_mem_singleton.2 (.of_leaves (hone _ _) (by decide))),
      List.forall_mem_singleton.2 (.leaf rfl)⟩)
  have hoverride : Nested IsApart (.object override) :=
    hnested (fun _ _ => List.pairwise_singleton _ _) (by decide)
  have hown : Nested HasOwnKeys (.object override) :=
    hnested (fun _ _ => List.forall_mem_singleton.2 (Key.same_text.2 rfl)) (by decide)
  obtain ⟨merged, hmerged, -, hupper, hlower, hall, again, hagain, -, hsame⟩ :=
    merge_leaf_by_leaf hbase hoverride
  refine ⟨hbase, hoverride, merged, hmerged, ?_, ?_, ?_, ?_⟩
  · exact hupper _ _ (.row (.head _) (.row (.head _) (.row (.head _) (.here rfl))))
  · refine hlower _ _ (.row (.head _) (.row (.tail _ (.head _)) (.here rfl))) fun hc => ?_
    obtain ⟨v, hv, hc⟩ := hc.exists_find? hoverride.of_object.1
    cases hv
    obtain ⟨v, hv, -⟩ := hc.exists_find? (List.pairwise_singleton _ _)
    cases hv
  · intro h
    rcases hall _ _ h with ⟨path, hpath, hleaf⟩ | ⟨-, hfree⟩
    · -- the upper document leads to a member under true only, where a text is no key
      obtain ⟨k, path, hk, -, rfl⟩ := List.forall₂_cons_right_iff.1 hpath
      cases hleaf with
      | row hrow hleaf =>
        rcases List.mem_cons.1 hrow with hrow | hrow
        · cases hrow
          exact absurd hk (by decide)
        · cases List.mem_singleton.1 hrow
          cases hleaf
    · have hnull : IsLeaf .null := rfl
      exact hfree (.row (.tail _ (.head _)) (by decide) (.leaf hnull _))
  · rw [hagain, hsame hown]

end StagedRollout.Settings
