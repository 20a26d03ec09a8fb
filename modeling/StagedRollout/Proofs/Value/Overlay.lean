/-
Tables laid over each other. A row that is set takes the place of the row under its key, or goes to the
end, and what many rows do to a table, one after the other, is what their own table does to it at once:
it takes over the rows that are there in their places, and its other rows follow. Keys that count as one
are not equal in general, so look-ups are the measure throughout.
-/
import StagedRollout.Proofs.Value.Table

namespace StagedRollout.Table

variable {α : Type}

/-! ## Keys that count as one -/

/-- A look-up does not see which of the keys that count as one it is given. -/
theorem find?_congr (t : Table α) {k l : Key} (h : k.same l = true) : find? t k = find? t l := by
  induction t with
  | nil => rfl
  | cons first rest ih =>
    obtain ⟨m, a⟩ := first
    have hm : m.same k = m.same l := by
      rw [Bool.eq_iff_iff]
      exact ⟨fun hk => Key.same_trans hk h,
        fun hl => Key.same_trans hl ((Key.same_comm l k).trans h)⟩
    rw [find?, find?, hm, ih]

/-- A key that finds something counts as itself. -/
theorem same_self_of_find? {t : Table α} {k : Key} {a : α} (h : find? t k = some a) :
    k.same k = true := by
  obtain ⟨l, -, hl⟩ := mem_of_find? h
  exact Key.same_trans ((Key.same_comm k l).trans hl) hl

/-! ## Rows one after the other -/

theorem find?_put (t : Table α) (key : Key) (a : α) (k : Key) :
    find? (put t key a) k = if key.same k then some a else find? t k := by
  induction t with
  | nil => rfl
  | cons first rest ih =>
    obtain ⟨m, b⟩ := first
    rw [put]
    split
    · rename_i hm
      have hk : m.same k = key.same k := by
        rw [Bool.eq_iff_iff]
        exact ⟨Key.same_trans ((Key.same_comm key m).trans hm), Key.same_trans hm⟩
      rw [find?, find?, hk]
      split <;> rfl
    · rename_i hm
      rw [find?, find?, ih]
      split
      · rename_i hk
        have hne : key.same k = false := eq_false_of_ne_true fun hs =>
          hm (Key.same_trans hk ((Key.same_comm k key).trans hs))
        rw [hne]
        rfl
      · rfl

/-- Setting what a look-up finds changes nothing. -/
theorem put_of_found {t : Table α} {k : Key} {a : α} (h : find? t k = some a) : put t k a = t := by
  induction t with
  | nil => cases h
  | cons first rest ih =>
    obtain ⟨l, b⟩ := first
    rw [find?] at h
    rw [put]
    split at h
    · rename_i hl
      cases h
      rw [if_pos hl]
    · rename_i hl
      rw [if_neg hl, ih h]

theorem foldl_put_of_found {t rows : Table α} (h : ∀ row ∈ rows, find? t row.1 = some row.2) :
    rows.foldl (fun t row => put t row.1 row.2) t = t := by
  induction rows with
  | nil => rfl
  | cons row rest ih =>
    obtain ⟨hrow, hrest⟩ := List.forall_mem_cons.1 h
    rw [List.foldl_cons, put_of_found hrow, ih hrest]

theorem keys_put (t : Table α) (key : Key) (a : α) :
    (put t key a).keys = if (find? t key).isSome then t.keys else t.keys ++ [key] := by
  induction t with
  | nil => rfl
  | cons first rest ih =>
    obtain ⟨m, b⟩ := first
    rw [put, find?]
    split
    · rfl
    · show m :: (put rest key a).keys = _
      rw [ih]
      split <;> rfl

/-- Of rows that were set one after the other a look-up finds the last one under its key, and where there
is none it finds what it found before. -/
theorem find?_foldl_put (rows : List (Key × α)) (t : Table α) (k : Key) :
    find? (rows.foldl (fun t row => put t row.1 row.2) t) k =
      (find? rows.reverse k).or (find? t k) := by
  induction rows generalizing t with
  | nil => rfl
  | cons row rest ih =>
    rw [List.foldl_cons, ih, List.reverse_cons, find?_append, find?_put, Option.or_assoc]
    congr 1
    show _ = (if row.1.same k then some row.2 else none).or _
    split <;> rfl

theorem find?_ofRows (rows : List (Key × α)) (k : Key) :
    find? (ofRows rows) k = find? rows.reverse k := by
  unfold ofRows
  rw [find?_foldl_put]
  exact Option.or_none

/-- Under texts, the keys are those of the rows in the order in which they first came. -/
theorem keys_ofRows {rows : List (Key × α)} (h : ∀ row ∈ rows, ∃ s, row.1 = .text s) :
    (ofRows rows).keys = (rows.map (·.1)).eraseDups := by
  induction rows using List.reverseRecOn with
  | nil => rfl
  | append_singleton rows row ih =>
    obtain ⟨s, hs⟩ := h row (List.mem_append_right _ List.mem_cons_self)
    have hfound : (find? (ofRows rows) row.1).isSome = (rows.map (·.1)).elem row.1 := by
      rw [find?_ofRows, Bool.eq_iff_iff, Option.isSome_iff_ne_none, List.elem_iff, List.mem_map,
        ne_eq, find?_eq_none_iff, hs]
      simp [Key.same_text, and_comm]
    rw [ofRows_snoc, keys_put, ih fun r hr => h r (List.mem_append_left _ hr), hfound,
      List.map_append, List.eraseDups_append]
    show _ = _ ++ (List.filter _ [row.1]).eraseDups
    rw [List.filter_cons, List.filter_nil]
    cases (rows.map (·.1)).elem row.1 with
    | true => exact (List.append_nil _).symm
    | false => rfl

/-! ## A table over another one -/

/-- The rows of a table with the values of another one where it has any, and then its other rows. -/
def overlaid (t u : Table α) : Table α :=
  t.map (fun row => (row.1, (find? u row.1).getD row.2)) ++ u.filter fun row => (find? t row.1).isNone

theorem keys_overlaid (t u : Table α) :
    (overlaid t u).keys = t.keys ++ u.keys.filter fun k => (find? t k).isNone := by
  unfold overlaid keys
  rw [List.map_append, List.map_map, List.filter_map]
  rfl

/-- In a table whose values depend on their rows a look-up finds the value of the row that it finds. -/
theorem find?_map_value (t : Table α) {f : Key → α → α} {k : Key}
    (hf : ∀ l a, l.same k = true → f l a = f k a) :
    find? (t.map fun row => (row.1, f row.1 row.2)) k = (find? t k).map (f k) := by
  induction t with
  | nil => rfl
  | cons first rest ih =>
    obtain ⟨m, a⟩ := first
    rw [List.map_cons, find?, find?, ih]
    split
    · rename_i hm
      exact congrArg some (hf m a hm)
    · rfl

/-- Rows that a look-up does not ask for may be left out. -/
theorem find?_filter (t : Table α) {p : Key → Bool} {k : Key} (hp : ∀ l, l.same k = true → p l = true) :
    find? (t.filter fun row => p row.1) k = find? t k := by
  induction t with
  | nil => rfl
  | cons first rest ih =>
    obtain ⟨m, a⟩ := first
    rw [List.filter_cons, find?]
    cases hm : m.same k with
    | true => rw [if_pos (hp m hm), find?, hm, if_pos rfl, if_pos rfl]
    | false =>
      split
      · rw [find?, hm, ih]
      · exact ih

theorem find?_overlaid (t u : Table α) (k : Key) :
    find? (overlaid t u) k = (find? u k).or (find? t k) := by
  have hmap : find? (t.map fun row => (row.1, (find? u row.1).getD row.2)) k =
      (find? t k).map fun a => (find? u k).getD a :=
    find?_map_value (f := fun l a => (find? u l).getD a) t fun l a hl => by rw [find?_congr u hl]
  unfold overlaid
  rw [find?_append, hmap]
  cases ht : find? t k with
  | some a => cases find? u k <;> rfl
  | none =>
    rw [Option.or_none]
    refine find?_filter (p := fun l => (find? t l).isNone) u fun l hl => ?_
    rw [find?_congr t hl, ht]
    rfl

/-- Of tables over each other it does not matter which are put together first. -/
theorem overlaid_assoc (t u v : Table α) :
    overlaid (overlaid t u) v = overlaid t (overlaid u v) := by
  have hmap : t.map ((fun row => (row.1, (find? v row.1).getD row.2)) ∘
      fun row => (row.1, (find? u row.1).getD row.2)) =
      t.map fun row => (row.1, (find? (overlaid u v) row.1).getD row.2) :=
    List.map_congr_left fun row _ => by
      rw [find?_overlaid, Option.getD_or]
      rfl
  have hnew : v.filter (fun row => (find? (overlaid t u) row.1).isNone) =
      (v.filter fun row => (find? u row.1).isNone).filter fun row => (find? t row.1).isNone := by
    rw [List.filter_filter]
    refine List.filter_congr fun row _ => ?_
    rw [find?_overlaid, Option.isNone_or, Bool.and_comm]
  calc overlaid (overlaid t u) v
    _ = t.map (fun row => (row.1, (find? (overlaid u v) row.1).getD row.2)) ++
          ((u.filter fun row => (find? t row.1).isNone).map
            (fun row => (row.1, (find? v row.1).getD row.2)) ++
          (v.filter fun row => (find? u row.1).isNone).filter
            fun row => (find? t row.1).isNone) := by
      rw [← hmap, ← hnew, ← List.append_assoc, ← List.map_map, ← List.map_append]
      rfl
    _ = t.map (fun row => (row.1, (find? (overlaid u v) row.1).getD row.2)) ++
          (overlaid u v).filter fun row => (find? t row.1).isNone := by
      nth_rewrite 3 [overlaid]
      rw [List.filter_append, List.filter_map]
      rfl
    _ = overlaid t (overlaid u v) := rfl

theorem overlaid_nil (t : Table α) : overlaid t [] = t := by
  unfold overlaid
  rw [List.filter_nil, List.append_nil]
  exact List.map_id t

/-- One row over a table is that row set. -/
theorem overlaid_singleton {t : Table α} (ht : IsApart t) (row : Key × α) :
    overlaid t [row] = put t row.1 row.2 := by
  obtain ⟨key, a⟩ := row
  induction t with
  | nil => rfl
  | cons first rest ih =>
    obtain ⟨m, b⟩ := first
    obtain ⟨hfirst, hrest⟩ := List.pairwise_cons.1 ht
    rw [put]
    cases hm : m.same key with
    | false =>
      rw [if_neg Bool.false_ne_true, ← ih hrest]
      simp [overlaid, find?, List.filter_cons, hm, Key.same_comm key m]
    | true =>
      -- no later row has this key
      have hkept : ∀ row ∈ rest, key.same row.1 = false := fun row hr =>
        eq_false_of_ne_true fun hs =>
          Bool.false_ne_true ((hfirst row hr).symm.trans (Key.same_trans hm hs))
      have hrest : rest.map (fun row => (row.1, (find? [(key, a)] row.1).getD row.2)) = rest := by
        refine (List.map_congr_left fun row hr => ?_).trans (List.map_id rest)
        rw [find?, hkept row hr]
        rfl
      rw [if_pos rfl, overlaid, List.map_cons, hrest]
      simp [find?, hm, Key.same_comm key m]

/-- Rows set one after the other do what their table does at once. -/
theorem foldl_put {t : Table α} (ht : IsApart t) (rows : List (Key × α)) :
    rows.foldl (fun t row => put t row.1 row.2) t = overlaid t (ofRows rows) := by
  induction rows generalizing t with
  | nil => exact (overlaid_nil t).symm
  | cons row rest ih =>
    have hone : overlaid [row] (ofRows rest) = ofRows (row :: rest) :=
      (ih (List.pairwise_singleton _ row)).symm
    rw [List.foldl_cons, ih (isApart_put ht row.1 row.2), ← overlaid_singleton ht, overlaid_assoc,
      hone]

/-- The table of more rows is laid over that of the first ones. -/
theorem ofRows_append (rows more : List (Key × α)) :
    ofRows (rows ++ more) = overlaid (ofRows rows) (ofRows more) := by
  rw [← foldl_put (isApart_ofRows rows) more]
  exact List.foldl_append

end StagedRollout.Table
