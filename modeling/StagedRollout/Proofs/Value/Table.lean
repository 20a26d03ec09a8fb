/-
What is in a table after rows were set, and what a look-up finds in it. Keys count as one if they are
the same text or equal numbers; that is no equality, since a NaN is no key's equal, not even its own.
A table is proper if no two of its rows have keys that count as one, or one key; the table of rows is,
and under every key it holds the row that came last.
-/
import StagedRollout.Value.Key
import Mathlib.Data.List.Induction

namespace StagedRollout

/-! ## Keys -/

theorem Double.eq_comm (x y : Double) : x.eq y = y.eq x := by
  unfold eq
  cases x <;> cases y <;> simp [value?, Eq.comm, Bool.beq_comm]

theorem Double.eq_trans {x y z : Double} (h : x.eq y = true) (h' : y.eq z = true) :
    x.eq z = true := by
  unfold eq at *
  cases x <;> cases y <;> cases z <;> simp_all [value?]

namespace Key

theorem same_comm (k l : Key) : k.same l = l.same k := by
  unfold same
  cases k.number? with
  | none =>
    cases l.number? with
    | none =>
      rw [decide_eq_decide]
      exact eq_comm
    | some y => rfl
  | some x =>
    cases l.number? with
    | none => rfl
    | some y => exact Double.eq_comm x y

theorem same_iff {k l : Key} : k.same l = true ↔
    (∃ x y, k.number? = some x ∧ l.number? = some y ∧ x.eq y = true) ∨
      k.number? = none ∧ l.number? = none ∧ k = l := by
  unfold same
  cases k.number? <;> cases l.number? <;> simp

theorem same_trans {k l m : Key} (h : k.same l = true) (h' : l.same m = true) :
    k.same m = true := by
  rw [same_iff] at *
  rcases h with ⟨x, y, hk, hl, hxy⟩ | ⟨hk, hl, rfl⟩
  · rcases h' with ⟨y', z, hl', hm, hyz⟩ | ⟨hl', -, -⟩
    · rw [hl] at hl'
      cases hl'
      exact .inl ⟨x, z, hk, hm, Double.eq_trans hxy hyz⟩
    · rw [hl] at hl'
      cases hl'
  · exact h'

end Key

/-- Only the text itself is the same key as a text. -/
theorem Key.same_text {k : Key} {s : Text} : k.same (.text s) = true ↔ k = .text s := by
  constructor
  · intro h
    cases k <;> simp_all [Key.same, Key.number?]
  · rintro rfl
    simp [Key.same, Key.number?]

namespace Table

variable {α β : Type}

/-! ## Setting rows -/

/-- What holds of every row and of a new one holds of every row after the new one was set, if it
does not depend on which of two equal keys a row has. -/
theorem forall_put {P : Key × α → Prop} {t : Table α} {key : Key} {a : α} (ht : ∀ row ∈ t, P row)
    (ha : P (key, a)) (hs : ∀ k b, P (k, b) → k.same key = true → P (k, a)) :
    ∀ row ∈ put t key a, P row := by
  induction t with
  | nil =>
    intro row hr
    rw [List.mem_singleton.1 hr]
    exact ha
  | cons first rest ih =>
    obtain ⟨k, b⟩ := first
    intro row hr
    unfold put at hr
    split at hr
    · rename_i hk
      rcases List.mem_cons.1 hr with rfl | hr
      · exact hs k b (ht _ List.mem_cons_self) hk
      · exact ht row (List.mem_cons_of_mem _ hr)
    · rcases List.mem_cons.1 hr with rfl | hr
      · exact ht _ List.mem_cons_self
      · exact ih (fun row hr => ht row (List.mem_cons_of_mem _ hr)) row hr

/-- What holds of all rows holds of the rows of their table, if it is about keys and values apart. -/
theorem forall_ofRows {P : Key × α → Prop} {rows : List (Key × α)} (h : ∀ row ∈ rows, P row)
    (hs : ∀ k b l a, P (k, b) → P (l, a) → P (k, a)) : ∀ row ∈ ofRows rows, P row := by
  suffices hf : ∀ t : Table α, (∀ row ∈ t, P row) →
      ∀ row ∈ rows.foldl (fun t row => put t row.1 row.2) t, P row from
    hf [] fun row hr => by cases hr
  induction rows with
  | nil => exact fun t ht => ht
  | cons first rest ih =>
    intro t ht
    have hf : P first := h first List.mem_cons_self
    exact ih (fun row hr => h row (List.mem_cons_of_mem _ hr)) _
      (forall_put ht hf fun k b hb _ => hs k b first.1 first.2 hb hf)

theorem ofRows_snoc (rows : List (Key × α)) (row : Key × α) :
    ofRows (rows ++ [row]) = put (ofRows rows) row.1 row.2 := List.foldl_append

/-! ## Looking up -/

theorem find?_append (t u : Table α) (key : Key) :
    find? (t ++ u) key = (find? t key).or (find? u key) := by
  induction t with
  | nil => rfl
  | cons first rest ih =>
    obtain ⟨k, a⟩ := first
    rw [List.cons_append, find?, find?, ih]
    split <;> rfl

theorem find?_cons_text {name other : Text} {a : α} {t : Table α} :
    find? ((.text name, a) :: t) (.text other) =
      if name = other then some a else find? t (.text other) := by
  simp only [find?, Key.same_text, Key.text.injEq]

theorem mem_of_find? {t : Table α} {key : Key} {a : α} (h : find? t key = some a) :
    ∃ k, (k, a) ∈ t ∧ k.same key = true := by
  induction t with
  | nil => cases h
  | cons first rest ih =>
    obtain ⟨k, b⟩ := first
    unfold find? at h
    split at h
    · rename_i hk
      cases h
      exact ⟨k, List.mem_cons_self, hk⟩
    · obtain ⟨l, hl, hs⟩ := ih h
      exact ⟨l, List.mem_cons_of_mem _ hl, hs⟩

theorem find?_eq_none_iff {t : Table α} {key : Key} :
    find? t key = none ↔ ∀ row ∈ t, row.1.same key = false := by
  induction t with
  | nil => exact ⟨fun _ => nofun, fun _ => rfl⟩
  | cons first rest ih =>
    obtain ⟨k, a⟩ := first
    rw [find?]
    cases h : k.same key <;> simp [h, ih]

/-! ## Tables without a key twice -/

/-- No two rows have keys that count as one. A NaN counts as no key, so it may stand twice. -/
def IsApart (t : Table α) : Prop := t.Pairwise fun r s => r.1.same s.1 = false

instance (t : Table α) : Decidable (IsApart t) :=
  inferInstanceAs (Decidable (t.Pairwise fun r s => r.1.same s.1 = false))

/-- A look-up finds every row whose key counts as the one that is looked up. -/
theorem IsApart.find?_of_mem {t : Table α} (ht : IsApart t) {k key : Key} {a : α}
    (hm : (k, a) ∈ t) (hk : k.same key = true) : find? t key = some a := by
  induction t with
  | nil => cases hm
  | cons first rest ih =>
    obtain ⟨hfirst, hrest⟩ := List.pairwise_cons.1 ht
    rw [find?]
    rcases List.mem_cons.1 hm with rfl | hm
    · rw [if_pos hk]
    · have hne : first.1.same key = false := by
        by_contra hs
        rw [Bool.not_eq_false] at hs
        have hfk := Key.same_trans hs ((Key.same_comm key k).trans hk)
        rw [hfirst _ hm] at hfk
        cases hfk
      rw [if_neg (ne_true_of_eq_false hne)]
      exact ih hrest hm

/-! ## Proper tables -/

/-- No two rows have one key, or keys that count as one. -/
def IsProper (t : Table α) : Prop := t.Pairwise fun r s => r.1 ≠ s.1 ∧ r.1.same s.1 = false

instance (t : Table α) : Decidable (IsProper t) :=
  inferInstanceAs (Decidable (t.Pairwise fun r s => r.1 ≠ s.1 ∧ r.1.same s.1 = false))

/-- In a proper table a look-up finds every row whose key counts as the one that is looked up. -/
theorem IsProper.find?_of_mem {t : Table α} (ht : IsProper t) {k key : Key} {a : α}
    (hm : (k, a) ∈ t) (hk : k.same key = true) : find? t key = some a := by
  have hapart : IsApart t := ht.imp And.right
  exact hapart.find?_of_mem hm hk

theorem IsProper.eq_of_mem {t : Table α} (ht : IsProper t) {k : Key} {a b : α}
    (ha : (k, a) ∈ t) (hb : (k, b) ∈ t) : a = b := by
  induction t with
  | nil => cases ha
  | cons first rest ih =>
    obtain ⟨hfirst, hrest⟩ := List.pairwise_cons.1 ht
    rcases List.mem_cons.1 ha with rfl | ha'
    · rcases List.mem_cons.1 hb with hb | hb
      · cases hb; rfl
      · exact absurd rfl (hfirst _ hb).1
    · rcases List.mem_cons.1 hb with rfl | hb'
      · exact absurd rfl (hfirst _ ha').1
      · exact ih hrest ha' hb'

/-! ## Setting rows in tables without a key twice -/

theorem put_of_new {t : Table α} {key : Key} (h : ∀ row ∈ t, row.1.same key = false) (a : α) :
    put t key a = t ++ [(key, a)] := by
  induction t with
  | nil => rfl
  | cons first rest ih =>
    obtain ⟨hfirst, hrest⟩ := List.forall_mem_cons.1 h
    rw [put, if_neg (ne_true_of_eq_false hfirst), ih hrest]
    rfl

/-- Setting a row adds no key but the new one. -/
theorem key_of_mem_put {t : Table α} {key : Key} {a : α} {row : Key × α} (h : row ∈ put t key a) :
    row.1 = key ∨ ∃ b, (row.1, b) ∈ t :=
  forall_put (P := fun row => row.1 = key ∨ ∃ b, (row.1, b) ∈ t) (fun row hr => .inr ⟨row.2, hr⟩)
    (.inl rfl) (fun _ _ hk _ => hk) row h

theorem isApart_put {t : Table α} (h : IsApart t) (key : Key) (a : α) : IsApart (put t key a) := by
  induction t with
  | nil => exact List.pairwise_singleton _ _
  | cons first rest ih =>
    obtain ⟨hfirst, hrest⟩ := List.pairwise_cons.1 h
    rw [put]
    split
    · exact List.pairwise_cons.2 ⟨hfirst, hrest⟩
    · rename_i hk
      refine List.pairwise_cons.2 ⟨fun row hr => ?_, ih hrest⟩
      rcases key_of_mem_put hr with hkey | ⟨b, hb⟩
      · rw [hkey]
        exact eq_false_of_ne_true hk
      · exact hfirst (row.1, b) hb

/-- The table of rows has no key twice, whatever the rows. -/
theorem isApart_ofRows (rows : List (Key × α)) : IsApart (ofRows rows) := by
  induction rows using List.reverseRecOn with
  | nil => exact List.Pairwise.nil
  | append_singleton rows row ih =>
    rw [ofRows_snoc]
    exact isApart_put ih row.1 row.2

/-- Rows without a key twice are their own table. -/
theorem ofRows_of_isApart {rows : List (Key × α)} (h : IsApart rows) : ofRows rows = rows := by
  induction rows using List.reverseRecOn with
  | nil => rfl
  | append_singleton rows row ih =>
    obtain ⟨hrows, -, hrow⟩ := List.pairwise_append.1 h
    have hnew : ∀ r ∈ rows, r.1.same row.1 = false := fun r hr => hrow r hr row List.mem_cons_self
    rw [ofRows_snoc, ih hrows, put_of_new hnew]

/-! ## The row that came last -/

/-- The value in the last of the rows whose keys, looked at in some way, are one key. -/
def lastUnder (view : Key → Key) (key : Key) (rows : List (Key × α)) : Option α :=
  (rows.filter fun row => view row.1 = key).getLast?.map (·.2)

theorem lastUnder_snoc (view : Key → Key) (key : Key) (rows : List (Key × α)) (row : Key × α) :
    lastUnder view key (rows ++ [row]) =
      if view row.1 = key then some row.2 else lastUnder view key rows := by
  unfold lastUnder
  rw [List.filter_append]
  by_cases h : view row.1 = key
  · simp [h]
  · simp [h]

theorem lastUnder_map (f : Key → Key) (g : α → β) (key : Key) (rows : List (Key × α)) :
    lastUnder id key (rows.map fun row => (f row.1, g row.2)) =
      (lastUnder f key rows).map g := by
  unfold lastUnder
  rw [List.filter_map, List.getLast?_map, Option.map_map, Option.map_map]
  rfl

theorem mem_of_lastUnder {view : Key → Key} {key : Key} {rows : List (Key × α)} {a : α}
    (h : lastUnder view key rows = some a) : ∃ k, (k, a) ∈ rows ∧ view k = key := by
  obtain ⟨row, hr, rfl⟩ := Option.map_eq_some_iff.1 h
  obtain ⟨hm, hk⟩ := List.mem_filter.1 (List.mem_of_getLast? hr)
  exact ⟨row.1, hm, of_decide_eq_true hk⟩

theorem exists_lastUnder {view : Key → Key} {k : Key} {rows : List (Key × α)} {a : α}
    (h : (k, a) ∈ rows) : ∃ b, lastUnder view (view k) rows = some b := by
  have hm : (k, a) ∈ rows.filter fun row => view row.1 = view k :=
    List.mem_filter.2 ⟨h, decide_eq_true rfl⟩
  unfold lastUnder
  rw [List.getLast?_eq_some_getLast (List.ne_nil_of_mem hm)]
  exact ⟨_, rfl⟩

theorem mem_put {t : Table α} (ht : IsProper t) {key : Key} (a : α)
    (hs : ∀ row ∈ t, row.1.same key = true ↔ row.1 = key) (k : Key) (b : α) :
    (k, b) ∈ put t key a ↔ if k = key then b = a else (k, b) ∈ t := by
  induction t with
  | nil => by_cases hk : k = key <;> simp [put, hk]
  | cons first rest ih =>
    obtain ⟨l, c⟩ := first
    obtain ⟨hfirst, hrest⟩ := List.pairwise_cons.1 ht
    have hl := hs _ List.mem_cons_self
    rw [put]
    by_cases hlk : l = key
    · -- the row is in its place already, and no later one has its key
      subst hlk
      rw [if_pos (hl.2 rfl)]
      have hno : (l, b) ∉ rest := fun hm => (hfirst _ hm).1 rfl
      by_cases hk : k = l
      · subst hk
        simp [hno]
      · simp [hk]
    · have hs' : ∀ row ∈ rest, row.1.same key = true ↔ row.1 = key :=
        fun row hr => hs row (List.mem_cons_of_mem _ hr)
      rw [if_neg (fun h => hlk (hl.1 h)), List.mem_cons, ih hrest hs']
      by_cases hk : k = key
      · subst hk
        simp [Ne.symm hlk]
      · simp [hk]

theorem isProper_put {t : Table α} (ht : IsProper t) {key : Key} (a : α)
    (hs : ∀ row ∈ t, row.1.same key = true ↔ row.1 = key) : IsProper (put t key a) := by
  induction t with
  | nil => exact List.pairwise_singleton _ _
  | cons first rest ih =>
    obtain ⟨l, c⟩ := first
    obtain ⟨hfirst, hrest⟩ := List.pairwise_cons.1 ht
    have hl := hs _ List.mem_cons_self
    have hs' : ∀ row ∈ rest, row.1.same key = true ↔ row.1 = key :=
      fun row hr => hs row (List.mem_cons_of_mem _ hr)
    rw [put]
    split
    · exact List.pairwise_cons.2 ⟨hfirst, hrest⟩
    · rename_i hlk
      refine List.pairwise_cons.2 ⟨fun row hr => ?_, ih hrest hs'⟩
      rw [mem_put hrest a hs'] at hr
      split at hr
      · rename_i hk
        dsimp only
        rw [hk]
        exact ⟨fun he => hlk (hl.2 he), eq_false_of_ne_true hlk⟩
      · exact hfirst _ hr

/-- Rows whose keys count as one just if they are the same key. -/
def IsClear (rows : List (Key × α)) : Prop :=
  rows.Pairwise fun r s => r.1.same s.1 = true ↔ r.1 = s.1

/-- The table of clear rows is proper, and under every key it holds the value that came last. -/
theorem ofRows_spec {rows : List (Key × α)} (h : IsClear rows) : IsProper (ofRows rows) ∧
    ∀ k a, (k, a) ∈ ofRows rows ↔ lastUnder id k rows = some a := by
  -- rows are set from the first to the last, so the induction takes the last one off
  induction rows using List.reverseRecOn with
  | nil => exact ⟨List.Pairwise.nil, fun k a => ⟨nofun, nofun⟩⟩
  | append_singleton rows row ih =>
    obtain ⟨hrows, -, hrow⟩ := List.pairwise_append.1 h
    obtain ⟨hp, hm⟩ := ih hrows
    have hs : ∀ r ∈ ofRows rows, r.1.same row.1 = true ↔ r.1 = row.1 := fun r hr => by
      obtain ⟨k, hk, hkr⟩ := mem_of_lastUnder ((hm _ _).1 hr)
      cases hkr
      exact hrow _ hk row List.mem_cons_self
    rw [ofRows_snoc]
    refine ⟨isProper_put hp row.2 hs, fun k a => ?_⟩
    rw [mem_put hp row.2 hs, lastUnder_snoc, hm]
    by_cases hk : k = row.1
    · subst hk
      simp [eq_comm]
    · rw [if_neg hk, id, if_neg fun he => hk (Eq.symm he)]

end Table

end StagedRollout
