/-
Splits partition the hashes. The running sums of splits that are not negative never fall, so that every
arm has an interval of hashes, in single precision, from the sum before it up to its own, and the last
arm has all that is left. The intervals come in the order of the arms, a split of zero makes one empty,
and raising the sums moves a hash to an earlier arm if to any other.
-/
import StagedRollout.Proofs.Number.Single
import StagedRollout.Proofs.Outcome

namespace StagedRollout

open Number

/-! ## Doubles that are not negative -/

namespace Double

/-- A double that is not negative is infinite or has a value that is not. -/
theorem nonneg_cases {x : Double} (h : zero.le x = true) :
    x = .infinity false ∨ ∃ a, x.value? = some a ∧ 0 ≤ a := by
  have hvalue : ∀ a, x.value? = some a → 0 ≤ a := by
    intro a ha
    rw [le_of_value (rfl : zero.value? = some 0) ha] at h
    exact of_decide_eq_true h
  rcases x with _ | (_ | _) | _ | v
  · cases h
  · exact .inl rfl
  · exact absurd h (by decide)
  · exact .inr ⟨0, rfl, le_rfl⟩
  · exact .inr ⟨v, rfl, hvalue v rfl⟩

theorem value_of_eq_zero {x : Double} (h : x.eq zero = true) : x.value? = some 0 := by
  cases x with
  | nan => cases h
  | infinity => cases h
  | negZero => rfl
  | finite v =>
    rw [eq_of_value rfl rfl, decide_eq_true_eq] at h
    exact congrArg some h

theorem toSingle_nonneg {x : Double} (h : zero.le x = true) : zero.le x.toSingle = true := by
  rcases nonneg_cases h with rfl | ⟨a, ha, h0⟩
  · rfl
  · cases x with
    | nan => cases ha
    | infinity => cases ha
    | negZero => decide
    | finite =>
      cases ha
      show zero.le (Format.single.round a) = true
      rw [Format.single_round h0]
      split
      · rfl
      · rw [le_of_value rfl rfl]
        exact decide_eq_true (Format.single.nearestTo_nonneg h0)

theorem lt_infinity {x : Double} {a : ℚ} (hx : x.value? = some a) :
    x.lt (.infinity false) = true := by
  cases x with
  | nan => cases hx
  | infinity => cases hx
  | _ => rfl

end Double

namespace Decision

variable {α : Type}

/-! ## Running sums -/

/-- What a running sum can be: a magnitude that single precision holds, or infinite. -/
inductive IsSum : Double → Prop
  | infinite : IsSum (.infinity false)
  | finite {x : ℚ} (h0 : 0 ≤ x) (hx : Format.single.Holds x) (ht : x < singleTop) : IsSum (.finite x)

theorem isSum_zero : IsSum Double.zero := .finite le_rfl holds_zero (by norm_num [singleTop])

theorem IsSum.nonneg {t : Double} (h : IsSum t) : Double.zero.le t = true := by
  cases h with
  | infinite => rfl
  | finite h0 =>
    rw [Double.le_of_value rfl rfl]
    exact decide_eq_true h0

theorem isSum_stored {x : ℚ} (hx : 0 ≤ x) : IsSum (stored x) := by
  unfold stored
  split
  · exact .infinite
  · rename_i h
    exact .finite (kept_nonneg hx) (holds_kept hx) (not_le.1 h)

theorem nextTotal_infinite {share : Double} {y : ℚ} (hs : share.value? = some y) :
    nextTotal (.infinity false) share = .infinity false := by
  cases share <;> cases hs <;> rfl

theorem nextTotal_stored {share : Double} {x y : ℚ} (hx : IsSum (.finite x))
    (hs : share.value? = some y) (hy : 0 ≤ y) : nextTotal (.finite x) share = stored (x + y) := by
  cases hx with
  | finite h0 hx ht =>
    cases share with
    | nan => cases hs
    | infinity => cases hs
    | negZero =>
      cases hs
      rw [add_zero, stored_of_holds hx ht]
      show Format.single.round x = _
      rw [Format.single_round h0, Format.nearestTo_of_holds Format.usual_single.digits hx,
        if_neg (not_le.2 ht)]
    | finite =>
      cases hs
      exact Double.toSingle_ofRat (add_nonneg h0 hy)

/-- A sum after one more split that is not negative: infinite, or what is stored of the two. -/
theorem nextTotal_cases {t share : Double} (ht : IsSum t) (hs : Double.zero.le share = true) :
    nextTotal t share = .infinity false ∨
      ∃ x y, t = .finite x ∧ 0 ≤ y ∧ nextTotal t share = stored (x + y) := by
  rcases Double.nonneg_cases hs with rfl | ⟨y, hy, h0⟩
  · cases ht <;> exact .inl rfl
  · cases t with
    | infinity =>
      cases ht
      exact .inl (nextTotal_infinite hy)
    | finite x => exact .inr ⟨x, y, rfl, h0, nextTotal_stored ht hy h0⟩
    | _ => cases ht

theorem isSum_nextTotal {t share : Double} (ht : IsSum t) (hs : Double.zero.le share = true) :
    IsSum (nextTotal t share) := by
  rcases nextTotal_cases ht hs with h | ⟨x, y, rfl, hy, h⟩
  · rw [h]
    exact .infinite
  · rw [h]
    cases ht with
    | finite hx => exact isSum_stored (add_nonneg hx hy)

section Order

variable {x y t u share : Double} {a b : ℚ}

/-- What lies below a sum lies below the next one, as no split is negative. -/
theorem lt_nextTotal (hx : x.value? = some a) (ht : IsSum t) (hs : Double.zero.le share = true)
    (h : x.lt t = true) : x.lt (nextTotal t share) = true := by
  rcases nextTotal_cases ht hs with hn | ⟨v, w, rfl, hw, hn⟩
  · rw [hn]
    exact Double.lt_infinity hx
  · cases ht with
    | finite hv0 hv hvt =>
      rw [Double.lt_of_value hx rfl, decide_eq_true_eq] at h
      have hle : v ≤ kept (v + w) :=
        (kept_of_holds hv).symm.trans_le (kept_mono hv0 (le_add_of_nonneg_right hw))
      rw [hn, stored]
      split
      · exact Double.lt_infinity hx
      · rw [Double.lt_of_value hx rfl]
        exact decide_eq_true (h.trans_le hle)

/-- A split of zero leaves a sum as it is. -/
theorem nextTotal_zero (ht : IsSum t) (hs : share.value? = some 0) : nextTotal t share = t := by
  cases t with
  | infinity =>
    cases ht
    exact nextTotal_infinite hs
  | finite =>
    rw [nextTotal_stored ht hs le_rfl, add_zero]
    cases ht with
    | finite _ hx hlt => exact stored_of_holds hx hlt
  | _ => cases ht

theorem lt_of_le_sum (hx : x.value? = some a) (ht : IsSum t) (hu : IsSum u) (h : x.lt t = true)
    (htu : t.le u = true) : x.lt u = true := by
  cases hu with
  | infinite => exact Double.lt_infinity hx
  | finite =>
    cases ht with
    | infinite => cases htu
    | finite =>
      rw [Double.lt_of_value hx rfl, decide_eq_true_eq] at h ⊢
      rw [Double.le_of_value rfl rfl, decide_eq_true_eq] at htu
      exact h.trans_le htu

theorem lt_sum_of_le (hx : x.value? = some a) (hy : y.value? = some b) (hab : a ≤ b) (ht : IsSum t)
    (h : y.lt t = true) : x.lt t = true := by
  cases ht with
  | infinite => exact Double.lt_infinity hx
  | finite =>
    rw [Double.lt_of_value hy rfl, decide_eq_true_eq] at h
    rw [Double.lt_of_value hx rfl, decide_eq_true_eq]
    exact hab.trans_lt h

end Order

/-- What the walk adds for a split. -/
def share (split : Value) : Double := split.toSingle.toOption.getD Double.zero

/-- The running sums of splits behind a sum that was passed already. -/
def sumsFrom (total : Double) : List Value → List Double
  | [] => []
  | split :: rest => nextTotal total (share split) :: sumsFrom (nextTotal total (share split)) rest

/-- The running sums of the splits of entries. -/
def sums (entries : List (α × Value)) : List Double := sumsFrom Double.zero (entries.map (·.2))

theorem length_sumsFrom (total : Double) (splits : List Value) :
    (sumsFrom total splits).length = splits.length := by
  induction splits generalizing total with
  | nil => rfl
  | cons split rest ih => rw [sumsFrom, List.length_cons, List.length_cons, ih]

theorem length_sums (entries : List (α × Value)) : (sums entries).length = entries.length :=
  (length_sumsFrom _ _).trans (List.length_map _)

theorem sums_ne_nil {entries : List (α × Value)} (hne : entries ≠ []) : sums entries ≠ [] := by
  refine List.ne_nil_of_length_pos ?_
  rw [length_sums]
  exact List.length_pos_iff.2 hne

/-! ## Places -/

/-- The place of the first sum above a position, or else of the last one. -/
def place (ts : List Double) (x : Double) : Nat := min (ts.findIdx (x.lt ·)) (ts.length - 1)

theorem place_singleton (t x : Double) : place [t] x = 0 := Nat.min_zero _

theorem place_cons (t u : Double) (ts : List Double) (x : Double) :
    place (t :: u :: ts) x = if x.lt t then 0 else place (u :: ts) x + 1 := by
  unfold place
  rw [List.findIdx_cons]
  split
  · rename_i h
    rw [h]
    exact Nat.zero_min _
  · rename_i h
    rw [Bool.not_eq_true] at h
    rw [h]
    show min (_ + 1) (ts.length + 1) = min _ ts.length + 1
    rw [Nat.succ_min_succ]

theorem place_lt {ts : List Double} (hne : ts ≠ []) {x : Double} : place ts x < ts.length := by
  have hpos : 0 < ts.length := List.length_pos_iff.2 hne
  unfold place
  omega

theorem place_sums_lt {entries : List (α × Value)} (hne : entries ≠ []) (x : Double) :
    place (sums entries) x < entries.length :=
  (place_lt (sums_ne_nil hne)).trans_eq (length_sums entries)

theorem place_eq_iff {ts : List Double} (hne : ts ≠ []) {x : Double} {i : Nat} :
    place ts x = i ↔ i < ts.length ∧ (∀ j t, j < i → ts[j]? = some t → x.lt t = false) ∧
      (i + 1 < ts.length → ∃ t, ts[i]? = some t ∧ x.lt t = true) := by
  have hpos : 0 < ts.length := List.length_pos_iff.2 hne
  have hfirst : ∀ j t, j < ts.findIdx (x.lt ·) → ts[j]? = some t → x.lt t = false := by
    intro j t hj ht
    obtain ⟨hl, rfl⟩ := List.getElem?_eq_some_iff.1 ht
    exact List.not_of_lt_findIdx hj
  unfold place
  constructor
  · rintro rfl
    refine ⟨by omega, fun j t hj => hfirst j t (by omega), fun hi => ?_⟩
    have hlt : ts.findIdx (x.lt ·) < ts.length := by omega
    rw [min_eq_left (by omega)]
    exact ⟨_, List.getElem?_eq_getElem hlt, List.findIdx_getElem⟩
  · rintro ⟨hi, hbefore, hat⟩
    have hle : i ≤ ts.findIdx (x.lt ·) :=
      List.le_findIdx_of_not hi fun j hj => hbefore j _ hj (List.getElem?_eq_getElem _)
    rcases Nat.lt_or_ge (i + 1) ts.length with hlast | hlast
    · obtain ⟨t, ht, hx⟩ := hat hlast
      have hge : ¬ i < ts.findIdx (x.lt ·) := by
        intro hj
        rw [hfirst i t hj ht] at hx
        cases hx
      omega
    · omega

theorem place_le_place {ts : List Double} {x y : Double}
    (h : ∀ t ∈ ts, y.lt t = true → x.lt t = true) : place ts x ≤ place ts y :=
  min_le_min_right _ (List.findIdx_le_findIdx h)

theorem place_raised {ts us : List Double} {x : Double}
    (h : List.Forall₂ (fun t u => x.lt t = true → x.lt u = true) ts us) : place us x ≤ place ts x := by
  have hidx : us.findIdx (x.lt ·) ≤ ts.findIdx (x.lt ·) := by
    induction h with
    | nil => exact le_rfl
    | @cons t u ts us htu _ ih =>
      rw [List.findIdx_cons, List.findIdx_cons]
      cases ht : x.lt t with
      | true =>
        rw [htu ht]
        exact le_rfl
      | false =>
        cases x.lt u with
        | true => exact Nat.zero_le _
        | false => exact Nat.succ_le_succ ih
  unfold place
  rw [h.length_eq]
  exact min_le_min_right _ hidx

/-! ## The walk -/

theorem walk_first {split : Value} (h : Returns split.toSingle) (x total : Double)
    (last : Option α) (item : α) (rest : List (α × Value)) :
    walk x total last ((item, split) :: rest) =
      if x.lt (nextTotal total (share split)) then .ok (some item)
      else walk x (nextTotal total (share split)) (some item) rest := by
  obtain ⟨y, hy⟩ := h
  rw [walk, share, hy]
  rfl

theorem walk_eq (x total : Double) (last : Option α) (e : α × Value) (es : List (α × Value))
    (h : ∀ e' ∈ e :: es, Returns e'.2.toSingle) :
    walk x total last (e :: es) =
      .ok ((e :: es)[place (sumsFrom total ((e :: es).map (·.2))) x]?.map (·.1)) := by
  induction es generalizing e total last with
  | nil =>
    rw [walk_first (h e List.mem_cons_self)]
    show _ = Except.ok ([e][place [nextTotal total (share e.2)] x]?.map (·.1))
    rw [place_singleton]
    exact ite_self _
  | cons e' es ih =>
    rw [walk_first (h e List.mem_cons_self), ih _ _ _ fun e he => h e (List.mem_cons_of_mem _ he)]
    simp only [List.map_cons, sumsFrom]
    rw [place_cons]
    split
    · rfl
    · rfl

theorem select_eq {entries : List (α × Value)} (hne : entries ≠ [])
    (h : ∀ e ∈ entries, Returns e.2.toSingle) (x : Double) :
    select entries (.float x) = .ok (entries[place (sums entries) x.toSingle]?.map (·.1)) := by
  cases entries with
  | nil => exact absurd rfl hne
  | cons e es => exact walk_eq x.toSingle Double.zero none e es h

/-- Entries with their positions for items. -/
def numbered (entries : List (α × Value)) : List (Nat × Value) :=
  entries.zipIdx.map fun e => (e.2, e.1.2)

/-- The position of the entry that a hash falls on. -/
def LandsOn (entries : List (α × Value)) (x : Double) (i : Nat) : Prop :=
  select (numbered entries) (.float x) = .ok (some i)

theorem numbered_getElem? (entries : List (α × Value)) (i : Nat) :
    (numbered entries)[i]? = entries[i]?.map fun e => (i, e.2) := by
  rw [numbered, List.getElem?_map, List.getElem?_zipIdx, Nat.zero_add, Option.map_map]
  rfl

theorem numbered_splits (entries : List (α × Value)) :
    (numbered entries).map (·.2) = entries.map (·.2) := by
  refine List.ext_getElem? fun i => ?_
  rw [List.getElem?_map, numbered_getElem?, List.getElem?_map, Option.map_map]
  rfl

theorem landsOn_iff {entries : List (α × Value)} (hne : entries ≠ [])
    (h : ∀ e ∈ entries, Returns e.2.toSingle) {x : Double} {i : Nat} :
    LandsOn entries x i ↔ place (sums entries) x.toSingle = i := by
  have hsums : sums (numbered entries) = sums entries := by
    rw [sums, numbered_splits, sums]
  have hnum : numbered entries ≠ [] := by
    intro hn
    have hs := numbered_splits entries
    rw [hn] at hs
    exact hne (List.map_eq_nil_iff.1 hs.symm)
  have hret : ∀ e ∈ numbered entries, Returns e.2.toSingle := by
    intro e he
    obtain ⟨e', he', rfl⟩ := List.mem_map.1 he
    exact h e'.1 (List.fst_mem_of_mem_zipIdx he')
  rw [LandsOn, select_eq hnum hret, hsums, numbered_getElem?,
    List.getElem?_eq_getElem (place_sums_lt hne x.toSingle)]
  exact ⟨fun h => Option.some.inj (Except.ok.inj h), fun h => congrArg (fun i => Except.ok (some i)) h⟩

/-! ## Splits -/

/-- A split that is a number, not negative, and has a value in single precision. -/
structure IsSplit (split : Value) : Prop where
  stored : Returns split.toSingle
  nonneg : ∃ x, split.number? = some x ∧ Double.zero.le x = true

theorem isSplit_double {x : Double} (h : Double.zero.le x = true) : IsSplit (.float x) :=
  ⟨⟨_, rfl⟩, x, rfl, h⟩

theorem share_of_int {n : Int} (h : Returns (Value.int n).toSingle) (h0 : 0 ≤ n) :
    share (.int n) = stored n := by
  cases hz : Double.ofInt? n with
  | none =>
    obtain ⟨y, hy⟩ := h
    rw [Value.toSingle, hz] at hy
    cases hy
  | some z =>
    have hs : (Value.int n).toSingle = .ok z.toSingle := by rw [Value.toSingle, hz]
    rw [share, hs, ← toSingle_round (by exact_mod_cast h0), Double.round_of_ofInt? hz]
    rfl

theorem share_nonneg {split : Value} (h : IsSplit split) : Double.zero.le (share split) = true := by
  obtain ⟨x, hx, h0⟩ := h.nonneg
  cases split with
  | bool b => cases b <;> decide
  | int n =>
    cases hx
    have hn : 0 ≤ n := by
      rw [Double.le_of_value rfl rfl, decide_eq_true_eq] at h0
      exact_mod_cast h0
    rw [share_of_int h.stored hn]
    exact (isSum_stored (by exact_mod_cast hn)).nonneg
  | float y =>
    cases hx
    exact Double.toSingle_nonneg h0
  | _ => cases hx

/-- A split of zero adds a zero. -/
theorem share_zero {split : Value} (h : IsSplit split)
    (hz : ∃ x, split.number? = some x ∧ x.eq Double.zero = true) : (share split).value? = some 0 := by
  obtain ⟨x, hx, h0⟩ := hz
  have hv : x.value? = some 0 := Double.value_of_eq_zero h0
  cases split with
  | bool b =>
    cases b
    · rfl
    · cases hx
      cases hv
  | int n =>
    cases hx
    have hn : n = 0 := by exact_mod_cast Option.some.inj hv
    subst hn
    rfl
  | float y =>
    cases hx
    have hs := Double.value_toSingle hv le_rfl zero_le_two
    rwa [Format.nearestTo_zero] at hs
  | _ => cases hx

/-! ## Sums of splits -/

section Sums

variable {splits : List Value} (h : ∀ split ∈ splits, IsSplit split)

include h

theorem isSum_of_mem {total t : Double} (ht : IsSum total) (hm : t ∈ sumsFrom total splits) :
    IsSum t := by
  induction splits generalizing total with
  | nil => cases hm
  | cons split rest ih =>
    have hnext := isSum_nextTotal ht (share_nonneg (h split List.mem_cons_self))
    rcases List.mem_cons.1 hm with rfl | hm
    · exact hnext
    · exact ih (fun s hs => h s (List.mem_cons_of_mem _ hs)) hnext hm

/-- What lies below a sum lies below all later ones. -/
theorem lt_of_mem {total x t : Double} {a : ℚ} (hx : x.value? = some a) (ht : IsSum total)
    (hlt : x.lt total = true) (hm : t ∈ sumsFrom total splits) : x.lt t = true := by
  induction splits generalizing total with
  | nil => cases hm
  | cons split rest ih =>
    have hs := share_nonneg (h split List.mem_cons_self)
    have hnext := lt_nextTotal hx ht hs hlt
    rcases List.mem_cons.1 hm with rfl | hm
    · exact hnext
    · exact ih (fun s hs => h s (List.mem_cons_of_mem _ hs)) (isSum_nextTotal ht hs) hnext hm

theorem pairwise_sumsFrom {total x : Double} {a : ℚ} (hx : x.value? = some a) (ht : IsSum total) :
    (sumsFrom total splits).Pairwise fun t u => x.lt t = true → x.lt u = true := by
  induction splits generalizing total with
  | nil => exact .nil
  | cons split rest ih =>
    have hrest : ∀ s ∈ rest, IsSplit s := fun s hs => h s (List.mem_cons_of_mem _ hs)
    have hnext := isSum_nextTotal ht (share_nonneg (h split List.mem_cons_self))
    exact .cons (fun u hu hlt => lt_of_mem hrest hx hnext hlt hu) (ih hrest hnext)

end Sums

/-- A sum is the one before it and one more split. -/
theorem sumsFrom_getElem? {total t : Double} {splits : List Value} {split : Value} {i : Nat}
    (hs : splits[i]? = some split) (ht : (total :: sumsFrom total splits)[i]? = some t) :
    (sumsFrom total splits)[i]? = some (nextTotal t (share split)) := by
  induction splits generalizing total i with
  | nil => cases hs
  | cons first rest ih =>
    cases i with
    | zero =>
      cases hs
      cases ht
      rfl
    | succ i => exact ih hs ht

/-! ## Intervals -/

/-- A hash lies from zero to one. -/
structure IsHash (x : Double) : Prop where
  nonneg : Double.zero.le x = true
  le_one : x.le Double.one = true

/-- What single precision keeps of a hash. -/
theorem IsHash.single {x : Double} (h : IsHash x) : ∃ a, x.value? = some a ∧ 0 ≤ a ∧
    x.toSingle.value? = some (Format.single.nearestTo a) := by
  obtain ⟨a, ha, h0, h1⟩ := Double.exists_value h.nonneg h.le_one
  exact ⟨a, ha, h0, Double.value_toSingle ha h0 (h1.trans one_le_two)⟩

/-- The interval of an arm, to which a position belongs that is not below the sum before the arm, but
below the arm's own sum, unless the arm is the last. -/
def Owns (entries : List (α × Value)) (i : Nat) (x : Double) : Prop :=
  (∃ t, (Double.zero :: sums entries)[i]? = some t ∧ x.lt t = false) ∧
    (i + 1 < entries.length → ∃ t, (sums entries)[i]? = some t ∧ x.lt t = true)

section Entries

variable {entries : List (α × Value)} (hne : entries ≠ []) (hs : ∀ e ∈ entries, IsSplit e.2)

include hs

theorem isSplit_of_mem : ∀ split ∈ entries.map (·.2), IsSplit split := List.forall_mem_map.2 hs

theorem isSum_of_mem_sums {t : Double} (ht : t ∈ sums entries) : IsSum t :=
  isSum_of_mem (isSplit_of_mem hs) isSum_zero ht

include hne

theorem landsOn_iff_place {x : Double} {i : Nat} :
    LandsOn entries x i ↔ place (sums entries) x.toSingle = i :=
  landsOn_iff hne fun e he => (hs e he).stored

theorem landsOn_iff_owns {x : Double} (hx : IsHash x) {i : Nat} :
    LandsOn entries x i ↔ i < entries.length ∧ Owns entries i x.toSingle := by
  obtain ⟨a, -, h0, ha⟩ := hx.single
  have hzero : x.toSingle.lt Double.zero = false := by
    rw [Double.lt_of_value ha rfl]
    exact decide_eq_false (not_lt.2 (Format.single.nearestTo_nonneg h0))
  rw [landsOn_iff_place hne hs, place_eq_iff (sums_ne_nil hne), length_sums]
  refine and_congr_right fun hi => and_congr_left fun _ => ?_
  cases i with
  | zero => exact iff_of_true (fun j t hj => absurd hj (Nat.not_lt_zero j)) ⟨_, rfl, hzero⟩
  | succ k =>
    have hk : k < (sums entries).length := by rw [length_sums]; omega
    constructor
    · intro h
      exact ⟨_, List.getElem?_eq_getElem hk, h k _ k.lt_succ_self (List.getElem?_eq_getElem hk)⟩
    · rintro ⟨u, hu, hxu⟩ j t hj ht
      replace hu : (sums entries)[k]? = some u := hu
      obtain ⟨hkl, rfl⟩ := List.getElem?_eq_some_iff.1 hu
      obtain ⟨hjl, rfl⟩ := List.getElem?_eq_some_iff.1 ht
      rcases Nat.lt_succ_iff_lt_or_eq.1 hj with hj | rfl
      · -- a position below an earlier sum would be below this one as well
        have hpair := pairwise_sumsFrom (isSplit_of_mem hs) ha isSum_zero
        have himp := List.pairwise_iff_getElem.1 hpair j k hjl hkl hj
        exact eq_false_of_ne_true fun hlt => Bool.false_ne_true (hxu.symm.trans (himp hlt))
      · exact hxu

/-- A hash falls on an entry, which is selected. -/
theorem exists_landsOn (x : Double) : ∃ i item split, entries[i]? = some (item, split) ∧
    LandsOn entries x i ∧ select entries (.float x) = .ok (some item) := by
  have he := List.getElem?_eq_getElem (place_sums_lt hne x.toSingle)
  refine ⟨_, _, _, he, (landsOn_iff_place hne hs).2 rfl, ?_⟩
  rw [select_eq hne (fun e he => (hs e he).stored), he]
  rfl

/-- A higher hash falls on no earlier entry. -/
theorem landsOn_mono {x y : Double} (hx : IsHash x) (hy : IsHash y) (hxy : x.le y = true)
    {i j : Nat} (hi : LandsOn entries x i) (hj : LandsOn entries y j) : i ≤ j := by
  rw [landsOn_iff_place hne hs] at hi hj
  rw [← hi, ← hj]
  obtain ⟨a, hxa, h0, ha⟩ := hx.single
  obtain ⟨b, hyb, -, hb⟩ := hy.single
  rw [Double.le_of_value hxa hyb, decide_eq_true_eq] at hxy
  have hab := Format.nearestTo_mono Format.usual_single.digits h0 hxy
  exact place_le_place fun t ht hlt => lt_sum_of_le ha hb hab (isSum_of_mem_sums hs ht) hlt

/-- An entry whose split is zero has no interval, unless it is the last. -/
theorem last_of_zero_split {x : Double} (hx : IsHash x) {i : Nat} (hi : LandsOn entries x i)
    {item : α} {split : Value} (he : entries[i]? = some (item, split))
    (hz : ∃ z, split.number? = some z ∧ z.eq Double.zero = true) :
    i + 1 = entries.length ∧
      ∃ total, (sums entries).getLast? = some total ∧ x.toSingle.lt total = false := by
  obtain ⟨hlt, ⟨t, ht, hxt⟩, hown⟩ := (landsOn_iff_owns hne hs hx).1 hi
  have hsum : IsSum t := by
    rcases List.mem_cons.1 (List.mem_of_getElem? ht) with rfl | hm
    · exact isSum_zero
    · exact isSum_of_mem_sums hs hm
  -- the sum up to the entry is the one before it
  have hnext : (sums entries)[i]? = some t := by
    have hsplit : (entries.map (·.2))[i]? = some split := by
      rw [List.getElem?_map, he]
      rfl
    have hshare := share_zero (hs _ (List.mem_of_getElem? he)) hz
    rw [sums, sumsFrom_getElem? hsplit ht, nextTotal_zero hsum hshare]
  have hlast : ¬ i + 1 < entries.length := by
    intro h
    obtain ⟨u, hu, hxu⟩ := hown h
    rw [hnext] at hu
    cases hu
    rw [hxt] at hxu
    cases hxu
  have hi : (sums entries).length - 1 = i := by
    rw [length_sums]
    omega
  refine ⟨by omega, t, ?_, hxt⟩
  rw [List.getLast?_eq_getElem?, hi, hnext]

end Entries

/-- Under sums that were raised a hash falls on no later entry. -/
theorem landsOn_raised {entries raised : List (α × Value)} (hne : entries ≠ [])
    (hs : ∀ e ∈ entries, IsSplit e.2) (hr : ∀ e ∈ raised, IsSplit e.2)
    (hle : List.Forall₂ (fun t u => t.le u = true) (sums entries) (sums raised)) {x : Double}
    (hx : IsHash x) {i j : Nat} (hi : LandsOn entries x i) (hj : LandsOn raised x j) : j ≤ i := by
  have hlength : entries.length = raised.length := by
    rw [← length_sums, ← length_sums]
    exact hle.length_eq
  have hner : raised ≠ [] := by
    rintro rfl
    exact hne (List.eq_nil_of_length_eq_zero hlength)
  obtain ⟨a, -, -, ha⟩ := hx.single
  rw [landsOn_iff_place hne hs] at hi
  rw [landsOn_iff_place hner hr] at hj
  rw [← hi, ← hj]
  refine place_raised (List.forall₂_iff_get.2 ⟨hle.length_eq, fun k ht hu hlt => ?_⟩)
  exact lt_of_le_sum ha (isSum_of_mem_sums hs (List.get_mem _ _))
    (isSum_of_mem_sums hr (List.get_mem _ _)) hlt (hle.get ht hu)

/-- Splits that are not negative share the hashes out among the entries. A hash falls on one entry,
which is the one selected, and every entry has an interval of hashes: those that, in single
precision, are not below the sum of the splits before it, but below the sum up to it unless it is the
last. A higher hash falls on no earlier entry. An entry whose split is zero is fallen on only if it is
the last and the hash, in single precision, is not below the sum of all splits. And under splits whose
sums are nowhere lower a hash falls on no later entry. -/
theorem splits_share_out_hashes {entries : List (α × Value)} (hne : entries ≠ [])
    (hs : ∀ e ∈ entries, IsSplit e.2) {x : Double} (hx : IsHash x) :
    (∃ i item split, entries[i]? = some (item, split) ∧ LandsOn entries x i ∧
      select entries (.float x) = .ok (some item)) ∧
    (∀ i, LandsOn entries x i ↔ i < entries.length ∧ Owns entries i x.toSingle) ∧
    (∀ y i j, IsHash y → x.le y = true → LandsOn entries x i → LandsOn entries y j → i ≤ j) ∧
    (∀ i item split, LandsOn entries x i → entries[i]? = some (item, split) →
      (∃ z, split.number? = some z ∧ z.eq Double.zero = true) → i + 1 = entries.length ∧
        ∃ total, (sums entries).getLast? = some total ∧ x.toSingle.lt total = false) ∧
    (∀ (raised : List (α × Value)) i j, (∀ e ∈ raised, IsSplit e.2) →
      List.Forall₂ (fun t u => t.le u = true) (sums entries) (sums raised) →
      LandsOn entries x i → LandsOn raised x j → j ≤ i) :=
  ⟨exists_landsOn hne hs x, fun _ => landsOn_iff_owns hne hs hx,
    fun _ _ _ hy hxy hi hj => landsOn_mono hne hs hx hy hxy hi hj,
    fun _ _ _ hi he hz => last_of_zero_split hne hs hx hi he hz,
    fun _ _ _ hr hle hi hj => landsOn_raised hne hs hr hle hx hi hj⟩

/-- On the bound of two halves with a split of zero between them: the second half has it, and the split
of zero nothing. -/
theorem splits_share_out_hashes_on_bound :
    let half : Value := .float (.finite (1 / 2))
    let entries := [("a", half), ("b", .float Double.zero), ("c", half)]
    let x := Double.finite (1 / 2)
    (entries ≠ [] ∧ (∀ e ∈ entries, IsSplit e.2) ∧ IsHash x) ∧ LandsOn entries x 2 ∧
      ¬ LandsOn entries x 1 ∧
      ∀ y j, IsHash y → x.le y = true → LandsOn entries y j → 2 ≤ j := by
  intro half entries x
  have hhalf : IsSplit half := isSplit_double (by decide +kernel)
  have hs : ∀ e ∈ entries, IsSplit e.2 :=
    List.forall_mem_cons.2 ⟨hhalf, List.forall_mem_cons.2
      ⟨isSplit_double (by decide +kernel), List.forall_mem_singleton.2 hhalf⟩⟩
  have hx : IsHash x := ⟨by decide +kernel, by decide +kernel⟩
  have hsums : sums entries = [.finite (1 / 2), .finite (1 / 2), .finite 1] := by decide +kernel
  have hne : entries ≠ [] := List.cons_ne_nil _ _
  obtain ⟨-, howns, hmono, hidle, -⟩ := splits_share_out_hashes hne hs hx
  have hlands : LandsOn entries x 2 := by
    refine (howns 2).2 ⟨by decide, ⟨.finite (1 / 2), ?_, by decide +kernel⟩, fun h => ?_⟩
    · rw [hsums]
      rfl
    · exact absurd h (by decide)
  refine ⟨⟨hne, hs, hx⟩, hlands, fun h => ?_, fun y j hy hxy hj => hmono y 2 j hy hxy hlands hj⟩
  obtain ⟨hlast, -⟩ := hidle 1 "b" _ h rfl ⟨_, rfl, by decide +kernel⟩
  exact absurd hlast (by decide)

/-- A hash is brought into single precision first. One below the sum of all splits can come out equal to
it, and falls on a last entry whose split is zero. -/
theorem hash_below_sum_falls_on_zero_split :
    let entries : List (String × Value) :=
      [("a", .float (.finite (1 / 2))), ("b", .float Double.zero)]
    let x := Double.finite (1 / 2 - 1 / 2 ^ 40)
    ((∀ e ∈ entries, IsSplit e.2) ∧ IsHash x ∧ Format.double.round (1 / 2 - 1 / 2 ^ 40) = x) ∧
      LandsOn entries x 1 ∧ select entries (.float x) = .ok (some "b") ∧
      ∃ total, (sums entries).getLast? = some total ∧ x.lt total = true := by
  intro entries x
  have hs : ∀ e ∈ entries, IsSplit e.2 :=
    List.forall_mem_cons.2 ⟨isSplit_double (by decide +kernel),
      List.forall_mem_singleton.2 (isSplit_double (by decide +kernel))⟩
  have hx : IsHash x := ⟨by decide +kernel, by decide +kernel⟩
  have hsums : sums entries = [.finite (1 / 2), .finite (1 / 2)] := by decide +kernel
  have hne : entries ≠ [] := List.cons_ne_nil _ _
  have hlands : LandsOn entries x 1 := by
    refine (landsOn_iff_owns hne hs hx).2 ⟨by decide, ⟨.finite (1 / 2), ?_, by decide +kernel⟩, ?_⟩
    · rw [hsums]
      rfl
    · exact fun h => absurd h (by decide)
  have hplace := (landsOn_iff_place hne hs).1 hlands
  refine ⟨⟨hs, hx, by decide +kernel⟩, hlands, ?_, .finite (1 / 2), ?_, by decide +kernel⟩
  · rw [select_eq hne fun e he => (hs e he).stored, hplace]
    rfl
  · rw [hsums]
    rfl

end Decision

end StagedRollout
