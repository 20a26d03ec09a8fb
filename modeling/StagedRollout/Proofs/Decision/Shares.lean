/-
Splits of whole percents. The running total of such splits, kept in single precision after every
addition, stays so close to the exact sum that no bucket is told from another by the difference: a
bucket inside the share of an arm falls on that arm. Only the first bucket of an arm, which lies on the
exact sum of the splits before it, can be lost, namely when the running total has come out above that
sum; it then falls on the last arm before it that has a share.
-/
import StagedRollout.Proofs.Number.Single

namespace StagedRollout.Decision

open Number

variable {α : Type}

/-! ## Running totals -/

/-- Entries whose splits are whole percents. -/
def percentEntries (entries : List (α × Nat)) : List (α × Value) :=
  entries.map fun e => (e.1, .float (Hash.share e.2))

/-- The percents of entries together. -/
def percents (entries : List (α × Nat)) : Nat := (entries.map (·.2)).sum

/-- The sum of the splits of entries, kept in single precision after every addition. -/
def runningTotal (entries : List (α × Nat)) : Double :=
  entries.foldl (fun total e => nextTotal total (Hash.share e.2).toSingle) Double.zero

theorem percents_append (es fs : List (α × Nat)) : percents (es ++ fs) = percents es + percents fs := by
  unfold percents
  rw [List.map_append, List.sum_append]

theorem percents_cons (e : α × Nat) (es : List (α × Nat)) : percents (e :: es) = e.2 + percents es := by
  unfold percents
  rw [List.map_cons, List.sum_cons]

theorem percents_singleton (e : α × Nat) : percents [e] = e.2 := percents_cons e []

theorem percents_of_idle {es : List (α × Nat)} (h : ∀ e ∈ es, e.2 = 0) : percents es = 0 := by
  refine List.sum_eq_zero fun k hk => ?_
  obtain ⟨e, he, rfl⟩ := List.mem_map.1 hk
  exact h e he

theorem runningTotal_snoc (es : List (α × Nat)) (e : α × Nat) :
    runningTotal (es ++ [e]) = nextTotal (runningTotal es) (Hash.share e.2).toSingle := by
  unfold runningTotal
  rw [List.foldl_append]
  rfl

/-- A number that single precision holds near the sum of some percents. Every percent adds at most
twice the margin of one rounding: its own and that of the sum. -/
structure IsTotal (n : Nat) (t : ℚ) : Prop where
  nonneg : 0 ≤ t
  holds : Format.single.Holds t
  near : |t - n / 100| ≤ n * (2 * margin)

theorem abs_kept_share_le {k : Nat} (hk : k ≤ 100) : |kept (k / 100) - k / 100| ≤ margin := by
  have hk' : (k : ℚ) ≤ 100 := by exact_mod_cast hk
  exact abs_kept_sub_le (by positivity) (by linarith)

theorem isTotal_zero : IsTotal 0 0 where
  nonneg := le_rfl
  holds := holds_zero
  near := by norm_num

/-- A total is below two even with one more split. -/
theorem IsTotal.add_lt_two {n k : Nat} {t : ℚ} (h : IsTotal n t) (hk : n + k ≤ 100) :
    t + kept (k / 100) < 2 := by
  have hs := abs_le.1 (abs_kept_share_le (show k ≤ 100 by omega))
  have ht := abs_le.1 h.near
  have hsum : (n : ℚ) + k ≤ 100 := by exact_mod_cast hk
  have hn : (n : ℚ) ≤ 100 := by exact_mod_cast (show n ≤ 100 by omega)
  have hm : margin = 1 / 2 ^ 22 := rfl
  rw [hm] at hs ht
  linarith [hs.2, ht.2]

theorem IsTotal.add {n k : Nat} {t : ℚ} (h : IsTotal n t) (hk : n + k ≤ 100) :
    IsTotal (n + k) (kept (t + kept (k / 100))) := by
  have hs0 : 0 ≤ kept (k / 100) := kept_nonneg (by positivity)
  have h0 : 0 ≤ t + kept (k / 100) := add_nonneg h.nonneg hs0
  refine ⟨kept_nonneg h0, holds_kept h0, ?_⟩
  rcases Nat.eq_zero_or_pos k with rfl | hpos
  · -- a split of nothing adds nothing, and what is held is kept as it is
    rw [Nat.cast_zero, zero_div, kept_zero, add_zero, kept_of_holds h.holds]
    exact h.near
  · have hs := abs_kept_share_le (show k ≤ 100 by omega)
    have ha := abs_kept_sub_le h0 (h.add_lt_two hk)
    have hk1 : (1 : ℚ) ≤ k := by exact_mod_cast hpos
    have hm : 0 ≤ margin := by norm_num [margin]
    push_cast
    calc |kept (t + kept (k / 100)) - (n + k) / 100|
        = |(kept (t + kept (k / 100)) - (t + kept (k / 100))) + (t - n / 100) +
            (kept (k / 100) - k / 100)| := by ring_nf
      _ ≤ |kept (t + kept (k / 100)) - (t + kept (k / 100))| + |t - n / 100| +
            |kept (k / 100) - k / 100| := abs_add_three _ _ _
      _ ≤ margin + n * (2 * margin) + margin := add_le_add (add_le_add ha h.near) hs
      _ ≤ (n + k) * (2 * margin) := by nlinarith

theorem exists_total (es : List (α × Nat)) (h : percents es ≤ 100) :
    ∃ t, runningTotal es = .finite t ∧ IsTotal (percents es) t := by
  induction es using List.reverseRecOn with
  | nil => exact ⟨0, rfl, isTotal_zero⟩
  | append_singleton es e ih =>
    rw [percents_append, percents_singleton] at h ⊢
    obtain ⟨t, ht, htotal⟩ := ih (by omega)
    refine ⟨_, ?_, htotal.add h⟩
    rw [runningTotal_snoc, ht, Hash.toSingle_share (by omega)]
    exact nextTotal_finite htotal.nonneg (kept_nonneg (by positivity)) (htotal.add_lt_two h).le

/-- Entries without a share add nothing to a running total. -/
theorem runningTotal_append_idle {es idle : List (α × Nat)} (h : percents es ≤ 100)
    (hidle : ∀ e ∈ idle, e.2 = 0) : runningTotal (es ++ idle) = runningTotal es := by
  induction idle using List.reverseRecOn with
  | nil => rw [List.append_nil]
  | append_singleton idle e ih =>
    obtain ⟨t, ht, htotal⟩ := exists_total es h
    have he : e.2 = 0 := hidle e (List.mem_append_right _ List.mem_cons_self)
    rw [← List.append_assoc, runningTotal_snoc,
      ih fun e he => hidle e (List.mem_append_left _ he), ht, he, Hash.toSingle_share (Nat.zero_le _)]
    have h2 : t + kept ((0 : Nat) / 100) ≤ 2 := (htotal.add_lt_two (k := 0) h).le
    rw [nextTotal_finite htotal.nonneg (kept_nonneg (by positivity)) h2]
    rw [Nat.cast_zero, zero_div, kept_zero, add_zero, kept_of_holds htotal.holds]

/-! ## Buckets and totals -/

section Buckets

variable {b : Nat} {es : List (α × Nat)}

/-- A bucket below the exact sum is below the running total. -/
theorem lt_runningTotal (hs : percents es ≤ 100) (h : b < percents es) :
    (Hash.share b).toSingle.lt (runningTotal es) = true := by
  obtain ⟨t, ht, htotal⟩ := exists_total es hs
  have hb : (b : ℚ) + 1 ≤ percents es := by exact_mod_cast h
  have hs' : (percents es : ℚ) ≤ 100 := by exact_mod_cast hs
  have hp := abs_le.1 (abs_kept_share_le (show b ≤ 100 by omega))
  have ht' := abs_le.1 htotal.near
  rw [ht, Hash.toSingle_share (by omega), Double.lt_of_value rfl rfl, decide_eq_true_eq]
  have hm : margin = 1 / 2 ^ 22 := rfl
  rw [hm] at hp ht'
  linarith [hp.2, ht'.1]

/-- A bucket above the exact sum is not below the running total. -/
theorem not_lt_runningTotal (hb : b < 100) (h : percents es < b) :
    (Hash.share b).toSingle.lt (runningTotal es) = false := by
  obtain ⟨t, ht, htotal⟩ := exists_total es (by omega)
  have hb' : (percents es : ℚ) + 1 ≤ b := by exact_mod_cast h
  have hs' : (percents es : ℚ) ≤ 100 := by exact_mod_cast (show percents es ≤ 100 by omega)
  have hp := abs_le.1 (abs_kept_share_le (show b ≤ 100 by omega))
  have ht' := abs_le.1 htotal.near
  rw [ht, Hash.toSingle_share (by omega), Double.lt_of_value rfl rfl, decide_eq_false_iff_not]
  have hm : margin = 1 / 2 ^ 22 := rfl
  rw [hm] at hp ht'
  linarith [hp.1, ht'.2]

/-- A single share is kept as it is, so no bucket comes to lie below it that is not below it. -/
theorem not_lt_single {item : α} {k : Nat} (hk : k ≤ 100) (hidle : ∀ e ∈ es, e.2 = 0) :
    (Hash.share k).toSingle.lt (runningTotal (es ++ [(item, k)])) = false := by
  have hnone : percents ([] : List (α × Nat)) ≤ 100 := Nat.zero_le _
  have hzero : runningTotal es = Double.finite 0 := runningTotal_append_idle hnone hidle
  have h0 : 0 ≤ kept (k / 100) := kept_nonneg (by positivity)
  have h2 : 0 + kept (k / 100) ≤ 2 := (isTotal_zero.add_lt_two (by omega)).le
  rw [runningTotal_snoc, hzero, Hash.toSingle_share hk, nextTotal_finite le_rfl h0 h2, zero_add,
    kept_of_holds (holds_kept (by positivity)), Double.lt_of_value rfl rfl]
  exact decide_eq_false (lt_irrefl _)

end Buckets

/-! ## The walk -/

theorem walk_cons (position : Double) (last : Option α) (passed rest : List (α × Nat))
    (e : α × Nat) :
    walk position (runningTotal passed) last (percentEntries (e :: rest)) =
      if position.lt (runningTotal (passed ++ [e])) then .ok (some e.1)
      else walk position (runningTotal (passed ++ [e])) (some e.1) (percentEntries rest) := by
  rw [runningTotal_snoc]
  rfl

/-- The running total before an arm has come out above the bucket that is their exact sum. -/
def Overshoots (b : Nat) (before : List (α × Nat)) : Prop :=
  percents before = b ∧ (Hash.share b).toSingle.lt (runningTotal before) = true

/-- Where a bucket falls whose arm stands between `before` and the rest: on that arm, or, if the total
overshoots, on the last arm before it that has a share, which is not the first such arm. -/
def FallsOn (b : Nat) (before : List (α × Nat)) (item : α) (chosen : Except Fault (Option α)) : Prop :=
  (¬ Overshoots b before ∧ chosen = .ok (some item)) ∨
  (Overshoots b before ∧ ∃ earlier arm k idle, before = earlier ++ (arm, k) :: idle ∧
    (∃ e ∈ earlier, e.2 ≠ 0) ∧ k ≠ 0 ∧ (∀ e ∈ idle, e.2 = 0) ∧ chosen = .ok (some arm))

/-- Among entries that have a share, one is the first. -/
theorem exists_first_share {es : List (α × Nat)} (h : percents es ≠ 0) :
    ∃ idle item k after, es = idle ++ (item, k) :: after ∧ (∀ e ∈ idle, e.2 = 0) ∧ k ≠ 0 := by
  induction es with
  | nil => exact absurd rfl h
  | cons e rest ih =>
    rcases Nat.eq_zero_or_pos e.2 with he | he
    · rw [percents_cons, he, Nat.zero_add] at h
      obtain ⟨idle, item, k, after, rfl, hidle, hk⟩ := ih h
      refine ⟨e :: idle, item, k, after, rfl, fun e' he' => ?_, hk⟩
      rcases List.mem_cons.1 he' with rfl | he'
      · exact he
      · exact hidle e' he'
    · exact ⟨[], e.1, e.2, rest, rfl, nofun, he.ne'⟩

/-- A total that comes out above a bucket not below the exact sum, as it did not without its last split,
is the total of splits whose exact sum is that bucket, and it took more than one split to get there. -/
theorem exact_of_overshoot {b k : Nat} {passed : List (α × Nat)} {item : α} (hb : b < 100)
    (hout : percents passed + k ≤ b)
    (hpassed : (Hash.share b).toSingle.lt (runningTotal passed) = false)
    (hlt : (Hash.share b).toSingle.lt (runningTotal (passed ++ [(item, k)])) = true) :
    percents passed + k = b ∧ k ≠ 0 ∧ ∃ e ∈ passed, e.2 ≠ 0 := by
  have hnext : percents (passed ++ [(item, k)]) = percents passed + k := by
    rw [percents_append, percents_singleton]
  have heq : percents passed + k = b := by
    by_contra hne
    have hbelow : percents (passed ++ [(item, k)]) < b := by omega
    rw [not_lt_runningTotal hb hbelow] at hlt
    cases hlt
  refine ⟨heq, ?_, ?_⟩
  · rintro rfl
    rw [runningTotal_append_idle (by omega) (by simp), hpassed] at hlt
    cases hlt
  · by_contra hall
    have hnone : ∀ e ∈ passed, e.2 = 0 := fun e he => by
      by_contra hne
      exact hall ⟨e, he, hne⟩
    rw [percents_of_idle hnone, Nat.zero_add] at heq
    rw [← heq, not_lt_single (by omega) hnone] at hlt
    cases hlt

/-- The walk behind entries that it has passed. -/
theorem walk_percents {b : Nat} (hb : b < 100) (rest passed : List (α × Nat)) (last : Option α)
    (hsum : percents passed + percents rest = 100) (hle : percents passed ≤ b)
    (hpassed : (Hash.share b).toSingle.lt (runningTotal passed) = false) :
    ∃ before item k after, passed ++ rest = before ++ (item, k) :: after ∧ percents before ≤ b ∧
      b < percents before + k ∧ FallsOn b before item
        (walk (Hash.share b).toSingle (runningTotal passed) last (percentEntries rest)) := by
  induction rest generalizing passed last with
  | nil =>
    have : percents ([] : List (α × Nat)) = 0 := rfl
    omega
  | cons e rest ih =>
    obtain ⟨item, k⟩ := e
    have hsplit : passed ++ (item, k) :: rest = (passed ++ [(item, k)]) ++ rest :=
      List.append_cons passed (item, k) rest
    have hnext : percents (passed ++ [(item, k)]) = percents passed + k := by
      rw [percents_append, percents_singleton]
    rw [percents_cons] at hsum
    rw [walk_cons]
    rcases Nat.lt_or_ge b (percents passed + k) with hin | hout
    · -- the bucket is inside this arm's share
      have hlt : (Hash.share b).toSingle.lt (runningTotal (passed ++ [(item, k)])) = true :=
        lt_runningTotal (by omega) (hnext ▸ hin)
      refine ⟨passed, item, k, rest, rfl, hle, hin, .inl ⟨fun ho => ?_, if_pos hlt⟩⟩
      rw [ho.2] at hpassed
      cases hpassed
    · rcases hlt : (Hash.share b).toSingle.lt (runningTotal (passed ++ [(item, k)])) with _ | _
      · rw [if_neg Bool.false_ne_true, hsplit]
        exact ih (passed ++ [(item, k)]) (some item) (by omega) (by omega) hlt
      · obtain ⟨heq, hk, hearlier⟩ := exact_of_overshoot hb hout hpassed hlt
        have hrest : percents rest ≠ 0 := by omega
        -- the bucket's own arm is the next that has a share
        obtain ⟨idle, next, k', after, rfl, hidle, hk'⟩ := exists_first_share hrest
        have htotal : runningTotal (passed ++ (item, k) :: idle) =
            runningTotal (passed ++ [(item, k)]) := by
          rw [List.append_cons]
          exact runningTotal_append_idle (by omega) hidle
        have hexact : percents (passed ++ (item, k) :: idle) = b := by
          rw [percents_append, percents_cons, percents_of_idle hidle]
          exact heq
        have hmiss : Overshoots b (passed ++ (item, k) :: idle) := ⟨hexact, htotal ▸ hlt⟩
        have hwhere : passed ++ (item, k) :: (idle ++ (next, k') :: after) =
            (passed ++ (item, k) :: idle) ++ (next, k') :: after := by simp
        exact ⟨_, next, k', after, hwhere, hexact.le, by omega,
          .inr ⟨hmiss, passed, item, k, idle, rfl, hearlier, hk, hidle, rfl⟩⟩

/-! ## Shares of arms -/

/-- Splits of whole percents that make a hundred. Every bucket inside the share of an arm falls on that
arm. Its first bucket does unless the running total of the splits before it, kept in single precision,
has come out above their exact sum; then that bucket falls on the arm before, which is neither without a
share nor the first that has one. -/
theorem percents_share_out {entries : List (α × Nat)} (h : percents entries = 100) (key : String) :
    let b := Hash.bucket (key ++ Hash.variantSalt)
    ∃ before item k after, entries = before ++ (item, k) :: after ∧ percents before ≤ b ∧
      b < percents before + k ∧ FallsOn b before item
        (select (percentEntries entries) (.float (Hash.variantPosition key))) := by
  intro b
  have hb : b < 100 := Hash.bucket_lt _
  have hpassed : (Hash.share b).toSingle.lt (runningTotal ([] : List (α × Nat))) = false := by
    rw [Hash.toSingle_share hb.le]
    show (Double.finite _).lt (.finite 0) = false
    rw [Double.lt_of_value rfl rfl, decide_eq_false_iff_not]
    exact not_lt.2 (kept_nonneg (by positivity))
  have hsum : percents ([] : List (α × Nat)) + percents entries = 100 := (Nat.zero_add _).trans h
  exact walk_percents hb entries [] none hsum (Nat.zero_le b) hpassed

/-- Ten, twenty and seventy percent: the total of the first two is their exact sum, so bucket thirty
falls on the third arm. -/
theorem percents_share_out_on_boundary :
    let entries := [("a", 10), ("b", 20), ("c", 70)]
    percents entries = 100 ∧ Hash.bucket ("u88test-flag" ++ Hash.variantSalt) = 30 ∧
      ∃ before item k after, entries = before ++ (item, k) :: after ∧ percents before ≤ 30 ∧
        30 < percents before + k ∧ FallsOn 30 before item
          (select (percentEntries entries) (.float (Hash.variantPosition "u88test-flag"))) := by
  intro entries
  have hb : Hash.bucket ("u88test-flag" ++ Hash.variantSalt) = 30 := by decide +kernel
  have h100 : percents entries = 100 := rfl
  have hs := percents_share_out h100 "u88test-flag"
  rw [hb] at hs
  exact ⟨rfl, hb, hs⟩

/-- The first bucket of an arm is not always its own. Of thirty and forty percent the running total
comes out above seventy, and bucket seventy falls on the second arm. -/
theorem first_bucket_lost : ¬ ∀ (before after : List (String × Nat)) (item : String) (k : Nat)
    (key : String), percents (before ++ (item, k) :: after) = 100 →
    percents before ≤ Hash.bucket (key ++ Hash.variantSalt) →
    Hash.bucket (key ++ Hash.variantSalt) < percents before + k →
    select (percentEntries (before ++ (item, k) :: after)) (.float (Hash.variantPosition key)) =
      .ok (some item) := by
  intro h
  have hc := h [("a", 30), ("b", 40)] [] "c" 30 "user-5test-flag" rfl (by decide +kernel)
    (by decide +kernel)
  have hb : (select (percentEntries [("a", 30), ("b", 40), ("c", 30)])
      (.float (Hash.variantPosition "user-5test-flag"))).toOption = some (some "b") := by
    decide +kernel
  rw [List.cons_append, List.cons_append, List.nil_append] at hc
  rw [hc] at hb
  exact absurd hb (by decide)

end StagedRollout.Decision
