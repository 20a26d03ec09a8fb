/-
The fuel of the reader of JSON texts. Every part that is read takes some of the text, and goes through no
more than two readers before it does, so that twice the length of a text is fuel enough: with more of it
every text is read alike.
-/
import StagedRollout.Json.Reader
import StagedRollout.Proofs.Outcome

namespace StagedRollout.Json

variable {ps rest : List Point}

/-! ## Strings and numbers take some of the text -/

theorem length_skipSpace (ps : List Point) : (skipSpace ps).length ≤ ps.length :=
  (List.dropWhile_sublist isSpace).length_le

theorem hex4?_shorter {n : Nat} (h : hex4? ps = some (n, rest)) : rest.length ≤ ps.length := by
  unfold hex4? at h
  dsimp only at h
  split at h
  · cases h
    rw [List.length_drop]
    omega
  · cases h

theorem lowHalf?_shorter {n : Nat} (h : lowHalf? ps = some (n, rest)) : rest.length ≤ ps.length := by
  unfold lowHalf? at h
  split at h
  · split at h
    · rename_i m left hleft
      split at h
      · cases h
        have hl := hex4?_shorter hleft
        simp only [List.length_cons]
        omega
      · cases h
    · cases h
  · cases h

theorem numbered?_shorter {p : Point} (h : numbered? ps = some (p, rest)) :
    rest.length ≤ ps.length := by
  unfold numbered? at h
  obtain ⟨⟨n, left⟩, hleft, h⟩ := Option.bind_eq_some_iff.1 h
  have hl := hex4?_shorter hleft
  dsimp only at h
  split at h
  · rename_i m after hafter
    obtain ⟨_, -, h⟩ := Option.bind_eq_some_iff.1 h
    cases h
    split at hafter
    · exact Nat.le_trans (lowHalf?_shorter hafter) hl
    · cases hafter
  · obtain ⟨_, -, h⟩ := Option.bind_eq_some_iff.1 h
    cases h
    exact hl

theorem string?_shorter {fuel : Nat} {s : List Point} (h : string? fuel ps = some (s, rest)) :
    rest.length < ps.length := by
  induction fuel generalizing ps s with
  | zero => cases h
  | succ fuel ih =>
    unfold string? at h
    split at h
    · cases h
    · cases h
      simp
    · obtain ⟨⟨p, left⟩, hleft, h⟩ := Option.bind_eq_some_iff.1 h
      obtain ⟨⟨t, after⟩, hafter, h⟩ := Option.bind_eq_some_iff.1 h
      cases h
      have hn := numbered?_shorter hleft
      have hi := ih hafter
      rw [List.length_cons, List.length_cons]
      omega
    · obtain ⟨c, -, h⟩ := Option.bind_eq_some_iff.1 h
      obtain ⟨⟨t, after⟩, hafter, h⟩ := Option.bind_eq_some_iff.1 h
      cases h
      exact Nat.lt_succ_of_lt (Nat.lt_succ_of_lt (ih hafter))
    · split at h
      · cases h
      · obtain ⟨⟨t, after⟩, hafter, h⟩ := Option.bind_eq_some_iff.1 h
        cases h
        exact Nat.lt_succ_of_lt (ih hafter)

/-- A reader that leaves less of every text than it was given. -/
def Takes {α : Type} (read : List Point → Except Fault (α × List Point)) : Prop :=
  ∀ ps a rest, read ps = .ok (a, rest) → rest.length < ps.length

theorem string_takes : Takes string := by
  intro ps s rest h
  unfold string at h
  split at h
  · rename_i t left hleft
    cases h
    exact string?_shorter hleft
  · cases h

theorem length_afterDigits (ps : List Point) : (afterDigits ps).length ≤ ps.length :=
  (List.dropWhile_sublist isDigit).length_le

theorem afterDigits_shorter (h : (digits ps).isEmpty = false) :
    (afterDigits ps).length < ps.length := by
  unfold digits at h
  have hsum := congrArg List.length (List.takeWhile_append_dropWhile (p := isDigit) (l := ps))
  rw [List.length_append] at hsum
  have hpos : 0 < (ps.takeWhile isDigit).length := by
    rw [List.isEmpty_eq_false_iff, Ne, List.map_eq_nil_iff] at h
    exact List.length_pos_iff.2 h
  unfold afterDigits
  omega

theorem wholePart?_shorter {ds : List Char} (h : wholePart? ps = some (ds, rest)) :
    rest.length < ps.length := by
  unfold wholePart? at h
  split at h
  · cases h
    simp
  · split at h
    · cases h
    · rename_i hd
      cases h
      exact afterDigits_shorter (eq_false_of_ne_true hd)

theorem fractionPart_shorter (ps : List Point) : (fractionPart ps).2.length ≤ ps.length := by
  unfold fractionPart
  split
  · split
    · exact Nat.le_refl _
    · exact Nat.le_trans (length_afterDigits _) (Nat.le_succ _)
  · exact Nat.le_refl _

theorem splitSign_shorter (ps : List Point) : (splitSign ps).2.length ≤ ps.length := by
  unfold splitSign
  split
  · exact Nat.le_succ _
  · exact Nat.le_succ _
  · exact Nat.le_refl _

theorem exponentPart_shorter (ps : List Point) : (exponentPart ps).2.length ≤ ps.length := by
  unfold exponentPart
  split
  · dsimp only
    split
    · exact Nat.le_trans (length_afterDigits _) (Nat.le_succ_of_le (splitSign_shorter _))
    · exact Nat.le_refl _
  · exact Nat.le_refl _

theorem number_takes (negative : Bool) : Takes (number negative) := by
  intro ps v rest h
  unfold number at h
  split at h
  · cases h
  · rename_i ds left hleft
    have hw := wholePart?_shorter hleft
    have hf := fractionPart_shorter left
    have he := exponentPart_shorter (fractionPart left).2
    have hrest : rest = (exponentPart (fractionPart left).2).2 := by
      dsimp only at h
      split at h
      · obtain ⟨n, -, h⟩ := bind_ok h
        cases h
        rfl
      · cases h
        rfl
    rw [hrest]
    omega

theorem atom_takes : Takes atom := by
  intro ps v rest h
  unfold atom at h
  split at h
  · rename_i w hw
    cases h
    -- a word is at the start of the text, and no word is empty
    have hprefix : w.1 <+: ps :=
      List.isPrefixOf_iff_prefix.1 (List.find?_some (p := fun w : List Point × Value => w.1.isPrefixOf ps) hw)
    have hword : ∀ w ∈ words, 0 < w.1.length := by decide +kernel
    have hpos := hword w (List.mem_of_find?_eq_some hw)
    have hle := hprefix.length_le
    rw [List.length_drop]
    omega
  · split at h
    · exact Nat.lt_succ_of_lt (number_takes true _ v rest h)
    · exact number_takes false _ v rest h

/-! ## So do values -/

section Takes

variable {fuel room : Nat}

theorem value_takes (hi : ∀ room, Takes (items fuel room)) (hr : ∀ room, Takes (rows fuel room)) :
    Takes (value (fuel + 1) room) := by
  intro ps v rest h
  unfold value at h
  split at h
  · obtain ⟨⟨s, left⟩, hleft, h⟩ := bind_ok h
    cases h
    exact Nat.lt_succ_of_lt (string_takes _ s _ hleft)
  · rename_i inner
    have hs := length_skipSpace inner
    rw [List.length_cons]
    split at h
    · cases h
    · split at h
      · rename_i after hafter
        cases h
        rw [hafter, List.length_cons] at hs
        omega
      · obtain ⟨⟨vs, left⟩, hleft, h⟩ := bind_ok h
        cases h
        have ht := hi _ _ vs _ hleft
        omega
  · rename_i inner
    have hs := length_skipSpace inner
    rw [List.length_cons]
    split at h
    · cases h
    · split at h
      · rename_i after hafter
        cases h
        rw [hafter, List.length_cons] at hs
        omega
      · obtain ⟨⟨members, left⟩, hleft, h⟩ := bind_ok h
        cases h
        have ht := hr _ _ members _ hleft
        omega
  · exact atom_takes _ v rest h

theorem items_takes (hv : Takes (value fuel room)) (hi : Takes (items fuel room)) :
    Takes (items (fuel + 1) room) := by
  intro ps vs rest h
  unfold items at h
  obtain ⟨⟨v, left⟩, hleft, h⟩ := bind_ok h
  have ht := hv ps v left hleft
  have hs := length_skipSpace left
  dsimp only at h
  split at h
  · rename_i after hafter
    obtain ⟨⟨ws, last⟩, hlast, h⟩ := bind_ok h
    cases h
    have hu := hi _ ws last hlast
    have hw := length_skipSpace after
    rw [hafter, List.length_cons] at hs
    show last.length < _
    omega
  · rename_i after hafter
    cases h
    rw [hafter, List.length_cons] at hs
    omega
  · cases h

theorem rows_takes (hv : Takes (value fuel room)) (hr : Takes (rows fuel room)) :
    Takes (rows (fuel + 1) room) := by
  intro ps members rest h
  unfold rows at h
  split at h
  · obtain ⟨⟨key, left⟩, hleft, h⟩ := bind_ok h
    have hk := string_takes _ key left hleft
    have hs := length_skipSpace left
    dsimp only at h
    split at h
    · rename_i value hvalue
      obtain ⟨⟨v, after⟩, hafter, h⟩ := bind_ok h
      have ht := hv _ v after hafter
      have hw := length_skipSpace value
      have hu := length_skipSpace after
      rw [hvalue, List.length_cons] at hs
      rw [List.length_cons]
      dsimp only at h
      split at h
      · rename_i more hmore
        obtain ⟨⟨others, last⟩, hlast, h⟩ := bind_ok h
        cases h
        have hl := hr _ others last hlast
        have hm := length_skipSpace more
        rw [hmore, List.length_cons] at hu
        show last.length < _
        omega
      · rename_i more hmore
        cases h
        rw [hmore, List.length_cons] at hu
        omega
      · cases h
    · cases h
  · cases h

theorem parts_take (fuel : Nat) : ∀ room,
    Takes (value fuel room) ∧ Takes (items fuel room) ∧ Takes (rows fuel room) := by
  induction fuel with
  | zero => exact fun room => ⟨nofun, nofun, nofun⟩
  | succ fuel ih =>
    exact fun room => ⟨value_takes (fun room => (ih room).2.1) fun room => (ih room).2.2,
      items_takes (ih room).1 (ih room).2.1, rows_takes (ih room).1 (ih room).2.2⟩

end Takes

/-! ## More fuel -/

/-- A string is read alike with any fuel that is more than its length. -/
theorem string?_of_lt {fuel more : Nat} (h : ps.length < fuel) (h' : ps.length < more) :
    string? fuel ps = string? more ps := by
  induction fuel generalizing more ps with
  | zero => cases h
  | succ fuel ih =>
    obtain ⟨more, rfl⟩ : ∃ n, more = n + 1 := ⟨more - 1, by omega⟩
    unfold string?
    split
    · rfl
    · rfl
    · rw [List.length_cons, List.length_cons] at h h'
      refine Option.bind_congr fun ⟨p, left⟩ hleft => ?_
      have hn := numbered?_shorter hleft
      dsimp only
      rw [@ih left more (by omega) (by omega)]
    · rename_i after _
      rw [List.length_cons, List.length_cons] at h h'
      rw [@ih after more (by omega) (by omega)]
    · rename_i after _ _ _
      rw [List.length_cons] at h h'
      rw [@ih after more (by omega) (by omega)]

/-- Two readers that read every text below a length alike. -/
def SameBelow {β : Type} (n : Nat) (f g : List Point → β) : Prop :=
  ∀ ps, ps.length < n → f ps = g ps

section Fuel

variable {fuel more n room : Nat}

theorem value_same (hi : ∀ room, SameBelow n (items fuel room) (items more room))
    (hr : ∀ room, SameBelow n (rows fuel room) (rows more room)) :
    SameBelow (n + 1) (value (fuel + 1) room) (value (more + 1) room) := by
  intro ps h
  unfold value
  split
  · rfl
  · rename_i inner
    have hs := length_skipSpace inner
    rw [List.length_cons] at h
    split
    · rfl
    · split
      · rfl
      · rw [hi _ _ (by omega)]
  · rename_i inner
    have hs := length_skipSpace inner
    rw [List.length_cons] at h
    split
    · rfl
    · split
      · rfl
      · rw [hr _ _ (by omega)]
  · rfl

theorem items_same (hv : SameBelow (n + 1) (value fuel room) (value more room))
    (hi : SameBelow n (items fuel room) (items more room)) :
    SameBelow (n + 1) (items (fuel + 1) room) (items (more + 1) room) := by
  intro ps h
  unfold items
  rw [hv ps h]
  refine bind_congr_of_ok fun ⟨v, left⟩ hleft => ?_
  have ht := (parts_take more room).1 ps v left hleft
  have hs := length_skipSpace left
  dsimp only
  split
  · rename_i after hafter
    have hw := length_skipSpace after
    rw [hafter, List.length_cons] at hs
    rw [hi _ (by omega)]
  · rfl
  · rfl

theorem rows_same (hv : SameBelow n (value fuel room) (value more room))
    (hr : SameBelow n (rows fuel room) (rows more room)) :
    SameBelow (n + 1) (rows (fuel + 1) room) (rows (more + 1) room) := by
  intro ps h
  unfold rows
  split
  · rw [List.length_cons] at h
    refine bind_congr_of_ok fun ⟨key, left⟩ hleft => ?_
    have hk := string_takes _ key left hleft
    have hs := length_skipSpace left
    dsimp only
    split
    · rename_i value hvalue
      have hw := length_skipSpace value
      rw [hvalue, List.length_cons] at hs
      rw [hv _ (by omega)]
      refine bind_congr_of_ok fun ⟨v, after⟩ hafter => ?_
      have ht := (parts_take more room).1 _ v after hafter
      have hu := length_skipSpace after
      dsimp only
      split
      · rename_i rest hrest
        have hm := length_skipSpace rest
        rw [hrest, List.length_cons] at hu
        rw [hr _ (by omega)]
      · rfl
      · rfl
    · rfl
  · rfl

/-- Texts below a length are read alike with any fuel that is no less than twice the length; values and
members are content with one less. -/
theorem parts_same (n : Nat) : ∀ fuel more room,
    (2 * n ≤ fuel + 1 → 2 * n ≤ more + 1 → SameBelow n (value fuel room) (value more room)) ∧
    (2 * n ≤ fuel → 2 * n ≤ more → SameBelow n (items fuel room) (items more room)) ∧
    (2 * n ≤ fuel + 1 → 2 * n ≤ more + 1 → SameBelow n (rows fuel room) (rows more room)) := by
  induction n with
  | zero => exact fun fuel more room => ⟨fun _ _ _ => nofun, fun _ _ _ => nofun, fun _ _ _ => nofun⟩
  | succ n ih =>
    -- the value at the start of elements is as long as they are, so values come first
    have hvalue : ∀ fuel more room, 2 * n ≤ fuel → 2 * n ≤ more →
        SameBelow (n + 1) (value (fuel + 1) room) (value (more + 1) room) :=
      fun fuel more room h h' => value_same (fun room => (ih fuel more room).2.1 h h')
        fun room => (ih fuel more room).2.2 (by omega) (by omega)
    intro fuel more room
    refine ⟨fun h h' => ?_, fun h h' => ?_, fun h h' => ?_⟩
    · obtain ⟨f, rfl⟩ : ∃ f, fuel = f + 1 := ⟨fuel - 1, by omega⟩
      obtain ⟨m, rfl⟩ : ∃ m, more = m + 1 := ⟨more - 1, by omega⟩
      exact hvalue f m room (by omega) (by omega)
    · obtain ⟨f, rfl⟩ : ∃ f, fuel = f + 2 := ⟨fuel - 2, by omega⟩
      obtain ⟨m, rfl⟩ : ∃ m, more = m + 2 := ⟨more - 2, by omega⟩
      exact items_same (hvalue f m room (by omega) (by omega))
        ((ih _ _ room).2.1 (by omega) (by omega))
    · obtain ⟨f, rfl⟩ : ∃ f, fuel = f + 1 := ⟨fuel - 1, by omega⟩
      obtain ⟨m, rfl⟩ : ∃ m, more = m + 1 := ⟨more - 1, by omega⟩
      exact rows_same ((ih f m room).1 (by omega) (by omega))
        ((ih f m room).2.2 (by omega) (by omega))

end Fuel

/-- The fuel does not show: the value of a text is what it is with any more. -/
theorem ofPoints_of_le {fuel : Nat} (room : Nat) (h : 2 * (skipSpace ps).length + 1 ≤ fuel) :
    ofPoints room ps = (do
      let (v, rest) ← value fuel room (skipSpace ps)
      if (skipSpace rest).isEmpty then return v else .error .notJson) := by
  have hsame := ((parts_same ((skipSpace ps).length + 1) fuel (2 * (skipSpace ps).length + 1) room).1
    (by omega) (by omega)) (skipSpace ps) (Nat.lt_succ_self _)
  rw [hsame]
  rfl

end StagedRollout.Json
