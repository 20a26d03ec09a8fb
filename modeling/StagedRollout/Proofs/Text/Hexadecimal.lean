/-
Hexadecimal numerals. A number is read from blanks, a sign, a mark of the base and digits, of which
single underscores may part two, and from nothing else; digits of either case without any of these are
the plain way to write it. A number padded with zeros to a length that suffices for it is such a run of
digits, and is the number that the run makes.
-/
import StagedRollout.Proofs.Text.Reading
import StagedRollout.Text.Quoted
import Mathlib.Algebra.Group.Nat.Defs
import Mathlib.Data.List.TakeWhile

namespace StagedRollout.Text

/-! ## Digits -/

/-- A hexadecimal digit of either case. -/
def IsHexDigit (c : Char) : Prop :=
  ('0' ≤ c ∧ c ≤ '9') ∨ ('a' ≤ c ∧ c ≤ 'f') ∨ ('A' ≤ c ∧ c ≤ 'F')

instance (c : Char) : Decidable (IsHexDigit c) := inferInstanceAs (Decidable (_ ∨ _ ∨ _))

theorem isHexDigit_iff {c : Char} : IsHexDigit c ↔ (0x30 ≤ c.toNat ∧ c.toNat ≤ 0x39) ∨
    (0x61 ≤ c.toNat ∧ c.toNat ≤ 0x66) ∨ (0x41 ≤ c.toNat ∧ c.toNat ≤ 0x46) := Iff.rfl

theorem isDigitOf_sixteen {c : Char} : isDigitOf 16 c = true ↔ IsHexDigit c := by
  have hdecimal : ('0' ≤ c ∧ c ≤ '9') ↔ 0x30 ≤ c.toNat ∧ c.toNat ≤ 0x39 := Iff.rfl
  have hsmall : ('a' ≤ c ∧ c ≤ 'z') ↔ 0x61 ≤ c.toNat ∧ c.toNat ≤ 0x7a := Iff.rfl
  have hcapital : ('A' ≤ c ∧ c ≤ 'Z') ↔ 0x41 ≤ c.toNat ∧ c.toNat ≤ 0x5a := Iff.rfl
  simp only [isDigitOf, digitValue, hdecimal, hsmall, hcapital, decide_eq_true_eq, isHexDigit_iff]
  split_ifs <;> omega

theorem isPlainSpace_iff {c : Char} :
    isPlainSpace c = true ↔ c.toNat = 0x20 ∨ (0x09 ≤ c.toNat ∧ c.toNat ≤ 0x0d) := by
  have hspace : c = ' ' ↔ c.toNat = 0x20 := Char.toNat_inj.symm
  simp only [isPlainSpace, hspace, Bool.or_eq_true, Bool.and_eq_true, decide_eq_true_eq]

theorem IsHexDigit.isPlainSpace_eq {c : Char} (h : IsHexDigit c) : isPlainSpace c = false := by
  rw [isHexDigit_iff] at h
  rw [← Bool.not_eq_true, isPlainSpace_iff]
  omega

/-! ## Digits in groups -/

/-- Digits with single underscores between some of them, and the digits alone. -/
inductive IsGrouped : List Char → List Char → Prop
  | last {c : Char} (hc : IsHexDigit c) : IsGrouped [c] [c]
  | next {c : Char} {cs ds : List Char} (hc : IsHexDigit c) (h : IsGrouped cs ds) :
    IsGrouped (c :: cs) (c :: ds)
  | gap {c : Char} {cs ds : List Char} (hc : IsHexDigit c) (h : IsGrouped cs ds) :
    IsGrouped (c :: '_' :: cs) (c :: ds)

/-- Groups begin with a digit. -/
theorem IsGrouped.exists_cons {cs ds : List Char} (h : IsGrouped cs ds) :
    ∃ c rest, cs = c :: rest ∧ IsHexDigit c := by
  cases h with
  | last hc => exact ⟨_, _, rfl, hc⟩
  | next hc => exact ⟨_, _, rfl, hc⟩
  | gap hc => exact ⟨_, _, rfl, hc⟩

theorem IsGrouped.forall_mem {cs ds : List Char} (h : IsGrouped cs ds) :
    ∀ c ∈ cs, IsHexDigit c ∨ c = '_' := by
  induction h with
  | last hc => exact List.forall_mem_singleton.2 (.inl hc)
  | next hc _ ih => exact List.forall_mem_cons.2 ⟨.inl hc, ih⟩
  | gap hc _ ih => exact List.forall_mem_cons.2 ⟨.inl hc, List.forall_mem_cons.2 ⟨.inr rfl, ih⟩⟩

theorem isGrouped_of_digits {cs : List Char} (hne : cs ≠ []) (h : ∀ c ∈ cs, IsHexDigit c) :
    IsGrouped cs cs := by
  induction cs with
  | nil => exact absurd rfl hne
  | cons c rest ih =>
    obtain ⟨hc, hrest⟩ := List.forall_mem_cons.1 h
    cases rest with
    | nil => exact .last hc
    | cons d more => exact .next hc (ih (List.cons_ne_nil _ _) hrest)

theorem joinDigits?_eq_some_iff {cs ds : List Char} :
    joinDigits? 16 cs = some ds ↔ IsGrouped cs ds := by
  constructor
  · intro h
    fun_induction joinDigits? 16 cs generalizing ds with
    | case1 => cases h
    | case2 c hc =>
      cases h
      exact .last (isDigitOf_sixteen.1 hc)
    | case3 => cases h
    | case4 c rest hc ih =>
      obtain ⟨es, hes, rfl⟩ := Option.map_eq_some_iff.1 h
      exact .gap (isDigitOf_sixteen.1 hc) (ih hes)
    | case5 => cases h
    | case6 c rest _ _ hc ih =>
      obtain ⟨es, hes, rfl⟩ := Option.map_eq_some_iff.1 h
      exact .next (isDigitOf_sixteen.1 hc) (ih hes)
    | case7 => cases h
  · intro h
    induction h with
    | last hc => rw [joinDigits?, if_pos (isDigitOf_sixteen.2 hc)]
    | next hc h ih =>
      obtain ⟨d, rest, rfl, hd⟩ := h.exists_cons
      have hgap : d ≠ '_' := by
        rintro rfl
        exact absurd hd (by decide)
      rw [joinDigits?, if_pos (isDigitOf_sixteen.2 hc), ih]
      · rfl
      all_goals simp [hgap]
    | gap hc _ ih =>
      rw [joinDigits?, if_pos (isDigitOf_sixteen.2 hc), ih]
      rfl

/-! ## Numerals -/

/-- The signs, and whether they make a number negative. -/
def signs : List (List Char × Bool) := [([], false), (['+'], false), (['-'], true)]

/-- The marks of the base. -/
def hexMarks : List (List Char) :=
  [[], ['0', 'x'], ['0', 'X'], ['0', 'x', '_'], ['0', 'X', '_']]

/-- A numeral and its number: blanks, a sign, a mark, digits in groups, blanks. -/
inductive IsHexNumeral : List Char → Int → Prop
  | intro {before sign mark body digits after : List Char} {negative : Bool}
    (hbefore : ∀ c ∈ before, isPlainSpace c = true) (hafter : ∀ c ∈ after, isPlainSpace c = true)
    (hsign : (sign, negative) ∈ signs) (hmark : mark ∈ hexMarks) (hbody : IsGrouped body digits) :
    IsHexNumeral (before ++ (sign ++ (mark ++ body)) ++ after)
      (if negative then -(digitsValue 16 digits : Int) else digitsValue 16 digits)

theorem exists_trimList (p : Char → Bool) (cs : List Char) : ∃ before after,
    cs = before ++ trimList p cs ++ after ∧ (∀ c ∈ before, p c = true) ∧
      ∀ c ∈ after, p c = true := by
  refine ⟨cs.takeWhile p, ((cs.dropWhile p).reverse.takeWhile p).reverse, ?_,
    fun c hc => List.mem_takeWhile_imp hc, fun c hc => ?_⟩
  · rw [trimList, List.append_assoc, ← List.reverse_append, List.takeWhile_append_dropWhile,
      List.reverse_reverse, List.takeWhile_append_dropWhile]
  · exact List.mem_takeWhile_imp (List.mem_reverse.1 hc)

theorem trimList_append {p : Char → Bool} {before middle after : List Char} (hne : middle ≠ [])
    (hbefore : ∀ c ∈ before, p c = true) (hafter : ∀ c ∈ after, p c = true)
    (hmiddle : ∀ c ∈ middle, p c = false) : trimList p (before ++ middle ++ after) = middle := by
  obtain ⟨c, rest, rfl⟩ := List.exists_cons_of_ne_nil hne
  have hc : ¬ p c = true := ne_true_of_eq_false (hmiddle c List.mem_cons_self)
  have hreversed : ∀ d ∈ (c :: rest).reverse, p d = false := fun d hd =>
    hmiddle d (List.mem_reverse.1 hd)
  rw [trimList, List.append_assoc, List.dropWhile_append_of_pos hbefore, List.cons_append,
    List.dropWhile_cons_of_neg hc, ← List.cons_append, List.reverse_append,
    List.dropWhile_append_of_pos fun d hd => hafter d (List.mem_reverse.1 hd),
    dropWhile_of_none hreversed, List.reverse_reverse]

theorem exists_splitSign (cs : List Char) : ∃ sign, cs = sign ++ (splitSign cs).2 ∧
    (sign, (splitSign cs).1) ∈ signs := by
  have hplus : (['+'], false) ∈ signs := by decide
  have hminus : (['-'], true) ∈ signs := by decide
  unfold splitSign
  split
  · exact ⟨['-'], rfl, hminus⟩
  · exact ⟨['+'], rfl, hplus⟩
  · exact ⟨[], rfl, List.mem_cons_self⟩

theorem toLower_eq_x {c : Char} (h : c.toLower = 'x') : c = 'x' ∨ c = 'X' := by
  unfold Char.toLower at h
  split at h
  · have hv : c.val + 32 = 'X'.val + 32 := congrArg Char.val h
    exact .inr (Char.ext ((UInt32.add_left_inj 32).1 hv))
  · exact .inl h

theorem exists_dropMark (cs : List Char) : ∃ mark ∈ hexMarks, cs = mark ++ dropMark 16 cs := by
  unfold dropMark
  split
  · rename_i x rest
    split
    · rename_i hx
      have hx : x = 'x' ∨ x = 'X' := toLower_eq_x (Option.some.inj hx).symm
      split
      · rcases hx with rfl | rfl
        · exact ⟨['0', 'x', '_'], by decide, rfl⟩
        · exact ⟨['0', 'X', '_'], by decide, rfl⟩
      · rcases hx with rfl | rfl
        · exact ⟨['0', 'x'], by decide, rfl⟩
        · exact ⟨['0', 'X'], by decide, rfl⟩
    · exact ⟨[], by decide, rfl⟩
  · exact ⟨[], by decide, rfl⟩

section Groups

variable {body digits : List Char} (h : IsGrouped body digits)

include h

theorem IsGrouped.dropMark_eq {mark : List Char} (hmark : mark ∈ hexMarks) :
    dropMark 16 (mark ++ body) = body := by
  have hunmarked : dropMark 16 body = body := by
    unfold dropMark
    split
    · rename_i x rest
      refine if_neg fun hx => ?_
      -- the second character is a digit or an underscore
      have hchar := h.forall_mem x (List.mem_cons_of_mem _ List.mem_cons_self)
      rcases toLower_eq_x (Option.some.inj hx).symm with rfl | rfl
      · exact absurd hchar (by decide)
      · exact absurd hchar (by decide)
    · rfl
  obtain ⟨c, rest, rfl, hc⟩ := h.exists_cons
  have hungapped : ∀ x, baseMark? 16 = some x.toLower →
      dropMark 16 ('0' :: x :: c :: rest) = c :: rest := by
    intro x hx
    rw [dropMark, if_pos hx]
    intro more hmore
    cases hmore
    exact absurd hc (by decide)
  simp only [hexMarks, List.mem_cons, List.not_mem_nil, or_false] at hmark
  rcases hmark with rfl | rfl | rfl | rfl | rfl
  · exact hunmarked
  · exact hungapped 'x' rfl
  · exact hungapped 'X' rfl
  · rfl
  · rfl

theorem IsGrouped.splitSign_eq {sign mark : List Char} {negative : Bool}
    (hsign : (sign, negative) ∈ signs) (hmark : mark ∈ hexMarks) :
    splitSign (sign ++ (mark ++ body)) = (negative, mark ++ body) := by
  have hfirst : ∃ d tail, mark ++ body = d :: tail ∧ IsHexDigit d := by
    obtain ⟨c, rest, rfl, hc⟩ := h.exists_cons
    simp only [hexMarks, List.mem_cons, List.not_mem_nil, or_false] at hmark
    rcases hmark with rfl | rfl | rfl | rfl | rfl
    · exact ⟨c, rest, rfl, hc⟩
    all_goals exact ⟨'0', _, rfl, by decide⟩
  obtain ⟨d, tail, htext, hd⟩ := hfirst
  rw [htext]
  simp only [signs, List.mem_cons, List.not_mem_nil, or_false, Prod.mk.injEq] at hsign
  rcases hsign with ⟨rfl, rfl⟩ | ⟨rfl, rfl⟩ | ⟨rfl, rfl⟩
  · show splitSign (d :: tail) = (false, d :: tail)
    unfold splitSign
    split
    · rename_i hcons
      cases hcons
      exact absurd hd (by decide)
    · rename_i hcons
      cases hcons
      exact absurd hd (by decide)
    · rfl
  · rfl
  · rfl

theorem IsGrouped.isPlainSpace_eq {sign mark : List Char} {negative : Bool}
    (hsign : (sign, negative) ∈ signs) (hmark : mark ∈ hexMarks) :
    ∀ c ∈ sign ++ (mark ++ body), isPlainSpace c = false := by
  have hsigns : ∀ pair ∈ signs, ∀ c ∈ pair.1, isPlainSpace c = false := by
    simp [signs, isPlainSpace]
  have hmarks : ∀ mark ∈ hexMarks, ∀ c ∈ mark, isPlainSpace c = false := by
    simp [hexMarks, isPlainSpace]
  refine List.forall_mem_append.2 ⟨hsigns _ hsign, List.forall_mem_append.2 ⟨hmarks _ hmark, ?_⟩⟩
  intro c hc
  rcases h.forall_mem c hc with hdigit | rfl
  · exact hdigit.isPlainSpace_eq
  · rfl

end Groups

/-- A number is read from its numerals only. -/
theorem readInt?_eq_some_iff {s : Text} {n : Int} :
    readInt? 16 s = some n ↔ IsHexNumeral (s.chars.map plainChar) n := by
  constructor
  · intro h
    obtain ⟨before, after, htrim, hbefore, hafter⟩ :=
      exists_trimList isPlainSpace (s.chars.map plainChar)
    obtain ⟨sign, hrest, hsign⟩ := exists_splitSign (plainNumeral s)
    obtain ⟨mark, hmark, hbody⟩ := exists_dropMark (splitSign (plainNumeral s)).2
    obtain ⟨digits, hdigits, rfl⟩ := Option.map_eq_some_iff.1 h
    have hchars : s.chars.map plainChar = before ++ (sign ++ (mark ++
        dropMark 16 (splitSign (plainNumeral s)).2)) ++ after := by
      rw [← hbody, ← hrest]
      exact htrim
    rw [hchars]
    exact .intro hbefore hafter hsign hmark (joinDigits?_eq_some_iff.1 hdigits)
  · generalize hcs : s.chars.map plainChar = cs
    rintro ⟨hbefore, hafter, hsign, hmark, hbody⟩
    rename_i before sign mark body digits after negative
    have hne : sign ++ (mark ++ body) ≠ [] := by
      obtain ⟨c, rest, rfl, -⟩ := hbody.exists_cons
      simp
    have hplain : plainNumeral s = sign ++ (mark ++ body) := by
      rw [plainNumeral, hcs]
      exact trimList_append hne hbefore hafter (hbody.isPlainSpace_eq hsign hmark)
    rw [readInt?, hplain, hbody.splitSign_eq hsign hmark]
    show Option.map _ (joinDigits? 16 (dropMark 16 (mark ++ body))) = _
    rw [hbody.dropMark_eq hmark, joinDigits?_eq_some_iff.2 hbody]
    rfl

/-! ## Runs of digits -/

/-- A text of some length that holds digits only. -/
structure IsHexRun (length : Nat) (s : Text) : Prop where
  length_eq : s.length = length
  digits : ∀ c ∈ s.chars, IsHexDigit c

instance (length : Nat) (s : Text) : Decidable (IsHexRun length s) :=
  decidable_of_iff (s.length = length ∧ s.chars.all fun c => decide (IsHexDigit c)) <| by
    rw [List.all_eq_true]
    exact ⟨fun h => ⟨h.1, fun c hc => of_decide_eq_true (h.2 c hc)⟩,
      fun h => ⟨h.1, fun c hc => decide_eq_true (h.2 c hc)⟩⟩

/-- A run of digits is read as the number that they make. -/
theorem IsHexRun.readInt?_eq {length : Nat} {s : Text} (h : IsHexRun length s)
    (hlength : length ≠ 0) : readInt? 16 s = some (digitsValue 16 s.chars : Int) := by
  have hne : s.chars ≠ [] := by
    intro hnil
    rw [← h.length_eq, ← length_chars, hnil] at hlength
    exact hlength rfl
  have hplain : s.chars.map plainChar = s.chars := by
    refine (List.map_congr_left fun c hc => if_pos ?_).trans (List.map_id _)
    have hdigit := isHexDigit_iff.1 (h.digits c hc)
    omega
  rw [readInt?_eq_some_iff, hplain]
  have hblank : ∀ c ∈ ([] : List Char), isPlainSpace c = true := fun _ => nofun
  have hnumeral := IsHexNumeral.intro hblank hblank (List.mem_cons_self : ([], false) ∈ signs)
    (List.mem_cons_self : [] ∈ hexMarks) (isGrouped_of_digits hne h.digits)
  rwa [List.append_nil] at hnumeral

/-! ## Padded numbers -/

theorem digitsValue_snoc (base : Nat) (cs : List Char) (c : Char) :
    digitsValue base (cs ++ [c]) = digitsValue base cs * base + digitValue c := List.foldl_append

theorem digitsValue_zeros (base count : Nat) (cs : List Char) :
    digitsValue base (List.replicate count '0' ++ cs) = digitsValue base cs := by
  induction count with
  | zero => rfl
  | succ count ih =>
    rw [← ih, List.replicate_succ, List.cons_append, digitsValue, List.foldl_cons, Nat.zero_mul]
    rfl

/-- The digits of a number are hexadecimal ones and make it. -/
theorem toDigits_sixteen (n : Nat) :
    (∀ c ∈ Nat.toDigits 16 n, IsHexDigit c) ∧ digitsValue 16 (Nat.toDigits 16 n) = n := by
  have hdigit : ∀ d < 16, IsHexDigit d.digitChar ∧ digitValue d.digitChar = d := by decide
  induction n using Nat.strongRecOn with
  | ind n ih =>
    rcases Nat.lt_or_ge n 16 with hn | hn
    · obtain ⟨hd, hv⟩ := hdigit n hn
      rw [Nat.toDigits_of_lt_base hn]
      refine ⟨List.forall_mem_singleton.2 hd, ?_⟩
      rw [← List.nil_append [_], digitsValue_snoc, hv]
      exact Nat.zero_add n
    · obtain ⟨hds, hvs⟩ := ih (n / 16) (by omega)
      obtain ⟨hd, hv⟩ := hdigit (n % 16) (by omega)
      rw [Nat.toDigits_of_base_le (by decide) hn]
      refine ⟨List.forall_mem_append.2 ⟨hds, List.forall_mem_singleton.2 hd⟩, ?_⟩
      rw [digitsValue_snoc, hvs, hv]
      omega

/-- A number that fits into a length is padded to a run of that length, which makes the number. -/
theorem hexPadded_spec (length n : Nat) (hlength : 0 < length) (hn : n < 16 ^ length) :
    IsHexRun length (hexPadded length n) ∧ digitsValue 16 (chars (hexPadded length n)) = n := by
  obtain ⟨hdigits, hvalue⟩ := toDigits_sixteen n
  have hfits : (Nat.toDigits 16 n).length ≤ length :=
    (Nat.length_toDigits_le_iff (by decide) hlength).2 hn
  have hchars : chars (hexPadded length n) =
      List.replicate (length - (Nat.toDigits 16 n).length) '0' ++ Nat.toDigits 16 n :=
    (chars_plain _).trans String.toList_ofList
  refine ⟨⟨?_, ?_⟩, ?_⟩
  · rw [← length_chars, hchars, List.length_append, List.length_replicate]
    omega
  · rw [hchars]
    refine List.forall_mem_append.2 ⟨fun c hc => ?_, hdigits⟩
    rw [List.eq_of_mem_replicate hc]
    decide
  · rw [hchars, digitsValue_zeros, hvalue]

end StagedRollout.Text
