/-
Headers of traces, read and written. A text is read if hyphens part it into the version and three
numerals of 32, 16 and two characters; of these texts, those with nothing but hyphens and digits are the
headers of the plain grammar. What is written for a parent of plain digits is such a header and is read
back, so the two numbers of a trace and a span can be had again from their header.
-/
import StagedRollout.Trace
import StagedRollout.Proofs.Text.Hexadecimal

namespace StagedRollout.TraceParent

open Text (IsSplit IsHexDigit IsHexNumeral IsHexRun)

/-! ## Four parts -/

/-- The text of a header from its parts. -/
def joined (trace span flags : Text) : Text :=
  "00-" ++ trace ++ "-" ++ span ++ "-" ++ flags

theorem intercalate_eq (trace span flags : Text) :
    Text.intercalate "-" [version, trace, span, flags] = joined trace span flags := by
  rw [← Text.points_inj]
  simp [Text.intercalate, joined, version, Text.points]

theorem isSplit_iff {s trace span flags : Text} :
    IsSplit '-' s [version, trace, span, flags] ↔
      s = joined trace span flags ∧ '-' ∉ trace.chars ∧ '-' ∉ span.chars ∧ '-' ∉ flags.chars := by
  have hhyphen : ∀ {part : Text}, '-' ∉ part.chars ↔ .char '-' ∉ part.points :=
    not_congr (Text.mem_chars (by decide))
  have hversion : '-' ∉ Text.chars version := by decide
  simp only [hhyphen] at *
  constructor
  · rintro ⟨-, hplain, rfl⟩
    simp only [List.forall_mem_cons] at hplain
    obtain ⟨-, htrace, hspan, hflags, -⟩ := hplain
    exact ⟨intercalate_eq trace span flags, htrace, hspan, hflags⟩
  · rintro ⟨rfl, htrace, hspan, hflags⟩
    refine ⟨List.cons_ne_nil _ _, ?_, intercalate_eq trace span flags⟩
    simp only [List.forall_mem_cons]
    exact ⟨hversion, htrace, hspan, hflags, fun _ => nofun⟩

/-- A part of a header: a numeral of some characters, none of them a hyphen. -/
structure IsPart (length : Nat) (part : Text) (n : Int) : Prop where
  length_eq : part.length = length
  plain : '-' ∉ part.chars
  numeral : IsHexNumeral (part.chars.map Text.plainChar) n

theorem isPart_iff {length : Nat} {part : Text} {n : Int} :
    IsPart length part n ↔ '-' ∉ part.chars ∧ part? length part = some n := by
  unfold part?
  rw [Option.ite_none_right_eq_some, Text.readInt?_eq_some_iff]
  exact ⟨fun h => ⟨h.plain, h.length_eq, h.numeral⟩, fun h => ⟨h.2.1, h.1, h.2.2⟩⟩

/-- A text is read if it is made of the version and three parts. -/
theorem ofText?_eq_some_iff {s : Text} {t : TraceParent} :
    ofText? s = some t ↔ ∃ trace span flags i j n, s = joined trace span flags ∧
      IsPart 32 trace i ∧ IsPart 16 span j ∧ IsPart 2 flags n ∧
      t = ⟨.text trace, .text span, .int n⟩ := by
  simp only [isPart_iff]
  constructor
  · intro h
    unfold ofText? at h
    split at h
    · rename_i v trace span flags hsplit
      split at h
      · rename_i hv
        subst hv
        obtain ⟨hs, htrace, hspan, hflags⟩ := isSplit_iff.1 (Text.split_eq_iff.1 hsplit)
        obtain ⟨i, hi, h⟩ := Option.bind_eq_some_iff.1 h
        obtain ⟨j, hj, h⟩ := Option.bind_eq_some_iff.1 h
        obtain ⟨n, hn, h⟩ := Option.bind_eq_some_iff.1 h
        cases h
        exact ⟨trace, span, flags, i, j, n, hs, ⟨htrace, hi⟩, ⟨hspan, hj⟩, ⟨hflags, hn⟩, rfl⟩
      · cases h
    · cases h
  · rintro ⟨trace, span, flags, i, j, n, hs, ⟨htrace, hi⟩, ⟨hspan, hj⟩, ⟨hflags, hn⟩, rfl⟩
    have hsplit := Text.split_eq_iff.2 (isSplit_iff.2 ⟨hs, htrace, hspan, hflags⟩)
    unfold ofText?
    rw [hsplit]
    show (if version = version then _ else none) = _
    rw [if_pos rfl, hi, hj, hn]
    rfl

/-! ## Plain headers -/

theorem IsPart.of_isHexRun {length : Nat} {part : Text} (h : IsHexRun length part)
    (hlength : length ≠ 0) : IsPart length part (Text.digitsValue 16 part.chars) where
  length_eq := h.length_eq
  plain := fun hm => absurd (h.digits _ hm) (by decide)
  numeral := Text.readInt?_eq_some_iff.1 (h.readInt?_eq hlength)

/-- A plain header and its parent: the version and 32, 16 and two digits, parted by hyphens. -/
def IsPlainHeader (s : Text) (t : TraceParent) : Prop :=
  ∃ trace span flags, s = joined trace span flags ∧ IsHexRun 32 trace ∧ IsHexRun 16 span ∧
    IsHexRun 2 flags ∧ t = ⟨.text trace, .text span, .int (Text.digitsValue 16 flags.chars)⟩

theorem IsPlainHeader.ofText?_eq {s : Text} {t : TraceParent} (h : IsPlainHeader s t) :
    ofText? s = some t := by
  obtain ⟨trace, span, flags, hs, htrace, hspan, hflags, rfl⟩ := h
  exact ofText?_eq_some_iff.2 ⟨trace, span, flags, _, _, _, hs, .of_isHexRun htrace (by decide),
    .of_isHexRun hspan (by decide), .of_isHexRun hflags (by decide), rfl⟩

theorem forall_mem_joined {P : Char → Prop} (hzero : P '0') (hhyphen : P '-')
    {trace span flags : Text} : (∀ c ∈ (joined trace span flags).chars, P c) ↔
      (∀ c ∈ trace.chars, P c) ∧ (∀ c ∈ span.chars, P c) ∧ ∀ c ∈ flags.chars, P c := by
  have hchars : (joined trace span flags).chars =
      '0' :: '0' :: '-' :: (trace.chars ++ '-' :: (span.chars ++ '-' :: flags.chars)) := by
    simp [joined]
  simp only [hchars, List.forall_mem_append, List.forall_mem_cons, hzero, hhyphen, true_and]

/-- The characters of a plain header are hyphens and digits. -/
theorem IsPlainHeader.forall_mem {s : Text} {t : TraceParent} (h : IsPlainHeader s t) :
    ∀ c ∈ s.chars, c = '-' ∨ IsHexDigit c := by
  obtain ⟨trace, span, flags, rfl, htrace, hspan, hflags, -⟩ := h
  exact (forall_mem_joined (by decide) (by decide)).2 ⟨fun c hc => .inr (htrace.digits c hc),
    fun c hc => .inr (hspan.digits c hc), fun c hc => .inr (hflags.digits c hc)⟩

/-- A part without other characters than digits is a run of them and makes its number. -/
theorem IsPart.isHexRun {length : Nat} {part : Text} {n : Int} (h : IsPart length part n)
    (hlength : length ≠ 0) (hchars : ∀ c ∈ part.chars, c = '-' ∨ IsHexDigit c) :
    IsHexRun length part ∧ n = Text.digitsValue 16 part.chars := by
  have hrun : IsHexRun length part := by
    refine ⟨h.length_eq, fun c hc => ?_⟩
    rcases hchars c hc with rfl | hdigit
    · exact absurd hc h.plain
    · exact hdigit
  have hread := (Text.readInt?_eq_some_iff.2 h.numeral).symm.trans (hrun.readInt?_eq hlength)
  exact ⟨hrun, Option.some.inj hread⟩

/-- A text is read just if it is the version and three numerals of 32, 16 and two characters, parted by
hyphens, and what is read are the first two and the number of the third. The plain headers are those of
these texts that have no other characters than hyphens and digits. -/
theorem header_is_three_numerals (s : Text) (t : TraceParent) :
    (ofText? s = some t ↔ ∃ trace span flags i j n, s = joined trace span flags ∧
      IsPart 32 trace i ∧ IsPart 16 span j ∧ IsPart 2 flags n ∧
      t = ⟨.text trace, .text span, .int n⟩) ∧
    (IsPlainHeader s t ↔ ofText? s = some t ∧ ∀ c ∈ s.chars, c = '-' ∨ IsHexDigit c) := by
  refine ⟨ofText?_eq_some_iff, fun h => ⟨h.ofText?_eq, h.forall_mem⟩, fun ⟨h, hchars⟩ => ?_⟩
  obtain ⟨trace, span, flags, i, j, n, rfl, hi, hj, hn, rfl⟩ := ofText?_eq_some_iff.1 h
  obtain ⟨htrace, hspan, hflags⟩ := (forall_mem_joined (by decide) (by decide)).1 hchars
  obtain ⟨hflagsRun, rfl⟩ := hn.isHexRun (by decide) hflags
  exact ⟨trace, span, flags, rfl, (hi.isHexRun (by decide) htrace).1,
    (hj.isHexRun (by decide) hspan).1, hflagsRun, rfl⟩

/-- A mark of the base in the place of two digits, and a sign in the place of one, are read as well. -/
theorem mark_and_sign_are_read :
    let s : Text := "00-0xf7651916cd43dd8448eb211c80319c-b7ad6b7169203331-+1"
    ofText? s = some ⟨.text "0xf7651916cd43dd8448eb211c80319c", .text "b7ad6b7169203331", .int 1⟩ ∧
      ∀ t, ¬ IsPlainHeader s t := by
  intro s
  have htrace : IsPart 32 "0xf7651916cd43dd8448eb211c80319c" 0xf7651916cd43dd8448eb211c80319c :=
    isPart_iff.2 (by decide +kernel)
  have hspan : IsPart 16 "b7ad6b7169203331" 0xb7ad6b7169203331 := isPart_iff.2 (by decide +kernel)
  have hflags : IsPart 2 "+1" 1 := isPart_iff.2 (by decide +kernel)
  refine ⟨ofText?_eq_some_iff.2 ⟨_, _, _, _, _, _, by decide, htrace, hspan, hflags, rfl⟩,
    fun t h => ?_⟩
  have hmark : 'x' ∈ s.chars := by decide
  exact absurd (h.forall_mem 'x' hmark) (by decide)

/-! ## Writing and reading back -/

/-- The number that flags are: a truth value is 0 or 1. -/
def flagNumber? : Value → Option Int
  | .bool b => some (if b then 1 else 0)
  | .int n => some n
  | _ => none

theorem text_eq {trace span : Text} {flags : Value} {n : Int} (h : flagNumber? flags = some n) :
    text ⟨.text trace, .text span, flags⟩ = .ok (joined trace span (flagDigits n)) := by
  have hflags : flagText flags = .ok (flagDigits n) := by
    cases flags with
    | bool => cases h; rfl
    | int => cases h; rfl
    | _ => cases h
  rw [← intercalate_eq, text, hflags]
  rfl

/-- What is written for digits and flags that fit into two of them is a plain header. -/
theorem isPlainHeader_joined {trace span : Text} (htrace : IsHexRun 32 trace)
    (hspan : IsHexRun 16 span) {n : Nat} (hn : n ≤ 255) :
    IsPlainHeader (joined trace span (flagDigits n)) ⟨.text trace, .text span, .int n⟩ := by
  have hdigits : flagDigits n = Text.hexPadded 2 n := if_neg (by omega)
  obtain ⟨hrun, hvalue⟩ := Text.hexPadded_spec 2 n (by decide) (by omega)
  rw [hdigits]
  refine ⟨trace, span, _, rfl, htrace, hspan, hrun, ?_⟩
  rw [hvalue]

/-- The header of numbers that fit is read back, and its parts make the numbers. -/
theorem text_ofNumbers (i : Fin (2 ^ 128)) (j : Fin (2 ^ 64)) : ∃ s trace span,
    text (ofNumbers i j) = .ok s ∧ ofText? s = some ⟨.text trace, .text span, .int 1⟩ ∧
      Text.readInt? 16 trace = some (i.val : Int) ∧ Text.readInt? 16 span = some (j.val : Int) := by
  obtain ⟨htrace, hi⟩ := Text.hexPadded_spec 32 i (by decide) (by omega)
  obtain ⟨hspan, hj⟩ := Text.hexPadded_spec 16 j (by decide) (by omega)
  have hheader := isPlainHeader_joined htrace hspan (n := 1) (by decide)
  refine ⟨_, _, _, text_eq rfl, hheader.ofText?_eq, ?_, ?_⟩
  · rw [htrace.readInt?_eq (by decide), hi]
  · rw [hspan.readInt?_eq (by decide), hj]

/-- A header that is written for a parent of plain digits and whole flags up to 255 reads back as that
parent, and one that is written for two numbers as a parent whose parts make these numbers, so no two
pairs of numbers have one header. -/
theorem headers_read_back :
    (∀ {trace span : Text} {flags : Value} {n : Nat}, IsHexRun 32 trace → IsHexRun 16 span →
      flagNumber? flags = some n → n ≤ 255 → ∃ s, text ⟨.text trace, .text span, flags⟩ = .ok s ∧
        ofText? s = some ⟨.text trace, .text span, .int n⟩) ∧
    (∀ (i : Fin (2 ^ 128)) (j : Fin (2 ^ 64)), ∃ s trace span,
      text (ofNumbers i j) = .ok s ∧ ofText? s = some ⟨.text trace, .text span, .int 1⟩ ∧
        Text.readInt? 16 trace = some (i.val : Int) ∧ Text.readInt? 16 span = some (j.val : Int)) ∧
    Function.Injective fun p : Fin (2 ^ 128) × Fin (2 ^ 64) => text (ofNumbers p.1 p.2) := by
  refine ⟨fun htrace hspan hflags hn => ?_, text_ofNumbers, fun p q h => ?_⟩
  · exact ⟨_, text_eq hflags, (isPlainHeader_joined htrace hspan hn).ofText?_eq⟩
  · obtain ⟨s, trace, span, hs, hread, hi, hj⟩ := text_ofNumbers p.1 p.2
    obtain ⟨s', trace', span', hs', hread', hi', hj'⟩ := text_ofNumbers q.1 q.2
    cases hs.symm.trans (h.trans hs')
    cases hread.symm.trans hread'
    have htrace := Option.some.inj (hi.symm.trans hi')
    have hspan := Option.some.inj (hj.symm.trans hj')
    exact Prod.ext (Fin.ext (Int.ofNat_inj.1 htrace)) (Fin.ext (Int.ofNat_inj.1 hspan))

/-- Capital digits are kept, and the greatest flags are written in two small ones. -/
theorem headers_read_back_with_capitals :
    let t : TraceParent :=
      ⟨.text "0AF7651916cd43dd8448eb211c80319C", .text "B7ad6b7169203331", .int 255⟩
    let s : Text := "00-0AF7651916cd43dd8448eb211c80319C-B7ad6b7169203331-ff"
    IsHexRun 32 "0AF7651916cd43dd8448eb211c80319C" ∧ IsHexRun 16 "B7ad6b7169203331" ∧
      text t = .ok s ∧ ofText? s = some t := by
  intro t s
  have htrace : IsHexRun 32 "0AF7651916cd43dd8448eb211c80319C" := by decide
  have hspan : IsHexRun 16 "B7ad6b7169203331" := by decide
  have hs : text t = .ok s := (text_eq rfl).trans (congrArg Except.ok (by decide))
  have hflags : flagNumber? (.int 255) = some ((255 : Nat) : Int) := rfl
  obtain ⟨s', hs', hread⟩ := headers_read_back.1 htrace hspan hflags (by decide)
  cases hs'.symm.trans hs
  exact ⟨htrace, hspan, hs, hread⟩

end StagedRollout.TraceParent
