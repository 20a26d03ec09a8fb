/-
The two equalities of the rule language. Strict equality is decided and symmetric on all operands.
Loose equality takes nulls apart, compares operands of which one is numeric by the numbers that they
count as, and all others as values; a text that is no number, a list and an object count as no number
and equal none. What it cannot take is a whole number that has no double: the comparison fails with it,
where another operand that counts as no number makes the comparison false. Apart from that it is
decided and symmetric as well, and holds wherever strict equality does.
-/
import StagedRollout.Proofs.Flag.Refused
import StagedRollout.Proofs.Rule.Evaluation
import StagedRollout.Proofs.Value.Same

namespace StagedRollout

/-! ## Doubles -/

theorem Number.Format.round_ne_nan (f : Format) (x : Rat) : f.round x ≠ .nan := by
  unfold round
  dsimp only
  split_ifs <;> exact nofun

namespace Double

theorem eq_self_iff {x : Double} : x.eq x = true ↔ x ≠ .nan := by
  cases x <;> simp [eq, value?]

/-- The double nearest to an exact number. -/
def nearest : Double → Double
  | .finite x => Number.Format.double.round x
  | x => x

theorem eq_nearest {x y : Double} (h : x.eq y = true) : (nearest x).eq (nearest y) = true := by
  have hzero : Number.Format.double.round 0 = .finite 0 := by decide +kernel
  -- equal numbers are one number, but for the two zeros
  cases x <;> cases y <;> simp [eq, value?] at h
  · simp [nearest, eq, h]
  · simp [nearest, eq, value?]
  · simp [nearest, ← h, hzero, eq, value?]
  · simp [nearest, h, hzero, eq, value?]
  · rw [h]
    exact eq_self_iff.2 (Number.Format.round_ne_nan _ _)

end Double

/-- A value as an operand can be: no object in it has a key twice, and if it is a finite number that is
kept as a double, it is one. -/
structure Value.IsOperand (v : Value) : Prop where
  keyed : v.IsKeyed
  double : ∀ x, v = .float (.finite x) → Number.Format.double.round x = .finite x

namespace Rule

variable {a b : Value}

/-! ## Loose equality by cases -/

def isNull : Value → Bool
  | .null => true
  | _ => false

theorem isNull_iff : isNull a = true ↔ a = .null := by
  cases a <;> simp [isNull]

theorem isNull_of_ne (h : a ≠ .null) : isNull a = false :=
  eq_false_of_ne_true fun hn => h (isNull_iff.1 hn)

theorem ne_null_of_not (h : ¬ (isNull a || isNull b) = true) : a ≠ .null ∧ b ≠ .null := by
  constructor <;> rintro rfl <;> simp [isNull] at h

/-- Loose equality in its three cases. Two texts are a case of the last, being the same value. -/
theorem looseEquals_eq (a b : Value) : looseEquals a b =
    if isNull a || isNull b then .ok (isNull a && isNull b)
    else if isNumeric a || isNumeric b then falseOnBreach (sameNumber a b)
    else .ok (a.same b) := by
  unfold looseEquals
  split
  · rfl
  · rename_i hb
    simp [isNull_iff.2 rfl, isNull_of_ne hb]
  · rename_i ha
    simp [isNull_iff.2 rfl, isNull_of_ne ha]
  · rename_i s t
    have hs : Value.same (.text s) (.text t) = (s == t) :=
      Bool.eq_iff_iff.2 (Value.same_text.trans beq_iff_eq.symm)
    simp [isNull, isNumeric, Value.number?, Value.toKey?, Key.number?, hs]
  · rename_i ha hb _ _
    simp [isNull_of_ne ha, isNull_of_ne hb]

/-! ## The numbers of operands -/

theorem toNumber_of_isHuge (h : a.IsHuge) : toNumber a = .error .outOfRange := by
  obtain ⟨n, rfl, hn⟩ := h
  rw [toNumber, intToNumber, Double.ofInt?_eq_none.2 hn]

/-- An operand counts as a number, or breaks the rule, or is a whole number without a double. -/
theorem toNumber_cases (a : Value) : (∃ x, toNumber a = .ok x) ∨
    (∃ e, toNumber a = .error (.breach e)) ∨ a.IsHuge := by
  unfold toNumber
  split
  · exact .inl ⟨_, rfl⟩
  · exact .inl ⟨_, rfl⟩
  · rename_i n
    unfold intToNumber
    split
    · exact .inl ⟨_, rfl⟩
    · rename_i h
      exact .inr (.inr ⟨n, rfl, Double.ofInt?_eq_none.1 h⟩)
  · exact .inl ⟨_, rfl⟩
  · unfold textToNumber
    dsimp only
    split
    · exact .inl ⟨_, rfl⟩
    · split
      · exact .inl ⟨_, rfl⟩
      · exact .inr (.inl ⟨_, rfl⟩)
  · exact .inr (.inl ⟨_, rfl⟩)
  · exact .inr (.inl ⟨_, rfl⟩)

/-- A comparison of two operands that comes upon a whole number without a double: in the first
operand, or in the second one after the first counted as a number. -/
def Overflows (a b : Value) : Prop :=
  a ≠ .null ∧ b ≠ .null ∧ (a.IsHuge ∨ Returns (toNumber a) ∧ b.IsHuge)

theorem isNumeric_of_isHuge (h : a.IsHuge) : isNumeric a = true := by
  obtain ⟨n, rfl, -⟩ := h
  rfl

theorem ne_null_of_isHuge (h : a.IsHuge) : a ≠ .null := by
  obtain ⟨n, rfl, -⟩ := h
  exact nofun

theorem looseEquals_overflows (h : Overflows a b) : looseEquals a b = .error .outOfRange := by
  obtain ⟨ha, hb, h⟩ := h
  have hn : (isNumeric a || isNumeric b) = true := by
    rcases h with h | ⟨-, h⟩
    · rw [isNumeric_of_isHuge h, Bool.true_or]
    · rw [isNumeric_of_isHuge h, Bool.or_true]
  rw [looseEquals_eq, isNull_of_ne ha, isNull_of_ne hb, if_neg (by decide), if_pos hn, sameNumber]
  rcases h with h | ⟨⟨x, hx⟩, h⟩
  · rw [toNumber_of_isHuge h]
    rfl
  · rw [hx, toNumber_of_isHuge h]
    rfl

/-- Whether two operands count as the same number, where one that counts as none is not the same. -/
def agree : Except Fault Double → Except Fault Double → Bool
  | .ok x, .ok y => x.eq y
  | _, _ => false

theorem agree_comm (x y : Except Fault Double) : agree x y = agree y x := by
  cases x <;> cases y <;> simp [agree, Double.eq_comm]

theorem sameNumber_agree (ha : ¬ a.IsHuge) (hb : ¬ (Returns (toNumber a) ∧ b.IsHuge)) :
    falseOnBreach (sameNumber a b) = .ok (agree (toNumber a) (toNumber b)) := by
  unfold sameNumber
  rcases toNumber_cases a with ⟨x, hx⟩ | ⟨e, hx⟩ | h
  · rw [hx]
    rcases toNumber_cases b with ⟨y, hy⟩ | ⟨e, hy⟩ | h
    · rw [hy]; rfl
    · rw [hy]; rfl
    · exact absurd ⟨⟨x, hx⟩, h⟩ hb
  · rw [hx]; rfl
  · exact absurd h ha

/-- What loose equality answers where it does. -/
def looselyEqual (a b : Value) : Bool :=
  if isNull a || isNull b then isNull a && isNull b
  else if isNumeric a || isNumeric b then agree (toNumber a) (toNumber b)
  else a.same b

theorem looseEquals_returns (h : ¬ Overflows a b) : looseEquals a b = .ok (looselyEqual a b) := by
  rw [looseEquals_eq, looselyEqual]
  split_ifs with hnull hn
  · rfl
  · obtain ⟨ha, hb⟩ := ne_null_of_not hnull
    rw [sameNumber_agree fun hh => h ⟨ha, hb, .inl hh⟩]
    exact fun hh => h ⟨ha, hb, .inr hh⟩
  · rfl

theorem looselyEqual_comm (ha : a.IsKeyed) (hb : b.IsKeyed) :
    looselyEqual a b = looselyEqual b a := by
  unfold looselyEqual
  rw [Bool.or_comm (isNull a), Bool.and_comm (isNull a), Bool.or_comm (isNumeric a),
    agree_comm (toNumber a), Value.same_comm ha hb]

/-! ## Strict equality -/

theorem strictEquals_comm (ha : a.IsKeyed) (hb : b.IsKeyed) :
    strictEquals a b = strictEquals b a := by
  have hbool : (isBool a != isBool b) = (isBool b != isBool a) := bne_comm
  unfold strictEquals
  rw [hbool, Bool.and_comm (isNumeric a), Bool.beq_comm (a := a.kindName), Value.same_comm ha hb]

theorem same_of_strictEquals (h : strictEquals a b = true) : a.same b = true := by
  unfold strictEquals at h
  split_ifs at h
  · exact h
  · exact (Bool.and_eq_true_iff.1 h).2

/-! ## Equal values -/

/-- A numeric operand counts as the double nearest to it. -/
theorem toNumber_numeric (ha : a.IsOperand) (hh : ¬ a.IsHuge) {x : Double} (hx : a.number? = some x) :
    toNumber a = .ok x.nearest := by
  cases a with
  | bool p =>
    cases hx
    have hone : Double.nearest (.finite 1) = .finite 1 := by decide +kernel
    have hzero : Double.nearest (.finite 0) = .finite 0 := by decide +kernel
    cases p
    · exact congrArg Except.ok hzero.symm
    · exact congrArg Except.ok hone.symm
  | int n =>
    cases hx
    rw [toNumber, intToNumber]
    -- a whole number that has a double at all counts as the nearest one
    cases hn : Double.ofInt? n with
    | none => exact absurd ⟨n, rfl, Double.ofInt?_eq_none.1 hn⟩ hh
    | some y => exact congrArg Except.ok (Double.round_of_ofInt? hn).symm
  | float y =>
    cases hx
    cases x with
    | finite q => exact congrArg Except.ok (ha.double q rfl).symm
    | _ => rfl
  | _ => cases hx

/-- Equal operands of which one is numeric are equal numbers. -/
theorem numbers_of_same (hn : (isNumeric a || isNumeric b) = true) (hs : a.same b = true) :
    ∃ x y, a.number? = some x ∧ b.number? = some y ∧ x.eq y = true := by
  unfold isNumeric Value.number? at *
  cases hk : a.toKey? with
  | none =>
    cases hl : b.toKey? with
    | none => simp [hk, hl] at hn
    | some l =>
      rw [Value.same_of_kinds (by simp [hk, hl])] at hs
      cases hs
  | some k =>
    cases hl : b.toKey? with
    | none =>
      rw [Value.same_of_kinds (by simp [hk, hl])] at hs
      cases hs
    | some l =>
      rw [Value.same_scalar hk hl, Key.same_iff] at hs
      rcases hs with hs | ⟨hk', hl', -⟩
      · exact hs
      · simp [hk, hl, hk', hl'] at hn

theorem looselyEqual_of_same (ha : a.IsOperand) (hb : b.IsOperand) (h : ¬ Overflows a b)
    (hs : a.same b = true) : looselyEqual a b = true := by
  unfold looselyEqual
  split_ifs with hnull hn
  · rcases Bool.or_eq_true_iff.1 hnull with hn | hn
    · rw [isNull_iff.1 hn] at hs ⊢
      rw [Value.same_null_left.1 hs]
      rfl
    · rw [isNull_iff.1 hn] at hs ⊢
      rw [Value.same_null_right.1 hs]
      rfl
  · obtain ⟨x, y, hx, hy, hxy⟩ := numbers_of_same hn hs
    obtain ⟨hane, hbne⟩ := ne_null_of_not hnull
    have hah : ¬ a.IsHuge := fun hh => h ⟨hane, hbne, .inl hh⟩
    have hxa := toNumber_numeric ha hah hx
    -- the first operand counts as a number, so the second one is reached
    have hbh : ¬ b.IsHuge := fun hh => h ⟨hane, hbne, .inr ⟨⟨_, hxa⟩, hh⟩⟩
    rw [hxa, toNumber_numeric hb hbh hy]
    exact Double.eq_nearest hxy
  · exact hs

/-! ## The operations -/

variable {data p q : Value}

theorem apply_equal (hp : apply data p = .ok a) (hq : apply data q = .ok b) :
    apply data (binary "==" p q) = (do return .bool (← looseEquals a b)) :=
  apply_binary (show Operation.ofName? "==" = some .equal from rfl) hp hq

theorem apply_notEqual (hp : apply data p = .ok a) (hq : apply data q = .ok b) :
    apply data (binary "!=" p q) = (do return .bool !(← looseEquals a b)) :=
  apply_binary (show Operation.ofName? "!=" = some .notEqual from rfl) hp hq

theorem apply_identical (hp : apply data p = .ok a) (hq : apply data q = .ok b) :
    apply data (binary "===" p q) = .ok (.bool (strictEquals a b)) :=
  apply_binary (show Operation.ofName? "===" = some .identical from rfl) hp hq

theorem apply_notIdentical (hp : apply data p = .ok a) (hq : apply data q = .ok b) :
    apply data (binary "!==" p q) = .ok (.bool !(strictEquals a b)) :=
  apply_binary (show Operation.ofName? "!==" = some .notIdentical from rfl) hp hq

/-- The laws of the two equalities on operands that come to values. Strict equality and its opposite
answer, oppositely and in either order of the operands alike. Loose equality and its opposite answer
oppositely unless the comparison comes upon a whole number without a double, where both fail; the
answer is the same in the other order if that order answers; and strictly equal operands are loosely
equal. -/
theorem equalities_are_decided (hp : apply data p = .ok a) (hq : apply data q = .ok b)
    (ha : a.IsOperand) (hb : b.IsOperand) :
    ∃ strict : Bool,
      (apply data (binary "===" p q) = .ok (.bool strict) ∧
        apply data (binary "!==" p q) = .ok (.bool !strict) ∧
        apply data (binary "===" q p) = .ok (.bool strict)) ∧
      (Overflows a b ∧ apply data (binary "==" p q) = .error .outOfRange ∧
          apply data (binary "!=" p q) = .error .outOfRange ∨
        ¬ Overflows a b ∧ ∃ loose : Bool, apply data (binary "==" p q) = .ok (.bool loose) ∧
          apply data (binary "!=" p q) = .ok (.bool !loose) ∧
          (¬ Overflows b a → apply data (binary "==" q p) = .ok (.bool loose)) ∧
          (strict = true → loose = true)) := by
  refine ⟨strictEquals a b, ⟨apply_identical hp hq, apply_notIdentical hp hq, ?_⟩, ?_⟩
  · rw [strictEquals_comm ha.keyed hb.keyed]
    exact apply_identical hq hp
  rw [apply_equal hp hq, apply_notEqual hp hq, apply_equal hq hp]
  by_cases h : Overflows a b
  · refine .inl ⟨h, ?_, ?_⟩
    · rw [looseEquals_overflows h]
      rfl
    · rw [looseEquals_overflows h]
      rfl
  · refine .inr ⟨h, looselyEqual a b, ?_, ?_, fun h' => ?_, fun hs => ?_⟩
    · rw [looseEquals_returns h]
      rfl
    · rw [looseEquals_returns h]
      rfl
    · rw [looseEquals_returns h', looselyEqual_comm hb.keyed ha.keyed]
      rfl
    · exact looselyEqual_of_same ha hb h (same_of_strictEquals hs)

/-- A number and its text are equal in either order, but not strictly. -/
theorem equalities_are_decided_on_number_and_text :
    let data : Value := .object [(.text "n", .int 1), (.text "t", .text "1")]
    let number : Value := .object [(.text "var", .text "n")]
    let text : Value := .object [(.text "var", .text "t")]
    ∃ strict loose : Bool, apply data (binary "===" number text) = .ok (.bool strict) ∧
      apply data (binary "==" number text) = .ok (.bool loose) ∧
      apply data (binary "==" text number) = .ok (.bool loose) ∧ (strict = true → loose = true) := by
  intro data number text
  have hn : ∀ n : Int, n.natAbs < 10 → ¬ (Value.int n).IsHuge := by
    rintro n hn ⟨m, hm, hh⟩
    cases hm
    have hten : 10 ≤ Number.Format.beyond := by decide +kernel
    omega
  have hone : ¬ Overflows (.int 1) (.text "1") := by
    rintro ⟨-, -, h | ⟨-, _, h, -⟩⟩
    · exact hn 1 (by decide) h
    · cases h
  have hone' : ¬ Overflows (.text "1") (.int 1) := by
    rintro ⟨-, -, ⟨_, h, -⟩ | ⟨-, h⟩⟩
    · cases h
    · exact hn 1 (by decide) h
  have hnumber : apply data number = .ok (.int 1) := rfl
  have htext : apply data text = .ok (.text "1") := rfl
  obtain ⟨strict, ⟨hstrict, -, -⟩, h⟩ :=
    equalities_are_decided hnumber htext ⟨.scalar rfl, nofun⟩ ⟨.scalar rfl, nofun⟩
  rcases h with ⟨h, -⟩ | ⟨-, loose, hloose, -, hcomm, himp⟩
  · exact absurd h hone
  · exact ⟨strict, loose, hstrict, hloose, hcomm hone', himp⟩

/-- A whole number of more than three hundred digits neither equals one nor does not, is unequal to a
word in one order only, and is not loosely equal to itself, though it is strictly. -/
theorem huge_number_has_no_opposite :
    let huge : Value := .int (10 ^ 309)
    (apply .null (binary "==" huge (.int 1)) = .error .outOfRange ∧
      apply .null (binary "!=" huge (.int 1)) = .error .outOfRange) ∧
    (apply .null (binary "!=" huge (.text "abc")) = .error .outOfRange ∧
      apply .null (binary "!=" (.text "abc") huge) = .ok (.bool true)) ∧
    (apply .null (binary "===" huge huge) = .ok (.bool true) ∧
      apply .null (binary "==" huge huge) = .error .outOfRange) := by
  intro huge
  have hhuge : huge.IsHuge := ⟨10 ^ 309, rfl, by decide +kernel⟩
  have hfails : ∀ b : Value, b ≠ .null → apply .null b = .ok b →
      apply .null (binary "==" huge b) = .error .outOfRange ∧
        apply .null (binary "!=" huge b) = .error .outOfRange := by
    intro b hb hv
    have hl : looseEquals huge b = .error .outOfRange :=
      looseEquals_overflows ⟨nofun, hb, .inl hhuge⟩
    rw [apply_equal (apply_literal rfl) hv, apply_notEqual (apply_literal rfl) hv, hl]
    exact ⟨rfl, rfl⟩
  have hword : ∀ n : Int, apply .null (binary "!=" (.text "abc") (.int n)) = .ok (.bool true) :=
    fun _ => rfl
  have hself : ∀ n : Int, apply .null (binary "===" (.int n) (.int n)) = .ok (.bool true) := by
    intro n
    have hn : Double.eq (.finite n) (.finite n) = true := Double.eq_self_iff.2 nofun
    exact congrArg (fun r => Except.ok (Value.bool r)) hn
  refine ⟨hfails (.int 1) nofun rfl, ⟨(hfails (.text "abc") nofun rfl).2, hword _⟩, hself _,
    (hfails huge (ne_null_of_isHuge hhuge) (apply_literal rfl)).1⟩

end Rule

end StagedRollout
