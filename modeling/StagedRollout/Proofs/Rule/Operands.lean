/-
Operations on rearranged operands. Truth, numbers, equality and comparison do not see in which order the
members of an object stand, and what is looked up in rearranged data is rearranged in turn. Only the
operations that write a value as text can tell two orders apart: a concatenation, and a look-up by the
path that it is given.
-/
import StagedRollout.Proofs.Value.Rearranged
import StagedRollout.Proofs.Rule.Equality

namespace StagedRollout.Rule

open Value (Rearranged)

/-! ## Operands -/

section Operands

variable {view : Key → Key} {a a' b b' : Value}

theorem truthy_congr (h : Rearranged view a a') : truthy a = truthy a' := by
  cases h with
  | scalar _ => rfl
  | @list xs ys hl _ => cases xs <;> cases ys <;> first | rfl | cases hl
  | object _ _ _ _ _ => rfl

theorem toNumber_congr (h : Rearranged view a a') : toNumber a = toNumber a' := by
  cases h <;> rfl

theorem number?_congr (h : Rearranged view a a') : a.number? = a'.number? := by
  cases h <;> rfl

theorem kindName_congr (h : Rearranged view a a') : a.kindName = a'.kindName := by
  cases h <;> rfl

theorem isBool_congr (h : Rearranged view a a') : isBool a = isBool a' := by
  cases h <;> rfl

theorem isNull_congr (h : Rearranged view a a') : isNull a = isNull a' := by
  cases h <;> rfl

theorem isNumeric_congr (h : Rearranged view a a') : isNumeric a = isNumeric a' := by
  rw [isNumeric, isNumeric, number?_congr h]

theorem looseEquals_congr (ha : Rearranged view a a') (hb : Rearranged view b b') :
    looseEquals a b = looseEquals a' b' := by
  rw [looseEquals_eq, looseEquals_eq, sameNumber, sameNumber, isNull_congr ha, isNull_congr hb,
    isNumeric_congr ha, isNumeric_congr hb, toNumber_congr ha, toNumber_congr hb,
    Value.same_congr ha hb]

theorem strictEquals_congr (ha : Rearranged view a a') (hb : Rearranged view b b') :
    strictEquals a b = strictEquals a' b' := by
  rw [strictEquals, strictEquals, isBool_congr ha, isBool_congr hb, isNumeric_congr ha,
    isNumeric_congr hb, kindName_congr ha, kindName_congr hb, Value.same_congr ha hb]

/-- A comparison that takes two operands by their numbers, unless both are texts. -/
theorem comparison_congr {α : Type} (byNumber : Except Fault Double → Except Fault Double → α)
    {compare : Value → Value → α} (h : ∀ a b, (∀ s t, a = .text s → b = .text t → False) →
      compare a b = byNumber (toNumber a) (toNumber b))
    (ha : Rearranged view a a') (hb : Rearranged view b b') : compare a b = compare a' b' := by
  by_cases htext : ∃ s t, a = .text s ∧ b = .text t
  · obtain ⟨s, t, rfl, rfl⟩ := htext
    cases ha
    cases hb
    rfl
  · have hne : ∀ s t, a' = .text s → b' = .text t → False := by
      rintro s t rfl rfl
      cases ha
      cases hb
      exact htext ⟨s, t, rfl, rfl⟩
    rw [h a b fun s t hs ht => htext ⟨s, t, hs, ht⟩, h a' b' hne, toNumber_congr ha,
      toNumber_congr hb]

theorem lessThan_congr (ha : Rearranged view a a') (hb : Rearranged view b b') :
    lessThan a b = lessThan a' b' :=
  comparison_congr (fun x y => do return (← x).lt (← y)) (fun a b h => by
    rw [lessThan]
    exact h) ha hb

theorem lessEqual_congr (ha : Rearranged view a a') (hb : Rearranged view b b') :
    lessEqual a b = lessEqual a' b' :=
  comparison_congr (fun x y => do return (← x).le (← y)) (fun a b h => by
    rw [lessEqual]
    exact h) ha hb

theorem runMembership_congr (ha : Rearranged view a a') (hb : Rearranged view b b') :
    runMembership a b = runMembership a' b' := by
  cases hb with
  | @scalar b hs =>
    cases ha with
    | scalar _ => rfl
    | list _ _ => cases b <;> first | rfl | cases hs
    | object _ _ _ _ _ => cases b <;> first | rfl | cases hs
  | list hl h =>
    have hall := Value.rearranged_list_iff.1 (.list hl h)
    rw [runMembership, runMembership]
    clear hl h
    induction hall with
    | nil => rfl
    | cons hxy _ ih => rw [List.any_cons, List.any_cons, strictEquals_congr ha hxy, ih]
  | object _ _ _ _ _ => rfl

theorem size_congr (h : Rearranged view a a') : size a = size a' := by
  cases h with
  | scalar _ => rfl
  | list hl _ => exact congrArg Except.ok hl
  | object hm hn hk hv hl => exact congrArg Except.ok (Rearranged.object hm hn hk hv hl).length

theorem pieces_rearranged (h : Rearranged view a a') :
    List.Forall₂ (Rearranged view) (pieces a) (pieces a') := by
  cases h with
  | @scalar a hs =>
    cases a with
    | list _ => cases hs
    | _ => exact .cons (.scalar hs) .nil
  | list hl h => exact Value.rearranged_list_iff.1 (.list hl h)
  | object hm hn hk hv hl => exact .cons (.object hm hn hk hv hl) .nil

end Operands

/-! ## Operations -/

/-- The values that a `missing` operation looks up. -/
def namedKeys : List Value → List Value
  | [.list keys] => keys
  | keys => keys

/-- The values that an operation writes as text. -/
def Operation.spelled : Operation → List Value → List Value
  | .lookup, path :: _ => [path]
  | .missing, args => namedKeys args
  | .missingSome, _ :: keys :: _ => namedKeys [keys]
  | .concatenation, args => args
  | _, _ => []

section Operations

variable {data data' : Value} {args args' : List Value}

theorem operand_alike (h : List.Forall₂ (Rearranged id) args args') (i : Nat) :
    Alike (Rearranged id) (operand args i) (operand args' i) := by
  induction h generalizing i with
  | nil => exact .error _ _
  | cons hv _ ih =>
    cases i with
    | zero => exact .ok hv
    | succ i => exact ih i

theorem twoOperands_alike (h : List.Forall₂ (Rearranged id) args args') :
    Alike (fun p q => Rearranged id p.1 q.1 ∧ Rearranged id p.2 q.2)
      (twoOperands args) (twoOperands args') :=
  (operand_alike h 0).bind fun _ _ _ ha => (operand_alike h 1).bind fun _ _ _ hb => .ok ⟨ha, hb⟩

theorem mapM_toNumber_congr (h : List.Forall₂ (Rearranged id) args args') :
    args.mapM toNumber = args'.mapM toNumber := by
  induction h with
  | nil => rfl
  | cons hv _ ih => rw [List.mapM_cons, List.mapM_cons, ih, toNumber_congr hv]

/-- Computations alike whose results are made scalars. -/
theorem alike_scalar {α : Type} {x y : Except Fault α} (h : Alike Eq x y) {f : α → Value}
    (hf : ∀ a, (f a).toKey?.isSome = true) :
    Alike (Rearranged id) (do return f (← x)) (do return f (← y)) :=
  h.bind fun a b _ hab => .ok (by rw [hab]; exact .scalar (hf b))

/-- An operation on two operands that takes rearranged operands alike. -/
theorem alike_of_two {g : Value → Value → Except Fault Bool} {f : Bool → Value}
    (h : List.Forall₂ (Rearranged id) args args')
    (hg : ∀ {a a' b b'}, Rearranged id a a' → Rearranged id b b' → g a b = g a' b')
    (hf : ∀ b, (f b).toKey?.isSome = true) :
    Alike (Rearranged id) (do let (a, b) ← twoOperands args; return f (← g a b))
      (do let (a, b) ← twoOperands args'; return f (← g a b)) :=
  (twoOperands_alike h).bind fun _ _ _ hab => alike_scalar (hg hab.1 hab.2 ▸ .refl _) hf

theorem chain_congr {compare : Value → Value → Except Fault Bool}
    (hc : ∀ {a a' b b'}, Rearranged id a a' → Rearranged id b b' → compare a b = compare a' b')
    (h : List.Forall₂ (Rearranged id) args args') :
    chain compare args = chain compare args' := by
  cases h with
  | nil => rfl
  | cons ha h =>
    cases h with
    | nil => rfl
    | cons hb h =>
      have hab := hc ha hb
      cases h with
      | nil => exact hab
      | cons hd h =>
        have hbd := hc hb hd
        cases h with
        | nil =>
          show (do if ← compare _ _ then compare _ _ else return false) = _
          rw [hab, hbd]
          rfl
        | cons _ _ => exact hab

theorem elementAt?_rearranged {xs ys : List Value} (h : List.Forall₂ (Rearranged id) xs ys)
    (i : Int) : Option.Rel (Rearranged id) (elementAt? xs i) (elementAt? ys i) := by
  unfold elementAt?
  rw [h.length_eq]
  dsimp only
  generalize (if i < 0 then i + (ys.length : Int) else i) = j
  split_ifs
  · exact .none
  · generalize j.toNat = n
    induction h generalizing n with
    | nil => exact .none
    | cons hv _ ih =>
      cases n with
      | zero => exact .some hv
      | succ n => exact ih n

theorem step?_rearranged (h : Rearranged id data data') (part : Text) :
    Option.Rel (Rearranged id) (step? data part) (step? data' part) := by
  cases h with
  | scalar hs =>
    cases data with
    | list => cases hs
    | object => cases hs
    | _ => exact .none
  | list hl h =>
    rw [step?, step?]
    cases Text.readInt? 10 part with
    | none => exact .none
    | some i => exact elementAt?_rearranged (Value.rearranged_list_iff.1 (.list hl h)) i
  | object hm hn hk hv hl => exact (Rearranged.object hm hn hk hv hl).find? (.text part)

theorem follow?_rearranged (h : Rearranged id data data') (parts : List Text) :
    Option.Rel (Rearranged id) (follow? data parts) (follow? data' parts) := by
  induction parts generalizing data data' with
  | nil => exact .some h
  | cons part rest ih =>
    have hstep := step?_rearranged h part
    rw [follow?, follow?]
    generalize step? data part = x, step? data' part = y at hstep
    cases hstep with
    | none => exact .none
    | some hv => exact ih hv

theorem lookup?_rearranged (h : Rearranged id data data') (path : Value) :
    Option.Rel (Rearranged id) (lookup? data path) (lookup? data' path) := by
  unfold lookup?
  split
  · exact .some h
  · exact .some h
  · exact follow?_rearranged h _

theorem isMissing_congr (h : Rearranged id data data') (key : Value) :
    isMissing data key = isMissing data' key := by
  unfold isMissing
  have hl := lookup?_rearranged h key
  generalize lookup? data key = x, lookup? data' key = y at hl
  cases hl with
  | none => rfl
  | some hv => cases hv <;> rfl

theorem runLookup_rearranged (hd : Rearranged id data data')
    (h : List.Forall₂ (Rearranged id) args args')
    (ho : ∀ v ∈ Operation.lookup.spelled args, v.IsOrderless) :
    Rearranged id (runLookup data args) (runLookup data' args') := by
  unfold runLookup
  cases h with
  | nil => exact hd
  | @cons path path' rest rest' hp h =>
    have hdefault : Rearranged id ((path :: rest)[1]?.getD .null)
        ((path' :: rest')[1]?.getD .null) := by
      cases h with
      | nil => exact .scalar rfl
      | cons hv _ => exact hv
    -- a path that shows no order is the same path in both
    cases hp.eq_of_orderless (ho path List.mem_cons_self)
    have hl := lookup?_rearranged hd path
    dsimp only [List.getElem?_cons_zero, Option.getD_some]
    generalize lookup? data path = x, lookup? data' path = y at hl
    cases hl with
    | none => exact hdefault
    | some hv => exact hv

theorem namedKeys_rearranged (h : List.Forall₂ (Rearranged id) args args') :
    List.Forall₂ (Rearranged id) (namedKeys args) (namedKeys args') := by
  cases h with
  | nil => exact .nil
  | @cons v _ _ _ hv h =>
    cases h with
    | nil =>
      cases hv with
      | scalar hs =>
        cases v with
        | list => cases hs
        | _ => exact .cons (.scalar hs) .nil
      | list hl h => exact Value.rearranged_list_iff.1 (.list hl h)
      | object hm hn hk hv hl => exact .cons (.object hm hn hk hv hl) .nil
    | cons hw h =>
      rw [namedKeys, namedKeys]
      · exact .cons hv (.cons hw h)
      all_goals exact nofun

/-- Rearranged values in which no object has two members are the same values. -/
theorem equal_of_orderless (h : List.Forall₂ (Rearranged id) args args')
    (ho : ∀ v ∈ args, v.IsOrderless) :
    List.Forall₂ (fun v w => Rearranged id v w ∧ v = w) args args' :=
  ((List.forall₂_and_left args args').2 ⟨ho, h⟩).imp fun _ _ hv => ⟨hv.2, hv.2.eq_of_orderless hv.1⟩

theorem runMissing_rearranged (hd : Rearranged id data data')
    (h : List.Forall₂ (Rearranged id) args args') (ho : ∀ v ∈ namedKeys args, v.IsOrderless) :
    List.Forall₂ (Rearranged id) (runMissing data args) (runMissing data' args') := by
  have hkeys := equal_of_orderless (namedKeys_rearranged h) ho
  have hfilter := List.rel_filter (p := isMissing data) (q := isMissing data') (fun v w hv => by
    show isMissing data v = true ↔ isMissing data' w = true
    rw [hv.2, isMissing_congr hd w]) hkeys
  exact hfilter.imp fun _ _ hv => hv.1

theorem runMissingSome_alike (hd : Rearranged id data data')
    (h : List.Forall₂ (Rearranged id) args args')
    (ho : ∀ v ∈ Operation.missingSome.spelled args, v.IsOrderless) :
    Alike (List.Forall₂ (Rearranged id)) (runMissingSome data args) (runMissingSome data' args') := by
  cases h with
  | nil => exact .error _ _
  | cons hneed h =>
    cases h with
    | nil => exact .error _ _
    | @cons keys keys' _ _ hkeys _ =>
      -- how many are missing decides, and that is the same in both
      have hmissing := runMissing_rearranged hd (.cons hkeys .nil) ho
      show Alike _ (size keys >>= _) (size keys' >>= _)
      rw [size_congr hkeys]
      refine Alike.bind_right _ fun total => ?_
      dsimp only
      rw [number?_congr hneed, hmissing.length_eq]
      split
      · exact .error _ _
      · split
        · exact .ok .nil
        · exact .ok hmissing

theorem text_pieces_eq (h : List.Forall₂ (Rearranged id) args args')
    (ho : ∀ v ∈ args, v.IsOrderless) : args.map pieceText = args'.map pieceText := by
  have heq : List.Forall₂ (fun v w => v = w) args args' :=
    (equal_of_orderless h ho).imp fun _ _ hv => hv.2
  rw [List.forall₂_eq_eq_eq] at heq
  rw [heq]

/-- An operation on the numbers of two operands. -/
theorem alike_of_numbers {g : Double → Double → Except Fault Double}
    (h : List.Forall₂ (Rearranged id) args args') :
    Alike Eq (do let x ← toNumber (← operand args 0); let y ← toNumber (← operand args 1); g x y)
      (do let x ← toNumber (← operand args' 0); let y ← toNumber (← operand args' 1); g x y) := by
  refine (operand_alike h 0).bind fun v v' _ hv => ?_
  rw [toNumber_congr hv]
  refine Alike.bind_right _ fun x => (operand_alike h 1).bind fun w w' _ hw => ?_
  rw [toNumber_congr hw]
  exact .refl _

theorem runDifference_alike (h : List.Forall₂ (Rearranged id) args args') :
    Alike Eq (runDifference args) (runDifference args') := by
  cases h with
  | nil => exact .error _ _
  | cons hv h =>
    cases h with
    | nil =>
      rw [runDifference, runDifference, toNumber_congr hv]
      exact .refl _
    | cons hw h => exact alike_of_numbers (.cons hv (.cons hw h))

theorem divide_alike (ratio : Double → Double → Double)
    (h : List.Forall₂ (Rearranged id) args args') :
    Alike Eq (divide ratio args) (divide ratio args') := alike_of_numbers h

theorem runProduct_alike (h : List.Forall₂ (Rearranged id) args args') :
    Alike Eq (runProduct args) (runProduct args') := by
  rw [runProduct, runProduct, mapM_toNumber_congr h]
  exact .refl _

theorem extreme_alike (precedes : Double → Double → Bool) (empty : Breach)
    (h : List.Forall₂ (Rearranged id) args args') :
    Alike Eq (extreme precedes empty args) (extreme precedes empty args') := by
  rw [extreme, extreme, mapM_toNumber_congr h]
  exact .refl _

theorem runSum_alike (h : List.Forall₂ (Rearranged id) args args') :
    Alike (Rearranged id) (runSum args) (runSum args') := by
  have hnumbers := mapM_toNumber_congr h
  cases h with
  | nil => exact .ok (.scalar rfl)
  | @cons v v' rest rest' hv h =>
    show Alike _ (List.mapM toNumber (v :: rest) >>= _) (List.mapM toNumber (v' :: rest') >>= _)
    rw [hnumbers]
    exact Alike.bind_right _ fun xs => .ok (.scalar rfl)

/-- An operation takes rearranged data and operands alike, if what it writes as text shows no order. -/
theorem run_alike (op : Operation) (hd : Rearranged id data data')
    (h : List.Forall₂ (Rearranged id) args args')
    (ho : ∀ v ∈ op.spelled args, v.IsOrderless) :
    Alike (Rearranged id) (op.run data args) (op.run data' args') := by
  cases op with
  | lookup => exact .ok (runLookup_rearranged hd h ho)
  | missing => exact .ok (Value.rearranged_list_iff.2 (runMissing_rearranged hd h ho))
  | missingSome =>
    exact (runMissingSome_alike hd h ho).bind fun _ _ _ hm => .ok (Value.rearranged_list_iff.2 hm)
  | equal => exact alike_of_two h looseEquals_congr fun _ => rfl
  | notEqual => exact alike_of_two h looseEquals_congr fun _ => rfl
  | identical =>
    exact alike_of_two h (fun ha hb => congrArg Except.ok (strictEquals_congr ha hb)) fun _ => rfl
  | notIdentical =>
    exact alike_of_two (f := fun b => .bool !b) h
      (fun ha hb => congrArg Except.ok (strictEquals_congr ha hb)) fun _ => rfl
  | negation =>
    exact (operand_alike h 0).bind fun a b _ hab => .ok (by rw [truthy_congr hab]; exact .scalar rfl)
  | truth =>
    exact (operand_alike h 0).bind fun a b _ hab => .ok (by rw [truthy_congr hab]; exact .scalar rfl)
  | greater => exact alike_of_two h (fun ha hb => lessThan_congr hb ha) fun _ => rfl
  | greaterOrEqual => exact alike_of_two h (fun ha hb => lessEqual_congr hb ha) fun _ => rfl
  | less => exact alike_scalar (chain_congr lessThan_congr h ▸ .refl _) fun _ => rfl
  | lessOrEqual => exact alike_scalar (chain_congr lessEqual_congr h ▸ .refl _) fun _ => rfl
  | membership =>
    exact alike_of_two h (fun ha hb => congrArg Except.ok (runMembership_congr ha hb)) fun _ => rfl
  | concatenation =>
    refine .ok ?_
    rw [text_pieces_eq h ho]
    exact .scalar rfl
  | sum => exact runSum_alike h
  | difference => exact alike_scalar (runDifference_alike h) fun _ => rfl
  | product => exact alike_scalar (runProduct_alike h) fun _ => rfl
  | quotient => exact alike_scalar (divide_alike _ h) fun _ => rfl
  | remainder => exact alike_scalar (divide_alike _ h) fun _ => rfl
  | least => exact alike_scalar (extreme_alike _ _ h) fun _ => rfl
  | greatest => exact alike_scalar (extreme_alike _ _ h) fun _ => rfl
  | merge =>
    exact .ok (Value.rearranged_list_iff.2 (List.rel_flatMap h fun _ _ hv => pieces_rearranged hv))

end Operations

end StagedRollout.Rule
