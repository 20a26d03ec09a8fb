/-
Looking up a path in data. A look-up follows the parts of the path one by one, from an object to the
member under a part and from a list to the element at the position that a part names, and comes to the
default exactly if that leads nowhere. A part names a position by any numeral that reads as it, and
also by one that reads as a negative number and so counts from the end. On paths whose parts are
numerals only where they are whole numbers from zero on in plain decimal, that makes no difference.
-/
import StagedRollout.Proofs.Rule.Evaluation
import StagedRollout.Proofs.Text.Reading

namespace StagedRollout.Rule

open Text (IsSplit)

/-! ## Following a path -/

/-- A part names a position in a list of some length: it reads as the position, or as the negative
number at which the position lies when counted from the end. -/
def Names (length : Nat) (part : Text) (j : Nat) : Prop :=
  j < length ∧ ∃ i : Int, Text.readInt? 10 part = some i ∧ (i = j ∨ i = (j : Int) - length)

/-- A part is the decimal of a position in a list of some length. -/
def IsDecimal (length : Nat) (part : Text) (j : Nat) : Prop := j < length ∧ part = toString j

/-- The parts of a path lead from a value to another one, with positions in lists named in some way. -/
inductive Leads (names : Nat → Text → Nat → Prop) : Value → List Text → Value → Prop
  | here (v : Value) : Leads names v [] v
  | member {members : Members} {part : Text} {w v : Value} {rest : List Text}
    (hw : Table.find? members (.text part) = some w) (h : Leads names w rest v) :
    Leads names (.object members) (part :: rest) v
  | element {items : List Value} {part : Text} {j : Nat} {w v : Value} {rest : List Text}
    (hj : names items.length part j) (hw : items[j]? = some w) (h : Leads names w rest v) :
    Leads names (.list items) (part :: rest) v

theorem Leads.mono {names names' : Nat → Text → Nat → Prop} {parts : List Text} {u v : Value}
    (hn : ∀ length, ∀ part ∈ parts, ∀ j, names length part j → names' length part j)
    (h : Leads names u parts v) : Leads names' u parts v := by
  induction h with
  | here v => exact .here v
  | member hw _ ih => exact .member hw (ih fun length part hp => hn length part (.tail _ hp))
  | element hj hw _ ih =>
    exact .element (hn _ _ (.head _) _ hj) hw (ih fun length part hp => hn length part (.tail _ hp))

/-! ## Positions -/

theorem elementAt?_of_lt {items : List Value} {i : Int} {j : Nat} (hj : j < items.length)
    (hi : i = j ∨ i = (j : Int) - items.length) : elementAt? items i = items[j]? := by
  have hposition : (if i < 0 then i + items.length else i) = (j : Int) := by
    split <;> omega
  unfold elementAt?
  rw [hposition]
  exact if_neg (by omega)

theorem elementAt?_eq_some {items : List Value} {i : Int} {w : Value} :
    elementAt? items i = some w ↔
      ∃ j : Nat, j < items.length ∧ (i = j ∨ i = (j : Int) - items.length) ∧ items[j]? = some w := by
  constructor
  · intro h
    unfold elementAt? at h
    dsimp only at h
    generalize hk : (if i < 0 then i + (items.length : Int) else i) = k at h
    by_cases hneg : k < 0
    · rw [if_pos hneg] at h
      cases h
    · rw [if_neg hneg] at h
      obtain ⟨hlt, -⟩ := List.getElem?_eq_some_iff.1 h
      refine ⟨k.toNat, hlt, ?_, h⟩
      split at hk <;> omega
  · rintro ⟨j, hj, hi, hw⟩
    rw [elementAt?_of_lt hj hi, hw]

theorem step?_eq_some {u w : Value} {part : Text} : step? u part = some w ↔
    (∃ members, u = .object members ∧ Table.find? members (.text part) = some w) ∨
      ∃ items j, u = .list items ∧ Names items.length part j ∧ items[j]? = some w := by
  cases u with
  | object members => simp [step?]
  | list items =>
    rw [step?, Option.bind_eq_some_iff]
    constructor
    · rintro ⟨i, hread, hw⟩
      obtain ⟨j, hj, hi, hw⟩ := elementAt?_eq_some.1 hw
      exact .inr ⟨items, j, rfl, ⟨hj, i, hread, hi⟩, hw⟩
    · rintro (⟨members, hu, -⟩ | ⟨_, j, hu, ⟨hj, i, hread, hi⟩, hw⟩)
      · cases hu
      · cases hu
        exact ⟨i, hread, elementAt?_eq_some.2 ⟨j, hj, hi, hw⟩⟩
  | _ => simp [step?]

theorem follow?_eq_some {u v : Value} {parts : List Text} :
    follow? u parts = some v ↔ Leads Names u parts v := by
  induction parts generalizing u with
  | nil =>
    rw [follow?, Option.some.injEq]
    constructor
    · rintro rfl
      exact .here u
    · intro h
      cases h
      rfl
  | cons part rest ih =>
    rw [follow?, Option.bind_eq_some_iff]
    constructor
    · rintro ⟨w, hw, h⟩
      rcases step?_eq_some.1 hw with ⟨members, rfl, hw⟩ | ⟨items, j, rfl, hj, hw⟩
      · exact .member hw (ih.1 h)
      · exact .element hj hw (ih.1 h)
    · intro h
      cases h with
      | member hw h => exact ⟨_, step?_eq_some.2 (.inl ⟨_, rfl, hw⟩), ih.2 h⟩
      | element hj hw h => exact ⟨_, step?_eq_some.2 (.inr ⟨_, _, rfl, hj, hw⟩), ih.2 h⟩

/-! ## Looking up -/

theorem lookup?_text {data : Value} {path : Text} (h : path ≠ "") :
    lookup? data (.text path) = follow? data (Text.split '.' path) := by
  unfold lookup?
  split
  · contradiction
  · rename_i he
    exact absurd (Value.text.inj he) h
  · rfl

/-- A part that reads as a whole number only if it is the decimal of one from zero on. -/
def IsPlainPart (part : Text) : Prop :=
  ∀ i, Text.readInt? 10 part = some i → ∃ n : Nat, part = toString n

theorem IsDecimal.names {length : Nat} {part : Text} {j : Nat} (h : IsDecimal length part j) :
    Names length part j := by
  obtain ⟨hj, rfl⟩ := h
  exact ⟨hj, j, Text.readInt?_toString j, .inl rfl⟩

theorem IsPlainPart.isDecimal {length : Nat} {part : Text} {j : Nat} (hp : IsPlainPart part)
    (h : Names length part j) : IsDecimal length part j := by
  obtain ⟨hj, i, hread, hi⟩ := h
  obtain ⟨n, rfl⟩ := hp i hread
  have hn : Text.readInt? 10 (toString n) = some (n : Int) := Text.readInt?_toString n
  rw [hn] at hread
  cases hread
  -- a number from zero on is no position counted from the end
  have hnj : n = j := by omega
  exact ⟨hj, congrArg (fun k : Nat => Text.plain (toString k)) hnj⟩

/-- The look-up of a path, with a default. -/
def lookup (path : Text) (default : Value) : Value := operation "var" [.text path, default]

variable {data default d : Value} {path : Text}

theorem apply_lookup (hpath : path ≠ "") (hd : apply data default = .ok d) :
    apply data (lookup path default) = .ok ((follow? data (Text.split '.' path)).getD d) := by
  have hop : Operation.ofName? "var" = some .lookup := rfl
  have hvalue : apply data (.text path) = .ok (.text path) := apply_literal rfl
  have hrun : apply data (lookup path default) = Operation.run .lookup data [.text path, d] :=
    apply_of_name hop (.cons hvalue (.cons hd .nil))
  rw [hrun, ← lookup?_text hpath]
  rfl

/-- A look-up comes to the value that the parts of its path lead to, which may be null, and to the
default if they lead nowhere. Wherever parts lead that are the decimals of positions, the look-up
leads; and where they do not, it comes to the default if its path has plain parts only. -/
theorem lookup_follows_path (hpath : path ≠ "") (hd : apply data default = .ok d) :
    ∃ parts, IsSplit '.' path parts ∧
      (∀ v, Leads Names data parts v → apply data (lookup path default) = .ok v) ∧
      ((∀ v, ¬ Leads Names data parts v) → apply data (lookup path default) = .ok d) ∧
      (∀ v, Leads IsDecimal data parts v → apply data (lookup path default) = .ok v) ∧
      ((∀ part ∈ parts, IsPlainPart part) → (∀ v, ¬ Leads IsDecimal data parts v) →
        apply data (lookup path default) = .ok d) := by
  have hleads : ∀ v, Leads Names data (Text.split '.' path) v →
      apply data (lookup path default) = .ok v := by
    intro v h
    rw [apply_lookup hpath hd, follow?_eq_some.2 h]
    rfl
  have hnowhere : (∀ v, ¬ Leads Names data (Text.split '.' path) v) →
      apply data (lookup path default) = .ok d := by
    intro h
    have hnone : follow? data (Text.split '.' path) = none :=
      Option.eq_none_iff_forall_ne_some.2 fun v hv => h v (follow?_eq_some.1 hv)
    rw [apply_lookup hpath hd, hnone]
    rfl
  refine ⟨_, Text.split_eq_iff.1 rfl, hleads, hnowhere, fun v h => ?_, fun hplain h => ?_⟩
  · exact hleads v (h.mono fun _ _ _ _ hj => hj.names)
  · exact hnowhere fun v hv => h v (hv.mono fun _ part hp _ hj => (hplain part hp).isDecimal hj)

/-- Parts lead nowhere if the last one is the decimal of no position in the list that it is for. -/
theorem not_leads_of_no_position {members : Members} {name part : Text} {items : List Value}
    (hitems : Table.find? members (.text name) = some (.list items))
    (hpart : ∀ j < items.length, part ≠ toString j) (v : Value) :
    ¬ Leads IsDecimal (.object members) [name, part] v := by
  intro h
  cases h with
  | member hw h =>
    cases hitems.symm.trans hw
    cases h with
    | element hj => exact hpart _ hj.1 hj.2

/-- A null that is there, an element by its position, and a position too many. -/
theorem lookup_follows_path_to_null :
    let data : Value := .object [(.text "user", .object [(.text "plan", .null)]),
      (.text "items", .list [.int 10, .int 20, .int 30])]
    let other : Value := .text "other"
    apply data other = .ok other ∧
      apply data (lookup "user.plan" other) = .ok .null ∧
      apply data (lookup "items.2" other) = .ok (.int 30) ∧
      apply data (lookup "items.3" other) = .ok other := by
  intro data other
  have hd : apply data other = .ok other := apply_literal rfl
  have hparts : ∀ {path : Text} {parts parts' : List Text}, IsSplit '.' path parts →
      Text.split '.' path = parts' → parts' = parts := fun hs h => h.symm.trans (Text.split_eq_iff.2 hs)
  refine ⟨hd, ?_, ?_, ?_⟩
  · obtain ⟨parts, hs, hleads, -⟩ := lookup_follows_path (show ("user.plan" : Text) ≠ "" by decide) hd
    obtain rfl : (["user", "plan"] : List Text) = parts := hparts hs (by decide)
    exact hleads .null (.member rfl (.member rfl (.here _)))
  · obtain ⟨parts, hs, -, -, hdecimal, -⟩ := lookup_follows_path (show ("items.2" : Text) ≠ "" by decide) hd
    obtain rfl : (["items", "2"] : List Text) = parts := hparts hs (by decide)
    have hposition : IsDecimal 3 "2" 2 := ⟨by decide, by decide⟩
    exact hdecimal (.int 30) (.member rfl (.element hposition rfl (.here _)))
  · obtain ⟨parts, hs, -, -, -, hdefault⟩ := lookup_follows_path (show ("items.3" : Text) ≠ "" by decide) hd
    obtain rfl : (["items", "3"] : List Text) = parts := hparts hs (by decide)
    have hitems : IsPlainPart "items" := fun i hi => by
      have hread : Text.readInt? 10 "items" = none := by decide
      cases hread.symm.trans hi
    refine hdefault ?_ (not_leads_of_no_position rfl (by decide))
    exact List.forall_mem_cons.2 ⟨hitems, List.forall_mem_singleton.2 fun _ _ => ⟨3, by decide⟩⟩

/-- In a list of three, "-1" leads to the last element and "+1" to the second one, though neither is the
decimal of a position, and the default is left aside. -/
theorem minus_one_leads_to_the_last :
    let data : Value := .object [(.text "items", .list [.int 10, .int 20, .int 30])]
    (apply data (lookup "items.-1" (.text "none")) = .ok (.int 30) ∧
        IsSplit '.' "items.-1" ["items", "-1"] ∧ ∀ v, ¬ Leads IsDecimal data ["items", "-1"] v) ∧
      apply data (lookup "items.+1" (.text "none")) = .ok (.int 20) ∧
        IsSplit '.' "items.+1" ["items", "+1"] ∧ ∀ v, ¬ Leads IsDecimal data ["items", "+1"] v := by
  intro data
  have hlast : IsSplit '.' "items.-1" ["items", "-1"] := Text.split_eq_iff.1 (by decide)
  have hsecond : IsSplit '.' "items.+1" ["items", "+1"] := Text.split_eq_iff.1 (by decide)
  exact ⟨⟨rfl, hlast, not_leads_of_no_position rfl (by decide)⟩, rfl, hsecond,
    not_leads_of_no_position rfl (by decide)⟩

end StagedRollout.Rule
