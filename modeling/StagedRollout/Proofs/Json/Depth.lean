/-
How deep the reader and the writer of JSON texts go. To the reader every opening bracket takes room until
its list is closed, so a text of nothing but opening brackets exhausts any room. To the writer a value
has as many levels as lists and objects lie in one another.
-/
import StagedRollout.Json.Reader
import StagedRollout.Json.Writer

namespace StagedRollout.Json

/-! ## Reading -/

theorem utf8?_brackets (n : Nat) :
    Text.utf8? (List.replicate n 0x5b) = some (List.replicate n (.char '[')) := by
  induction n with
  | zero => rfl
  | succ n ih =>
    have hpoint : Point.ofNumber? (0x5b : UInt8).toNat = some (.char '[') := by decide +kernel
    unfold Text.utf8? at ih ⊢
    rw [List.replicate_succ, Text.utf8From?, if_pos (by decide), hpoint, ih]
    rfl

theorem decode?_brackets (n : Nat) :
    decode? (List.replicate (n + 4) 0x5b) = some (List.replicate (n + 4) (.char '[')) :=
  utf8?_brackets (n + 4)

theorem skipSpace_brackets (n : Nat) :
    skipSpace (List.replicate n (.char '[')) = List.replicate n (.char '[') := by
  cases n <;> rfl

theorem value_brackets {fuel room n : Nat} (hn : room < n) (hf : 2 * room < fuel) :
    value fuel room (List.replicate n (.char '[')) = .error .tooDeep := by
  induction room generalizing fuel n with
  | zero =>
    obtain ⟨n, rfl⟩ := Nat.exists_eq_add_of_lt hn
    obtain ⟨fuel, rfl⟩ := Nat.exists_eq_add_of_lt hf
    rfl
  | succ room ih =>
    obtain ⟨m, rfl⟩ : ∃ m, n = m + 2 := ⟨n - 2, by omega⟩
    obtain ⟨k, rfl⟩ : ∃ k, fuel = k + 2 := ⟨fuel - 2, by omega⟩
    -- the rest of the text is read as the first element of the outermost list
    have hitems : items (k + 1) room (List.replicate (m + 1) (.char '[')) = .error .tooDeep := by
      rw [items, ih (by omega) (by omega)]
      rfl
    show (items (k + 1) room (List.replicate (m + 1) (.char '[')) >>= _) = _
    rw [hitems]
    rfl

/-- More opening brackets than there is room for cannot be read, however much room there is. -/
theorem read_brackets {room n : Nat} (h : room < n + 4) :
    read room (List.replicate (n + 4) 0x5b) = .error .tooDeep := by
  unfold read ofPoints
  rw [decode?_brackets]
  show (value _ room (skipSpace (List.replicate (n + 4) (.char '['))) >>= _) = _
  rw [skipSpace_brackets, value_brackets h (by simp; omega)]
  rfl

/-! ## Writing -/

mutual

/-- How many lists and objects lie in one another. -/
def depth : Value → Nat
  | .list items => depthOf items + 1
  | .object members => depthOfMembers members + 1
  | _ => 0

def depthOf : List Value → Nat
  | [] => 0
  | v :: rest => max (depth v) (depthOf rest)

def depthOfMembers : List (Key × Value) → Nat
  | [] => 0
  | (_, v) :: rest => max (depth v) (depthOfMembers rest)

end

/-- What the look-out for a flaw finds: none where a value can be written and is no deeper than there is
room, and otherwise a fault of the one or the other kind. -/
def Finds (found : Option Fault) (isWritable : Bool) (depth room : Nat) : Prop :=
  (found = none ∧ isWritable = true ∧ depth ≤ room) ∨
    (found = some (.breach .tooManyDigits) ∧ isWritable = false) ∨
    (found = some .tooDeep ∧ room < depth)

theorem Finds.or {found other : Option Fault} {b b' : Bool} {depth depth' room : Nat}
    (h : Finds found b depth room) (h' : Finds other b' depth' room) :
    Finds (found.or other) (b && b') (max depth depth') room := by
  rcases h with ⟨rfl, rfl, hd⟩ | ⟨rfl, rfl⟩ | ⟨rfl, hd⟩
  · rcases h' with ⟨rfl, rfl, hd'⟩ | ⟨rfl, rfl⟩ | ⟨rfl, hd'⟩
    · exact .inl ⟨rfl, rfl, Nat.max_le.2 ⟨hd, hd'⟩⟩
    · exact .inr (.inl ⟨rfl, rfl⟩)
    · exact .inr (.inr ⟨rfl, Nat.lt_of_lt_of_le hd' (Nat.le_max_right _ _)⟩)
  · exact .inr (.inl ⟨rfl, rfl⟩)
  · exact .inr (.inr ⟨rfl, Nat.lt_of_lt_of_le hd (Nat.le_max_left _ _)⟩)

theorem Finds.succ {found : Option Fault} {b : Bool} {depth room : Nat}
    (h : Finds found b depth room) : Finds found b (depth + 1) (room + 1) := by
  rcases h with ⟨hf, hb, hd⟩ | h | ⟨hf, hd⟩
  · exact .inl ⟨hf, hb, Nat.succ_le_succ hd⟩
  · exact .inr (.inl h)
  · exact .inr (.inr ⟨hf, Nat.succ_lt_succ hd⟩)

theorem finds_none (room : Nat) : Finds none true 0 room := .inl ⟨rfl, rfl, Nat.zero_le room⟩

/-- Digits are counted before anything else is looked at. -/
theorem Finds.after_digits {found : Option Fault} {b : Bool} {depth room : Nat}
    (h : Finds found b depth room) (isShort : Bool) :
    Finds (if isShort then found else some (.breach .tooManyDigits)) (isShort && b) depth room := by
  cases isShort with
  | true => exact h
  | false => exact .inr (.inl ⟨rfl, rfl⟩)

mutual

theorem finds_flaw? : ∀ (v : Value) (room : Nat), Finds (flaw? room v) v.isWritable (depth v) room
  | .int n, room => by
    have h := (finds_none room).after_digits (Value.isShort n)
    rw [Bool.and_true] at h
    cases room <;> exact h
  | .list items, 0 => .inr (.inr ⟨rfl, Nat.succ_pos _⟩)
  | .list items, room + 1 => (finds_flawIn? items room).succ
  | .object members, 0 => .inr (.inr ⟨rfl, Nat.succ_pos _⟩)
  | .object members, room + 1 => (finds_flawInMembers? members room).succ
  | .null, room => by cases room <;> exact finds_none _
  | .bool _, room => by cases room <;> exact finds_none _
  | .float _, room => by cases room <;> exact finds_none _
  | .text _, room => by cases room <;> exact finds_none _

theorem finds_flawIn? : ∀ (vs : List Value) (room : Nat),
    Finds (flawIn? room vs) (Value.areWritable vs) (depthOf vs) room
  | [], room => finds_none room
  | v :: rest, room => (finds_flaw? v room).or (finds_flawIn? rest room)

theorem finds_flawInMembers? : ∀ (rows : List (Key × Value)) (room : Nat),
    Finds (flawInMembers? room rows) (Value.areWritableMembers rows) (depthOfMembers rows) room
  | [], room => finds_none room
  | (k, v) :: rest, room => by
    have h := ((finds_flaw? v room).or (finds_flawInMembers? rest room)).after_digits
      (Value.isShortKey k)
    rw [← Bool.and_assoc] at h
    exact h

end

/-- A value is written if no whole number in it has too many digits and it is no deeper than there is
room. -/
theorem flaw?_eq_none {room : Nat} {v : Value} :
    flaw? room v = none ↔ v.isWritable = true ∧ depth v ≤ room := by
  rcases finds_flaw? v room with ⟨hf, hd⟩ | ⟨hf, hb⟩ | ⟨hf, hd⟩
  · exact iff_of_true hf hd
  · rw [hf, hb]
    exact iff_of_false nofun fun h => nomatch h.1
  · rw [hf]
    exact iff_of_false nofun fun h => absurd h.2 (Nat.not_le.2 hd)

theorem flaw?_eq_some {room : Nat} {v : Value} {f : Fault} (h : flaw? room v = some f) :
    f = .breach .tooManyDigits ∧ v.isWritable = false ∨ f = .tooDeep ∧ room < depth v := by
  rcases finds_flaw? v room with ⟨hf, -⟩ | ⟨hf, hb⟩ | ⟨hf, hd⟩
  · cases h.symm.trans hf
  · exact .inl ⟨Option.some.inj (h.symm.trans hf), hb⟩
  · exact .inr ⟨Option.some.inj (h.symm.trans hf), hd⟩

theorem write_eq_error {room : Nat} {v : Value} {f : Fault} :
    write room v = .error f ↔ flaw? room v = some f := by
  unfold write
  cases flaw? room v with
  | none => exact iff_of_false nofun nofun
  | some g =>
    exact ⟨fun h => congrArg some (Except.error.inj h), fun h => congrArg _ (Option.some.inj h)⟩

end StagedRollout.Json
