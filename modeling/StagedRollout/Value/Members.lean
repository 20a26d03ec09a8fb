/-
Members from a value: those of an object, or the rows of a list of pairs.
-/
import StagedRollout.Fault

namespace StagedRollout

namespace Value

/-- The elements of a value that has some: those of a list, the characters of a text, the keys of
an object. -/
def elements? : Value → Option (List Value)
  | .list items => some items
  | .text s => some (s.points.map fun p => .text (Text.ofPoints [p]))
  | .object members => some (members.map fun m => m.1.toValue)
  | _ => none

/-- A pair as a row. -/
def toRow (position : Nat) (v : Value) : Except Fault (Key × Value) :=
  match v.elements? with
  | none => .error .wrongKind
  | some [k, w] =>
    match k.toKey? with
    | some key => .ok (key, w)
    | none => .error .wrongKind
  | some items => .error (.breach (.pairLength position items.length))

/-- Pairs as rows, counted from a position. -/
def toRows (position : Nat) : List Value → Except Fault (List (Key × Value))
  | [] => .ok []
  | v :: rest => do
    let row ← toRow position v
    return row :: (← toRows (position + 1) rest)

/-- The members that a value stands for. -/
def toMembers : Value → Except Fault Members
  | .object members => .ok members
  | v =>
    match v.elements? with
    | none => .error .wrongKind
    | some items => return Table.ofRows (← toRows 0 items)

end Value

end StagedRollout
