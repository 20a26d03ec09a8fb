/-
Values as documents, rules and callers bring them: JSON values whose numbers are whole or doubles
and whose objects keep their order.
-/
import StagedRollout.Value.Key

namespace StagedRollout

inductive Value where
  | null
  | bool (b : Bool)
  | int (n : Int)
  | float (x : Double)
  | text (s : Text)
  | list (items : List Value)
  | object (members : List (Key × Value))

instance : Inhabited Value := ⟨.null⟩

/-- The members of an object. -/
abbrev Members := Table Value

/-- The value that a key is. -/
def Key.toValue : Key → Value
  | .null => .null
  | .bool b => .bool b
  | .int n => .int n
  | .float x => .float x
  | .text s => .text s

namespace Value

/-- A value as a key; lists and objects are none. -/
def toKey? : Value → Option Key
  | .null => some .null
  | .bool b => some (.bool b)
  | .int n => some (.int n)
  | .float x => some (.float x)
  | .text s => some (.text s)
  | .list _ => none
  | .object _ => none

/-- The exact number that a value is, if it is one; no rounding is involved. -/
def number? (v : Value) : Option Double := v.toKey?.bind Key.number?

/-- Whether the value says something: not null, false, a zero, or empty. -/
def isTruthy : Value → Bool
  | .null => false
  | .bool b => b
  | .int n => n ≠ 0
  | .float x => !x.isZero
  | .text s => s ≠ ""
  | .list items => !items.isEmpty
  | .object members => !members.isEmpty

/-- The value, or another one where it says nothing. -/
def orElse (v w : Value) : Value := if v.isTruthy then v else w

/-- The members of an object. -/
def members? : Value → Option Members
  | .object members => some members
  | _ => none

/-! ## Equality -/

mutual

/-- Equality of values: numbers by exact value, lists element by element, objects by the values
under equal keys, whatever the order. -/
def same : Value → Value → Bool
  | .list xs, .list ys => sameList xs ys
  | .object ms, .object ns => ms.length == ns.length && sameMembers ms ns
  | a, b =>
    match a.toKey?, b.toKey? with
    | some k, some l => k.same l
    | _, _ => false

def sameList : List Value → List Value → Bool
  | [], [] => true
  | x :: xs, y :: ys => same x y && sameList xs ys
  | _, _ => false

def sameMembers : List (Key × Value) → Members → Bool
  | [], _ => true
  | (k, v) :: rest, ns =>
    (match Table.find? ns k with
      | some w => same v w
      | none => false) && sameMembers rest ns

end

end Value

end StagedRollout
