/-
Keys of an object, and tables of rows by key in the order of insertion. A truth value is the number
0 or 1, and numbers are compared by their exact values, so a table finds a row of key `1` under
`1.0` and under `true` as well.
-/
import StagedRollout.Number.Decimal
import StagedRollout.Text.Basic

namespace StagedRollout

/-- What may stand as the key of an object. -/
inductive Key where
  | null
  | bool (b : Bool)
  | int (n : Int)
  | float (x : Double)
  | text (s : Text)
  deriving DecidableEq

namespace Key

/-- The exact number that a key is, if it is one. No rounding is involved. -/
def number? : Key → Option Double
  | .null => none
  | .bool b => some (.finite (if b then 1 else 0))
  | .int n => some (.finite n)
  | .float x => some x
  | .text _ => none

/-- Equality of keys. NaN is no key's equal, so a row under it is never found again, though a table that
goes by the identity of its keys would find it. -/
def same (a b : Key) : Bool :=
  match a.number?, b.number? with
  | some x, some y => x.eq y
  | none, none => decide (a = b)
  | _, _ => false

end Key

/-! ## Tables -/

/-- Rows by key, in the order in which the keys first came. -/
abbrev Table (α : Type) := List (Key × α)

namespace Table

variable {α : Type}

/-- The row under a key. -/
def find? : Table α → Key → Option α
  | [], _ => none
  | (k, a) :: rest, key => if k.same key then some a else find? rest key

/-- Sets the row under a key: in its place if the key is there, at the end otherwise. -/
def put : Table α → Key → α → Table α
  | [], key, a => [(key, a)]
  | (k, b) :: rest, key, a => if k.same key then (k, a) :: rest else (k, b) :: put rest key a

/-- The table of a list of rows, later ones overwriting earlier ones. -/
def ofRows (rows : List (Key × α)) : Table α := rows.foldl (fun t row => put t row.1 row.2) []

def keys (t : Table α) : List Key := t.map (·.1)

end Table

end StagedRollout
