/-
Looking up a dotted path in the data. A step into an object takes a member, a step into a list an
element by its position, counted from the end when it is negative.
-/
import StagedRollout.Value.Text
import StagedRollout.Text.Numeral

namespace StagedRollout.Rule

/-- The element at a position; a negative one counts from the end. -/
def elementAt? (items : List Value) (i : Int) : Option Value :=
  let j := if i < 0 then i + items.length else i
  if j < 0 then none else items[j.toNat]?

/-- What a value holds under one part of a path. -/
def step? (v : Value) (part : Text) : Option Value :=
  match v with
  | .object members => Table.find? members (.text part)
  | .list items => (Text.readInt? 10 part).bind (elementAt? items)
  | _ => none

/-- What a value holds under the parts of a path, one after the other. -/
def follow? (v : Value) : List Text → Option Value
  | [] => some v
  | part :: rest => (step? v part).bind fun w => follow? w rest

/-- What the data hold under a path. No path, or an empty one, is the whole of the data. -/
def lookup? (data path : Value) : Option Value :=
  match path with
  | .null => some data
  | .text (.plain "") => some data
  | path => follow? data (Text.split '.' path.asText)

end StagedRollout.Rule
