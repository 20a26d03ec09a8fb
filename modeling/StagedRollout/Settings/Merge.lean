/-
Merging two documents of settings: the members of the second are laid over those of the first, and
objects under equal keys are merged in turn.
-/
import StagedRollout.Value.Members

namespace StagedRollout.Settings

mutual

/-- The value under a key after another value is laid over it. -/
def overlay (below : Value) : Value → Value
  | .object above =>
    match below with
    | .object members => .object (mergeMembers members above)
    | _ => .object above
  | above => above

/-- Lays members over a table, one after the other. -/
def mergeMembers (below : Members) : List (Key × Value) → Members
  | [] => below
  | (k, v) :: rest =>
    match Table.find? below k with
    | some w => mergeMembers (Table.put below k (overlay w v)) rest
    | none => mergeMembers (Table.put below k v) rest

end

/-- Two values merged. The first may be anything that stands for members, the second must be an
object. -/
def merge (base override : Value) : Except Fault Value := do
  let members ← base.toMembers
  match override with
  | .object above => return .object (mergeMembers members above)
  | _ => .error .noMembers

end StagedRollout.Settings
