/-
Lower-casing of rules and of the data they are evaluated on, so that targeting ignores letter case.
In a rule only the texts change; in data the keys change too, and members whose keys become equal
become one.
-/
import StagedRollout.Value.Basic
import StagedRollout.Text.Lowercase

namespace StagedRollout.Rule

mutual

/-- The value with its texts in lower case; keys stay. -/
def lowerLeaves : Value → Value
  | .text s => .text (Text.lower s)
  | .list items => .list (lowerLeavesList items)
  | .object members => .object (lowerLeavesMembers members)
  | v => v

def lowerLeavesList : List Value → List Value
  | [] => []
  | v :: rest => lowerLeaves v :: lowerLeavesList rest

def lowerLeavesMembers : List (Key × Value) → List (Key × Value)
  | [] => []
  | (k, v) :: rest => (k, lowerLeaves v) :: lowerLeavesMembers rest

end

/-- A key in lower case. -/
def lowerKey : Key → Key
  | .text s => .text (Text.lower s)
  | k => k

mutual

/-- The value with its texts and keys in lower case. -/
def lowerAll : Value → Value
  | .text s => .text (Text.lower s)
  | .list items => .list (lowerAllList items)
  | .object members => .object (Table.ofRows (lowerAllMembers members))
  | v => v

def lowerAllList : List Value → List Value
  | [] => []
  | v :: rest => lowerAll v :: lowerAllList rest

def lowerAllMembers : List (Key × Value) → List (Key × Value)
  | [] => []
  | (k, v) :: rest => (lowerKey k, lowerAll v) :: lowerAllMembers rest

end

end StagedRollout.Rule
