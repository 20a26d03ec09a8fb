/-
Evaluation of rules. An object with one member whose key is a text is an operation on the member's
value; a list is evaluated element by element; everything else stands for itself. The control
operations evaluate no operand after the one that decides.
-/
import StagedRollout.Rule.Operation

namespace StagedRollout.Rule

mutual

/-- The value of a rule on some data. -/
def apply (data : Value) : Value → Except Fault Value
  | .list rules => return .list (← applyAll data rules)
  | .object [(.text (.plain "if"), .list args)] => choose data args
  | .object [(.text (.plain "?:"), .list args)] => choose data args
  | .object [(.text (.plain "and"), .list args)] => conjunction data args
  | .object [(.text (.plain "or"), .list args)] => disjunction data args
  | .object [(.text (.plain "if"), arg)] => apply data arg
  | .object [(.text (.plain "?:"), arg)] => apply data arg
  | .object [(.text (.plain "and"), arg)] => apply data arg
  | .object [(.text (.plain "or"), arg)] => apply data arg
  | .object [(.text name, .list args)] =>
    match Operation.ofName? name with
    | none => .error (.breach (.unknownOperation name))
    | some op => do op.run data (← applyAll data args)
  | .object [(.text name, arg)] =>
    match Operation.ofName? name with
    | none => .error (.breach (.unknownOperation name))
    | some op => do op.run data [← apply data arg]
  | rule => .ok rule

/-- The values of rules, in order. -/
def applyAll (data : Value) : List Value → Except Fault (List Value)
  | [] => .ok []
  | rule :: rest => do
    let v ← apply data rule
    return v :: (← applyAll data rest)

/-- Conditions and results in turn, perhaps with a last result that needs no condition. -/
def choose (data : Value) : List Value → Except Fault Value
  | [] => .ok .null
  | [last] => apply data last
  | condition :: result :: rest => do
    if truthy (← apply data condition) then apply data result else choose data rest

/-- The first false operand, or the last one. -/
def conjunction (data : Value) : List Value → Except Fault Value
  | [] => .ok .null
  | [last] => apply data last
  | rule :: rest => do
    let v ← apply data rule
    if truthy v then conjunction data rest else return v

/-- The first true operand, or the last one. -/
def disjunction (data : Value) : List Value → Except Fault Value
  | [] => .ok .null
  | [last] => apply data last
  | rule :: rest => do
    let v ← apply data rule
    if truthy v then return v else disjunction data rest

end

end StagedRollout.Rule
