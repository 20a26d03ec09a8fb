/-
Whether a context satisfies a targeting condition: a rule that is true of its properties, or an
older definition that lists the values that properties must have.
-/
import StagedRollout.Notice
import StagedRollout.Rule.Apply
import StagedRollout.Rule.Lowering
import StagedRollout.Value.Members

namespace StagedRollout.Rule

/-! ## Rules -/

/-- The truth of a rule on properties, both in lower case. -/
def verdict (rule properties : Value) : Except Fault Bool := do
  let members ← (if properties.isTruthy then properties.toMembers else .ok [])
  return truthy (← apply (lowerAll (.object members)) (lowerLeaves rule))

/-- Whether properties satisfy a rule; a rule that cannot be evaluated is not satisfied. -/
def isMatch (rule properties : Value) : Bool :=
  match verdict rule properties with
  | .ok b => b
  | .error _ => false

/-- Whether properties satisfy a rule, with a notice if the rule cannot be evaluated. -/
def report (rule properties : Value) : Reported Bool :=
  ⟨.ok (isMatch rule properties),
    match verdict rule properties with
    | .ok _ => []
    | .error _ => [.ruleFailed]⟩

/-! ## Listed values -/

/-- Whether a property has the listed value; texts are compared in lower case. An absent property
counts as null. -/
def hasListed (expected actual : Value) : Bool :=
  match expected, actual with
  | .null, .null => true
  | .null, _ => false
  | _, .null => false
  | .text s, .text t => Text.lower s == Text.lower t
  | e, a => e.same a

/-- Whether properties have all the listed values. -/
def hasAllListed (definition properties : Members) : Bool :=
  definition.all fun m => hasListed m.2 ((Table.find? properties m.1).getD .null)

/-- Whether a context's properties match an older definition. Without properties nothing matches. -/
def matchesListed (definition : Value) (properties : Value) : Except Fault Bool :=
  match properties, definition with
  | .null, _ => .ok false
  | .object actual, .object listed => .ok (hasAllListed listed actual)
  | _, .object [] => .ok true
  | _, _ => .error .noMembers

end StagedRollout.Rule
