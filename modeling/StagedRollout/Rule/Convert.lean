/-
What the operands of a rule count as: a truth value, or a number.
-/
import StagedRollout.Fault
import StagedRollout.Text.Numeral

namespace StagedRollout.Rule

/-- The truth of an operand. An object is true even when it is empty. -/
def truthy : Value → Bool
  | .object _ => true
  | v => v.isTruthy

/-- The number of a text without blanks around it; a blank text is zero. -/
def textToNumber (s : Text) : Except Fault Double :=
  let body := s.trim
  if body = "" then .ok Double.zero
  else
    match Text.readDouble? body with
    | some x => .ok x
    | none => .error (.breach (.unreadableNumber body))

/-- The double nearest to a whole number in range. -/
def intToNumber (n : Int) : Except Fault Double :=
  match Double.ofInt? n with
  | some x => .ok x
  | none => .error .outOfRange

/-- The number that an operand counts as. -/
def toNumber : Value → Except Fault Double
  | .null => .ok Double.zero
  | .bool b => .ok (if b then Double.one else Double.zero)
  | .int n => intToNumber n
  | .float x => .ok x
  | .text s => textToNumber s
  | .list items => .error (.breach (.notConvertible (Value.list items).kindName))
  | .object members => .error (.breach (.notConvertible (Value.object members).kindName))

end StagedRollout.Rule
