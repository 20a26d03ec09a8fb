/-
Comparison of operands. Two texts compare as texts. Loose equality compares a number or truth value
with anything by the numbers they count as; strict equality never converts.
-/
import StagedRollout.Rule.Convert

namespace StagedRollout.Rule

/-- Whether a value is a truth value or a number. -/
def isNumeric (v : Value) : Bool := v.number?.isSome

def isBool : Value → Bool
  | .bool _ => true
  | _ => false

/-- A comparison that a broken rule of one operand makes false. -/
def falseOnBreach : Except Fault Bool → Except Fault Bool
  | .error (.breach _) => .ok false
  | x => x

/-- Whether two operands count as the same number. -/
def sameNumber (a b : Value) : Except Fault Bool := do
  let x ← toNumber a
  let y ← toNumber b
  return x.eq y

/-- Loose equality. Null equals only null. -/
def looseEquals (a b : Value) : Except Fault Bool :=
  match a, b with
  | .null, .null => .ok true
  | .null, _ => .ok false
  | _, .null => .ok false
  | .text s, .text t => .ok (s == t)
  | a, b => if isNumeric a || isNumeric b then falseOnBreach (sameNumber a b) else .ok (a.same b)

/-- Strict equality: a truth value never equals a number, other numbers compare by exact value. -/
def strictEquals (a b : Value) : Bool :=
  if isBool a != isBool b then false
  else if isNumeric a && isNumeric b then a.same b
  else a.kindName == b.kindName && a.same b

def lessThan (a b : Value) : Except Fault Bool :=
  match a, b with
  | .text s, .text t => .ok (decide (s < t))
  | a, b => do
    let x ← toNumber a
    let y ← toNumber b
    return x.lt y

def lessEqual (a b : Value) : Except Fault Bool :=
  match a, b with
  | .text s, .text t => .ok (!decide (t < s))
  | a, b => do
    let x ← toNumber a
    let y ← toNumber b
    return x.le y

end StagedRollout.Rule
