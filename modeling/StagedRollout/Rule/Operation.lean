/-
The operations of the rule language on operands that are already evaluated.
-/
import StagedRollout.Rule.Compare
import StagedRollout.Rule.Path

namespace StagedRollout.Rule

/-- The operations that evaluate all their operands. -/
inductive Operation where
  | lookup
  | missing
  | missingSome
  | equal
  | notEqual
  | identical
  | notIdentical
  | negation
  | truth
  | greater
  | greaterOrEqual
  | less
  | lessOrEqual
  | membership
  | concatenation
  | sum
  | difference
  | product
  | quotient
  | remainder
  | least
  | greatest
  | merge
  deriving DecidableEq

/-- The names of the operations in a rule. -/
def Operation.ofName? : Text → Option Operation
  | .plain "var" => some .lookup
  | .plain "missing" => some .missing
  | .plain "missing_some" => some .missingSome
  | .plain "==" => some .equal
  | .plain "!=" => some .notEqual
  | .plain "===" => some .identical
  | .plain "!==" => some .notIdentical
  | .plain "!" => some .negation
  | .plain "!!" => some .truth
  | .plain ">" => some .greater
  | .plain ">=" => some .greaterOrEqual
  | .plain "<" => some .less
  | .plain "<=" => some .lessOrEqual
  | .plain "in" => some .membership
  | .plain "cat" => some .concatenation
  | .plain "+" => some .sum
  | .plain "-" => some .difference
  | .plain "*" => some .product
  | .plain "/" => some .quotient
  | .plain "%" => some .remainder
  | .plain "min" => some .least
  | .plain "max" => some .greatest
  | .plain "merge" => some .merge
  | _ => none

/-- The operand at a position. -/
def operand (args : List Value) (i : Nat) : Except Fault Value :=
  match args[i]? with
  | some v => .ok v
  | none => .error .noSuchPosition

/-- The first two operands. -/
def twoOperands (args : List Value) : Except Fault (Value × Value) := do
  let a ← operand args 0
  let b ← operand args 1
  return (a, b)

/-! ## Data -/

/-- The value under the path that is the first operand, or the second operand as a default. -/
def runLookup (data : Value) (args : List Value) : Value :=
  let path := args[0]?.getD .null
  let default := args[1]?.getD .null
  (lookup? data path).getD default

/-- Whether the data have nothing under a key: no value, null, or the empty text. -/
def isMissing (data key : Value) : Bool :=
  match lookup? data key with
  | none => true
  | some .null => true
  | some (.text s) => s = ""
  | some _ => false

/-- The keys under which the data have nothing. A list as the only operand is the list of keys. -/
def runMissing (data : Value) (args : List Value) : List Value :=
  let keys := match args with
    | [.list keys] => keys
    | keys => keys
  keys.filter (isMissing data)

/-- The size of a value that has one. -/
def size : Value → Except Fault Nat
  | .text s => .ok s.length
  | .list items => .ok items.length
  | .object members => .ok members.length
  | _ => .error .wrongKind

/-- Nothing if enough of the keys are there, the missing ones otherwise. -/
def runMissingSome (data : Value) (args : List Value) : Except Fault (List Value) := do
  let (need, keys) ← twoOperands args
  let missing := runMissing data [keys]
  let total ← size keys
  match need.number? with
  | none => .error .wrongKind
  | some x =>
    let present : Int := (total : Int) - missing.length
    return if x.le (.finite present) then [] else missing

/-! ## Comparison -/

/-- A comparison of two operands, or of three as a chain. -/
def chain (compare : Value → Value → Except Fault Bool) (args : List Value) :
    Except Fault Bool := do
  let (a, b) ← twoOperands args
  match args with
  | [_, _, c] => if ← compare a b then compare b c else return false
  | _ => compare a b

/-- Whether the code points `s` occur in a row. -/
def isInfix (s : List Point) : List Point → Bool
  | [] => s.isEmpty
  | c :: rest => s.isPrefixOf (c :: rest) || isInfix s rest

/-- A text holds the texts inside it, a list the elements strictly equal to one of its own. -/
def runMembership (needle haystack : Value) : Bool :=
  match haystack with
  | .text t =>
    match needle with
    | .text s => isInfix s.points t.points
    | _ => false
  | .list items => items.any (strictEquals needle)
  | _ => false

/-! ## Text and lists -/

/-- The text of an operand in a concatenation. -/
def pieceText : Value → Text
  | .null => ""
  | .bool b => if b then "true" else "false"
  | v => v.asText

/-- The elements that an operand contributes to a merged list. -/
def pieces : Value → List Value
  | .list items => items
  | v => [v]

/-! ## Arithmetic -/

/-- The sum from left to right; no operands sum to the whole number zero. -/
def runSum (args : List Value) : Except Fault Value :=
  match args with
  | [] => .ok (.int 0)
  | args => return .float ((← args.mapM toNumber).foldl Double.add Double.zero)

def runProduct (args : List Value) : Except Fault Double :=
  return (← args.mapM toNumber).foldl Double.mul Double.one

def runDifference (args : List Value) : Except Fault Double :=
  match args with
  | [v] => return (← toNumber v).neg
  | args => do
    let x ← toNumber (← operand args 0)
    let y ← toNumber (← operand args 1)
    return x.sub y

/-- A division, whose divisor must not be zero. -/
def divide (ratio : Double → Double → Double) (args : List Value) : Except Fault Double := do
  let x ← toNumber (← operand args 0)
  let y ← toNumber (← operand args 1)
  if y.isZero then .error .divisionByZero else return ratio x y

/-- The first number that no later one precedes. -/
def extreme (precedes : Double → Double → Bool) (empty : Breach) (args : List Value) :
    Except Fault Double := do
  match ← args.mapM toNumber with
  | [] => .error (.breach empty)
  | x :: rest => return rest.foldl (fun best y => if precedes y best then y else best) x

/-! ## All operations -/

/-- The result of an operation on its operands. -/
def Operation.run (op : Operation) (data : Value) (args : List Value) : Except Fault Value :=
  match op with
  | .lookup => .ok (runLookup data args)
  | .missing => .ok (.list (runMissing data args))
  | .missingSome => return .list (← runMissingSome data args)
  | .equal => do
    let (a, b) ← twoOperands args
    return .bool (← looseEquals a b)
  | .notEqual => do
    let (a, b) ← twoOperands args
    return .bool !(← looseEquals a b)
  | .identical => do
    let (a, b) ← twoOperands args
    return .bool (strictEquals a b)
  | .notIdentical => do
    let (a, b) ← twoOperands args
    return .bool !(strictEquals a b)
  | .negation => return .bool !(truthy (← operand args 0))
  | .truth => return .bool (truthy (← operand args 0))
  | .greater => do
    let (a, b) ← twoOperands args
    return .bool (← lessThan b a)
  | .greaterOrEqual => do
    let (a, b) ← twoOperands args
    return .bool (← lessEqual b a)
  | .less => return .bool (← chain lessThan args)
  | .lessOrEqual => return .bool (← chain lessEqual args)
  | .membership => do
    let (a, b) ← twoOperands args
    return .bool (runMembership a b)
  | .concatenation => .ok (.text (Text.join (args.map pieceText)))
  | .sum => runSum args
  | .difference => return .float (← runDifference args)
  | .product => return .float (← runProduct args)
  | .quotient => return .float (← divide Double.div args)
  | .remainder => return .float (← divide Double.mod args)
  | .least => return .float (← extreme Double.lt .noLeast args)
  | .greatest => return .float (← extreme (fun x y => y.lt x) .noGreatest args)
  | .merge => .ok (.list (args.flatMap pieces))

end StagedRollout.Rule
