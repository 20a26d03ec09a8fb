/-
Flags: the arms of an experiment, the stages of its rollout, and the context in which it is
evaluated. A share is checked once, when it is made.
-/
import StagedRollout.Flag.Identifier
import StagedRollout.Value.Members

namespace StagedRollout

/-! ## Shares -/

/-- Whether a value is a number from 0 to 1. -/
def Value.isRatio (v : Value) : Bool :=
  match v.number? with
  | some x => Double.zero.le x && x.le Double.one
  | none => false

/-- A number from 0 to 1. -/
structure Ratio where
  value : Value
  inRange : value.isRatio = true

namespace Ratio

/-- A value as a share; `name` says which one in the text of the fault. -/
def ofValue (name : String) (v : Value) : Except Fault Ratio :=
  if v.number?.isNone then .error .wrongKind
  else if h : v.isRatio = true then .ok ⟨v, h⟩
  else .error (.breach (.ratioOutOfRange name v))

/-- The number that a share is. -/
def number (r : Ratio) : Double := r.value.number?.getD Double.zero

/-- A share in single precision. -/
def single (r : Ratio) : Double := r.number.toSingle

end Ratio

/-- A value in single precision. Whole numbers beyond the doubles and values that are no numbers
have none. -/
def Value.toSingle : Value → Except Fault Double
  | .bool b => .ok (if b then Double.one else Double.zero)
  | .int n =>
    match Double.ofInt? n with
    | some x => .ok x.toSingle
    | none => .error .notStorable
  | .float x => .ok x.toSingle
  | _ => .error .notStorable

/-! ## Flags -/

/-- One arm of an experiment. -/
structure Variant where
  key : Value
  value : Value
  isControl : Value
  split : Ratio

/-- An arm with a checked split. -/
def Variant.make (key value isControl split : Value) : Except Fault Variant :=
  return ⟨key, value, isControl, ← Ratio.ofValue "split" split⟩

/-- One stage of a rollout: the share of users it admits, the condition they must meet, and how an
arm is chosen for them. -/
structure Rollout where
  percentage : Ratio
  /-- A rule that the context must satisfy; null is none. -/
  rule : Value
  /-- The values that the context must have, in the older form. -/
  listed : Option Members
  /-- The key of the arm that every admitted user gets. -/
  override : Option Value
  /-- Splits by the keys of arms, in the place of the arms' own. -/
  splits : Option Members

namespace Rollout

/-- Members from a value that may be null. -/
def membersOrNone : Value → Except Fault (Option Members)
  | .null => .ok none
  | v => return some (← v.toMembers)

/-- A stage with a checked percentage. -/
def make (percentage rule listed : Value) (override : Option Value) (splits : Value) :
    Except Fault Rollout := do
  let percentage ← Ratio.ofValue "rollout_percentage" percentage
  let listed ← membersOrNone listed
  let splits ← membersOrNone splits
  return ⟨percentage, rule, listed, override, splits⟩

def isSome (members : Option Members) : Bool :=
  match members with
  | some (_ :: _) => true
  | _ => false

/-- Whether there is a rule. -/
def hasRule (r : Rollout) : Bool :=
  match r.rule with
  | .null => false
  | _ => true

def hasCondition (r : Rollout) : Bool := r.hasRule || isSome r.listed

def hasOverride (r : Rollout) : Bool := r.override.isSome

def hasSplits (r : Rollout) : Bool := isSome r.splits

end Rollout

/-- The arms of a flag, the stages of its rollout in order, and the arms fixed for test users. -/
structure RuleSet where
  variants : List Variant
  rollouts : List Rollout
  testUsers : Option Members

namespace RuleSet

def empty : RuleSet := ⟨[], [], none⟩

/-- A rule set from checked parts. -/
def make (variants : List Variant) (rollouts : List Rollout) (testUsers : Value) :
    Except Fault RuleSet :=
  return ⟨variants, rollouts, ← Rollout.membersOrNone testUsers⟩

def hasTestUsers (r : RuleSet) : Bool := Rollout.isSome r.testUsers

/-- The first arm with the key. -/
def findVariant? (r : RuleSet) (key : Value) : Option Variant :=
  r.variants.find? fun v => v.key.same key

end RuleSet

/-- The name of the property that identifies a user. -/
def distinctIdName : String := "distinct_id"

/-- A rule set with what is known about its flag. The context names the property by which users
are put into buckets. -/
structure Flag where
  key : Value
  ruleset : RuleSet
  id : Value
  name : Value
  status : Value
  projectId : Value
  context : Value
  experimentId : Option Identifier
  isActive : Value

/-! ## Contexts -/

/-- For whom a flag is evaluated. -/
structure Context where
  distinctId : Value
  properties : Option Members

namespace Context

/-- A context; the user must be named. -/
def make (distinctId properties : Value) : Except Fault Context :=
  match distinctId with
  | .null => .error (.breach .missingDistinctId)
  | id => return ⟨id, ← Rollout.membersOrNone properties⟩

/-- The properties as a value, null if there are none. -/
def propertiesValue (c : Context) : Value :=
  match c.properties with
  | some members => .object members
  | none => .null

/-- The value of a property, null if the context has none of that name. -/
def property (c : Context) (name : Value) : Except Fault Value :=
  if name.same (.text distinctIdName) then .ok c.distinctId
  else
    match c.properties, name.toKey? with
    | none, _ => .error .noMembers
    | some _, none => .error .wrongKind
    | some members, some key => .ok ((Table.find? members key).getD .null)

/-- The context as an object. -/
def toObject (c : Context) : Except Fault Value :=
  match c.properties with
  | none => .error .wrongKind
  | some members =>
    .ok (.object [(.text distinctIdName, c.distinctId),
      (.text "custom_properties", .object members)])

end Context

/-! ## Selections -/

/-- The result of an evaluation. Without a key it is a fallback. -/
structure Selection where
  value : Value
  key : Value
  experimentId : Option Identifier
  isActive : Value
  isTester : Value

namespace Selection

/-- A fallback that only has a value. -/
def fallback (v : Value) : Selection := ⟨v, .null, none, .null, .null⟩

def isFallback (s : Selection) : Bool :=
  match s.key with
  | .null => true
  | _ => false

def isSuccess (s : Selection) : Bool := !s.isFallback

end Selection

end StagedRollout
