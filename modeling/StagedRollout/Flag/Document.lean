/-
Definition documents. Every field of a flag is brought to its type, arms are put in the order of
their keys, and a flag whose key occurs again replaces the earlier one in its place.
-/
import StagedRollout.Flag.Model
import StagedRollout.Notice
import StagedRollout.Text.Numeral

namespace StagedRollout.Document

/-! ## Fields -/

/-- What a mapping holds under a name. -/
def field? (data : Value) (name : String) : Except Fault (Option Value) :=
  match data with
  | .object members => .ok (Table.find? members (.text name))
  | _ => .error .noMembers

/-- A field, null if it is absent. -/
def field (data : Value) (name : String) : Except Fault Value :=
  return (← field? data name).getD .null

/-- A field as a text, the empty one if it is absent. -/
def textField (data : Value) (name : String) : Except Fault Text :=
  return ((← field? data name).getD (.text "")).asText

/-- A value as a double. -/
def toDouble : Value → Except Fault Double
  | .bool b => .ok (if b then Double.one else Double.zero)
  | .int n =>
    match Double.ofInt? n with
    | some x => .ok x
    | none => .error .outOfRange
  | .float x => .ok x
  | .text s =>
    match Text.readDouble? s with
    | some x => .ok x
    | none => .error (.breach (.unreadableNumber s))
  | _ => .error .wrongKind

/-- A share: zero if the value says nothing. -/
def toShare (v : Value) : Except Fault Value :=
  return .float (← toDouble (v.orElse (.float Double.zero)))

/-- A value as a whole number; doubles are cut toward zero. -/
def toInt : Value → Except Fault Int
  | .bool b => .ok (if b then 1 else 0)
  | .int n => .ok n
  | .float x =>
    match x with
    | .nan => .error (.breach .wholeOfNan)
    | .infinity _ => .error .outOfRange
    | x => .ok (Double.cut (x.value?.getD 0))
  | .text s =>
    match Text.readInt? 10 s with
    | some n => .ok n
    | none => .error (.breach (.unreadableInteger 10 s))
  | _ => .error .wrongKind

/-- The elements of a field; a field that says nothing has none. -/
def elements (v : Value) : Except Fault (List Value) :=
  match (v.orElse (.list [])).elements? with
  | some items => .ok items
  | none => .error .wrongKind

/-! ## Parts of a flag -/

def readVariant (data : Value) : Except Fault Variant := do
  let key ← textField data "key"
  let value ← field data "value"
  let isControl ← field data "is_control"
  let split ← toShare (← field data "split")
  Variant.make (.text key) value (.bool isControl.isTruthy) split

/-- The key of the arm that a rollout fixes: the key of a mapping that names one. -/
def readOverride (data : Value) : Option Value :=
  match data with
  | .object members =>
    match Table.find? members (.text "key") with
    | some key => if key.isTruthy then some (.text key.asText) else none
    | none => none
  | _ => none

/-- A split of an arm, with the arm's key as a text. -/
def readSplit (row : Key × Value) : Except Fault (Key × Value) :=
  return (.text row.1.toValue.asText, ← toShare row.2)

/-- The splits of an object; other values are none. -/
def readSplits (data : Value) : Except Fault Value :=
  match data with
  | .object rows => return .object (Table.ofRows (← rows.mapM readSplit))
  | _ => .ok .null

def readRollout (data : Value) : Except Fault Rollout := do
  let override := readOverride (← field data "variant_override")
  let listed := match ← field data "runtime_evaluation_definition" with
    | .object members => Value.object members
    | _ => .null
  let percentage ← toShare (← field data "rollout_percentage")
  let rule ← field data "runtime_evaluation_rule"
  let splits ← readSplits (← field data "variant_splits")
  Rollout.make percentage rule listed override splits

/-- The keys of arms in the order of their characters. -/
def variantBefore (a b : Variant) : Bool := !decide (b.key.asText < a.key.asText)

/-- The arms fixed for test users, if the document lists any. -/
def readTestUsers (test : Value) : Option Members :=
  match test with
  | .object members =>
    match Table.find? members (.text "users") with
    | some (.object users) =>
      some (Table.ofRows
        (users.map fun row => (.text row.1.toValue.asText, .text row.2.asText)))
    | _ => none
  | _ => none

/-- A rule set; one that says nothing is empty. -/
def readRuleSet (data : Value) : Except Fault RuleSet :=
  if data.isTruthy then do
    let variants ← (← elements (← field data "variants")).mapM readVariant
    let rollouts ← (← elements (← field data "rollout")).mapM readRollout
    let testUsers := readTestUsers (← field data "test")
    return ⟨variants.mergeSort variantBefore, rollouts, testUsers⟩
  else .ok RuleSet.empty

/-- The identifier of an experiment. A value that says nothing is none, one that spells no
identifier is none with a notice. -/
def readIdentifier (v : Value) : Option Identifier × List Notice :=
  if v.isTruthy then
    match Identifier.ofText? v.asText with
    | some i => (some i, [])
    | none => (none, [.badExperimentId])
  else (none, [])

/-- A truth value that may be left open. -/
def readOptionalBool : Value → Value
  | .null => .null
  | v => .bool v.isTruthy

/-! ## Flags -/

/-- A flag without its experiment's identifier. -/
def readUnidentified (data : Value) : Except Fault Flag := do
  let isActive ← field data "is_experiment_active"
  let key ← textField data "key"
  let ruleset ← readRuleSet (← field data "ruleset")
  let id ← textField data "id"
  let name ← textField data "name"
  let status ← textField data "status"
  let projectId ← toInt ((← field data "project_id").orElse (.int 0))
  let context := ((← field data "context").orElse (.text distinctIdName)).asText
  return ⟨.text key, ruleset, .text id, .text name, .text status, .int projectId, .text context,
    none, readOptionalBool isActive⟩

/-- A flag of a document. -/
def readFlag (data : Value) : Reported Flag := do
  let flag ← Reported.ofExcept (readUnidentified data)
  let (experimentId, notices) := readIdentifier
    (match field data "experiment_id" with
      | .ok v => v
      | .error _ => .null)
  ⟨.ok { flag with experimentId := experimentId }, notices⟩

/-- The key under which a flag is stored. -/
def flagKey (flag : Flag) : Key := .text flag.key.asText

/-- Adds flags to a table, in order. -/
def readFlags (t : Table Flag) : List Value → Reported (Table Flag)
  | [] => pure t
  | data :: rest => do
    let flag ← readFlag data
    readFlags (Table.put t (flagKey flag) flag) rest

/-! ## Documents -/

/-- A fault of a flag as a fault of the document. Numbers out of range pass as they are. -/
def wrap : Fault → Fault
  | .breach b => .service .parse "Failed to parse flag definitions" (some (.breach b))
  | .wrongKind => .service .parse "Failed to parse flag definitions" (some .wrongKind)
  | .noMembers => .service .parse "Failed to parse flag definitions" (some .noMembers)
  | f => f

/-- The flags of a document by key. -/
def read (payload : Value) : Reported (Table Flag) :=
  match payload with
  | .object members =>
    match (Table.find? members (.text "flags")).getD .null with
    | .null => pure []
    | .list flags =>
      let result := readFlags [] flags
      ⟨result.outcome.mapError wrap, result.notices⟩
    | _ => Reported.fail (.service .parse "'flags' must be an array" none)
  | v => Reported.fail
      (.service .parse ("definitions must be an object, got " ++ v.kindName) none)

end StagedRollout.Document
