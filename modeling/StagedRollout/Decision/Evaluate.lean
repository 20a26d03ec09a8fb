/-
The evaluation of a flag for a context. A test user gets the arm fixed for them; any other user
gets an arm from the first stage of the rollout that is meant for them and admits their bucket.
-/
import StagedRollout.Flag.Model
import StagedRollout.Hash
import StagedRollout.Rule.Match

namespace StagedRollout.Decision

/-! ## Choosing by splits

Splits are added up from the left in single precision, and the first entry whose running sum lies
above the position is chosen; a position that no sum reaches gets the last entry. -/

section Splits

variable {α : Type}

/-- The sum of the splits so far and the next one, in single precision. -/
def nextTotal (total share : Double) : Double := (total.add share).toSingle

/-- Walks along the entries with the sum of the splits passed so far. `last` is the entry passed
last. No split after the chosen one is looked at. -/
def walk (position total : Double) (last : Option α) : List (α × Value) → Except Fault (Option α)
  | [] => .ok last
  | (item, split) :: rest => do
    let share ← split.toSingle
    if position.lt (nextTotal total share) then return some item
    else walk position (nextTotal total share) (some item) rest

/-- The entry that a position falls on, none if there are no entries. -/
def select (entries : List (α × Value)) (position : Value) : Except Fault (Option α) := do
  walk (← position.toSingle) Double.zero none entries

end Splits

/-! ## Targeting -/

/-- A stage with a rule is meant for the contexts that satisfy it, one with listed values for those
that have them, and any other stage for all. -/
def isTargeted (rollout : Rollout) (context : Context) : Reported Bool :=
  if rollout.hasRule then Rule.report rollout.rule context.propertiesValue
  else
    match rollout.listed with
    | some (m :: rest) =>
      Reported.ofExcept (Rule.matchesListed (.object (m :: rest)) context.propertiesValue)
    | _ => pure true

/-! ## Definitions -/

/-- What is known about a flag that is to be evaluated. -/
inductive Definition where
  | unknown
  | rules (ruleset : RuleSet)
  | flag (flag : Flag)

namespace Definition

def ruleset : Definition → RuleSet
  | .unknown => RuleSet.empty
  | .rules r => r
  | .flag f => f.ruleset

/-- The name of the property by which users are put into buckets. -/
def bucketingName : Definition → Value
  | .flag f => f.context
  | _ => .text distinctIdName

/-- The selection of an arm. Only a flag brings an experiment. -/
def selection (definition : Definition) (variant : Variant) (isTester : Bool) : Selection :=
  match definition with
  | .flag f => ⟨variant.value, variant.key, f.experimentId, f.isActive, .bool isTester⟩
  | _ => ⟨variant.value, variant.key, none, .null, .bool isTester⟩

end Definition

/-! ## Test users -/

/-- The key of the arm fixed for a user. -/
def testKey (ruleset : RuleSet) (user : Value) : Except Fault Value :=
  match ruleset.testUsers with
  | some (m :: rest) =>
    match user.toKey? with
    | some key => .ok ((Table.find? (m :: rest) key).getD .null)
    | none => .error .wrongKind
  | _ => .ok .null

/-- The arm under a key; null is the key of none. -/
def variantOf (ruleset : RuleSet) : Value → Option Variant
  | .null => none
  | key => ruleset.findVariant? key

/-- The arm fixed for a user, if there is such an arm. -/
def testVariant (ruleset : RuleSet) (user : Value) : Except Fault (Option Variant) :=
  return variantOf ruleset (← testKey ruleset user)

/-! ## Rollouts -/

/-- The text that stands for a user's property; truth values are lower-case words. A value with a
whole number of too many digits has none. -/
def identityText : Value → Except Fault Text
  | .bool b => .ok (if b then "true" else "false")
  | v => if v.isWritable then .ok v.asText else .error (.breach .tooManyDigits)

/-- The text that is hashed into a bucket; only characters have bytes to hash. -/
def bucketingText (identity flagKey : Value) : Except Fault String := do
  let own ← identityText identity
  match flagKey with
  | .text s => Hash.characters (own ++ s)
  | _ => .error .wrongKind

/-- The splits of a rollout as entries by the keys of arms. -/
def splitEntries (splits : Members) : List (Value × Value) :=
  splits.map fun m => (m.1.toValue, m.2)

/-- The arms with their own splits as entries. -/
def variantEntries (ruleset : RuleSet) : List (Variant × Value) :=
  ruleset.variants.map fun v => (v, v.split.value)

/-- The arm that an admitted user gets: the fixed one, else one chosen by the splits of the
rollout, else one chosen by the arms' own splits. -/
def resolve (ruleset : RuleSet) (rollout : Rollout) (bucketing : String) :
    Except Fault (Option Variant) :=
  match rollout.override with
  | some key => .ok (ruleset.findVariant? key)
  | none =>
    let position := Value.float (Hash.variantPosition bucketing)
    match rollout.splits with
    | some (m :: rest) =>
      return variantOf ruleset ((← select (splitEntries (m :: rest)) position).getD .null)
    | _ => select (variantEntries ruleset) position

/-- Whether a rollout admits a bucket, both in single precision. -/
def admits (rollout : Rollout) (bucket : Double) : Bool := !rollout.percentage.single.le bucket

/-- The first rollout that is meant for the context and admits the bucket. -/
def firstRollout (context : Context) (bucket : Double) :
    List Rollout → Reported (Option Rollout)
  | [] => pure none
  | rollout :: rest => do
    if (← isTargeted rollout context) && admits rollout bucket then return some rollout
    else firstRollout context bucket rest

/-- The arm of the first fitting rollout. A rollout that fits but yields no arm ends the search. -/
def rolloutVariant (ruleset : RuleSet) (context : Context) (flagKey : Value)
    (bucketing : String) : Reported (Option Variant) := do
  let bucket := (Hash.rolloutPosition bucketing).toSingle
  match ← firstRollout context bucket ruleset.rollouts with
  | none => return none
  | some rollout =>
    match ← Reported.ofExcept (resolve ruleset rollout bucketing) with
    | some variant => return some variant
    | none => do
      Reported.notify (.noVariant flagKey)
      return none

/-! ## Evaluation -/

/-- The selection for a user whose bucketing property is known. -/
def selectFor (definition : Definition) (context : Context) (flagKey identity : Value) :
    Reported (Option Selection) := do
  match ← Reported.ofExcept (testVariant definition.ruleset context.distinctId) with
  | some variant => return some (definition.selection variant true)
  | none =>
    let bucketing ← Reported.ofExcept (bucketingText identity flagKey)
    let variant ← rolloutVariant definition.ruleset context flagKey bucketing
    return variant.map fun v => definition.selection v false

/-- The selection of a flag for a context; none stands for the caller's fallback. -/
def evaluate (definition : Definition) (context : Context) (flagKey : Value) :
    Reported (Option Selection) :=
  if flagKey.isTruthy then
    match definition with
    | .unknown => pure none
    | definition => do
      match ← Reported.ofExcept (context.property definition.bucketingName) with
      | .null => do
        Reported.notify (.noBucketingProperty flagKey definition.bucketingName)
        return none
      | identity => selectFor definition context flagKey identity
  else Reported.fail (.breach .emptyFlagKey)

end StagedRollout.Decision
