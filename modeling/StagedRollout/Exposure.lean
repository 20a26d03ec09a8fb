/-
Exposure events: the report that a user was shown an arm of an experiment. A tracker that fails
does not disturb the caller.
-/
import StagedRollout.Flag.Model
import StagedRollout.Notice

namespace StagedRollout

/-- What takes the events. -/
inductive Tracker where
  | absent
  /-- Every event is kept. -/
  | recording
  /-- Every event is kept, and every call fails. -/
  | failing
  deriving DecidableEq

/-- An event that a tracker was given. -/
structure Exposure where
  user : Value
  properties : Members

namespace Exposure

def eventName : String := "$experiment_started"

/-- A property that is left out when it is null. -/
def optional (name : String) : Value → Members
  | .null => []
  | v => [(.text name, v)]

/-- The properties of an event. -/
def describe (flagKey variantKey mode experimentId isActive isTester : Value) : Members :=
  [(.text "Experiment name", flagKey), (.text "Variant name", variantKey),
    (.text "$experiment_type", .text "feature_flag"),
    (.text "Flag evaluation mode", mode)] ++
    optional "$experiment_id" experimentId ++ optional "$is_experiment_active" isActive ++
    optional "$is_qa_tester" isTester

/-- A property by its name, null if it is absent. -/
def named (properties : Members) (name : String) : Value :=
  (Table.find? properties (.text name)).getD .null

/-- Whether there is someone to report to and someone to report on. A user that says nothing is not
reported. -/
def isDue (tracker : Tracker) (user : Value) : Bool := tracker ≠ .absent && user.isTruthy

/-- What is logged when a tracker was given an event. -/
def notice (tracker : Tracker) (properties : Members) : Notice :=
  match tracker with
  | .failing => .exposureFailed (named properties "Experiment name")
  | _ => .exposureTracked (named properties "Experiment name") (named properties "Variant name")

/-- The events that reach a tracker when an exposure is sent, and what is logged. -/
def send (tracker : Tracker) (user : Value) (properties : Members) : List Exposure × List Notice :=
  if isDue tracker user then ([⟨user, properties⟩], [notice tracker properties]) else ([], [])

/-- Sends any value as the properties. One that is no object has no names to log. -/
def sendValue (tracker : Tracker) (user properties : Value) :
    Except Fault (List Exposure × List Notice) :=
  match properties with
  | .object members => .ok (send tracker user members)
  | _ => if isDue tracker user then .error .noMembers else .ok ([], [])

/-- An experiment as a property. -/
def experiment : Option Identifier → Value
  | some i => .text i.text
  | none => .null

/-- Reports a selection, with properties that say when or how long it was evaluated. A fallback is
never reported. -/
def sendSelection (tracker : Tracker) (isReported : Bool) (user flagKey : Value) (mode : String)
    (s : Selection) (timing : Members) : List Exposure × List Notice :=
  if isReported && s.isSuccess then
    send tracker user (describe flagKey s.key (.text mode) (experiment s.experimentId)
      s.isActive s.isTester ++ timing)
  else ([], [])

end Exposure

end StagedRollout
