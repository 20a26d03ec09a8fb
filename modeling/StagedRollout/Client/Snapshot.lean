/-
Evaluation on the snapshot of a polling client. No fetch is waited for, no fault of a flag reaches
the caller, and every selection is reported once.
-/
import StagedRollout.Client.Call
import StagedRollout.Client.Polling

namespace StagedRollout.PollingClient

/-- How the client's selections come about, as its reports say it. -/
def evaluationMode : String := "local"

/-- How long an evaluation took, as a property of its report. -/
def timing (milliseconds : Nat) : Members :=
  [(.text "Variant fetch latency (ms)", .int milliseconds)]

/-- The evaluation of a flag of the snapshot. -/
def evaluateFlag (c : PollingClient) (isReported : Bool) (milliseconds : Nat) (context : Context)
    (flagKey : Value) (flag : Flag) : Call :=
  let r := Decision.evaluate (.flag flag) context flagKey
  match r.outcome with
  | .error _ => Call.decline (r.notices ++ [.evaluationFailed flagKey.asText])
  | .ok none => Call.decline r.notices
  | .ok (some s) =>
    let (exposures, told) := Exposure.sendSelection c.tracker isReported context.distinctId flagKey
      evaluationMode s (timing milliseconds)
    ⟨.ok (some s), r.notices ++ told, exposures, []⟩

/-- The evaluation of a flag by its key. -/
def call (c : PollingClient) (isReported : Bool) (milliseconds : Nat) (flagKey : Value)
    (context : Context) : Call :=
  Call.under flagKey fun key =>
    if c.isReady then
      match Table.find? c.snapshot (.text key) with
      | some flag => c.evaluateFlag isReported milliseconds context (.text key) flag
      | none => Call.decline [.flagNotFound key]
    else Call.decline []

/-! ## All flags -/

/-- What a client selects from all its flags. -/
structure Survey where
  selections : List Selection
  notices : List Notice
  exposures : List Exposure

/-- The selection of a call that is no fallback. -/
def success? (c : Call) : Option Selection :=
  match c.chosen with
  | .ok (some s) => if s.isSuccess then some s else none
  | _ => none

/-- What calls select, in their order. -/
def Survey.ofCalls (calls : List Call) : Survey :=
  ⟨calls.filterMap success?, calls.flatMap (·.notices), calls.flatMap (·.exposures)⟩

/-- The selections of all flags of the snapshot, in its order. -/
def survey (c : PollingClient) (isReported : Bool) (milliseconds : Nat) (context : Context) :
    Survey :=
  Survey.ofCalls
    (c.snapshot.map fun row => c.evaluateFlag isReported milliseconds context row.1.toValue row.2)

end StagedRollout.PollingClient
