/-
The client that leaves evaluation to the service, with one request for every call. Failures of the
transport and of the service leave the caller's fallback in place.
-/
import StagedRollout.Client.Call
import StagedRollout.Flag.Document
import StagedRollout.Json.Writer

namespace StagedRollout

structure RemoteClient where
  settings : Settings
  tracker : Tracker

namespace RemoteClient

/-- The name under which the client logs. -/
def logName : String := "k1s0_featureflag.remote"

/-! ## Answers of the service -/

/-- The selection that the service's entry for a flag holds; an entry without an arm holds none. -/
def readEntry (members : Members) : Reported (Option Selection) :=
  match Exposure.named members "variant_key" with
  | .null => pure none
  | key =>
    let (experimentId, notices) := Document.readIdentifier (Exposure.named members "experiment_id")
    ⟨.ok (some ⟨Exposure.named members "variant_value", .text key.asText, experimentId,
      Document.readOptionalBool (Exposure.named members "is_experiment_active"),
      Document.readOptionalBool (Exposure.named members "is_qa_tester")⟩), notices⟩

/-- The selection for a flag that the value of an answer holds. -/
def readValue (flagKey : Text) : Value → Reported (Option Selection)
  | .object members =>
    match (Exposure.named members "flags").members?.bind (Table.find? · (.text flagKey)) with
    | some (.object entry) => readEntry entry
    | some _ => Reported.fail (.service .parse ("flag entry must be an object: " ++ flagKey) none)
    | none => do
      Reported.notify (.flagNotInResponse flagKey)
      return none
  | _ => Reported.fail (.service .parse "flags response must be an object" none)

/-- The selection for a flag that an answer of the service holds. -/
def readAnswer (room : Nat) (flagKey : Text) (answer : Http.Response) :
    Reported (Option Selection) := do
  readValue flagKey
    (← Reported.ofExcept (answer.read room ("get_variant(" ++ flagKey ++ ")") "flags response"))

/-! ## Calls -/

/-- Where the service evaluates flags. -/
def flagsPath : String := "/flags"

/-- The parameters that name a flag and a context. -/
def params (room : Nat) (flagKey : Text) (context : Context) :
    Except Fault (List (String × Text)) := do
  let object ← context.toObject
  return [("flag_key", flagKey), ("context", ← Json.write room object)]

/-- The request for a flag's evaluation in a context, once a connection is ready. -/
def request (c : RemoteClient) (library : Http.Library) (flagKey : Text) (context : Context) :
    Except Fault Http.Request := do
  library.connect (Http.Access.ofSettings c.settings)
  return Http.Request.make c.settings flagsPath (← params library.contextRoom flagKey context)

/-- How the client's selections come about, as its reports say it. -/
def evaluationMode : String := "remote"

/-- When an evaluation began and ended, as texts. -/
structure Period where
  began : String
  ended : String

/-- When an evaluation took place, as properties of its report. -/
def timing (p : Period) : Members :=
  [(.text "Variant fetch start time", .text p.began),
    (.text "Variant fetch complete time", .text p.ended)]

/-- Whether a fault leaves the fallback in place. Other faults are the caller's. -/
def isTolerated : Fault → Bool
  | .transport _ _ => true
  | .service _ _ _ => true
  | _ => false

/-- The outcome of an answer: a selection, the fallback, or a fault. -/
def conclude (c : RemoteClient) (isReported : Bool) (period : Period) (flagKey : Text)
    (context : Context) (requests : List Http.Request) (r : Reported (Option Selection)) : Call :=
  match r.outcome with
  | .error f =>
    if isTolerated f then ⟨.ok none, r.notices ++ [.remoteFailed flagKey], [], requests⟩
    else ⟨.error f, r.notices, [], requests⟩
  | .ok none => ⟨.ok none, r.notices, [], requests⟩
  | .ok (some s) =>
    let (exposures, told) := Exposure.sendSelection c.tracker isReported context.distinctId
      (.text flagKey) evaluationMode s (timing period)
    ⟨.ok (some s), r.notices ++ told, exposures, requests⟩

/-- The evaluation of a flag by the service, which a library reaches. -/
def call (c : RemoteClient) (library : Http.Library) (isReported : Bool) (period : Period)
    (flagKey : Value) (context : Context) : Call :=
  Call.under flagKey fun key =>
    match c.request library key context with
    | .error f => c.conclude isReported period key context [] (Reported.fail f)
    | .ok r =>
      c.conclude isReported period key context [r] do
        readAnswer library.room key (← Reported.ofExcept (library.get r))

end RemoteClient

end StagedRollout
