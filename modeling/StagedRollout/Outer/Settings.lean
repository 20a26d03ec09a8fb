/-
The format of configuration files: texts are read as YAML, and everything that does not fit among the
settings is listed, in the order of the settings.
-/
import StagedRollout.Outer.Field
import StagedRollout.Outer.Yaml.Document
import StagedRollout.Settings.Load

namespace StagedRollout.Settings

/-! ## Checking -/

/-- The name of the settings of a placement. -/
def modelName : Placement → String
  | .inProcess => "LocalFlagsConfig"
  | .remote => "RemoteFlagsConfig"

def tokenName : String := "project_token"
def hostName : String := "api_host"
def timeoutName : String := "request_timeout_seconds"
def enabledName : String := "enable_polling"
def intervalName : String := "polling_interval_seconds"

/-- The names of the settings of a placement. -/
def names : Placement → List Text
  | .inProcess => [tokenName, hostName, timeoutName, enabledName, intervalName]
  | .remote => [tokenName, hostName, timeoutName]

/-- The setting of a name as its reader takes it; `absent` stands for one that is not there. -/
def setting {α : Type} (members : Members) (name : String) (read : Value → Except Flaw α)
    (absent : Except Flaw α) : Except Complaint α :=
  (match Table.find? members (.text name) with
    | some v => read v
    | none => absent).mapError (Flaw.complaint [.text name])

/-- A key as a place in a complaint: a text or a whole number of 64 bits, any other key by its
text. -/
def keyPlace : Key → Key
  | .text s => .text s
  | .int n => if isSmall n then .int n else .text (toString n)
  | .bool b => .int (if b then 1 else 0)
  | k => .text k.quotedText

/-- The complaint about a member that is no setting. -/
def stray? (placement : Placement) (key : Key) : Option Complaint :=
  match key with
  | .text s => if (names placement).contains s then none else some (Flaw.complaint [.text s] .unknownSetting)
  | k => some (Flaw.complaint [keyPlace k] .keyNotText)

/-- The complaint in the place of a setting. -/
def complaint? {α : Type} : Except Complaint α → Option Complaint
  | .ok _ => none
  | .error c => some c

/-- The settings of polling, for a placement that polls. -/
def readPolling (placement : Placement) (members : Members) :
    Except Complaint Bool × Except Complaint Double :=
  match placement with
  | .inProcess =>
    (setting members enabledName readBool (.ok true),
      setting members intervalName readPositive (.ok defaultInterval))
  | .remote => (.ok true, .ok defaultInterval)

/-- The settings that members hold, or all that is wrong with them. -/
def ofMembers (placement : Placement) (members : Members) : Except (List Complaint) Settings :=
  let token := setting members tokenName readText (.error .missing)
  let host := setting members hostName readText (.ok defaultHost)
  let timeout := setting members timeoutName readPositive (.ok defaultTimeout)
  let (enabled, interval) := readPolling placement members
  let strays := (Table.keys members).filterMap (stray? placement)
  match token, host, timeout, enabled, interval, strays with
  | .ok token, .ok host, .ok timeout, .ok enabled, .ok interval, [] =>
    let polling := match placement with
      | .inProcess => some ⟨enabled, interval⟩
      | .remote => none
    .ok ⟨token, host, timeout, polling⟩
  | _, _, _, _, _, _ =>
    .error ((complaint? token).toList ++ (complaint? host).toList ++
      (complaint? timeout).toList ++ (complaint? enabled).toList ++
      (complaint? interval).toList ++ strays)

/-- What is said of settings that do not fit. -/
def misfit (placement : Placement) (complaints : List Complaint) : Misfit :=
  let errors := if complaints.length = 1 then " validation error for " else " validation errors for "
  ⟨toString complaints.length ++ errors ++ modelName placement, complaints⟩

/-- The settings that a value holds. -/
def check (placement : Placement) (data : Value) : Except Misfit Settings :=
  match data with
  | .object members => (ofMembers placement members).mapError (misfit placement)
  | _ => .error (misfit placement [Flaw.complaint [] (.notAnObject (modelName placement))])

/-! ## The format -/

/-- How deep a merge may go: a thousand calls may be open at once, and a few are when it begins. -/
def room : Nat := 970

/-- Values as the data of configuration files. -/
def yaml : Format Value Key where
  read := Yaml.read
  isTruthy := Value.isTruthy
  isMapping v := v.members?.isSome
  empty := .object []
  entries v := v.members?.getD []
  find? v key := v.members?.bind (Table.find? · key)
  put v key w := .object (Table.put (v.members?.getD []) key w)
  key name := .text name
  check := check
  room := Settings.room

end StagedRollout.Settings
