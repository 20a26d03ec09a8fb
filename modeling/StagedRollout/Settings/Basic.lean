/-
The settings of a client: with whom it talks, and whether and how often it polls.
-/
import StagedRollout.Fault

namespace StagedRollout

/-- Where flags are evaluated: in the process itself, from definitions that it polls, or by the
service. -/
inductive Placement where
  | inProcess
  | remote
  deriving DecidableEq

namespace Placement

/-- The placement of a name; only one name stands for evaluation in the process. -/
def ofName (s : String) : Placement := if s = "local" then .inProcess else .remote

end Placement

/-- Whether and how often definitions are fetched again. -/
structure Polling where
  isEnabled : Bool
  interval : Double

/-- The settings of a client. Only evaluation in the process polls. -/
structure Settings where
  token : Text
  host : Text
  timeout : Double
  polling : Option Polling

namespace Settings

def defaultHost : String := "api.mixpanel.com"

def defaultTimeout : Double := .finite 10

def defaultInterval : Double := .finite 60

def placement (s : Settings) : Placement := if s.polling.isSome then .inProcess else .remote

/-! ## The address of the service -/

/-- The text without slashes at its end. -/
def withoutSlashes (s : Text) : Text :=
  Text.ofPoints (s.points.reverse.dropWhile (· = .char '/')).reverse

/-- Whether a host names a scheme. -/
def hasScheme : List Point → Bool
  | .char ':' :: .char '/' :: .char '/' :: _ => true
  | _ :: rest => hasScheme rest
  | [] => false

/-- The address of the service; a host without a scheme is reached in the secure one. -/
def baseAddress (s : Settings) : Text :=
  if hasScheme s.host.points then withoutSlashes s.host
  else "https://" ++ withoutSlashes s.host

end Settings

end StagedRollout
