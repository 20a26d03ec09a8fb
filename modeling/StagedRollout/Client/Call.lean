/-
Calls to a client. Every client answers the same three questions about a flag: which arm a user
gets, which value that is, and whether it is on. Where a client selects nothing, the caller's own
fallback stands.
-/
import StagedRollout.Decision.Evaluate
import StagedRollout.Exposure
import StagedRollout.Http.Message

namespace StagedRollout

/-- One evaluation of a flag by a client: the selection, none where the fallback stands, and what
was logged, reported and sent on the way. -/
structure Call where
  chosen : Except Fault (Option Selection)
  notices : List Notice
  exposures : List Exposure
  requests : List Http.Request

namespace Call

/-! ## Building -/

/-- A call that reports and sends nothing. -/
def ofReported (r : Reported (Option Selection)) : Call := ⟨r.outcome, r.notices, [], []⟩

/-- A call that fails. -/
def fail (f : Fault) : Call := ⟨.error f, [], [], []⟩

/-- A call that leaves the fallback in place. -/
def decline (notices : List Notice) : Call := ⟨.ok none, notices, [], []⟩

/-- The key of a flag. Only texts name flags, and the empty one does not. -/
def keyOf? : Value → Option Text
  | .text s => if s = "" then none else some s
  | _ => none

/-- The call for a flag's key; a value that names no flag is refused before anything else. -/
def under (flagKey : Value) (call : Text → Call) : Call :=
  match keyOf? flagKey with
  | some key => call key
  | none => fail (.breach .flagKeyNotText)

/-! ## Answers -/

/-- The selection, or the fallback in its place. -/
def selection (fallback : Selection) (c : Call) : Except Fault Selection :=
  return (← c.chosen).getD fallback

/-- The value of the selection, or the fallback's. -/
def value (fallback : Value) (c : Call) : Except Fault Value :=
  return (← c.selection (Selection.fallback fallback)).value

/-- Whether the value is exactly true. -/
def isOn (c : Call) : Except Fault Bool :=
  return match ← c.value (.bool false) with
    | .bool b => b
    | _ => false

end Call

/-- The definition of a flag that may not be known. -/
def Decision.Definition.ofFlag? : Option Flag → Decision.Definition
  | some f => .flag f
  | none => .unknown

end StagedRollout
