/-
What the library reports to its log. Each notice is an event of the domain; its line gives the
level, the text and the fields that matter.
-/
import StagedRollout.Fault

namespace StagedRollout

inductive Level where
  | debug
  | info
  | warning
  deriving DecidableEq

def Level.name : Level → String
  | .debug => "DEBUG"
  | .info => "INFO"
  | .warning => "WARNING"

/-- An event that is logged. -/
inductive Notice where
  | ruleFailed
  | badExperimentId
  | noBucketingProperty (flagKey property : Value)
  | noVariant (flagKey : Value)
  | exposureTracked (flagKey variantKey : Value)
  | exposureFailed (flagKey : Value)
  | startRefused
  | pollingStarted (interval : Double)
  | pollingStopped
  | fetchFailed
  | fetched (count : Nat)
  | flagNotFound (flagKey : Text)
  | evaluationFailed (flagKey : Text)
  | flagNotInResponse (flagKey : Text)
  | remoteFailed (flagKey : Text)

namespace Notice

def level : Notice → Level
  | .ruleFailed => .debug
  | .badExperimentId => .warning
  | .noBucketingProperty _ _ => .warning
  | .noVariant _ => .warning
  | .exposureTracked _ _ => .debug
  | .exposureFailed _ => .warning
  | .startRefused => .warning
  | .pollingStarted _ => .info
  | .pollingStopped => .info
  | .fetchFailed => .warning
  | .fetched _ => .debug
  | .flagNotFound _ => .warning
  | .evaluationFailed _ => .warning
  | .flagNotInResponse _ => .warning
  | .remoteFailed _ => .warning

def text : Notice → String
  | .ruleFailed => "Runtime rule evaluation failed"
  | .badExperimentId => "Invalid UUID for experiment_id"
  | .noBucketingProperty _ _ => "Bucketing property not found in context"
  | .noVariant _ => "Rollout selected but no variant resolved"
  | .exposureTracked _ _ => "Tracked exposure event"
  | .exposureFailed _ => "Failed to track exposure event"
  | .startRefused => "Cannot start polling: client is closed"
  | .pollingStarted _ => "Started polling for flag definitions"
  | .pollingStopped => "Stopped polling for flag definitions"
  | .fetchFailed => "Failed to fetch flag definitions"
  | .fetched _ => "Fetched flag definitions"
  | .flagNotFound _ => "Flag not found"
  | .evaluationFailed _ => "Error evaluating flag"
  | .flagNotInResponse _ => "Flag not found in response"
  | .remoteFailed _ => "Error evaluating flag remotely"

/-- The fields of a notice, by name. -/
def fields : Notice → List (String × Text)
  | .noBucketingProperty flagKey property =>
    [("flag_key", flagKey.asText), ("property", property.asText)]
  | .noVariant flagKey => [("flag_key", flagKey.asText)]
  | .exposureTracked flagKey variantKey =>
    [("flag_key", flagKey.asText), ("variant_key", variantKey.asText)]
  | .exposureFailed flagKey => [("flag_key", flagKey.asText)]
  | .pollingStarted interval => [("interval_seconds", interval.text)]
  | .fetched count => [("count", toString count)]
  | .flagNotFound flagKey => [("flag_key", flagKey)]
  | .evaluationFailed flagKey => [("flag_key", flagKey)]
  | .flagNotInResponse flagKey => [("flag_key", flagKey)]
  | .remoteFailed flagKey => [("flag_key", flagKey)]
  | _ => []

/-- The line of a notice in a log. -/
def line (n : Notice) : Text :=
  n.fields.foldl (fun line f => line ++ " " ++ f.1 ++ "=" ++ f.2) (n.level.name ++ " " ++ n.text)

end Notice

/-! ## Results with notices -/

/-- A result, or the fault in its place, with the notices given on the way. -/
structure Reported (α : Type) where
  outcome : Except Fault α
  notices : List Notice

namespace Reported

variable {α β : Type}

protected def pure (a : α) : Reported α := ⟨.ok a, []⟩

protected def bind (x : Reported α) (f : α → Reported β) : Reported β :=
  match x.outcome with
  | .error e => ⟨.error e, x.notices⟩
  | .ok a => ⟨(f a).outcome, x.notices ++ (f a).notices⟩

instance : Monad Reported where
  pure := Reported.pure
  bind := Reported.bind

/-- A result that gives no notice. -/
def ofExcept (x : Except Fault α) : Reported α := ⟨x, []⟩

def fail (e : Fault) : Reported α := ⟨.error e, []⟩

/-- Gives one notice. -/
def notify (n : Notice) : Reported Unit := ⟨.ok (), [n]⟩

@[simp] theorem outcome_pure (a : α) : (pure a : Reported α).outcome = .ok a := rfl

@[simp] theorem outcome_bind (x : Reported α) (f : α → Reported β) :
    (x >>= f).outcome = x.outcome >>= fun a => (f a).outcome := by
  show (Reported.bind x f).outcome = _
  unfold Reported.bind
  cases x.outcome <;> rfl

@[simp] theorem outcome_ofExcept (x : Except Fault α) : (ofExcept x).outcome = x := rfl

end Reported

end StagedRollout
