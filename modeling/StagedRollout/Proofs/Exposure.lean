/-
What a report tells, and of what there are reports: of every showing that is to be reported, of a user
who can be named, exactly one event that names the user, the flag, the arm and what is known of the
experiment.
-/
import StagedRollout.Exposure
import StagedRollout.Proofs.Value.Table
import Mathlib.Data.List.Forall2

namespace StagedRollout

/-- A user who is shown an arm of a flag. -/
structure Showing where
  user : Value
  flagKey : Value
  selection : Selection

namespace Exposure

/-! ## What a report tells -/

/-- A property of an event, if the event has it. -/
def property? (e : Exposure) (name : String) : Option Value :=
  Table.find? e.properties (.text name)

/-- What is told of a value that may be open. -/
def stated : Value → Option Value
  | .null => none
  | v => some v

/-- An event tells of a showing. Of the experiment it tells what is known: a truth value that is false
is told, one that is open is not. -/
structure Tells (mode : String) (e : Exposure) (s : Showing) : Prop where
  user : e.user = s.user
  flag : e.property? "Experiment name" = some s.flagKey
  variant : e.property? "Variant name" = some s.selection.key
  kind : e.property? "$experiment_type" = some (.text "feature_flag")
  mode : e.property? "Flag evaluation mode" = some (.text mode)
  experiment : e.property? "$experiment_id" = s.selection.experimentId.map fun i => .text i.text
  isActive : e.property? "$is_experiment_active" = stated s.selection.isActive
  isTester : e.property? "$is_qa_tester" = stated s.selection.isTester

theorem find?_optional (name : String) (other : Text) (v : Value) :
    Table.find? (optional name v) (.text other) =
      if .plain name = other then stated v else none := by
  cases v with
  | null => exact (ite_self none).symm
  | _ => exact Table.find?_cons_text

theorem stated_experiment (id : Option Identifier) :
    stated (Exposure.experiment id) = id.map fun i => .text i.text := by
  cases id <;> rfl

/-- Properties that tell nothing of an experiment. -/
structure Aside (properties : Members) : Prop where
  experiment : Table.find? properties (.text "$experiment_id") = none
  isActive : Table.find? properties (.text "$is_experiment_active") = none
  isTester : Table.find? properties (.text "$is_qa_tester") = none

/-- The properties of an event tell what they are made of, whatever is added to them aside. -/
theorem tells_describe (mode : String) (s : Showing) {timing : Members} (ht : Aside timing) :
    Tells mode ⟨s.user, describe s.flagKey s.selection.key (.text mode)
      (Exposure.experiment s.selection.experimentId) s.selection.isActive s.selection.isTester ++
        timing⟩ s := by
  constructor <;>
    simp [property?, describe, Table.find?_append, Table.find?_cons_text, find?_optional,
      stated_experiment, ht.experiment, ht.isActive, ht.isTester]

end Exposure

/-! ## What is reported -/

namespace Showing

/-- The showing that a report is due of: of what was selected, if reports are wanted and the user can
be named. -/
def due? (isReported : Bool) (user flagKey : Value) (selected : Option Selection) :
    Option Showing :=
  if isReported && user.isTruthy then selected.map fun s => ⟨user, flagKey, s⟩ else none

theorem selections_of_due (isReported : Bool) (user flagKey : Value)
    (selected : Option Selection) :
    (due? isReported user flagKey selected).toList.map (·.selection) =
      if isReported && user.isTruthy then selected.toList else [] := by
  unfold due?
  split
  · cases selected <;> rfl
  · rfl

end Showing

namespace Exposure

/-- A tracker that keeps its events is given one event for a showing, and none for a fallback. -/
theorem sendSelection_tells (isReported : Bool) (user flagKey : Value) (mode : String)
    (s : Selection) {timing : Members} (ht : Aside timing) :
    List.Forall₂ (Tells mode)
      (sendSelection .recording isReported user flagKey mode s timing).1
      (Showing.due? isReported user flagKey
        (if s.isSuccess then some s else none)).toList := by
  unfold sendSelection send isDue Showing.due?
  cases s.isSuccess with
  | false => simp
  | true =>
    cases isReported with
    | false => simp
    | true =>
      cases user.isTruthy with
      | false => simp
      | true => simpa using tells_describe mode ⟨user, flagKey, s⟩ ht

end Exposure

end StagedRollout
