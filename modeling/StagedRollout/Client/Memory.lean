/-
The client that holds its flags in memory. Flags are stored one by one or replaced all at once by a
document; a document that is refused changes nothing.
-/
import StagedRollout.Client.Call
import StagedRollout.Flag.Document

namespace StagedRollout

structure MemoryClient where
  flags : Table Flag

namespace MemoryClient

def empty : MemoryClient := ⟨[]⟩

/-- The name under which the client logs. -/
def logName : String := "k1s0_featureflag.memory"

/-- The settings of the client, which talks with nobody. -/
def settings : Settings :=
  ⟨"in-memory", Settings.defaultHost, Settings.defaultTimeout,
    some ⟨false, Settings.defaultInterval⟩⟩

/-! ## Storing -/

/-- Stores a flag under its key. -/
def setFlag (flag : Flag) (c : MemoryClient) : Except Fault MemoryClient :=
  match flag.key.toKey? with
  | some key => .ok ⟨Table.put c.flags key flag⟩
  | none => .error .wrongKind

/-- The client with the flags of a document in the place of all its flags. -/
def ofDocument (payload : Value) : Reported MemoryClient := return ⟨← Document.read payload⟩

/-! ## Reading -/

/-- The flag under a key. -/
def flag? (c : MemoryClient) (key : Value) : Except Fault (Option Flag) :=
  match key.toKey? with
  | some key => .ok (Table.find? c.flags key)
  | none => .error .wrongKind

/-- The evaluation of a flag. Its faults are the caller's. -/
def call (c : MemoryClient) (flagKey : Value) (context : Context) : Call :=
  Call.under flagKey fun key =>
    Call.ofReported (Decision.evaluate
      (Decision.Definition.ofFlag? (Table.find? c.flags (.text key))) context (.text key))

end MemoryClient

end StagedRollout
