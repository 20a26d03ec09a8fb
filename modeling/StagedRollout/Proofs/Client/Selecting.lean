/-
What the calls of the clients select. A call comes to one evaluation, by the client or by the service.
What a client does with a fault of it is where the clients differ: a polling client takes every fault
for a fallback, a remote client those of the transport and the service, a client in memory none.
-/
import StagedRollout.Client.Memory
import StagedRollout.Client.Remote
import StagedRollout.Client.Snapshot
import StagedRollout.Proofs.Outcome

namespace StagedRollout

/-! ## Calls -/

namespace Call

theorem keyOf?_text {key : Text} (h : key ≠ "") : keyOf? (.text key) = some key := by
  unfold keyOf?
  exact if_neg h

/-- A key that is not empty leads on. -/
theorem under_text {key : Text} (h : key ≠ "") (call : Text → Call) :
    under (.text key) call = call key := by
  unfold under
  rw [keyOf?_text h]

theorem eq_text_of_keyOf? {flagKey : Value} {key : Text} (h : keyOf? flagKey = some key) :
    flagKey = .text key := by
  unfold keyOf? at h
  split at h
  · split at h
    · cases h
    · cases h; rfl
  · cases h

variable {a b : Call}

/-- What a caller gets depends on what was chosen. -/
theorem selection_congr (h : a.chosen = b.chosen) (fallback : Selection) :
    a.selection fallback = b.selection fallback := by
  unfold selection
  rw [h]

theorem value_congr (h : a.chosen = b.chosen) (fallback : Value) :
    a.value fallback = b.value fallback := by
  unfold value
  rw [selection_congr h]

theorem isOn_congr (h : a.chosen = b.chosen) : a.isOn = b.isOn := by
  unfold isOn
  rw [value_congr h]

/-- What is chosen is selected, and the fallback stands in for nothing. -/
theorem selection_of_chosen {choice : Option Selection} (h : a.chosen = .ok choice)
    (fallback : Selection) : a.selection fallback = .ok (choice.getD fallback) := by
  unfold selection
  rw [h]
  rfl

/-- Who selects nothing leaves everything to the caller. -/
theorem answers_of_none (h : a.chosen = .ok none) :
    (∀ fallback, a.selection fallback = .ok fallback) ∧ (∀ v, a.value v = .ok v) ∧
      a.isOn = .ok false := by
  unfold isOn value selection
  rw [h]
  exact ⟨fun _ => rfl, fun _ => rfl, rfl⟩

/-- A fault is the answer to every question. -/
theorem answers_of_error {f : Fault} (h : a.chosen = .error f) :
    (∀ fallback, a.selection fallback = .error f) ∧ (∀ v, a.value v = .error f) ∧
      a.isOn = .error f := by
  unfold isOn value selection
  rw [h]
  exact ⟨fun _ => rfl, fun _ => rfl, rfl⟩

end Call

/-! ## The polling client -/

namespace PollingClient

theorem success?_of_chosen {a : Call} {choice : Option Selection} (h : a.chosen = .ok choice) :
    success? a = choice.filter Selection.isSuccess := by
  unfold success?
  rw [h]
  cases choice <;> rfl

theorem success?_eq_some {a : Call} {s : Selection} :
    success? a = some s ↔ a.chosen = .ok (some s) ∧ s.isSuccess = true := by
  unfold success?
  constructor
  · intro h
    split at h
    · rename_i t ht
      split at h
      · rename_i hs
        cases h
        exact ⟨ht, hs⟩
      · cases h
    · cases h
  · rintro ⟨hc, hs⟩
    rw [hc]
    exact if_pos hs

/-- The selection from a flag: none if the evaluation fails. -/
def choice? (flag : Flag) (context : Context) (flagKey : Value) : Option Selection :=
  (Decision.evaluate (.flag flag) context flagKey).outcome.toOption.join

/-- The selection from the flag of the snapshot under a key: none if there is no such flag, or no
snapshot yet. -/
def selected? (c : PollingClient) (context : Context) (key : Text) : Option Selection :=
  if c.isReady then
    (Table.find? c.snapshot (.text key)).bind fun flag => choice? flag context (.text key)
  else none

theorem choice?_eq_some {flag : Flag} {context : Context} {flagKey : Value} {s : Selection} :
    choice? flag context flagKey = some s ↔
      (Decision.evaluate (.flag flag) context flagKey).outcome = .ok (some s) :=
  toOption_join_eq_some

theorem selected?_eq_some {c : PollingClient} {context : Context} {key : Text} {s : Selection} :
    c.selected? context key = some s ↔ c.isReady = true ∧
      ∃ flag, Table.find? c.snapshot (.text key) = some flag ∧
        (Decision.evaluate (.flag flag) context (.text key)).outcome = .ok (some s) := by
  unfold selected?
  rw [Option.ite_none_right_eq_some, Option.bind_eq_some_iff]
  simp only [choice?_eq_some]

/-- A client that is not ready has no flag to select from. -/
theorem selected?_eq (c : PollingClient) (context : Context) (key : Text) :
    c.selected? context key =
      (Table.find? c.snapshot (.text key)).bind fun flag => choice? flag context (.text key) := by
  unfold selected? isReady snapshot
  cases c.knowledge <;> rfl

theorem evaluateFlag_chosen (c : PollingClient) (isReported : Bool) (ms : Nat) (context : Context)
    (flagKey : Value) (flag : Flag) :
    (c.evaluateFlag isReported ms context flagKey flag).chosen =
      .ok (choice? flag context flagKey) := by
  unfold evaluateFlag choice?
  dsimp only
  cases (Decision.evaluate (.flag flag) context flagKey).outcome with
  | error e => rfl
  | ok s => cases s <;> rfl

theorem call_chosen (c : PollingClient) (isReported : Bool) (ms : Nat) (flagKey : Value)
    (context : Context) :
    (c.call isReported ms flagKey context).chosen =
      (Call.keyOf? flagKey).elim (.error (.breach .flagKeyNotText))
        fun key => .ok (c.selected? context key) := by
  unfold call Call.under selected?
  cases Call.keyOf? flagKey with
  | none => rfl
  | some key =>
    dsimp only [Option.elim]
    cases c.isReady with
    | false => rfl
    | true =>
      rw [if_pos rfl, if_pos rfl]
      cases Table.find? c.snapshot (.text key) with
      | none => rfl
      | some flag => exact c.evaluateFlag_chosen isReported ms context (.text key) flag

theorem survey_selections (c : PollingClient) (isReported : Bool) (ms : Nat) (context : Context) :
    (c.survey isReported ms context).selections = c.snapshot.filterMap fun row =>
      (choice? row.2 context row.1.toValue).filter Selection.isSuccess := by
  show List.filterMap success? (List.map _ c.snapshot) = _
  rw [List.filterMap_map]
  refine congrArg (c.snapshot.filterMap ·) (funext fun row => ?_)
  exact success?_of_chosen (c.evaluateFlag_chosen isReported ms context row.1.toValue row.2)

end PollingClient

/-! ## The client in memory -/

theorem evaluate_of_unknown (context : Context) {key : Text} (h : key ≠ "") :
    Decision.evaluate .unknown context (.text key) = pure none := by
  unfold Decision.evaluate
  rw [if_pos (by simpa [Value.isTruthy] using h)]

theorem MemoryClient.ofDocument_outcome (payload : Value) :
    (ofDocument payload).outcome = (Document.read payload).outcome.map MemoryClient.mk := by
  unfold ofDocument
  rw [Reported.outcome_bind]
  cases (Document.read payload).outcome <;> rfl

/-- A call to a client in memory is the evaluation of the flag under its key. -/
theorem MemoryClient.call_text (m : MemoryClient) {key : Text} (h : key ≠ "") (context : Context) :
    m.call (.text key) context = Call.ofReported (Decision.evaluate
      (.ofFlag? (Table.find? m.flags (.text key))) context (.text key)) :=
  Call.under_text h _

/-- A client in memory gives its caller the outcome of the evaluation, fault or not. -/
theorem MemoryClient.call_chosen (m : MemoryClient) {key : Text} (h : key ≠ "")
    (context : Context) :
    (m.call (.text key) context).chosen = (Decision.evaluate
      (.ofFlag? (Table.find? m.flags (.text key))) context (.text key)).outcome := by
  rw [m.call_text h]
  rfl

/-! ## The remote client -/

namespace RemoteClient

variable {c : RemoteClient} {library : Http.Library}
  {isReported : Bool} {period : Period} {flagKey : Value} {context : Context}

/-- What comes of the request for a flag: of making it, and of sending it. -/
def outcome (c : RemoteClient) (library : Http.Library) (key : Text) (context : Context) :
    Except Fault Http.Response := do
  library.get (← c.request library key context)

/-- What a caller gets of an outcome: a fault that is tolerated leaves the fallback in place. -/
def lenient : Except Fault (Option Selection) → Except Fault (Option Selection)
  | .error f => if isTolerated f then .ok none else .error f
  | .ok choice => .ok choice

theorem lenient_of_tolerated {f : Fault} (h : isTolerated f = true) : lenient (.error f) = .ok none :=
  if_pos h

theorem lenient_of_not_tolerated {f : Fault} (h : isTolerated f = false) :
    lenient (.error f) = .error f :=
  if_neg (ne_true_of_eq_false h)

theorem lenient_eq_some {x : Except Fault (Option Selection)} {s : Selection} :
    lenient x = .ok (some s) ↔ x = .ok (some s) := by
  cases x with
  | error f => cases h : isTolerated f <;> simp [lenient, h]
  | ok choice => exact Iff.rfl

theorem lenient_eq_error {x : Except Fault (Option Selection)} {f : Fault} :
    lenient x = .error f ↔ x = .error f ∧ isTolerated f = false := by
  cases x with
  | error e =>
    cases h : isTolerated e with
    | false =>
      rw [lenient_of_not_tolerated h, Except.error.injEq]
      exact ⟨fun he => ⟨he, he ▸ h⟩, And.left⟩
    | true =>
      rw [lenient_of_tolerated h, Except.error.injEq]
      refine ⟨nofun, fun ⟨he, hf⟩ => ?_⟩
      rw [← he, h] at hf
      cases hf
  | ok choice => exact ⟨nofun, nofun⟩

theorem conclude_eq (c : RemoteClient) (isReported : Bool) (period : Period) (flagKey : Text)
    (context : Context) (requests : List Http.Request) (r : Reported (Option Selection)) :
    let call := c.conclude isReported period flagKey context requests r
    call.chosen = lenient r.outcome ∧ call.requests = requests := by
  dsimp only
  unfold conclude lenient
  cases r.outcome with
  | error f =>
    dsimp only
    cases isTolerated f <;> exact ⟨rfl, rfl⟩
  | ok choice => cases choice <;> exact ⟨rfl, rfl⟩

theorem call_of_no_key (h : Call.keyOf? flagKey = none) :
    c.call library isReported period flagKey context = Call.fail (.breach .flagKeyNotText) := by
  unfold call Call.under
  rw [h]

/-- A call with a key sends at most one request, and concludes from what comes of it. -/
theorem call_of_key {key : Text} (hk : Call.keyOf? flagKey = some key) :
    ∃ r : Reported (Option Selection),
      r.outcome = (c.outcome library key context >>= fun answer =>
        (readAnswer library.room key answer).outcome) ∧
      c.call library isReported period flagKey context =
        c.conclude isReported period key context (c.request library key context).toOption.toList
          r := by
  unfold call Call.under outcome
  rw [hk]
  dsimp only
  cases c.request library key context with
  | error f => exact ⟨Reported.fail f, rfl, rfl⟩
  | ok request =>
    refine ⟨_, ?_, rfl⟩
    rw [Reported.outcome_bind, Reported.outcome_ofExcept]
    rfl

end RemoteClient

end StagedRollout
