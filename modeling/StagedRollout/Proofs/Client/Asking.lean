/-
Asking a client about a flag. Of every client the three questions, which arm, which value and whether it
is on, are answered from one outcome that the caller's fallback has no part in: a selection, or none, or a
fault. And asking leaves no trace in a session but reports: with questions put in anywhere, every other
step does what it did.
-/
import StagedRollout.Proofs.Client.Accounting
import StagedRollout.Proofs.Client.Answering

namespace StagedRollout

/-! ## Answers from one outcome -/

namespace Call

/-- The three questions to a call are answered from an outcome: with the selection, with what the caller
brings where there is none, or with the fault. -/
structure Follows (outcome : Except Fault (Option Selection)) (call : Call) : Prop where
  selection : ∀ fallback, call.selection fallback = outcome.map fun choice => choice.getD fallback
  value : ∀ fallback,
    call.value fallback = outcome.map fun choice => (choice.map (·.value)).getD fallback
  isOn : call.isOn = .ok true ↔ ∃ s, outcome = .ok (some s) ∧ s.value = .bool true
  fault : ∀ f, call.isOn = .error f ↔ outcome = .error f

theorem isOn_of_value {call : Call} {v : Value} (h : call.value (.bool false) = .ok v) :
    (call.isOn = .ok true ↔ v = .bool true) ∧ ∀ f, call.isOn ≠ .error f := by
  unfold isOn
  rw [h]
  refine ⟨?_, nofun⟩
  cases v with
  | bool b => cases b <;> simp [Bind.bind, Except.bind, pure, Except.pure]
  | _ => exact ⟨nofun, nofun⟩

/-- A call is answered from what it chose. -/
theorem follows_chosen (call : Call) : call.Follows call.chosen := by
  cases h : call.chosen with
  | error f =>
    obtain ⟨hs, hv, ho⟩ := answers_of_error h
    refine ⟨hs, hv, ?_, fun g => ?_⟩ <;> rw [ho]
    · exact ⟨nofun, nofun⟩
    · rw [Except.error.injEq, Except.error.injEq]
  | ok choice =>
    have hs := selection_of_chosen h
    have hv : ∀ fallback, call.value fallback = .ok ((choice.map (·.value)).getD fallback) := by
      intro fallback
      unfold value
      rw [hs]
      cases choice <;> rfl
    obtain ⟨hon, hfault⟩ := isOn_of_value (hv (.bool false))
    refine ⟨hs, hv, ?_, fun f => ⟨fun he => absurd he (hfault f), nofun⟩⟩
    rw [hon]
    cases choice with
    | none => exact ⟨nofun, nofun⟩
    | some s => simp

end Call

/-! ## Sessions -/

/-- A list in which elements of a kind were put in anywhere. -/
inductive Interspersed {α : Type} (P : α → Prop) : List α → List α → Prop
  | nil : Interspersed P [] []
  | keep {x : α} {xs ys : List α} (h : Interspersed P xs ys) : Interspersed P (x :: xs) (x :: ys)
  | add {x : α} {xs ys : List α} (hx : P x) (h : Interspersed P xs ys) : Interspersed P xs (x :: ys)

section Sessions

variable {σ ε ρ : Type} (perform : σ → ε → σ × ρ)

/-- Where a session ends. -/
def lastOf (c : σ) (steps : List ε) : σ := steps.foldl (fun c e => (perform c e).1) c

/-- The steps of a session, each with where it leads and what it gives back. -/
def transcript (c : σ) : List ε → List (ε × σ × ρ)
  | [] => []
  | e :: rest => (e, perform c e) :: transcript (perform c e).1 rest

theorem lastOf_snoc (c : σ) (steps : List ε) (e : ε) :
    lastOf perform c (steps ++ [e]) = (perform (lastOf perform c steps) e).1 := List.foldl_append

/-- What holds at first, and stays with every step, holds where a session ends. -/
theorem lastOf_induction {P : σ → Prop} (h : ∀ c e, P c → P (perform c e).1) {c : σ} (hc : P c)
    (steps : List ε) : P (lastOf perform c steps) := by
  induction steps generalizing c with
  | nil => exact hc
  | cons e rest ih => exact ih (h c e hc)

/-- Steps that lead nowhere can be put in anywhere: the session ends where it ended, and all its steps
are as they were. -/
theorem transcript_interspersed {P : ε → Prop} (h : ∀ c e, P e → (perform c e).1 = c)
    {steps more : List ε} (hs : Interspersed P steps more) (c : σ) :
    lastOf perform c more = lastOf perform c steps ∧
      Interspersed (fun r => P r.1) (transcript perform c steps) (transcript perform c more) := by
  induction hs generalizing c with
  | nil => exact ⟨rfl, .nil⟩
  | @keep e _ _ _ ih =>
    obtain ⟨hlast, hall⟩ := ih (perform c e).1
    exact ⟨hlast, .keep hall⟩
  | @add e _ more he _ ih =>
    obtain ⟨hlast, hall⟩ := ih c
    -- the rest meets the client that it would have met
    have hc := h c e he
    constructor
    · show lastOf perform (perform c e).1 more = _
      rw [hc, hlast]
    · refine .add he ?_
      show Interspersed _ _ (transcript perform (perform c e).1 more)
      rw [hc]
      exact hall

end Sessions

/-! ### In memory -/

namespace MemoryClient

/-- What can be done with a client in memory. -/
inductive Action where
  | setFlag (flag : Flag)
  | setDefinitions (payload : Value)
  | getFlag (key : Value)
  | ask (flagKey : Value) (context : Context) (wish : RemoteClient.Wish)

/-- What an action gives back. -/
inductive Result where
  | done (x : Except Fault Unit)
  | flag (x : Except Fault (Option Flag))
  | answer (a : Answer)

def Action.isQuestion : Action → Bool
  | .ask _ _ _ => true
  | _ => false

end MemoryClient

/-- The answer to a wish. -/
def Call.grant (call : Call) : RemoteClient.Wish → Answer
  | .variant fallback _ => .selection (call.selection fallback)
  | .value fallback => .value (call.value fallback)
  | .truth => .truth call.isOn

namespace MemoryClient

/-- Stores what an outcome brings; a fault leaves the client as it is. -/
def store (c : MemoryClient) : Except Fault MemoryClient → MemoryClient × Result
  | .ok after => (after, .done (.ok ()))
  | .error f => (c, .done (.error f))

/-- The client after an action, and what the action gives back. -/
def perform (c : MemoryClient) : Action → MemoryClient × Result
  | .setFlag flag => c.store (c.setFlag flag)
  | .setDefinitions payload => c.store (ofDocument payload).outcome
  | .getFlag key => (c, .flag (c.flag? key))
  | .ask flagKey context wish => (c, .answer ((c.call flagKey context).grant wish))

theorem perform_question (c : MemoryClient) {a : Action} (h : a.isQuestion = true) :
    (c.perform a).1 = c := by
  cases a with
  | ask => rfl
  | _ => cases h

end MemoryClient

/-! ### With polling -/

namespace PollingClient

/-- What can be done with a polling client: an event, a fetch for its own sake, a look at the flags. -/
inductive Action where
  | event (e : Event)
  | look (fetch : Fetch)
  | definitions

/-- What an action gives back. -/
inductive Result where
  | reply (r : Reply)
  | content (x : Except Fault Value)
  | flags (all : Table Flag)

def Action.isQuestion : Action → Bool
  | .event (.ask _ _) => true
  | _ => false

/-- The requests that a question sends. -/
def asked (c : PollingClient) (ms : Nat) : Question → List Http.Request
  | .variant flagKey _ context isReported => (c.call isReported ms flagKey context).requests
  | .value flagKey _ context => (c.call true ms flagKey context).requests
  | .isOn flagKey context => (c.call true ms flagKey context).requests
  | .all context isReported => c.snapshot.flatMap fun row =>
    (c.evaluateFlag isReported ms context row.1.toValue row.2).requests

/-- The requests that an event sends. -/
def sent (clock : Clock) (c : PollingClient) : Event → List Http.Request
  | .start f => (c.start clock f).requests
  | .refresh f => (c.refresh .caller f).requests
  | .tick f => (c.tick f).requests
  | .ask q ms => c.asked ms q
  | _ => []

/-- The client after an action, what the action gives back, and what it sends. -/
def perform (clock : Clock) (c : PollingClient) :
    Action → PollingClient × Result × List Http.Request
  | .event e => (c.after clock e, .reply (c.reply clock e), c.sent clock e)
  | .look f =>
    let s := c.look f
    (s.client, .content s.result, s.requests)
  | .definitions => (c, .flags c.snapshot, [])

theorem evaluateFlag_requests (c : PollingClient) (isReported : Bool) (ms : Nat) (context : Context)
    (flagKey : Value) (flag : Flag) :
    (c.evaluateFlag isReported ms context flagKey flag).requests = [] := by
  unfold evaluateFlag
  dsimp only
  split <;> rfl

theorem call_requests (c : PollingClient) (isReported : Bool) (ms : Nat) (flagKey : Value)
    (context : Context) : (c.call isReported ms flagKey context).requests = [] := by
  unfold call Call.under
  cases Call.keyOf? flagKey with
  | none => rfl
  | some key =>
    dsimp only
    split
    · split
      · exact c.evaluateFlag_requests isReported ms context _ _
      · rfl
    · rfl

/-- No question sends anything. -/
theorem asked_eq (c : PollingClient) (ms : Nat) (q : Question) : c.asked ms q = [] := by
  cases q with
  | variant flagKey fallback context isReported => exact c.call_requests isReported ms flagKey context
  | value flagKey fallback context => exact c.call_requests true ms flagKey context
  | isOn flagKey context => exact c.call_requests true ms flagKey context
  | all context isReported =>
    exact List.flatMap_eq_nil_iff.2 fun row _ =>
      c.evaluateFlag_requests isReported ms context row.1.toValue row.2

theorem perform_question (clock : Clock) (c : PollingClient) {a : Action}
    (h : a.isQuestion = true) : (c.perform clock a).1 = c ∧ (c.perform clock a).2.2 = [] := by
  cases a with
  | event e =>
    cases e with
    | ask q ms => exact ⟨rfl, c.asked_eq ms q⟩
    | _ => cases h
  | _ => cases h

end PollingClient

/-! ## All clients -/

/-- What a client selects does not depend on the fallback that the caller brings, and is what all three
questions are answered from, whatever is reported and however long it takes: of a client in memory an
outcome of its evaluation, of a polling client, in whatever state, a selection or none, and of a remote
client what comes of its request. Questions put into a session of a client that evaluates by itself
make no fetch and change no other step. -/
theorem answers_follow_one_outcome {key : Text} (hkey : key ≠ "") (context : Context) :
    ((∀ m : MemoryClient, ∃ outcome, (m.call (.text key) context).Follows outcome) ∧
      (∀ c : PollingClient, ∃ choice, ∀ isReported ms,
        (c.call isReported ms (.text key) context).Follows (.ok choice)) ∧
      ∀ (c : RemoteClient) (room : Nat) (answer : Except Fault Http.Response), ∃ outcome,
        ∀ (library : Http.Library) isReported period, library.room = room →
          c.outcome library key context = answer →
          (c.call library isReported period (.text key) context).Follows outcome) ∧
    (∀ (m : MemoryClient) (steps more : List MemoryClient.Action),
      Interspersed (·.isQuestion = true) steps more →
        lastOf MemoryClient.perform m more = lastOf MemoryClient.perform m steps ∧
          Interspersed (·.1.isQuestion = true) (transcript MemoryClient.perform m steps)
            (transcript MemoryClient.perform m more)) ∧
    (∀ (clock : Clock) (c : PollingClient) (steps more : List PollingClient.Action),
      let perform := PollingClient.perform clock
      Interspersed (·.isQuestion = true) steps more →
        lastOf perform c more = lastOf perform c steps ∧
          Interspersed (·.1.isQuestion = true) (transcript perform c steps)
            (transcript perform c more)) ∧
    ∀ (clock : Clock) (c : PollingClient) (a : PollingClient.Action), a.isQuestion = true →
      (c.perform clock a).1.fetches = c.fetches ∧ (c.perform clock a).2.2 = [] := by
  refine ⟨⟨fun m => ⟨_, Call.follows_chosen _⟩, fun c => ⟨c.selected? context key, fun r ms => ?_⟩,
    fun c room answer => ⟨RemoteClient.lenient
      (answer >>= fun a => (RemoteClient.readAnswer room key a).outcome),
      fun library r period hroom h => ?_⟩⟩, fun m steps more h => ?_,
    fun clock c steps more => ?_, fun clock c a ha => ?_⟩
  · have hf := Call.follows_chosen (c.call r ms (.text key) context)
    rw [PollingClient.call_chosen, Call.keyOf?_text hkey] at hf
    exact hf
  · have hf := Call.follows_chosen (c.call library r period (.text key) context)
    rw [RemoteClient.call_chosen hkey, h, hroom] at hf
    exact hf
  · have hquiet : ∀ (m : MemoryClient) (a : MemoryClient.Action), a.isQuestion = true →
        (m.perform a).1 = m := fun m _ ha => m.perform_question ha
    exact transcript_interspersed _ hquiet h m
  · intro perform h
    have hquiet : ∀ (c : PollingClient) (a : PollingClient.Action), a.isQuestion = true →
        (perform c a).1 = c := fun c _ ha => (c.perform_question clock ha).1
    exact transcript_interspersed _ hquiet h c
  · obtain ⟨hc, hsent⟩ := PollingClient.perform_question clock c ha
    exact ⟨congrArg PollingClient.fetches hc, hsent⟩

/-- A client that knows no flags hands back even a fallback that looks like a selection; one that has
refreshed selects, whatever the fallback is; and questions around the refresh change nothing of it. -/
theorem answers_follow_one_outcome_past_armed_fallback :
    let payload : Value := .object [(.text "flags", .list [.object [(.text "key", .text "f"),
      (.text "ruleset", .object [
        (.text "variants", .list [.object [(.text "key", .text "on"), (.text "value", .bool true)]]),
        (.text "test", .object [(.text "users", .object [(.text "ann", .text "on")])])])]])]
    let refresh : Event := .refresh (.ofSource .nothing (.ok payload))
    let idle := PollingClient.fresh MemoryClient.settings .recording
    let ready := idle.after .system refresh
    let ann : Context := ⟨.text "ann", none⟩
    let armed : Selection := ⟨.text "mine", .text "arm", none, .bool true, .bool true⟩
    let call (c : PollingClient) := c.call true 0 (.text "f") ann
    let question : PollingClient.Action := .event (.ask (.variant (.text "f") armed ann true) 0)
    let perform := PollingClient.perform .system
    (call idle).selection armed = .ok armed ∧
    (∃ s, (call ready).selection armed = .ok s ∧ s.key.asText = "on" ∧
      (call ready).isOn = .ok true) ∧
    lastOf perform idle [question, .event refresh, question] = ready ∧
    Interspersed (·.1.isQuestion = true) (transcript perform idle [.event refresh])
      (transcript perform idle [question, .event refresh, question]) := by
  intro payload refresh idle ready ann armed call question perform
  have hkey : ("f" : Text) ≠ "" := by decide
  obtain ⟨⟨-, hpolling, -⟩, -, hsessions, -⟩ := answers_follow_one_outcome hkey ann
  obtain ⟨choice, h⟩ := hpolling ready
  have hmore : Interspersed (·.isQuestion = true) [.event refresh]
      [question, .event refresh, question] := .add rfl (.keep (.add rfl .nil))
  obtain ⟨hlast, hsteps⟩ := hsessions .system idle [.event refresh] _ hmore
  refine ⟨rfl, ?_, hlast, hsteps⟩
  have hfollows : (call ready).Follows (.ok choice) := h true 0
  have hon : (call ready).isOn = .ok true := toOption_eq_some.1 (by decide +kernel)
  have hnamed : ((call ready).selection armed).toOption.map (·.key.asText) = some "on" := by
    decide +kernel
  -- a flag that is on has a selection, and that is given back in the place of any fallback
  obtain ⟨s, hs, -⟩ := hfollows.isOn.1 hon
  cases hs
  have hselection : (call ready).selection armed = .ok s := hfollows.selection armed
  rw [hselection] at hnamed
  exact ⟨s, hselection, Option.some.inj hnamed, hon⟩

end StagedRollout
