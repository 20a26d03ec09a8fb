/-
Whether anyone tracks exposures makes no difference to a client. Its operations never look at the
tracker, and an evaluation gives it the events last, when its result stands; so a run with one tracker is
the run with any other, with the same answers.
-/
import StagedRollout.Proofs.Client.Run
import StagedRollout.Proofs.Client.Selecting

namespace StagedRollout

namespace PollingClient

/-! ## Another tracker -/

/-- The client with another tracker. -/
def withTracker (t : Tracker) (c : PollingClient) : PollingClient := { c with tracker := t }

/-- A step that ends with another client. -/
def Step.map {α : Type} (f : PollingClient → PollingClient) (s : Step α) : Step α :=
  { s with client := f s.client }

theorem Step.map_result {α : Type} (f : PollingClient → PollingClient) (s : Step α) :
    (s.map f).result = s.result := rfl

variable (t : Tracker) (c : PollingClient)

theorem answer_withTracker (ms : Nat) (q : Question) :
    (c.withTracker t).answer ms q = c.answer ms q := by
  have hc : ∀ r flagKey context, ((c.withTracker t).call r ms flagKey context).chosen =
      (c.call r ms flagKey context).chosen := fun r flagKey context => by
    rw [call_chosen, call_chosen]
    rfl
  cases q with
  | variant flagKey fallback context r =>
    exact congrArg Answer.selection (Call.selection_congr (hc r flagKey context) fallback)
  | value flagKey fallback context =>
    exact congrArg Answer.value (Call.value_congr (hc true flagKey context) fallback)
  | isOn flagKey context => exact congrArg Answer.truth (Call.isOn_congr (hc true flagKey context))
  | all context r =>
    refine congrArg Answer.selections ?_
    rw [survey_selections, survey_selections]
    rfl

/-! ## Operations -/

theorem close_withTracker (actor : Actor) :
    (c.withTracker t).close actor = ((c.close actor).1.withTracker t, (c.close actor).2) := by
  cases hc : c.isClosed with
  | true =>
    have hd : (c.withTracker t).isClosed = true := hc
    rw [close_of_closed actor hc, close_of_closed actor hd]
  | false =>
    unfold close
    rw [show (c.withTracker t).isClosed = false from hc, hc]
    rfl

theorem interrupt_withTracker (actor : Actor) (i : Interruption) :
    (c.withTracker t).interrupt actor i =
      ((c.interrupt actor i).1.withTracker t, (c.interrupt actor i).2) := by
  induction i generalizing c with
  | nothing => rfl
  | stop => rfl
  | close => exact close_withTracker t c actor
  | both first next ih₁ ih₂ =>
    unfold interrupt
    simp only [ih₁, ih₂]

theorem refresh_withTracker (actor : Actor) (f : Fetch) :
    (c.withTracker t).refresh actor f = (c.refresh actor f).map (withTracker t) := by
  have hd : (c.withTracker t).during actor f =
      ((c.during actor f).1.withTracker t, (c.during actor f).2) :=
    interrupt_withTracker t { c with fetches := c.fetches + 1 } actor f.interruption
  unfold refresh
  rw [show (c.withTracker t).isClosed = c.isClosed from rfl]
  split
  · rfl
  · simp only [hd]
    cases f.flags.outcome with
    | error e => cases e <;> rfl
    | ok flags =>
      dsimp only
      rw [show ((c.during actor f).1.withTracker t).isClosed = (c.during actor f).1.isClosed from rfl]
      split <;> rfl

theorem start_withTracker (clock : Clock) (f : Fetch) :
    (c.withTracker t).start clock f = (c.start clock f).map (withTracker t) := by
  unfold start
  rw [show (c.withTracker t).isClosed = c.isClosed from rfl,
    show (c.withTracker t).isStarted = c.isStarted from rfl]
  split
  · rfl
  · split
    · rfl
    · rw [show (c.withTracker t).begin = c.begin.withTracker t from rfl, refresh_withTracker]
      dsimp only
      rw [show ((c.begin.refresh .caller f).map (withTracker t)).client.pollerInterval? =
        (c.begin.refresh .caller f).client.pollerInterval? from rfl]
      rw [Step.map_result]
      cases (c.begin.refresh .caller f).result with
      | error e => rfl
      | ok b => cases (c.begin.refresh .caller f).client.pollerInterval? <;> rfl

theorem tick_withTracker (f : Fetch) :
    (c.withTracker t).tick f = (c.tick f).map (withTracker t) := by
  unfold tick
  rw [show (c.withTracker t).pollers = c.pollers from rfl]
  cases c.pollers with
  | nil => rfl
  | cons p rest =>
    dsimp only
    rw [refresh_withTracker]
    rw [Step.map_result]
    cases (c.refresh (.poller p.number) f).result <;> rfl

/-! ## Runs -/

/-- What a caller gets back from an event. -/
inductive Reply where
  | done (outcome : Except Fault Unit)
  | flag (outcome : Except Fault Bool)
  | answer (a : Answer)

/-- What an event gives back to the one who caused it. -/
def reply (clock : Clock) (c : PollingClient) : Event → Reply
  | .start f => .done (c.start clock f).result
  | .stop => .done (.ok ())
  | .close => .done (.ok ())
  | .refresh f => .flag (c.refresh .caller f).result
  | .tick f => .flag (.ok (c.tick f).result)
  | .ask q ms => .answer (c.answer ms q)

/-- What the events of a run give back, in order. -/
def replies (clock : Clock) (c : PollingClient) : List Event → List Reply
  | [] => []
  | e :: rest => c.reply clock e :: (c.after clock e).replies clock rest

variable (clock : Clock)

theorem reply_withTracker (e : Event) : (c.withTracker t).reply clock e = c.reply clock e := by
  cases e with
  | start f => exact congrArg (fun s => Reply.done s.result) (start_withTracker t c clock f)
  | refresh f => exact congrArg (fun s => Reply.flag s.result) (refresh_withTracker t c .caller f)
  | tick f => exact congrArg (fun s => Reply.flag (.ok s.result)) (tick_withTracker t c f)
  | ask q ms => exact congrArg Reply.answer (answer_withTracker t c ms q)
  | _ => rfl

theorem after_withTracker (e : Event) :
    (c.withTracker t).after clock e = (c.after clock e).withTracker t := by
  cases e with
  | start f => exact congrArg Step.client (start_withTracker t c clock f)
  | stop => rfl
  | close => exact congrArg Prod.fst (close_withTracker t c .caller)
  | refresh f => exact congrArg Step.client (refresh_withTracker t c .caller f)
  | tick f => exact congrArg Step.client (tick_withTracker t c f)
  | ask q ms => rfl

/-- With another tracker a run ends in the same client but for the tracker, and gives back the
same. -/
theorem run_withTracker (es : List Event) :
    (c.withTracker t).run clock es = (c.run clock es).withTracker t ∧
      (c.withTracker t).replies clock es = c.replies clock es := by
  induction es generalizing c with
  | nil => exact ⟨rfl, rfl⟩
  | cons e es ih =>
    obtain ⟨hr, hs⟩ := ih (c.after clock e)
    rw [← after_withTracker] at hr hs
    refine ⟨hr, ?_⟩
    unfold replies
    rw [reply_withTracker, hs]

end PollingClient

end StagedRollout
