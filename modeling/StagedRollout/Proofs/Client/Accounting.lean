/-
Accounts of exposures. In every session of a client the events that a tracker keeps are, in the order of
the calls, one for each evaluation that selects an arm, wants reports and is for a user who can be named:
nothing is reported twice, nothing of a fallback, and nothing is left out. And the accounts cost nothing:
whoever tracks, and even if every report fails, the calls return the same.
-/
import StagedRollout.Proofs.Client.Tracking
import StagedRollout.Proofs.Exposure

namespace StagedRollout

/-! ## Calls -/

namespace Call

/-- The showing of a call that a report is due of. -/
def due? (isReported : Bool) (user flagKey : Value) (c : Call) : Option Showing :=
  Showing.due? isReported user flagKey (PollingClient.success? c)

/-- The events of a call are the reports that are due of it. -/
def IsAccounted (mode : String) (isReported : Bool) (user flagKey : Value) (c : Call) : Prop :=
  List.Forall₂ (Exposure.Tells mode) c.exposures (c.due? isReported user flagKey).toList

variable {mode : String} {isReported : Bool} {user flagKey : Value} {c : Call}

/-- A call without a selection and without events. -/
theorem accounted_of_silent (hs : PollingClient.success? c = none) (he : c.exposures = []) :
    c.IsAccounted mode isReported user flagKey := by
  unfold IsAccounted due? Showing.due?
  rw [hs, he]
  simp

/-- A call that sends its selection. -/
theorem accounted_of_selection {s : Selection} {timing : Members} (hs : c.chosen = .ok (some s))
    (he : c.exposures =
      (Exposure.sendSelection .recording isReported user flagKey mode s timing).1)
    (ht : Exposure.Aside timing) : c.IsAccounted mode isReported user flagKey := by
  unfold IsAccounted due?
  rw [he, PollingClient.success?_of_chosen hs]
  exact Exposure.sendSelection_tells isReported user flagKey mode s ht

end Call

/-- What lists of reports tell in parts, they tell as a whole. -/
theorem forall₂_flatMap {α β γ : Type} {R : β → γ → Prop} {f : α → List β} {g : α → List γ}
    (xs : List α) (h : ∀ x, List.Forall₂ R (f x) (g x)) :
    List.Forall₂ R (xs.flatMap f) (xs.flatMap g) := by
  have hxs : List.Forall₂ (· = ·) xs xs := List.forall₂_refl xs
  refine List.rel_flatMap hxs fun x y hxy => ?_
  rw [← hxy]
  exact h x

/-! ## Questions to a polling client -/

namespace PollingClient

/-- The events that a question gives the tracker. -/
def exposures (c : PollingClient) (ms : Nat) : Question → List Exposure
  | .variant flagKey _ context isReported => (c.call isReported ms flagKey context).exposures
  | .value flagKey _ context => (c.call true ms flagKey context).exposures
  | .isOn flagKey context => (c.call true ms flagKey context).exposures
  | .all context isReported => (c.survey isReported ms context).exposures

/-- The showings of a question that reports are due of: at most one, or for all flags one for each that
an arm is selected from. -/
def showings (c : PollingClient) (ms : Nat) : Question → List Showing
  | .variant flagKey _ context isReported =>
    ((c.call isReported ms flagKey context).due? isReported context.distinctId flagKey).toList
  | .value flagKey _ context =>
    ((c.call true ms flagKey context).due? true context.distinctId flagKey).toList
  | .isOn flagKey context =>
    ((c.call true ms flagKey context).due? true context.distinctId flagKey).toList
  | .all context isReported =>
    c.snapshot.flatMap fun row =>
      ((c.evaluateFlag isReported ms context row.1.toValue row.2).due? isReported
        context.distinctId row.1.toValue).toList

theorem aside_timing (ms : Nat) : Exposure.Aside (timing ms) := by
  constructor <;> simp [timing, Table.find?, Key.same_text]

variable {c : PollingClient}

theorem evaluateFlag_accounted (h : c.tracker = .recording) (isReported : Bool) (ms : Nat)
    (context : Context) (flagKey : Value) (flag : Flag) :
    (c.evaluateFlag isReported ms context flagKey flag).IsAccounted evaluationMode isReported
      context.distinctId flagKey := by
  unfold evaluateFlag
  rw [h]
  dsimp only
  cases (Decision.evaluate (.flag flag) context flagKey).outcome with
  | error e => exact Call.accounted_of_silent rfl rfl
  | ok choice =>
    cases choice with
    | none => exact Call.accounted_of_silent rfl rfl
    | some s => exact Call.accounted_of_selection rfl rfl (aside_timing ms)

theorem call_accounted (h : c.tracker = .recording) (isReported : Bool) (ms : Nat)
    (flagKey : Value) (context : Context) :
    (c.call isReported ms flagKey context).IsAccounted evaluationMode isReported
      context.distinctId flagKey := by
  unfold call Call.under
  cases hk : Call.keyOf? flagKey with
  | none => exact Call.accounted_of_silent rfl rfl
  | some key =>
    dsimp only
    split
    · cases Table.find? c.snapshot (.text key) with
      | none => exact Call.accounted_of_silent rfl rfl
      | some flag =>
        rw [Call.eq_text_of_keyOf? hk]
        exact evaluateFlag_accounted h isReported ms context (.text key) flag
    · exact Call.accounted_of_silent rfl rfl

/-- The events of a question are the reports that are due of it. -/
theorem exposures_tell (h : c.tracker = .recording) (ms : Nat) (q : Question) :
    List.Forall₂ (Exposure.Tells evaluationMode) (c.exposures ms q) (c.showings ms q) := by
  cases q with
  | variant flagKey fallback context isReported =>
    exact call_accounted h isReported ms flagKey context
  | value flagKey fallback context => exact call_accounted h true ms flagKey context
  | isOn flagKey context => exact call_accounted h true ms flagKey context
  | all context isReported =>
    show List.Forall₂ _ (List.flatMap _ (List.map _ c.snapshot)) _
    rw [List.flatMap_map]
    exact forall₂_flatMap c.snapshot fun row =>
      evaluateFlag_accounted h isReported ms context row.1.toValue row.2

/-- Reports of all flags are due of just the selections that are returned. -/
theorem showings_all (c : PollingClient) (ms : Nat) (context : Context) (isReported : Bool) :
    (c.showings ms (.all context isReported)).map (·.selection) =
      if isReported && context.distinctId.isTruthy
      then (c.survey isReported ms context).selections else [] := by
  unfold showings survey Survey.ofCalls
  rw [List.filterMap_map, List.filterMap_eq_flatMap_toList, List.map_flatMap]
  simp only [Call.due?, Showing.selections_of_due]
  cases isReported && context.distinctId.isTruthy with
  | false => simp
  | true => rfl

/-! ## Sessions of a polling client -/

/-- The events that a run gives the tracker, in order. Only questions give it any. -/
def recorded (clock : Clock) (c : PollingClient) : List Event → List Exposure
  | [] => []
  | .ask q ms :: rest => c.exposures ms q ++ c.recorded clock rest
  | e :: rest => (c.after clock e).recorded clock rest

/-- The showings of a run that reports are due of, in order. -/
def shown (clock : Clock) (c : PollingClient) : List Event → List Showing
  | [] => []
  | .ask q ms :: rest => c.showings ms q ++ c.shown clock rest
  | e :: rest => (c.after clock e).shown clock rest

/-- The events of a run are the reports that are due of its showings, in their order. -/
theorem recorded_tell (h : c.tracker = .recording) (clock : Clock) (es : List Event) :
    List.Forall₂ (Exposure.Tells evaluationMode) (c.recorded clock es) (c.shown clock es) := by
  induction es generalizing c with
  | nil => exact .nil
  | cons e es ih =>
    have ha : (c.after clock e).tracker = .recording := (after_tracker clock c e).trans h
    cases e with
    | ask q ms => exact List.rel_append (exposures_tell h ms q) (ih h)
    | _ => exact ih ha

/-- Nothing is shown but what a ready client selects from a flag that it knows. -/
theorem success?_call_iff (c : PollingClient) (isReported : Bool) (ms : Nat) (flagKey : Value)
    (context : Context) (s : Selection) :
    success? (c.call isReported ms flagKey context) = some s ↔
      c.isReady = true ∧ (∃ key flag, Call.keyOf? flagKey = some key ∧
        Table.find? c.snapshot (.text key) = some flag ∧
        (Decision.evaluate (.flag flag) context (.text key)).outcome = .ok (some s)) ∧
      s.isSuccess = true := by
  rw [success?_eq_some, call_chosen]
  cases Call.keyOf? flagKey with
  | none => simp
  | some key => simp [selected?_eq_some, and_assoc]

end PollingClient

/-! ## Sessions of a remote client -/

namespace RemoteClient

/-- What is asked about a flag. -/
inductive Wish where
  | variant (fallback : Selection) (isReported : Bool)
  | value (fallback : Value)
  | truth

/-- Whether reports are wanted. -/
def Wish.isReported : Wish → Bool
  | .variant _ isReported => isReported
  | _ => true

/-- A question about a flag, and what the service has to say when it is asked. -/
structure Inquiry where
  flagKey : Value
  context : Context
  wish : Wish
  library : Http.Library
  period : Period

namespace Inquiry

/-- The call for an inquiry, whether the caller waits for it or not. -/
def call (c : RemoteClient) (i : Inquiry) : Call :=
  c.call i.library i.wish.isReported i.period i.flagKey i.context

def answer (c : RemoteClient) (i : Inquiry) : Answer :=
  match i.wish with
  | .variant fallback _ => .selection ((i.call c).selection fallback)
  | .value fallback => .value ((i.call c).value fallback)
  | .truth => .truth (i.call c).isOn

/-- The showing of an inquiry that a report is due of. -/
def due? (c : RemoteClient) (i : Inquiry) : Option Showing :=
  (i.call c).due? i.wish.isReported i.context.distinctId i.flagKey

end Inquiry

theorem aside_timing (p : Period) : Exposure.Aside (timing p) := by
  constructor <;> simp [timing, Table.find?, Key.same_text]

theorem conclude_accounted {c : RemoteClient} (h : c.tracker = .recording) (isReported : Bool)
    (period : Period) (key : Text) (context : Context) (requests : List Http.Request)
    (r : Reported (Option Selection)) :
    (c.conclude isReported period key context requests r).IsAccounted evaluationMode isReported
      context.distinctId (.text key) := by
  unfold conclude
  rw [h]
  split
  · split
    · exact Call.accounted_of_silent rfl rfl
    · exact Call.accounted_of_silent rfl rfl
  · exact Call.accounted_of_silent rfl rfl
  · exact Call.accounted_of_selection rfl rfl (aside_timing period)

/-- The events of an inquiry are the reports that are due of it. -/
theorem inquiry_accounted {c : RemoteClient} (h : c.tracker = .recording) (i : Inquiry) :
    (i.call c).IsAccounted evaluationMode i.wish.isReported i.context.distinctId i.flagKey := by
  unfold Inquiry.call
  cases hk : Call.keyOf? i.flagKey with
  | none =>
    rw [call_of_no_key hk]
    exact Call.accounted_of_silent rfl rfl
  | some key =>
    obtain ⟨r, -, hcall⟩ := call_of_key hk
    rw [hcall, Call.eq_text_of_keyOf? hk]
    exact conclude_accounted h i.wish.isReported i.period key i.context _ r

/-- Neither what is chosen nor what is sent depends on who tracks. -/
theorem call_same (settings : Settings) (t u : Tracker) (i : Inquiry) :
    (i.call ⟨settings, t⟩).chosen = (i.call ⟨settings, u⟩).chosen ∧
      (i.call ⟨settings, t⟩).requests = (i.call ⟨settings, u⟩).requests := by
  unfold Inquiry.call
  cases hk : Call.keyOf? i.flagKey with
  | none =>
    rw [call_of_no_key hk, call_of_no_key hk]
    exact ⟨rfl, rfl⟩
  | some key =>
    have hout : outcome ⟨settings, u⟩ i.library key i.context =
        outcome ⟨settings, t⟩ i.library key i.context := rfl
    have hreq : request ⟨settings, u⟩ i.library key i.context =
        request ⟨settings, t⟩ i.library key i.context := rfl
    obtain ⟨r, hr, hcall⟩ := @call_of_key ⟨settings, t⟩ i.library i.wish.isReported i.period
      i.flagKey i.context key hk
    obtain ⟨r', hr', hcall'⟩ := @call_of_key ⟨settings, u⟩ i.library i.wish.isReported i.period
      i.flagKey i.context key hk
    rw [hcall, hcall', (conclude_eq _ _ _ _ _ _ _).1, (conclude_eq _ _ _ _ _ _ _).1,
      (conclude_eq _ _ _ _ _ _ _).2, (conclude_eq _ _ _ _ _ _ _).2, hr, hr', hout, hreq]
    exact ⟨rfl, rfl⟩

theorem answer_same (settings : Settings) (t u : Tracker) (i : Inquiry) :
    i.answer ⟨settings, t⟩ = i.answer ⟨settings, u⟩ := by
  have hc := (call_same settings t u i).1
  unfold Inquiry.answer
  cases i.wish with
  | variant fallback isReported =>
    exact congrArg Answer.selection (Call.selection_congr hc fallback)
  | value fallback => exact congrArg Answer.value (Call.value_congr hc fallback)
  | truth => exact congrArg Answer.truth (Call.isOn_congr hc)

/-- Nothing is shown but what the service selects when it is asked. -/
theorem success?_call_iff (c : RemoteClient) (i : Inquiry) (s : Selection) :
    PollingClient.success? (i.call c) = some s ↔
      (∃ key answer, Call.keyOf? i.flagKey = some key ∧
        c.outcome i.library key i.context = .ok answer ∧
        (readAnswer i.library.room key answer).outcome = .ok (some s)) ∧ s.isSuccess = true := by
  rw [PollingClient.success?_eq_some, Inquiry.call]
  refine and_congr_left fun _ => ?_
  cases hk : Call.keyOf? i.flagKey with
  | none => simp [call_of_no_key hk, Call.fail]
  | some key =>
    obtain ⟨r, hr, hcall⟩ := @call_of_key c i.library i.wish.isReported i.period i.flagKey
      i.context key hk
    rw [hcall, (conclude_eq _ _ _ _ _ _ _).1, hr, lenient_eq_some]
    constructor
    · intro h
      obtain ⟨answer, ha, hs⟩ := bind_ok h
      exact ⟨key, answer, rfl, ha, hs⟩
    · rintro ⟨_, answer, ⟨⟩, ha, hs⟩
      rw [ha]
      exact hs

end RemoteClient

/-! ## Every session -/

/-- The events that a recording tracker is given in a session are, in the order of the calls, one for
each evaluation that shows an arm, wants reports and is for a user who can be named; each tells of the
user, the flag, the arm and what is known of the experiment. An evaluation shows an arm exactly if a
ready client selects it from a flag that it knows, or the service does when it is asked; of all flags
just those are shown that are returned, and just those are returned that an arm is selected from.
Whoever tracks, every call returns the same and leaves the client the same. -/
theorem every_showing_is_reported_once :
    Exposure.eventName = "$experiment_started" ∧
    (∀ (clock : Clock) (settings : Settings) (es : List Event),
      let c := PollingClient.fresh settings .recording
      List.Forall₂ (Exposure.Tells "local") (c.recorded clock es) (c.shown clock es) ∧
      ∀ t, (PollingClient.fresh settings t).run clock es = (c.run clock es).withTracker t ∧
        (PollingClient.fresh settings t).replies clock es = c.replies clock es) ∧
    (∀ (c : PollingClient) (ms : Nat) (isReported : Bool) (context : Context),
      (∀ flagKey s, PollingClient.success? (c.call isReported ms flagKey context) = some s ↔
        c.isReady = true ∧ (∃ key flag, Call.keyOf? flagKey = some key ∧
          Table.find? c.snapshot (.text key) = some flag ∧
          (Decision.evaluate (.flag flag) context (.text key)).outcome = .ok (some s)) ∧
        s.isSuccess = true) ∧
      (c.survey isReported ms context).selections = (c.snapshot.filterMap fun row =>
        (PollingClient.choice? row.2 context row.1.toValue).filter Selection.isSuccess) ∧
      (c.showings ms (.all context isReported)).map (·.selection) =
        if isReported && context.distinctId.isTruthy
        then (c.survey isReported ms context).selections else []) ∧
    (∀ (settings : Settings) (inquiries : List RemoteClient.Inquiry),
      let c : RemoteClient := ⟨settings, .recording⟩
      List.Forall₂ (Exposure.Tells "remote") (inquiries.flatMap fun i => (i.call c).exposures)
        (inquiries.flatMap fun i => (i.due? c).toList) ∧
      ∀ t, inquiries.map (fun i => (i.answer ⟨settings, t⟩, (i.call ⟨settings, t⟩).requests)) =
        inquiries.map fun i => (i.answer c, (i.call c).requests)) ∧
    (∀ (c : RemoteClient) (i : RemoteClient.Inquiry) (s : Selection),
      PollingClient.success? (i.call c) = some s ↔
        (∃ key answer, Call.keyOf? i.flagKey = some key ∧
          c.outcome i.library key i.context = .ok answer ∧
          (RemoteClient.readAnswer i.library.room key answer).outcome = .ok (some s)) ∧
        s.isSuccess = true) := by
  refine ⟨rfl, fun clock settings es => ⟨PollingClient.recorded_tell rfl clock es, fun t => ?_⟩,
    fun c ms isReported context => ⟨fun flagKey s => ?_, ?_, ?_⟩,
    fun settings inquiries => ⟨?_, fun t => ?_⟩, RemoteClient.success?_call_iff⟩
  · exact PollingClient.run_withTracker t (PollingClient.fresh settings .recording) clock es
  · exact c.success?_call_iff isReported ms flagKey context s
  · exact c.survey_selections isReported ms context
  · exact c.showings_all ms context isReported
  · exact forall₂_flatMap inquiries fun i => RemoteClient.inquiry_accounted rfl i
  · exact List.map_congr_left fun i _ =>
      Prod.ext (RemoteClient.answer_same settings t .recording i)
        (RemoteClient.call_same settings t .recording i).2

end StagedRollout
