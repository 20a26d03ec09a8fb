/-
Runs of a polling client: what can happen to it, one event after the other, and the visits of a
run, each an event together with the client that it meets. What a run amounts to is read off its
visits: which fetches were made, and which of them brought a new snapshot.

An event that makes a fetch acts, beside the pollers, like one refresh of an open client; any other
event changes nothing beside the pollers, except that a close closes.
-/
import StagedRollout.Client.Snapshot
import StagedRollout.Proofs.Client.Step
import Mathlib.Data.List.Induction

namespace StagedRollout

/-! ## Events -/

/-- A question about flags. -/
inductive Question where
  | variant (flagKey : Value) (fallback : Selection) (context : Context) (isReported : Bool)
  | value (flagKey fallback : Value) (context : Context)
  | isOn (flagKey : Value) (context : Context)
  | all (context : Context) (isReported : Bool)

/-- What a question is answered with. -/
inductive Answer where
  | selection (s : Except Fault Selection)
  | value (v : Except Fault Value)
  | truth (b : Except Fault Bool)
  | selections (all : List Selection)

/-- Something that happens to a client. Where it comes to a fetch, it is the one named. -/
inductive Event where
  | start (fetch : Fetch)
  | stop
  | close
  | refresh (fetch : Fetch)
  | tick (fetch : Fetch)
  | ask (question : Question) (milliseconds : Nat)

namespace Event

/-- The fetch that an event may come to. -/
def fetch? : Event → Option Fetch
  | .start f => some f
  | .refresh f => some f
  | .tick f => some f
  | _ => none

def isStart : Event → Bool
  | .start _ => true
  | _ => false

def isRefresh : Event → Bool
  | .refresh _ => true
  | _ => false

def isTick : Event → Bool
  | .tick _ => true
  | _ => false

def isClose : Event → Bool
  | .close => true
  | _ => false

/-- Whether an event ends polling by itself. -/
def isEnd : Event → Bool
  | .stop => true
  | .close => true
  | _ => false

theorem isEnd_of_fetch (e : Event) {f : Fetch} (h : e.fetch? = some f) : e.isEnd = false := by
  cases e with
  | stop => cases h
  | close => cases h
  | _ => rfl

theorem isClose_of_fetch (e : Event) {f : Fetch} (h : e.fetch? = some f) : e.isClose = false := by
  cases e with
  | close => cases h
  | _ => rfl

end Event

namespace PollingClient

/-- The answer to a question. -/
def answer (c : PollingClient) (milliseconds : Nat) : Question → Answer
  | .variant flagKey fallback context isReported =>
    .selection ((c.call isReported milliseconds flagKey context).selection fallback)
  | .value flagKey fallback context =>
    .value ((c.call true milliseconds flagKey context).value fallback)
  | .isOn flagKey context => .truth (c.call true milliseconds flagKey context).isOn
  | .all context isReported => .selections (c.survey isReported milliseconds context).selections

/-- The client after an event. A question leaves it as it is. -/
def after (clock : Clock) (c : PollingClient) : Event → PollingClient
  | .start f => (c.start clock f).client
  | .stop => (c.stop .caller).1
  | .close => (c.close .caller).1
  | .refresh f => (c.refresh .caller f).client
  | .tick f => (c.tick f).client
  | .ask _ _ => c

/-- The client after events, one after the other. -/
def run (clock : Clock) (c : PollingClient) (events : List Event) : PollingClient :=
  events.foldl (after clock) c

/-- The fetch that an event makes of the client that it meets: a start that meets it open with no start
in force, a refresh that meets it open, and a tick that meets it open with a poller make theirs. -/
def fetchOf? (c : PollingClient) : Event → Option Fetch
  | .start f => if c.isClosed || c.isStarted then none else some f
  | .refresh f => if c.isClosed then none else some f
  | .tick f => if c.isClosed || c.pollers.isEmpty then none else some f
  | _ => none

end PollingClient

/-! ## Visits -/

/-- An event and the client that it meets. -/
structure Visit where
  before : PollingClient
  event : Event

namespace Visit

/-- The fetch that was made. -/
def fetch? (v : Visit) : Option Fetch := v.before.fetchOf? v.event

/-- The flags that were published: those of an accepted document whose fetch did not leave a closed
client behind. -/
def published? (v : Visit) : Option (Table Flag) := v.fetch?.bind Fetch.published?

/-- Whether a start met an open client. -/
def isOpenStart (v : Visit) : Bool := v.event.isStart && !v.before.isClosed

/-- Whether polling was ended, by the event or in the course of its fetch. -/
def ends (v : Visit) : Bool := v.event.isEnd || v.fetch?.any (·.interruption.stops)

end Visit

namespace PollingClient

/-- The visits of events, in order. -/
def visits (clock : Clock) (c : PollingClient) : List Event → List Visit
  | [] => []
  | e :: rest => ⟨c, e⟩ :: (c.after clock e).visits clock rest

variable (clock : Clock)

theorem run_append (c : PollingClient) (es more : List Event) :
    c.run clock (es ++ more) = (c.run clock es).run clock more := List.foldl_append

theorem visits_append (c : PollingClient) (es more : List Event) :
    c.visits clock (es ++ more) = c.visits clock es ++ (c.run clock es).visits clock more := by
  induction es generalizing c with
  | nil => rfl
  | cons x es ih =>
    show _ :: (c.after clock x).visits clock (es ++ more) = _
    rw [ih]; rfl

theorem run_snoc (c : PollingClient) (es : List Event) (e : Event) :
    c.run clock (es ++ [e]) = (c.run clock es).after clock e := run_append clock c es [e]

theorem visits_snoc (c : PollingClient) (es : List Event) (e : Event) :
    c.visits clock (es ++ [e]) = c.visits clock es ++ [⟨c.run clock es, e⟩] :=
  visits_append clock c es [e]

/-- What holds of a client and its visits at first, and stays with every further event, holds of
every run. -/
theorem run_induction {P : PollingClient → List Visit → Prop} {c : PollingClient} (h : P c [])
    (step : ∀ d vs e, P d vs → P (d.after clock e) (vs ++ [⟨d, e⟩])) (es : List Event) :
    P (c.run clock es) (c.visits clock es) := by
  -- from the end: a visit meets the client that all events before it left
  induction es using List.reverseRecOn with
  | nil => exact h
  | append_singleton es e ih =>
    rw [run_snoc, visits_snoc]
    exact step _ _ e ih

/-! ## One event -/

/-- The client when an event has begun and its fetch is still to come. -/
def underway (c : PollingClient) : Event → PollingClient
  | .start _ => c.begin
  | _ => c

/-- An event that makes a fetch makes its own, of an open client. -/
theorem open_of_fetch {c : PollingClient} {e : Event} {f : Fetch} (h : c.fetchOf? e = some f) :
    e.fetch? = some f ∧ c.isClosed = false := by
  cases e with
  | start g => exact ⟨(Option.ite_none_left_eq_some.1 h).2, by simp_all [fetchOf?]⟩
  | refresh g => exact ⟨(Option.ite_none_left_eq_some.1 h).2, by simp_all [fetchOf?]⟩
  | tick g => exact ⟨(Option.ite_none_left_eq_some.1 h).2, by simp_all [fetchOf?]⟩
  | _ => cases h

/-- An event that makes a fetch refreshes an open client, beside what it does to the pollers. -/
theorem after_of_fetch {c : PollingClient} {e : Event} {f : Fetch} (h : c.fetchOf? e = some f) :
    SameBesidePolling (c.after clock e)
      { c with
        knowledge := (f.published?.map .known).getD (c.underway e).knowledge
        isClosed := f.interruption.closes
        fetches := c.fetches + 1 } := by
  cases e with
  | start g =>
    simp only [fetchOf?, Option.ite_none_left_eq_some, Bool.not_eq_true, Bool.or_eq_false_iff,
      Option.some.injEq] at h
    obtain ⟨⟨hc, hs⟩, rfl⟩ := h
    show SameBesidePolling (c.start clock g).client _
    rw [start_of_open clock g hc hs]
    have hr := refresh_same .caller g (c := c.begin) hc
    split
    · exact ⟨hr.settings, hr.tracker, hr.knowledge, hr.isClosed, hr.fetches⟩
    · have hp := (provide_same clock _).trans hr
      exact ⟨hp.settings, hp.tracker, hp.knowledge, hp.isClosed, hp.fetches⟩
  | refresh g =>
    simp only [fetchOf?, Option.ite_none_left_eq_some, Bool.not_eq_true, Option.some.injEq] at h
    obtain ⟨hc, rfl⟩ := h
    exact refresh_same .caller g hc
  | tick g =>
    simp only [fetchOf?, Option.ite_none_left_eq_some, Bool.not_eq_true, Bool.or_eq_false_iff,
      Option.some.injEq] at h
    obtain ⟨⟨hc, hp⟩, rfl⟩ := h
    obtain ⟨p, rest, hp⟩ := List.exists_cons_of_ne_nil (List.isEmpty_eq_false_iff.1 hp)
    show SameBesidePolling (c.tick g).client _
    rw [tick_of_open g hc hp]
    refine (settle_same _ _).trans ?_
    split
    · exact (drop_same _ _).trans (refresh_same _ g hc)
    · exact refresh_same _ g hc
  | stop => cases h
  | close => cases h
  | ask => cases h

/-- An event that makes no fetch changes nothing beside the pollers; a close closes. -/
theorem after_of_quiet {c : PollingClient} {e : Event} (h : c.fetchOf? e = none) :
    SameBesidePolling (c.after clock e) { c with isClosed := c.isClosed || e.isClose } := by
  have hn : SameBesidePolling c { c with isClosed := c.isClosed || false } := by
    rw [Bool.or_false]; exact .refl c
  cases e with
  | start f =>
    show SameBesidePolling (c.start clock f).client _
    cases hc : c.isClosed with
    | true => rw [start_of_closed clock f hc]; rw [hc] at hn; exact hn
    | false =>
      have hs : c.isStarted = true := by simpa [fetchOf?, hc] using h
      rw [start_of_started clock f hc hs]; rw [hc] at hn; exact hn
  | refresh f =>
    have hc : c.isClosed = true := by simpa [fetchOf?] using h
    show SameBesidePolling (c.refresh .caller f).client _
    rw [refresh_of_closed .caller f hc]; exact hn
  | tick f =>
    show SameBesidePolling (c.tick f).client _
    rcases hp : c.pollers with _ | ⟨p, rest⟩
    · rw [tick_of_idle f hp]; exact ⟨rfl, rfl, rfl, hn.isClosed, rfl⟩
    · have hc : c.isClosed = true := by simpa [fetchOf?, hp] using h
      rw [tick_of_closed f hc hp]
      exact ⟨rfl, rfl, rfl, hn.isClosed, rfl⟩
  | stop => exact ⟨rfl, rfl, rfl, hn.isClosed, rfl⟩
  | close =>
    show SameBesidePolling (c.close .caller).1 _
    cases hc : c.isClosed with
    | true => rw [close_of_closed .caller hc]; rw [hc] at hn; exact hn
    | false => rw [close_of_open .caller hc]; exact ⟨rfl, rfl, rfl, rfl, rfl⟩
  | ask q ms => exact hn

theorem after_fetches (c : PollingClient) (e : Event) :
    (c.after clock e).fetches = c.fetches + (if (c.fetchOf? e).isSome then 1 else 0) := by
  cases h : c.fetchOf? e with
  | none => exact (after_of_quiet clock h).fetches
  | some f => exact (after_of_fetch clock h).fetches

theorem after_isClosed (c : PollingClient) (e : Event) :
    (c.after clock e).isClosed =
      (c.isClosed || e.isClose || (c.fetchOf? e).any (·.interruption.closes)) := by
  cases h : c.fetchOf? e with
  | none =>
    rw [(after_of_quiet clock h).isClosed]
    simp only [Option.any_none, Bool.or_false]
  | some f =>
    obtain ⟨he, hc⟩ := open_of_fetch h
    rw [(after_of_fetch clock h).isClosed, hc, e.isClose_of_fetch he, Option.any_some, Bool.or_self, Bool.false_or]

theorem after_settings (c : PollingClient) (e : Event) : (c.after clock e).settings = c.settings := by
  cases h : c.fetchOf? e with
  | none => exact (after_of_quiet clock h).settings
  | some f => exact (after_of_fetch clock h).settings

theorem after_tracker (c : PollingClient) (e : Event) : (c.after clock e).tracker = c.tracker := by
  cases h : c.fetchOf? e with
  | none => exact (after_of_quiet clock h).tracker
  | some f => exact (after_of_fetch clock h).tracker

end PollingClient

end StagedRollout
