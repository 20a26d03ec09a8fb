/-
What the operations of a polling client do to it. Whatever happens to an open client during a
fetch comes to one of three: nothing, a stop, or a close; and a refresh of an open client differs
from the fetch alone by what the fetch publishes.
-/
import StagedRollout.Client.Polling

namespace StagedRollout

/-! ## Interruptions -/

namespace Interruption

/-- Whether polling is ended, by a stop or by a close. -/
def stops : Interruption → Bool
  | .nothing => false
  | .stop => true
  | .close => true
  | .both first next => first.stops || next.stops

/-- Whether the client is closed. -/
def closes : Interruption → Bool
  | .nothing => false
  | .stop => false
  | .close => true
  | .both first next => first.closes || next.closes

theorem closes_of_not_stops {i : Interruption} (h : i.stops = false) : i.closes = false := by
  induction i with
  | nothing => rfl
  | stop => cases h
  | close => cases h
  | both first next ih₁ ih₂ =>
    simp only [stops, Bool.or_eq_false_iff] at h
    simp only [closes, ih₁ h.1, ih₂ h.2, Bool.or_self]

end Interruption

namespace Fetch

/-- The flags of a fetch whose document is accepted. -/
def accepted? (f : Fetch) : Option (Table Flag) :=
  match f.outcome with
  | .ok payload => (Document.read payload).outcome.toOption
  | .error _ => none

/-- The flags that a fetch of an open client publishes. -/
def published? (f : Fetch) : Option (Table Flag) :=
  if f.interruption.closes then none else f.accepted?

/-- Whether a fetch ends in a demand to end. -/
def exits (f : Fetch) : Bool :=
  match f.flags.outcome with
  | .error (.exit _) => true
  | _ => false

/-- What a refresh of an open client tells of a fetch: whether it publishes, or the demand to end. -/
def verdict (f : Fetch) : Except Fault Bool :=
  match f.flags.outcome with
  | .error (.exit name) => .error (.exit name)
  | _ => .ok f.published?.isSome

theorem flags_outcome (f : Fetch) : f.flags.outcome.toOption = f.accepted? := by
  unfold flags accepted?
  rw [Reported.outcome_bind, Reported.outcome_ofExcept]
  cases f.outcome <;> rfl

/-- A demand to end brings no flags. -/
theorem published?_of_exits {f : Fetch} (h : f.exits = true) : f.published? = none := by
  unfold exits at h
  unfold published?
  rw [← flags_outcome]
  split at h
  · rename_i ho
    rw [ho]
    exact ite_self none
  · cases h

theorem verdict_eq_true {f : Fetch} : f.verdict = .ok true ↔ f.published?.isSome = true := by
  cases he : f.exits with
  | true =>
    rw [published?_of_exits he]
    unfold exits at he
    unfold verdict
    split <;> simp_all
  | false =>
    unfold exits at he
    unfold verdict
    split <;> simp_all

theorem verdict_of_exits {f : Fetch} (h : f.exits = true) :
    ∃ name, f.flags.outcome = .error (.exit name) ∧ f.verdict = .error (.exit name) := by
  unfold exits at h
  unfold verdict
  split at h
  · rename_i name ho
    exact ⟨name, ho, rfl⟩
  · cases h

theorem verdict_of_not_exits {f : Fetch} (h : f.exits = false) :
    f.verdict = .ok f.published?.isSome := by
  unfold exits at h
  unfold verdict
  split <;> simp_all

end Fetch

namespace PollingClient

/-! ## Ending -/

/-- The client after a stop, closed or not. -/
def halt (actor : Actor) (isClosed : Bool) (c : PollingClient) : PollingClient :=
  (stop actor { c with isClosed := isClosed }).1

section Halt

variable (actor : Actor) (b : Bool) (c : PollingClient)

@[simp] theorem halt_isClosed : (c.halt actor b).isClosed = b := rfl
@[simp] theorem halt_isStarted : (c.halt actor b).isStarted = false := rfl
@[simp] theorem halt_signal : (c.halt actor b).signal = c.signal := rfl

theorem halt_pollers : (c.halt actor b).pollers =
    (c.pollers.map (Poller.hear c.signal)).filter
      fun p => !p.isDismissed || actor == .poller p.number := rfl

end Halt

theorem hear_hear (n : Nat) (p : Poller) : (p.hear n).hear n = p.hear n := by
  unfold Poller.hear
  by_cases h : p.number = n
  · simp only [if_pos h]
  · simp only [if_neg h]

/-- A second stop changes nothing but whether the client is closed. -/
theorem halt_halt (actor : Actor) (a b : Bool) (c : PollingClient) :
    (c.halt actor a).halt actor b = c.halt actor b := by
  -- the pollers that are left heard the signal the first time
  have hp : ((c.halt actor a).halt actor b).pollers = (c.halt actor b).pollers := by
    rw [halt_pollers, halt_pollers, halt_pollers, halt_signal]
    have hm : ∀ p ∈ (c.pollers.map (Poller.hear c.signal)).filter
        (fun p => !p.isDismissed || actor == .poller p.number), p.hear c.signal = p := by
      intro p hp
      obtain ⟨q, -, rfl⟩ := List.mem_map.1 (List.mem_filter.1 hp).1
      exact hear_hear c.signal q
    rw [List.map_congr_left hm, List.map_id', List.filter_filter]
    simp only [Bool.and_self]
  calc (c.halt actor a).halt actor b
      = { c.halt actor b with pollers := ((c.halt actor a).halt actor b).pollers } := rfl
    _ = c.halt actor b := by rw [hp]

theorem stop_eq_halt (actor : Actor) (c : PollingClient) :
    (c.stop actor).1 = c.halt actor c.isClosed := rfl

theorem close_of_open (actor : Actor) {c : PollingClient} (h : c.isClosed = false) :
    (c.close actor).1 = c.halt actor true := by
  unfold close; rw [h]; rfl

theorem close_of_closed (actor : Actor) {c : PollingClient} (h : c.isClosed = true) :
    c.close actor = (c, []) := by
  unfold close; rw [h]; rfl

theorem interrupt_both (actor : Actor) (c : PollingClient) (i j : Interruption) :
    (c.interrupt actor (.both i j)).1 = ((c.interrupt actor i).1.interrupt actor j).1 := rfl

/-- Once polling has ended, an interruption can only close the client. -/
theorem interrupt_halt (actor : Actor) (b : Bool) (c : PollingClient) (i : Interruption) :
    ((c.halt actor b).interrupt actor i).1 = c.halt actor (b || i.closes) := by
  -- `b` grows along the interruption: whether a close has come so far
  induction i generalizing b with
  | nothing => simp [interrupt, Interruption.closes]
  | stop =>
    show ((c.halt actor b).stop actor).1 = _
    rw [stop_eq_halt, halt_halt, halt_isClosed, Interruption.closes, Bool.or_false]
  | close =>
    show ((c.halt actor b).close actor).1 = _
    rw [Interruption.closes, Bool.or_true]
    cases b with
    | false => rw [close_of_open actor rfl, halt_halt]
    | true => rw [close_of_closed actor rfl]
  | both i j ih₁ ih₂ =>
    rw [interrupt_both, ih₁, ih₂, Interruption.closes, Bool.or_assoc]

/-- What happens to an open client during a fetch comes to nothing, a stop, or a close. -/
theorem interrupt_of_open (actor : Actor) {c : PollingClient} (h : c.isClosed = false)
    (i : Interruption) :
    (c.interrupt actor i).1 = if i.stops then c.halt actor i.closes else c := by
  induction i with
  | nothing => rfl
  | stop =>
    show (c.stop actor).1 = _
    rw [stop_eq_halt, h]; rfl
  | close => exact close_of_open actor h
  | both i j ih₁ ih₂ =>
    rw [interrupt_both, ih₁]
    -- either polling has ended when `j` comes, or `j` meets the client that `i` met
    cases hi : i.stops with
    | true =>
      rw [if_pos rfl, interrupt_halt, Interruption.stops, hi, Bool.true_or, if_pos rfl,
        Interruption.closes]
    | false =>
      rw [if_neg Bool.false_ne_true, ih₂, Interruption.stops, hi, Bool.false_or,
        Interruption.closes, Interruption.closes_of_not_stops hi, Bool.false_or]

/-- An interruption ends things, but what the client knows it keeps. -/
theorem interrupt_knowledge (actor : Actor) (c : PollingClient) (i : Interruption) :
    (c.interrupt actor i).1.knowledge = c.knowledge := by
  induction i generalizing c with
  | nothing => rfl
  | stop => rfl
  | close =>
    show (c.close actor).1.knowledge = c.knowledge
    cases hc : c.isClosed with
    | true => rw [close_of_closed actor hc]
    | false => rw [close_of_open actor hc]; rfl
  | both i j ih₁ ih₂ => rw [interrupt_both, ih₂, ih₁]

/-! ## Fetching -/

/-- The client at the end of a fetch, before what it brings is looked at. -/
def fetched (actor : Actor) (f : Fetch) (c : PollingClient) : PollingClient :=
  (c.during actor f).1

theorem fetched_of_open (actor : Actor) (f : Fetch) {c : PollingClient} (h : c.isClosed = false) :
    c.fetched actor f =
      if f.interruption.stops
      then { c with fetches := c.fetches + 1 }.halt actor f.interruption.closes
      else { c with fetches := c.fetches + 1 } :=
  interrupt_of_open actor (c := { c with fetches := c.fetches + 1 }) h f.interruption

theorem fetched_isClosed (actor : Actor) (f : Fetch) {c : PollingClient} (h : c.isClosed = false) :
    (c.fetched actor f).isClosed = f.interruption.closes := by
  rw [fetched_of_open actor f h]
  cases hs : f.interruption.stops with
  | true => rfl
  | false => rw [Interruption.closes_of_not_stops hs]; exact h

theorem fetched_knowledge (actor : Actor) (f : Fetch) (c : PollingClient) :
    (c.fetched actor f).knowledge = c.knowledge :=
  interrupt_knowledge actor { c with fetches := c.fetches + 1 } f.interruption

theorem refresh_of_closed (actor : Actor) (f : Fetch) {c : PollingClient} (h : c.isClosed = true) :
    c.refresh actor f = ⟨c, .ok false, [], []⟩ := by
  unfold refresh; rw [h]; rfl

/-- A refresh of an open client publishes what its fetch brings, unless the client was closed
meanwhile, and tells whether it did; only a demand to end passes. -/
theorem refresh_of_open (actor : Actor) (f : Fetch) {c : PollingClient} (h : c.isClosed = false) :
    (c.refresh actor f).client =
      { c.fetched actor f with knowledge := (f.published?.map .known).getD c.knowledge } ∧
    (c.refresh actor f).result = f.verdict := by
  have hc := fetched_isClosed actor f h
  have hk := fetched_knowledge actor f c
  have ha := f.flags_outcome
  unfold refresh Fetch.verdict Fetch.published?
  rw [h, if_neg Bool.false_ne_true]
  unfold fetched at *
  rw [← ha, ← hk]
  cases f.flags.outcome with
  | error e => cases e <;> simp [Except.toOption]
  | ok flags =>
    simp only [Except.toOption]
    split
    · rename_i hd
      rw [hc] at hd
      rw [if_pos hd]
      exact ⟨rfl, rfl⟩
    · rename_i hd
      rw [hc] at hd
      rw [if_neg hd]
      exact ⟨rfl, rfl⟩

theorem fetched_isStarted (actor : Actor) (f : Fetch) {c : PollingClient} (h : c.isClosed = false) :
    (c.fetched actor f).isStarted = (c.isStarted && !f.interruption.stops) := by
  rw [fetched_of_open actor f h]
  cases f.interruption.stops <;> simp

theorem refresh_isStarted (actor : Actor) (f : Fetch) {c : PollingClient} (h : c.isClosed = false) :
    (c.refresh actor f).client.isStarted = (c.isStarted && !f.interruption.stops) := by
  rw [(refresh_of_open actor f h).1]
  exact fetched_isStarted actor f h

/-! ## Starting and ticking -/

/-- The client with the poller that it needs, if it needs one. -/
def provide (clock : Clock) (c : PollingClient) : PollingClient :=
  match c.pollerInterval? with
  | some interval => c.launch (clock.canWait interval)
  | none => c

theorem start_of_closed (clock : Clock) (f : Fetch) {c : PollingClient} (h : c.isClosed = true) :
    c.start clock f = ⟨c, .ok (), [.startRefused], []⟩ := by
  unfold start; rw [h]; rfl

theorem start_of_started (clock : Clock) (f : Fetch) {c : PollingClient} (hc : c.isClosed = false)
    (hs : c.isStarted = true) : c.start clock f = ⟨c, .ok (), [], []⟩ := by
  unfold start; rw [hc, hs]; rfl

/-- A start that meets an open client refreshes it, and then sees to its poller, unless the fetch came
to a demand to end. -/
theorem start_of_open (clock : Clock) (f : Fetch) {c : PollingClient} (hc : c.isClosed = false)
    (hs : c.isStarted = false) :
    (c.start clock f).client =
      if f.exits then (c.begin.refresh .caller f).client
      else (c.begin.refresh .caller f).client.provide clock := by
  have hr : (c.begin.refresh .caller f).result = f.verdict :=
    (refresh_of_open .caller f (c := c.begin) hc).2
  unfold start provide
  rw [hc, hs, if_neg Bool.false_ne_true, if_neg Bool.false_ne_true]
  dsimp only
  rw [hr]
  cases he : f.exits with
  | true =>
    obtain ⟨name, -, hv⟩ := Fetch.verdict_of_exits he
    rw [hv, if_pos rfl]
  | false =>
    rw [Fetch.verdict_of_not_exits he, if_neg Bool.false_ne_true]
    cases (c.begin.refresh .caller f).client.pollerInterval? <;> rfl

theorem tick_of_idle (f : Fetch) {c : PollingClient} (h : c.pollers = []) :
    c.tick f = ⟨c, false, [], []⟩ := by
  unfold tick; rw [h]

theorem tick_of_closed (f : Fetch) {c : PollingClient} {p : Poller} {rest : List Poller}
    (hc : c.isClosed = true) (h : c.pollers = p :: rest) :
    (c.tick f).client = c.settle .caller := by
  unfold tick
  rw [h]
  dsimp only
  rw [refresh_of_closed _ f hc]

/-- A tick of an open client refreshes it. A poller that was dismissed ends, and so does one whose
fetch came to a demand to end. -/
theorem tick_of_open (f : Fetch) {c : PollingClient} {p : Poller} {rest : List Poller}
    (hc : c.isClosed = false) (h : c.pollers = p :: rest) :
    (c.tick f).client =
      (if f.exits then (c.refresh (.poller p.number) f).client.drop p.number
        else (c.refresh (.poller p.number) f).client).settle .caller := by
  have hr := (refresh_of_open (.poller p.number) f hc).2
  unfold tick
  rw [h]
  dsimp only
  rw [hr]
  cases he : f.exits with
  | true =>
    obtain ⟨name, -, hv⟩ := Fetch.verdict_of_exits he
    rw [hv, if_pos rfl]
  | false => rw [Fetch.verdict_of_not_exits he, if_neg Bool.false_ne_true]

/-! ## Beside polling -/

/-- Two clients that differ at most in their polling. -/
structure SameBesidePolling (c d : PollingClient) : Prop where
  settings : c.settings = d.settings
  tracker : c.tracker = d.tracker
  knowledge : c.knowledge = d.knowledge
  isClosed : c.isClosed = d.isClosed
  fetches : c.fetches = d.fetches

theorem SameBesidePolling.refl (c : PollingClient) : SameBesidePolling c c :=
  ⟨rfl, rfl, rfl, rfl, rfl⟩

theorem SameBesidePolling.trans {c d e : PollingClient} (h : SameBesidePolling c d)
    (k : SameBesidePolling d e) : SameBesidePolling c e :=
  ⟨h.settings.trans k.settings, h.tracker.trans k.tracker, h.knowledge.trans k.knowledge,
    h.isClosed.trans k.isClosed, h.fetches.trans k.fetches⟩

theorem provide_same (clock : Clock) (c : PollingClient) :
    SameBesidePolling (c.provide clock) c := by
  unfold provide
  split
  · exact ⟨rfl, rfl, rfl, rfl, rfl⟩
  · exact .refl c

theorem drop_same (number : Nat) (c : PollingClient) : SameBesidePolling (c.drop number) c :=
  ⟨rfl, rfl, rfl, rfl, rfl⟩

theorem settle_same (actor : Actor) (c : PollingClient) : SameBesidePolling (c.settle actor) c :=
  ⟨rfl, rfl, rfl, rfl, rfl⟩

theorem fetched_same (actor : Actor) (f : Fetch) {c : PollingClient} (h : c.isClosed = false) :
    SameBesidePolling (c.fetched actor f)
      { c with isClosed := f.interruption.closes, fetches := c.fetches + 1 } := by
  refine ⟨?_, ?_, fetched_knowledge actor f c, fetched_isClosed actor f h, ?_⟩ <;>
    rw [fetched_of_open actor f h] <;> split <;> rfl

/-- The client after a refresh of an open one, beside its polling. -/
theorem refresh_same (actor : Actor) (f : Fetch) {c : PollingClient} (h : c.isClosed = false) :
    SameBesidePolling (c.refresh actor f).client
      { c with
        knowledge := (f.published?.map .known).getD c.knowledge
        isClosed := f.interruption.closes
        fetches := c.fetches + 1 } := by
  rw [(refresh_of_open actor f h).1]
  have hs := fetched_same actor f h
  exact ⟨hs.settings, hs.tracker, rfl, hs.isClosed, hs.fetches⟩

end PollingClient

end StagedRollout
