/-
Closing is final. A client that was closed, between two events or in the course of a fetch, is never
changed again by anything: it fetches nothing, publishes nothing, has no poller and gets none, and
answers every question as it did when it was closed.
-/
import StagedRollout.Proofs.Client.Rest

namespace StagedRollout

namespace PollingClient

/-! ## A closed client -/

/-- Nothing changes a closed client. -/
theorem AtRest.after_of_closed {c : PollingClient} (h : AtRest c) (hc : c.isClosed = true)
    (clock : Clock) (e : Event) : c.after clock e = c := by
  have hs : c.isStarted = false := h.ended hc
  have hp : c.pollers = [] := h.no_pollers hs
  have hh : c.held = none := h.held hs
  have hf : c.fetchOf? e = none := by
    cases e <;> simp [fetchOf?, hc]
  cases he : e.isEnd with
  | false => exact h.after_of_quiet clock hf he
  | true =>
    cases e with
    | stop =>
      -- a stop has nothing left to end
      have hr : (c.after clock .stop).pollers = [] := halt_caller_pollers _ h.number_eq
      calc c.after clock .stop
          = { c with isStarted := false, held := none, pollers := (c.after clock .stop).pollers } := rfl
        _ = { c with isStarted := false, held := none, pollers := [] } := by rw [hr]
        _ = c := by rw [← hs, ← hh, ← hp]
    | close =>
      show (c.close .caller).1 = c
      rw [close_of_closed .caller hc]
    | start => cases he
    | refresh => cases he
    | tick => cases he
    | ask => cases he

theorem AtRest.run_of_closed {c : PollingClient} (h : AtRest c) (hc : c.isClosed = true)
    (clock : Clock) (es : List Event) : c.run clock es = c := by
  induction es with
  | nil => rfl
  | cons e es ih =>
    show (c.after clock e).run clock es = c
    rw [h.after_of_closed hc clock e, ih]

/-- The operations of a closed client come to nothing, whoever calls them. -/
theorem AtRest.operations_of_closed {c : PollingClient} (h : AtRest c) (hc : c.isClosed = true)
    (clock : Clock) (f : Fetch) :
    c.start clock f = ⟨c, .ok (), [.startRefused], []⟩ ∧ c.tick f = ⟨c, false, [], []⟩ ∧
      ∀ actor, c.refresh actor f = ⟨c, .ok false, [], []⟩ ∧ c.close actor = (c, []) :=
  ⟨start_of_closed clock f hc, tick_of_idle f (h.no_pollers (h.ended hc)), fun actor =>
    ⟨refresh_of_closed actor f hc, close_of_closed actor hc⟩⟩

/-! ## Answers -/

/-- The answers depend on the snapshot, on whether there is one, and on who tracks exposures. -/
theorem answer_congr {c d : PollingClient} (hs : c.snapshot = d.snapshot)
    (hr : c.isReady = d.isReady) (ht : c.tracker = d.tracker) (ms : Nat) (q : Question) :
    c.answer ms q = d.answer ms q := by
  have hf : ∀ r ms context key flag,
      c.evaluateFlag r ms context key flag = d.evaluateFlag r ms context key flag := by
    intro r ms context key flag
    unfold evaluateFlag
    rw [ht]
  have hc : ∀ r ms key context, c.call r ms key context = d.call r ms key context := by
    intro r ms key context
    unfold call
    rw [hs, hr]
    simp only [hf]
  cases q with
  | variant key fallback context r => simp only [answer, hc]
  | value key fallback context => simp only [answer, hc]
  | isOn key context => simp only [answer, hc]
  | all context r => simp only [answer, survey, hs, hf]

/-- A start that waits for definitions leaves the snapshot as it is. -/
theorem underway_answer (c : PollingClient) (e : Event) (ms : Nat) (q : Question) :
    (c.underway e).answer ms q = c.answer ms q := by
  cases e with
  | start f =>
    have hk : c.begin.knowledge = c.knowledge.await := rfl
    have hs : c.begin.snapshot = c.snapshot := by
      unfold snapshot
      rw [hk]
      cases c.knowledge <;> rfl
    have hi : c.begin.isReady = c.isReady := by
      unfold isReady
      rw [hk]
      cases c.knowledge <;> rfl
    exact answer_congr (c := c.begin) (d := c) hs hi rfl ms q
  | _ => rfl

/-! ## The event that closes -/

/-- The event that closes a client leaves what was known when it began. Where it is not the close
itself, it is in the course of its one fetch. -/
theorem after_of_closing (clock : Clock) {c : PollingClient} {e : Event} (ho : c.isClosed = false)
    (hc : (c.after clock e).isClosed = true) :
    (c.after clock e).knowledge = (c.underway e).knowledge ∧
      (c.after clock e).fetches = c.fetches + (if e.isClose then 0 else 1) := by
  rw [after_isClosed, ho, Bool.false_or, Bool.or_eq_true] at hc
  rw [after_fetches]
  cases hf : c.fetchOf? e with
  | none =>
    have he : e.isClose = true := by simpa [hf] using hc
    rw [(after_of_quiet clock hf).knowledge, he]
    cases e with
    | close => exact ⟨rfl, rfl⟩
    | _ => cases he
  | some f =>
    have he : e.isClose = false := e.isClose_of_fetch (open_of_fetch hf).1
    have hi : f.interruption.closes = true := by simpa [hf, he] using hc
    have hp : f.published? = none := by
      unfold Fetch.published?
      rw [if_pos hi]
    rw [(after_of_fetch clock hf).knowledge, he, hp]
    exact ⟨rfl, rfl⟩

/-- An event that closes a client, be it a close or one whose fetch is interrupted by one, is the
last to do anything. The fetch in flight is not published and no further one is made, no poller is
left, no continuation changes the client, its operations come to nothing, and every answer is the
one that it gave on the snapshot that it had when it was closed. -/
theorem close_is_final (clock : Clock) (settings : Settings) (tracker : Tracker) (es : List Event)
    (e : Event) (ho : ((fresh settings tracker).run clock es).isClosed = false)
    (hc : (((fresh settings tracker).run clock es).after clock e).isClosed = true) :
    let c := (fresh settings tracker).run clock es
    let d := c.after clock e
    d.knowledge = (c.underway e).knowledge ∧
    d.fetches = c.fetches + (if e.isClose then 0 else 1) ∧
    d.pollers = [] ∧ d.held = none ∧
    (∀ f, e = .refresh f → (c.refresh .caller f).result = .ok false ∨
      ∃ name, f.flags.outcome = .error (.exit name) ∧
        (c.refresh .caller f).result = .error (.exit name)) ∧
    (∀ more, d.run clock more = d) ∧
    (∀ f, d.start clock f = ⟨d, .ok (), [.startRefused], []⟩ ∧ d.tick f = ⟨d, false, [], []⟩ ∧
      ∀ actor, d.refresh actor f = ⟨d, .ok false, [], []⟩ ∧ d.close actor = (d, [])) ∧
    (∀ more ms q, (d.run clock more).answer ms q = c.answer ms q) := by
  intro c d
  have hr : AtRest c := (AtRest.fresh settings tracker).run clock es
  have hd : AtRest d := (hr.after clock e).1
  obtain ⟨hk, hf⟩ := after_of_closing clock ho hc
  refine ⟨hk, hf, hd.no_pollers (hd.ended hc), hd.held (hd.ended hc), ?_,
    hd.run_of_closed hc clock, hd.operations_of_closed hc clock, fun more ms q => ?_⟩
  · rintro f rfl
    have hi : f.interruption.closes = true :=
      (refresh_same .caller f ho).isClosed.symm.trans hc
    have hp : f.published? = none := by
      unfold Fetch.published?
      rw [if_pos hi]
    rw [(refresh_of_open .caller f ho).2]
    cases hx : f.exits with
    | true => exact .inr (Fetch.verdict_of_exits hx)
    | false =>
      left
      rw [Fetch.verdict_of_not_exits hx, hp]
      rfl
  · rw [hd.run_of_closed hc clock more, ← c.underway_answer e]
    have hs : d.snapshot = (c.underway e).snapshot := by unfold snapshot; rw [hk]
    have hi : d.isReady = (c.underway e).isReady := by unfold isReady; rw [hk]
    refine answer_congr hs hi ?_ ms q
    rw [after_tracker clock c e]
    cases e <;> rfl

/-- A poller that closes its own client in the middle of a fetch. -/
theorem close_is_final_in_poll :
    let settings : Settings := ⟨"token", Settings.defaultHost, Settings.defaultTimeout,
      some ⟨true, Settings.defaultInterval⟩⟩
    let c := (fresh settings .recording).run .system [.start (.ofSource .nothing (.ok (.object [])))]
    let d := c.after .system (.tick (.ofSource .close (.ok (.object []))))
    c.isClosed = false ∧ c.pollers = [⟨1, false⟩] ∧ d.isClosed = true ∧ d.pollers = [] ∧
      d.fetches = 2 ∧ ∀ more, d.run .system more = d := by
  intro settings c d
  have ho : c.isClosed = false := by rfl
  have hc : d.isClosed = true := by rfl
  obtain ⟨-, hf, hp, -, -, hm, -, -⟩ := close_is_final .system settings .recording
    [.start (.ofSource .nothing (.ok (.object [])))]
    (.tick (.ofSource .close (.ok (.object [])))) ho hc
  exact ⟨ho, by rfl, hc, hp, hf, hm⟩

end PollingClient

end StagedRollout
