/-
A polling client at rest, between two events: it has at most one poller, which it holds, which listens
to the client's own stop signal and was not dismissed, and that only while a start is in force. Every
event leaves a client at rest that it meets at rest. The poller of a start lives if the clock can wait
its interval and the fetch of the start came to no demand to end.
-/
import StagedRollout.Proofs.Client.Run

namespace StagedRollout

namespace PollingClient

/-! ## The invariant -/

/-- What holds between two events. -/
structure AtRest (c : PollingClient) : Prop where
  pollers : c.pollers = [] ∨
    c.pollers = [⟨c.signal, false⟩] ∧ c.held = some c.signal ∧ c.isStarted = true
  held : c.isStarted = false → c.held = none
  ended : c.isClosed = true → c.isStarted = false

/-- Whether the client has a poller that lives. -/
def hasPoller (c : PollingClient) : Bool := !c.pollers.isEmpty

namespace AtRest

variable {c : PollingClient}

theorem fresh (settings : Settings) (tracker : Tracker) :
    AtRest (PollingClient.fresh settings tracker) :=
  ⟨.inl rfl, fun _ => rfl, nofun⟩

/-- A client without pollers is at rest if it holds none unless it was started, and is not started once
it is closed. -/
theorem of_no_pollers (hp : c.pollers = []) (hh : c.isStarted = false → c.held = none)
    (hc : c.isClosed = true → c.isStarted = false) : AtRest c :=
  ⟨.inl hp, hh, hc⟩

theorem no_pollers (h : AtRest c) (hs : c.isStarted = false) : c.pollers = [] := by
  refine h.pollers.resolve_right fun hp => ?_
  cases hs.symm.trans hp.2.2

theorem not_closed (h : AtRest c) {p : Poller} {rest : List Poller} (hp : c.pollers = p :: rest) :
    c.isClosed = false := by
  refine eq_false_of_ne_true fun hc => ?_
  cases (h.no_pollers (h.ended hc)).symm.trans hp

/-- The client's stop signal reaches every poller. -/
theorem number_eq (h : AtRest c) : ∀ p ∈ c.pollers, p.number = c.signal := by
  intro p hp
  rcases h.pollers with hn | ⟨ho, -⟩
  · rw [hn] at hp
    cases hp
  · rw [ho] at hp
    rw [List.mem_singleton.1 hp]

theorem length_pollers (h : AtRest c) : c.pollers.length = if c.hasPoller then 1 else 0 := by
  unfold hasPoller
  rcases h.pollers with hn | ⟨ho, -⟩
  · rw [hn]; rfl
  · rw [ho]; rfl

/-- A poller that lives is the client's own. -/
theorem own (h : AtRest c) : ∀ p ∈ c.pollers, p.isDismissed = false ∧ p.number = c.signal ∧
    c.held = some p.number := by
  intro p hp
  rcases h.pollers with hn | ⟨ho, hh, -⟩
  · rw [hn] at hp
    cases hp
  · rw [ho] at hp
    rw [List.mem_singleton.1 hp]
    exact ⟨rfl, rfl, hh⟩

end AtRest

/-! ## Ending -/

/-- A stop that reaches every poller dismisses them all. -/
theorem hear_dismisses {c : PollingClient} (h : ∀ p ∈ c.pollers, p.number = c.signal) :
    ∀ p ∈ c.pollers.map (Poller.hear c.signal), p.isDismissed = true := by
  intro p hp
  obtain ⟨q, hq, rfl⟩ := List.mem_map.1 hp
  unfold Poller.hear
  rw [if_pos (h q hq)]

theorem settle_halt_pollers (actor : Actor) (b : Bool) {c : PollingClient}
    (h : ∀ p ∈ c.pollers, p.number = c.signal) :
    ((c.halt actor b).settle .caller).pollers = [] := by
  show ((c.halt actor b).pollers.filter _) = []
  rw [halt_pollers, List.filter_filter, List.filter_eq_nil_iff]
  intro p hp
  simp [hear_dismisses h p hp]

/-- After a stop by a caller no poller is left, so that waiting for its end comes to an end. -/
theorem halt_caller_pollers (b : Bool) {c : PollingClient}
    (h : ∀ p ∈ c.pollers, p.number = c.signal) : (c.halt .caller b).pollers = [] := by
  rw [halt_pollers, List.filter_eq_nil_iff]
  intro p hp
  simp [hear_dismisses h p hp]

theorem AtRest.halt {c : PollingClient} (h : AtRest c) (b : Bool) : AtRest (c.halt .caller b) :=
  .of_no_pollers (halt_caller_pollers b h.number_eq) (fun _ => rfl) fun _ => rfl

/-! ## Fetching -/

/-- The outcome of a refresh does not touch the poller; an interruption of its fetch ends the
poller. -/
theorem AtRest.refresh {c : PollingClient} (h : AtRest c) (hc : c.isClosed = false) (f : Fetch) :
    AtRest (c.refresh .caller f).client ∧
      (c.refresh .caller f).client.pollers = if f.interruption.stops then [] else c.pollers := by
  rw [(refresh_of_open .caller f hc).1]
  suffices hf : AtRest (c.fetched .caller f) ∧
      (c.fetched .caller f).pollers = if f.interruption.stops then [] else c.pollers from
    ⟨⟨hf.1.pollers, hf.1.held, hf.1.ended⟩, hf.2⟩
  rw [fetched_of_open .caller f hc]
  split
  · have hp := halt_caller_pollers (c := { c with fetches := c.fetches + 1 })
      f.interruption.closes h.number_eq
    exact ⟨.of_no_pollers hp (fun _ => rfl) fun _ => rfl, hp⟩
  · exact ⟨⟨h.pollers, h.held, h.ended⟩, rfl⟩

theorem drop_pollers {c : PollingClient} {number : Nat} (h : ∀ p ∈ c.pollers, p.number = number) :
    (c.drop number).pollers = [] := by
  show c.pollers.filter _ = []
  rw [List.filter_eq_nil_iff]
  intro p hp
  simp [h p hp]

theorem settle_drop (actor : Actor) (number : Nat) (c : PollingClient) :
    (c.drop number).settle actor = (c.settle actor).drop number := by
  have hp : ((c.drop number).settle actor).pollers = ((c.settle actor).drop number).pollers := by
    show (c.pollers.filter _).filter _ = (c.pollers.filter _).filter _
    rw [List.filter_filter, List.filter_filter]
    simp only [Bool.and_comm]
  calc (c.drop number).settle actor
      = { c with pollers := ((c.drop number).settle actor).pollers } := rfl
    _ = (c.settle actor).drop number := by rw [hp]; rfl

/-- There is nothing to let go of at rest. -/
theorem AtRest.settle {c : PollingClient} (h : AtRest c) :
    AtRest (c.settle .caller) ∧ (c.settle .caller).pollers = c.pollers := by
  have hp : (c.settle .caller).pollers = c.pollers := by
    show c.pollers.filter _ = c.pollers
    rcases h.pollers with hn | ⟨ho, -⟩
    · rw [hn]; rfl
    · rw [ho]; rfl
  refine ⟨⟨?_, h.held, h.ended⟩, hp⟩
  rw [hp]
  exact h.pollers

/-- A poller whose fetch is over is let go if the fetch was interrupted. -/
theorem AtRest.settle_fetched {c : PollingClient} (h : AtRest c) (hc : c.isClosed = false)
    (number : Nat) (f : Fetch) :
    let d := (c.fetched (.poller number) f).settle .caller
    AtRest d ∧ d.pollers = if f.interruption.stops then [] else c.pollers := by
  dsimp only
  rw [fetched_of_open (.poller number) f hc]
  cases f.interruption.stops with
  | true =>
    -- a poller that was dismissed in its own fetch is only let go when the fetch is over
    have hnone := settle_halt_pollers (.poller number) f.interruption.closes
      (c := { c with fetches := c.fetches + 1 }) h.number_eq
    exact ⟨.of_no_pollers hnone (fun _ => rfl) fun _ => rfl, hnone⟩
  | false =>
    rw [if_neg Bool.false_ne_true, if_neg Bool.false_ne_true]
    exact AtRest.settle (c := { c with fetches := c.fetches + 1 }) ⟨h.pollers, h.held, h.ended⟩

/-- A client at rest is at rest without its poller. -/
theorem AtRest.drop {c : PollingClient} (h : AtRest c) {number : Nat}
    (hn : ∀ p ∈ c.pollers, p.number = number) :
    AtRest (c.drop number) ∧ (c.drop number).pollers = [] :=
  ⟨.of_no_pollers (drop_pollers hn) h.held h.ended, drop_pollers hn⟩

/-- A tick ends the poller if its fetch is interrupted or comes to a demand to end. -/
theorem AtRest.tick {c : PollingClient} (h : AtRest c) (f : Fetch) :
    AtRest (c.tick f).client ∧ (c.tick f).client.pollers =
      if f.interruption.stops || f.exits then [] else c.pollers := by
  rcases hp : c.pollers with _ | ⟨p, rest⟩
  · rw [tick_of_idle f hp, ite_self]
    exact ⟨h, hp⟩
  have hc := h.not_closed hp
  have hn : ∀ q ∈ c.pollers, q.number = p.number := fun q hq => by
    rw [h.number_eq q hq, h.number_eq p (hp ▸ List.mem_cons_self)]
  obtain ⟨hrest, hpollers⟩ := h.settle_fetched hc p.number f
  rw [tick_of_open f hc hp, (refresh_of_open _ f hc).1, ← hp]
  -- what is published does not matter to the poller
  suffices hf : let d := c.fetched (.poller p.number) f
      let e := (if f.exits then d.drop p.number else d).settle .caller
      AtRest e ∧ e.pollers = if f.interruption.stops || f.exits then [] else c.pollers by
    revert hf
    cases f.exits <;> exact fun hf => ⟨⟨hf.1.pollers, hf.1.held, hf.1.ended⟩, hf.2⟩
  dsimp only
  cases f.exits with
  | false =>
    rw [Bool.or_false]
    exact ⟨hrest, hpollers⟩
  | true =>
    rw [if_pos rfl, settle_drop, Bool.or_true, if_pos rfl]
    refine hrest.drop fun q hq => hn q ?_
    rw [hpollers] at hq
    split at hq
    · cases hq
    · exact hq

/-! ## Starting -/

/-- Whether a poller of the client lives: polling is enabled, and the clock can wait the interval. -/
def keepsPoller (clock : Clock) (settings : Settings) : Bool :=
  settings.polling.any fun p => p.isEnabled && clock.canWait p.interval

theorem provide_of_stopped (clock : Clock) {c : PollingClient} (h : c.isStarted = false) :
    c.provide clock = c := by
  have hi : c.pollerInterval? = none := by
    unfold pollerInterval?
    rw [h]
    cases c.settings.polling <;> simp
  unfold provide
  rw [hi]

/-- A poller of an open client that was started is its only one, and lives if the clock can wait. -/
theorem launch_atRest {c : PollingClient} (hc : c.isClosed = false) (hs : c.isStarted = true)
    (hp : c.pollers = []) (canWait : Bool) :
    AtRest (c.launch canWait) ∧ (c.launch canWait).hasPoller = canWait := by
  have hpollers : (c.launch canWait).pollers = if canWait then [⟨c.signal + 1, false⟩] else [] := by
    show (if canWait then _ :: c.pollers else c.pollers) = _
    rw [hp]
  refine ⟨⟨?_, fun h => ?_, fun h => ?_⟩, ?_⟩
  · rw [hpollers]
    cases canWait with
    | false => exact .inl rfl
    | true => exact .inr ⟨rfl, rfl, hs⟩
  · cases hs.symm.trans h
  · cases hc.symm.trans h
  · unfold hasPoller
    rw [hpollers]
    cases canWait <;> rfl

/-- An open client that was started and has no poller gets one if polling is enabled, and it lives if
the clock can wait. -/
theorem provide_atRest (clock : Clock) {c : PollingClient} (hc : c.isClosed = false)
    (hs : c.isStarted = true) (hh : c.held = none) (hp : c.pollers = []) :
    AtRest (c.provide clock) ∧ (c.provide clock).isStarted = true ∧
      (c.provide clock).hasPoller = keepsPoller clock c.settings := by
  have hidle : AtRest c := .of_no_pollers hp (fun _ => hh) fun h => by cases hc.symm.trans h
  have hnone : c.hasPoller = false := by unfold hasPoller; rw [hp]; rfl
  cases hpolling : c.settings.polling with
  | none =>
    have hi : c.pollerInterval? = none := by unfold pollerInterval?; rw [hpolling]
    unfold provide keepsPoller
    rw [hi, hpolling]
    exact ⟨hidle, hs, hnone⟩
  | some polling =>
    have hi : c.pollerInterval? = if polling.isEnabled then some polling.interval else none := by
      unfold pollerInterval? isPolling
      rw [hpolling, hc, hs, hh]
      simp
    unfold provide keepsPoller
    rw [hi, hpolling, Option.any_some]
    cases polling.isEnabled with
    | false => exact ⟨hidle, hs, hnone⟩
    | true =>
      obtain ⟨hrest, hpoller⟩ := launch_atRest hc hs hp (clock.canWait polling.interval)
      exact ⟨hrest, hs, hpoller⟩

/-- A start that meets an open client with none in force is in force after it unless its fetch was
interrupted. Its poller lives if the clock can wait, and the fetch came to no demand to end. -/
theorem AtRest.start {c : PollingClient} (h : AtRest c) (hc : c.isClosed = false)
    (hs : c.isStarted = false) (clock : Clock) (f : Fetch) :
    let d := (c.start clock f).client
    AtRest d ∧ d.isStarted = !f.interruption.stops ∧
      d.hasPoller = (keepsPoller clock c.settings && !f.interruption.stops && !f.exits) := by
  have hp := h.no_pollers hs
  have hn : ∀ p ∈ c.pollers, p.number = c.signal := h.number_eq
  rw [start_of_open clock f hc hs, (refresh_of_open .caller f (c := c.begin) hc).1,
    fetched_of_open .caller f (c := c.begin) hc]
  cases f.interruption.stops with
  | true =>
    rw [if_pos rfl, provide_of_stopped clock rfl, ite_self]
    have hnone := halt_caller_pollers (c := { c.begin with fetches := c.fetches + 1 })
      f.interruption.closes hn
    refine ⟨.of_no_pollers hnone (fun _ => rfl) fun _ => rfl, rfl, ?_⟩
    rw [Bool.not_true, Bool.and_false, Bool.false_and]
    exact congrArg (fun ps : List Poller => !ps.isEmpty) hnone
  | false =>
    rw [if_neg Bool.false_ne_true]
    cases f.exits with
    | true =>
      refine ⟨.of_no_pollers hp nofun fun h => ?_, rfl, ?_⟩
      · cases hc.symm.trans h
      · rw [Bool.not_true, Bool.and_false]
        exact congrArg (fun ps : List Poller => !ps.isEmpty) hp
    | false =>
      -- nothing ended the start, so the poller that it needs comes now
      rw [if_neg Bool.false_ne_true, Bool.not_false, Bool.and_true, Bool.and_true]
      exact provide_atRest clock hc rfl (h.held hs) hp

/-! ## Every event -/

/-- A client at rest is not changed by an event that makes no fetch and ends nothing. -/
theorem AtRest.after_of_quiet {c : PollingClient} (h : AtRest c) (clock : Clock) {e : Event}
    (hf : c.fetchOf? e = none) (he : e.isEnd = false) : c.after clock e = c := by
  cases e with
  | start f =>
    show (c.start clock f).client = c
    cases hc : c.isClosed with
    | true => rw [start_of_closed clock f hc]
    | false =>
      have hs : c.isStarted = true := by simpa [fetchOf?, hc] using hf
      rw [start_of_started clock f hc hs]
  | refresh f =>
    have hc : c.isClosed = true := by simpa [fetchOf?] using hf
    show (c.refresh .caller f).client = c
    rw [refresh_of_closed .caller f hc]
  | tick f =>
    have hp : c.pollers = [] := by
      cases hc : c.isClosed with
      | true => exact h.no_pollers (h.ended hc)
      | false => simpa [fetchOf?, hc] using hf
    show (c.tick f).client = c
    rw [tick_of_idle f hp]
  | stop => cases he
  | close => cases he
  | ask => rfl

/-- An open client makes no fetch on a start only if a start is in force. -/
theorem started_of_quiet_start {c : PollingClient} {e : Event} (hf : c.fetchOf? e = none)
    (he : (e.isStart && !c.isClosed) = true) : c.isStarted = true := by
  rw [Bool.and_eq_true, Bool.not_eq_true'] at he
  cases e with
  | start f => simpa [fetchOf?, he.2] using hf
  | _ => cases he.1

theorem AtRest.after_of_end {c : PollingClient} (h : AtRest c) (clock : Clock) {e : Event}
    (he : e.isEnd = true) :
    AtRest (c.after clock e) ∧ (c.after clock e).isStarted = false := by
  cases e with
  | stop => exact ⟨h.halt c.isClosed, rfl⟩
  | close =>
    show AtRest (c.close .caller).1 ∧ (c.close .caller).1.isStarted = false
    cases hc : c.isClosed with
    | true => rw [close_of_closed .caller hc]; exact ⟨h, h.ended hc⟩
    | false => rw [close_of_open .caller hc]; exact ⟨h.halt true, rfl⟩
  | start => cases he
  | refresh => cases he
  | tick => cases he
  | ask => cases he

theorem AtRest.after_of_fetch {c : PollingClient} (h : AtRest c) (clock : Clock) {e : Event}
    {f : Fetch} (hf : c.fetchOf? e = some f) :
    AtRest (c.after clock e) ∧
      (c.after clock e).isStarted = ((c.isStarted || e.isStart) && !f.interruption.stops) := by
  obtain ⟨hg, hc⟩ := open_of_fetch hf
  cases e with
  | start g =>
    cases hg
    have hs : c.isStarted = false := by simpa [fetchOf?, hc] using hf
    rw [hs]
    obtain ⟨hr, hi, -⟩ := h.start hc hs clock f
    exact ⟨hr, hi⟩
  | refresh g =>
    cases hg
    refine ⟨(h.refresh hc f).1, ?_⟩
    show _ = ((c.isStarted || false) && _)
    rw [Bool.or_false]
    exact refresh_isStarted .caller f hc
  | tick g =>
    cases hg
    refine ⟨(h.tick f).1, ?_⟩
    have hp : c.pollers ≠ [] := by
      intro hp
      simp [fetchOf?, hp] at hf
    obtain ⟨p, rest, hp⟩ := List.exists_cons_of_ne_nil hp
    show (c.tick f).client.isStarted = ((c.isStarted || false) && _)
    rw [tick_of_open f hc hp, Bool.or_false]
    have hr := refresh_isStarted (.poller p.number) f hc
    cases f.exits <;> exact hr
  | stop => cases hg
  | close => cases hg
  | ask => cases hg

/-- Every event keeps the invariant, and a start is in force after it exactly if one was before it or
was made on the open client, and nothing ended it. -/
theorem AtRest.after {c : PollingClient} (h : AtRest c) (clock : Clock) (e : Event) :
    AtRest (c.after clock e) ∧ (c.after clock e).isStarted =
      ((c.isStarted || (⟨c, e⟩ : Visit).isOpenStart) && !(⟨c, e⟩ : Visit).ends) := by
  unfold Visit.isOpenStart Visit.ends Visit.fetch?
  cases hf : c.fetchOf? e with
  | some f =>
    obtain ⟨hg, hc⟩ := open_of_fetch hf
    rw [hc, e.isEnd_of_fetch hg, Bool.not_false, Bool.and_true, Bool.false_or, Option.any_some]
    exact h.after_of_fetch clock hf
  | none =>
    rw [Option.any_none, Bool.or_false]
    cases he : e.isEnd with
    | true =>
      rw [Bool.not_true, Bool.and_false]
      exact h.after_of_end clock he
    | false =>
      rw [h.after_of_quiet clock hf he]
      refine ⟨h, ?_⟩
      rw [Bool.not_false, Bool.and_true]
      cases hs : e.isStart && !c.isClosed with
      | false => rw [Bool.or_false]
      | true => rw [started_of_quiet_start hf hs]; rfl

theorem AtRest.run {c : PollingClient} (h : AtRest c) (clock : Clock) (es : List Event) :
    AtRest (c.run clock es) := by
  induction es generalizing c with
  | nil => exact h
  | cons e es ih => exact ih (h.after clock e).1

end PollingClient

end StagedRollout
