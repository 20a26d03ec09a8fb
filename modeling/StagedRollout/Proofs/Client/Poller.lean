/-
The poller of a polling client over a whole run, against a ledger kept beside it: a start is
effective if it meets an open client while no earlier effective start is in force, and it is in
force until polling is ended by a stop or a close, be it in the course of a fetch. It is cut short
if its own fetch, or that of a tick since, comes to a demand to end.

The client has one poller exactly while polling is enabled, the clock can wait the interval and a
start is in force that was not cut short; and every fetch is accounted for by an effective start, by
a refresh that met the client open, or by a tick that met a poller.
-/
import StagedRollout.Proofs.Client.Rest

namespace StagedRollout

/-! ## The ledger -/

/-- Whether the fetch that was made came to a demand to end. -/
def Visit.exits (v : Visit) : Bool := v.fetch?.any Fetch.exits

/-- What a run comes to: whether an effective start is in force and whether it was cut short, and
how many effective starts, refreshes of the open client and ticks of a poller there were. -/
structure Ledger where
  isInForce : Bool
  isCut : Bool
  starts : Nat
  refreshes : Nat
  ticks : Nat

namespace Ledger

def empty : Ledger := ⟨false, false, 0, 0, 0⟩

/-- Whether a start is effective. -/
def isEffective (l : Ledger) (v : Visit) : Bool := v.isOpenStart && !l.isInForce

def record (l : Ledger) (v : Visit) : Ledger where
  isInForce := (l.isInForce || v.isOpenStart) && !v.ends
  isCut := if l.isEffective v then v.exits else l.isCut || v.event.isTick && v.exits
  starts := l.starts + if l.isEffective v then 1 else 0
  refreshes := l.refreshes + if v.event.isRefresh && !v.before.isClosed then 1 else 0
  ticks := l.ticks + if v.event.isTick && v.before.hasPoller then 1 else 0

/-- The ledger of visits. -/
def ofVisits (vs : List Visit) : Ledger := vs.foldl record empty

/-- The fetches that a ledger accounts for. -/
def fetches (l : Ledger) : Nat := l.starts + l.refreshes + l.ticks

theorem ofVisits_snoc (vs : List Visit) (v : Visit) :
    ofVisits (vs ++ [v]) = (ofVisits vs).record v := by
  unfold ofVisits
  rw [List.foldl_append]; rfl

end Ledger

namespace PollingClient

/-! ## One event -/

/-- An event makes its fetch exactly if the ledger accounts for one. -/
theorem record_fetches {c : PollingClient} {l : Ledger} (h : AtRest c)
    (hl : c.isStarted = l.isInForce) (e : Event) :
    (l.record ⟨c, e⟩).fetches = l.fetches + if (c.fetchOf? e).isSome then 1 else 0 := by
  unfold Ledger.fetches Ledger.record Ledger.isEffective Visit.isOpenStart hasPoller
  -- each event adds to its own column only
  cases e with
  | start f =>
    cases hc : c.isClosed with
    | true => simp [Event.isStart, Event.isRefresh, Event.isTick, fetchOf?, hc]
    | false =>
      cases hs : c.isStarted <;>
        simp [Event.isStart, Event.isRefresh, Event.isTick, fetchOf?, hc, hs, ← hl]
      omega
  | refresh f =>
    cases hc : c.isClosed <;>
      simp [Event.isStart, Event.isRefresh, Event.isTick, fetchOf?, hc]
    omega
  | tick f =>
    cases hc : c.isClosed with
    | true =>
      have hp : c.pollers = [] := h.no_pollers (h.ended hc)
      simp [Event.isStart, Event.isRefresh, Event.isTick, fetchOf?, hc, hp]
    | false =>
      cases hp : c.pollers <;>
        simp [Event.isStart, Event.isRefresh, Event.isTick, fetchOf?, hc, hp]
      omega
  | stop => rfl
  | close => rfl
  | ask => rfl

/-! ## The poller -/

theorem AtRest.not_hasPoller {c : PollingClient} (h : AtRest c) (hs : c.isStarted = false) :
    c.hasPoller = false := by
  unfold hasPoller
  rw [h.no_pollers hs]; rfl

/-- The outcome of a fetch does not touch the poller; an interruption of it ends the poller. -/
theorem AtRest.pollers_after_refresh {c : PollingClient} (h : AtRest c) (clock : Clock) (f : Fetch) :
    (c.after clock (.refresh f)).pollers = if f.interruption.stops then [] else c.pollers := by
  show (c.refresh .caller f).client.pollers = _
  cases hc : c.isClosed with
  | true => rw [refresh_of_closed .caller f hc, h.no_pollers (h.ended hc), ite_self]
  | false => exact (h.refresh hc f).2

/-- Pollers that are kept or ended together. -/
theorem hasPoller_ite {c d : PollingClient} {b : Bool} (h : d.pollers = if b then [] else c.pollers) :
    d.hasPoller = (c.hasPoller && !b) := by
  unfold hasPoller
  rw [h]
  cases b <;> simp

/-- What a ledger says of the poller. -/
def AccordsWith (clock : Clock) (c : PollingClient) (l : Ledger) : Prop :=
  c.hasPoller = (keepsPoller clock c.settings && l.isInForce && !l.isCut)

section Accord

variable {c : PollingClient} {l : Ledger} {clock : Clock} {e : Event}

/-- What makes no fetch and ends nothing leaves a ledger in force as it is. -/
theorem record_of_quiet (hl : c.isStarted = l.isInForce) (hf : c.fetchOf? e = none)
    (he : e.isEnd = false) :
    (l.record ⟨c, e⟩).isInForce = l.isInForce ∧ (l.record ⟨c, e⟩).isCut = l.isCut := by
  -- a start that makes no fetch of an open client meets one in force
  have hopen : ((⟨c, e⟩ : Visit).isOpenStart && !l.isInForce) = false := by
    refine eq_false_of_ne_true fun ho => ?_
    obtain ⟨hopen, hout⟩ := Bool.and_eq_true_iff.1 ho
    rw [← hl, started_of_quiet_start hf hopen] at hout
    cases hout
  have hends : (⟨c, e⟩ : Visit).ends = false := by
    show (e.isEnd || (c.fetchOf? e).any _) = false
    rw [he, hf]; rfl
  have hexits : (⟨c, e⟩ : Visit).exits = false := by
    show (c.fetchOf? e).any Fetch.exits = false
    rw [hf]; rfl
  unfold Ledger.record Ledger.isEffective
  rw [hopen, hends, hexits]
  refine ⟨?_, by simp⟩
  revert hopen
  cases l.isInForce <;> simp

theorem AtRest.accords_after_end (h : AtRest c) (hl : c.isStarted = l.isInForce)
    (he : (⟨c, e⟩ : Visit).ends = true) : AccordsWith clock (c.after clock e) (l.record ⟨c, e⟩) := by
  have hstarted : (c.after clock e).isStarted = false := by
    rw [(h.after clock e).2, he, Bool.not_true, Bool.and_false]
  have hforce : (l.record ⟨c, e⟩).isInForce = false := by
    rw [← hstarted, (h.after clock e).2, hl]; rfl
  unfold AccordsWith
  rw [(h.after clock e).1.not_hasPoller hstarted, hforce, Bool.and_false, Bool.false_and]

theorem AtRest.accords_after_fetch (h : AtRest c) (hl : c.isStarted = l.isInForce)
    (ha : AccordsWith clock c l) {f : Fetch} (hf : c.fetchOf? e = some f)
    (hs : f.interruption.stops = false) :
    AccordsWith clock (c.after clock e) (l.record ⟨c, e⟩) := by
  obtain ⟨hown, hc⟩ := open_of_fetch hf
  have hends : (⟨c, e⟩ : Visit).ends = false := by
    show (e.isEnd || (c.fetchOf? e).any _) = false
    rw [hf, e.isEnd_of_fetch hown, Option.any_some, hs]; rfl
  have hexits : (⟨c, e⟩ : Visit).exits = f.exits := by
    show (c.fetchOf? e).any Fetch.exits = _
    rw [hf, Option.any_some]
  unfold AccordsWith at ha ⊢
  rw [after_settings]
  cases e with
  | start g =>
    cases hown
    have hout : l.isInForce = false := by
      rw [← hl]
      simpa [fetchOf?, hc] using hf
    refine (h.start hc (hl.trans hout) clock f).2.2.trans ?_
    simp [Ledger.record, Ledger.isEffective, Visit.isOpenStart, Event.isStart, hc, hout, hends,
      hexits, hs]
  | refresh g =>
    cases hown
    rw [hasPoller_ite (h.pollers_after_refresh clock f), ha, hs]
    simp [Ledger.record, Ledger.isEffective, Visit.isOpenStart, Event.isStart, Event.isTick, hends]
  | tick g =>
    cases hown
    have hq : (c.after clock (.tick f)).hasPoller = (c.hasPoller && !f.exits) := by
      have ht := hasPoller_ite (h.tick f).2
      rw [hs, Bool.false_or] at ht
      exact ht
    rw [hq, ha]
    simp [Ledger.record, Ledger.isEffective, Visit.isOpenStart, Event.isStart, Event.isTick, hends,
      hexits, Bool.and_assoc]
  | stop => cases hown
  | close => cases hown
  | ask => cases hown

/-- A client that was in accord with its ledger is so after every event. -/
theorem AtRest.accords_after (h : AtRest c) (hl : c.isStarted = l.isInForce)
    (ha : AccordsWith clock c l) (e : Event) :
    AccordsWith clock (c.after clock e) (l.record ⟨c, e⟩) := by
  cases hends : (⟨c, e⟩ : Visit).ends with
  | true => exact h.accords_after_end hl hends
  | false =>
    obtain ⟨he, hs⟩ : e.isEnd = false ∧ (c.fetchOf? e).any (·.interruption.stops) = false :=
      Bool.or_eq_false_iff.1 hends
    cases hf : c.fetchOf? e with
    | none =>
      obtain ⟨hforce, hcut⟩ := record_of_quiet hl hf he
      unfold AccordsWith
      rw [h.after_of_quiet clock hf he, hforce, hcut]
      exact ha
    | some f =>
      rw [hf, Option.any_some] at hs
      exact h.accords_after_fetch hl ha hf hs

end Accord

/-! ## Runs -/

/-- The client after a run is at rest, and in accord with the ledger of the run. -/
theorem run_ledger (clock : Clock) (settings : Settings) (tracker : Tracker) (es : List Event) :
    let c := (fresh settings tracker).run clock es
    let l := Ledger.ofVisits ((fresh settings tracker).visits clock es)
    AtRest c ∧ c.settings = settings ∧ c.isStarted = l.isInForce ∧ c.fetches = l.fetches ∧
      AccordsWith clock c l := by
  refine run_induction clock (P := fun c vs => AtRest c ∧ c.settings = settings ∧
    c.isStarted = (Ledger.ofVisits vs).isInForce ∧ c.fetches = (Ledger.ofVisits vs).fetches ∧
    AccordsWith clock c (Ledger.ofVisits vs)) ?_ ?_ es
  · refine ⟨.fresh settings tracker, rfl, rfl, rfl, ?_⟩
    show false = (keepsPoller clock settings && false && true)
    rw [Bool.and_false, Bool.false_and]
  · rintro c vs e ⟨hr, rfl, hi, hf, hp⟩
    rw [Ledger.ofVisits_snoc]
    refine ⟨(hr.after clock e).1, after_settings clock c e, ?_, ?_, hr.accords_after hi hp e⟩
    · rw [(hr.after clock e).2, hi]; rfl
    · rw [after_fetches clock c e, record_fetches hr hi, hf]

/-- A start after a stop polls again, as far as its own fetch and the clock let it. -/
theorem AtRest.hasPoller_after_restart {c : PollingClient} (h : AtRest c) (clock : Clock)
    (f : Fetch) :
    ((c.after clock .stop).after clock (.start f)).hasPoller =
      (keepsPoller clock c.settings && !c.isClosed && !f.interruption.stops && !f.exits) := by
  have hr : AtRest (c.after clock .stop) := h.halt c.isClosed
  cases hc : c.isClosed with
  | true =>
    show ((c.after clock .stop).start clock f).client.hasPoller = _
    rw [start_of_closed clock f (c := c.after clock .stop) hc, hr.not_hasPoller rfl, Bool.not_true,
      Bool.and_false, Bool.false_and, Bool.false_and]
  | false =>
    refine (hr.start (c := c.after clock .stop) hc rfl clock f).2.2.trans ?_
    rw [Bool.not_false, Bool.and_true]
    rfl

/-- After any run the client has one poller, its own and not dismissed, exactly while polling is
enabled, the clock can wait the interval, an effective start is in force that no demand to end cut
short, and the client is open; and it has made one fetch for every effective start, every refresh
that met it open and every tick that met a poller. The poller outlasts whatever a fetch brings but a
demand to end in a fetch of its own, a repeated start changes nothing, and a start after a stop polls
again. -/
theorem poller_follows_starts (clock : Clock) (settings : Settings) (tracker : Tracker)
    (es : List Event) :
    let c := (fresh settings tracker).run clock es
    let l := Ledger.ofVisits ((fresh settings tracker).visits clock es)
    let isKept := settings.polling.any fun p => p.isEnabled && clock.canWait p.interval
    c.pollers.length = (if isKept && l.isInForce && !l.isCut && !c.isClosed then 1 else 0) ∧
    (∀ p ∈ c.pollers, p.isDismissed = false ∧ p.number = c.signal ∧ c.held = some p.number) ∧
    c.fetches = l.starts + l.refreshes + l.ticks ∧
    (∀ f, (c.after clock (.tick f)).pollers =
        (if f.interruption.stops || f.exits then [] else c.pollers) ∧
      (c.after clock (.refresh f)).pollers = (if f.interruption.stops then [] else c.pollers)) ∧
    (∀ f, l.isInForce = true → c.after clock (.start f) = c) ∧
    (∀ f, ((c.after clock .stop).after clock (.start f)).pollers.length =
      if isKept && !c.isClosed && !f.interruption.stops && !f.exits then 1 else 0) := by
  intro c l isKept
  obtain ⟨hr, hs, hi, hf, hp⟩ := run_ledger clock settings tracker es
  refine ⟨?_, hr.own, hf, fun f => ⟨(hr.tick f).2, hr.pollers_after_refresh clock f⟩,
    fun f hl => ?_, fun f => ?_⟩
  · rw [hr.length_pollers, hp, hs]
    -- no start is in force once the client is closed
    cases hc : c.isClosed with
    | false => rw [Bool.not_false, Bool.and_true]; rfl
    | true =>
      have hn : l.isInForce = false := hi.symm.trans (hr.ended hc)
      show (if _ && l.isInForce && _ then _ else _) = _
      rw [hn, Bool.and_false, Bool.and_false, Bool.false_and, Bool.false_and]
  · have hq : c.fetchOf? (.start f) = none := by
      show (if c.isClosed || c.isStarted then none else some f) = none
      rw [hi, hl, Bool.or_true]; rfl
    exact hr.after_of_quiet clock hq rfl
  · have hstop : AtRest (c.after clock .stop) := hr.halt c.isClosed
    rw [(hstop.after clock (.start f)).1.length_pollers, hr.hasPoller_after_restart clock f, hs]
    rfl

/-- An interval without end is accepted, and its poller is at its end as soon as it waits: the start is
in force, but no poller is left. A demand to end in the fetch of a poller ends it as well. -/
theorem started_client_is_left_without_poller :
    let polling (interval : Double) : Settings :=
      ⟨"token", Settings.defaultHost, .finite 10, some ⟨true, interval⟩⟩
    let bringing (outcome : Except Fault Value) : Fetch := .ofSource .nothing outcome
    let endless := fresh (polling (.infinity false)) .absent
    let timely := fresh (polling (.finite 60)) .absent
    let once := [Event.start (bringing (.ok (.object [])))]
    let twice := once ++ [.tick (bringing (.error (.exit "SystemExit")))]
    ((Ledger.ofVisits (endless.visits .system once)).isInForce = true ∧
      (endless.run .system once).isClosed = false ∧
      (endless.run .system once).pollers = []) ∧
    (timely.run .system once).pollers.length = 1 ∧
    (Ledger.ofVisits (timely.visits .system twice)).isInForce = true ∧
      (timely.run .system twice).isClosed = false ∧ (timely.run .system twice).pollers = [] := by
  decide +kernel

end PollingClient

end StagedRollout
