/-
The client in memory stands for a polling client. Fed with the same documents, of which either may refuse
some, both hold the same flags all along, a polling client without a document like one of an empty
document; so they answer alike, but for a fault of an evaluation, which the polling client turns into
the fallback.
-/
import StagedRollout.Proofs.Client.Run
import StagedRollout.Proofs.Client.Selecting

namespace StagedRollout

/-! ## Both clients, fed with documents -/

/-- The client with the flags of a document, or as it was if the document is refused. -/
def MemoryClient.receive (m : MemoryClient) (payload : Value) : MemoryClient :=
  (MemoryClient.ofDocument payload).outcome.toOption.getD m

/-- The client that was given documents, one after the other. -/
def MemoryClient.fed (payloads : List Value) : MemoryClient := payloads.foldl receive empty

/-- One refresh, with a document from a source of the caller's own. -/
def Event.refreshWith (payload : Value) : Event := .refresh (.ofSource .nothing (.ok payload))

/-- The client that was refreshed with documents, one after the other. -/
def PollingClient.fed (clock : Clock) (settings : Settings) (tracker : Tracker)
    (payloads : List Value) : PollingClient :=
  (fresh settings tracker).run clock (payloads.map Event.refreshWith)

/-! ## The same flags -/

/-- An open client that holds the flags of a client in memory. -/
structure Holds (c : PollingClient) (m : MemoryClient) : Prop where
  isOpen : c.isClosed = false
  snapshot : c.snapshot = m.flags

/-- A document that both clients are given is taken by both or by neither. -/
theorem Holds.receive {c : PollingClient} {m : MemoryClient} (h : Holds c m) (clock : Clock)
    (payload : Value) : Holds (c.after clock (.refreshWith payload)) (m.receive payload) := by
  have hs := PollingClient.refresh_same .caller (.ofSource .nothing (.ok payload)) h.isOpen
  have hp : (Fetch.ofSource .nothing (.ok payload)).published? =
      (Document.read payload).outcome.toOption := rfl
  refine ⟨hs.isClosed, ?_⟩
  show (c.refresh .caller (.ofSource .nothing (.ok payload))).client.snapshot = _
  unfold PollingClient.snapshot MemoryClient.receive
  rw [hs.knowledge, hp, MemoryClient.ofDocument_outcome]
  cases (Document.read payload).outcome with
  | error e => exact h.snapshot
  | ok flags => rfl

theorem holds_fed (clock : Clock) (settings : Settings) (tracker : Tracker)
    (payloads : List Value) :
    Holds (PollingClient.fed clock settings tracker payloads) (MemoryClient.fed payloads) := by
  -- from the end: the last document meets the clients that all before it left
  induction payloads using List.reverseRecOn with
  | nil => exact ⟨rfl, rfl⟩
  | append_singleton payloads payload ih =>
    have hc : PollingClient.fed clock settings tracker (payloads ++ [payload]) =
        (PollingClient.fed clock settings tracker payloads).after clock (.refreshWith payload) := by
      unfold PollingClient.fed
      rw [List.map_append]
      exact PollingClient.run_snoc _ _ _ _
    have hm : MemoryClient.fed (payloads ++ [payload]) =
        (MemoryClient.fed payloads).receive payload := List.foldl_append
    rw [hc, hm]
    exact ih.receive clock payload

/-! ## The same answers -/

/-- A client that holds the same flags selects the same, and nothing where an evaluation fails. -/
theorem Holds.chosen {c : PollingClient} {m : MemoryClient} (h : Holds c m) {key : Text}
    (hk : key ≠ "") (isReported : Bool) (ms : Nat) (context : Context) :
    (c.call isReported ms (.text key) context).chosen =
      .ok (m.call (.text key) context).chosen.toOption.join := by
  rw [c.call_chosen, Call.keyOf?_text hk, m.call_chosen hk, Option.elim, c.selected?_eq, h.snapshot]
  cases Table.find? m.flags (.text key) with
  | none =>
    show _ = Except.ok (Decision.evaluate .unknown context (.text key)).outcome.toOption.join
    rw [evaluate_of_unknown context hk]
    rfl
  | some flag => rfl

/-- After any documents, well-formed or not, that a polling client is refreshed with and a client in
memory is given: where the client in memory has an answer for a flag, the polling client has the
same, be it the fallback or a selection; and where it has a fault, the fault is that of the
evaluation, and the polling client answers with the fallback. -/
theorem polling_follows_memory (clock : Clock) (settings : Settings) (tracker : Tracker)
    (payloads : List Value) (key : Text) (hk : key ≠ "") (fallback : Selection) (context : Context)
    (isReported : Bool) (ms : Nat) :
    let inMemory := (MemoryClient.fed payloads).call (.text key) context
    let polling := (PollingClient.fed clock settings tracker payloads).call isReported ms
      (.text key) context
    (∀ choice, inMemory.chosen = .ok choice → polling.chosen = .ok choice ∧
      polling.selection fallback = inMemory.selection fallback) ∧
    ∀ e, inMemory.chosen = .error e →
      (Decision.evaluate (.ofFlag? (Table.find? (MemoryClient.fed payloads).flags (.text key)))
        context (.text key)).outcome = .error e ∧
      polling.chosen = .ok none ∧ polling.selection fallback = .ok fallback := by
  intro inMemory polling
  have hp : polling.chosen = .ok inMemory.chosen.toOption.join :=
    (holds_fed clock settings tracker payloads).chosen hk isReported ms context
  refine ⟨fun choice h => ?_, fun e h => ?_⟩
  · have hc : polling.chosen = .ok choice := by rw [hp, h]; rfl
    exact ⟨hc, Call.selection_congr (hc.trans h.symm) fallback⟩
  · have hc : polling.chosen = .ok none := by rw [hp, h]; rfl
    refine ⟨?_, hc, ?_⟩
    · rw [← MemoryClient.call_chosen _ hk]
      exact h
    · unfold Call.selection
      rw [hc]
      rfl

/-- A flag with an arm fixed for one user, and one that needs to know a user's plan. -/
def twoFlags : Value :=
  .object [(.text "flags", .list [
    .object [(.text "key", .text "checkout"), (.text "ruleset", .object [
      (.text "variants", .list [.object [(.text "key", .text "on")]]),
      (.text "test", .object [(.text "users", .object [(.text "ann", .text "on")])])])],
    .object [(.text "key", .text "banner"), (.text "context", .text "plan")]])]

theorem polling_follows_memory_past_refusal :
    let payloads := [twoFlags, .null]
    let context : Context := ⟨.text "ann", none⟩
    let inMemory (key : Text) := ((MemoryClient.fed payloads).call (.text key) context).chosen
    let polling (key : Text) := ((PollingClient.fed .system MemoryClient.settings .absent
      payloads).call true 0 (.text key) context).chosen
    (∃ s, inMemory "checkout" = .ok (some s) ∧ polling "checkout" = .ok (some s)) ∧
      inMemory "banner" = .error .noMembers ∧ polling "banner" = .ok none := by
  intro payloads context inMemory polling
  have hf := fun (key : Text) (hk : key ≠ "") => polling_follows_memory .system
    MemoryClient.settings .absent payloads key hk (.fallback .null) context true 0
  have hsome : (inMemory "checkout").toOption.join.isSome = true := by decide +kernel
  obtain ⟨s, hs⟩ := Option.isSome_iff_exists.1 hsome
  replace hs : inMemory "checkout" = .ok (some s) := toOption_join_eq_some.1 hs
  have hb : inMemory "banner" = .error .noMembers := by rfl
  exact ⟨⟨s, hs, ((hf "checkout" (by decide)).1 _ hs).1⟩, hb,
    ((hf "banner" (by decide)).2 _ hb).2.1⟩

end StagedRollout
