/-
What a polling client knows is what its history says. The snapshot is that of the last fetch whose
document was accepted and which did not leave a closed client behind; a client with such a fetch is
ready and stays so, and one without is waiting exactly if it was started while it was open.
-/
import StagedRollout.Proofs.Client.Rest

namespace StagedRollout

/-! ## Histories -/

namespace Knowledge

/-- How far a client has come. -/
def stage : Knowledge → Nat
  | .notStarted => 0
  | .awaited => 1
  | .known _ => 2

theorem await_await (k : Knowledge) : k.await.await = k.await := by
  cases k <;> rfl

end Knowledge

namespace Visit

/-- The flags that were published last. -/
def lastPublished? (vs : List Visit) : Option (Table Flag) :=
  (vs.filterMap published?).getLast?

/-- What is known after visits. -/
def knowledge (vs : List Visit) : Knowledge :=
  match lastPublished? vs with
  | some flags => .known flags
  | none => if vs.any isOpenStart then .awaited else .notStarted

theorem lastPublished?_append (vs ws : List Visit) :
    lastPublished? (vs ++ ws) = (lastPublished? ws).or (lastPublished? vs) := by
  unfold lastPublished?
  rw [List.filterMap_append, List.getLast?_append]

theorem lastPublished?_singleton (v : Visit) : lastPublished? [v] = v.published? := by
  unfold lastPublished?
  cases h : v.published? <;> simp [h]

/-- One more visit adds what it published, or at least that the client was started. -/
theorem knowledge_snoc (vs : List Visit) (v : Visit) :
    knowledge (vs ++ [v]) = (v.published?.map .known).getD
      (if v.isOpenStart then (knowledge vs).await else knowledge vs) := by
  unfold knowledge
  rw [lastPublished?_append, lastPublished?_singleton, List.any_append]
  cases v.published? with
  | some flags => rfl
  | none =>
    cases lastPublished? vs with
    | some flags => cases v.isOpenStart <;> rfl
    | none => cases hv : v.isOpenStart <;> cases vs.any isOpenStart <;> simp [hv, Knowledge.await]

/-- Visits only lead forward. -/
theorem stage_le_append (vs ws : List Visit) :
    (knowledge vs).stage ≤ (knowledge (vs ++ ws)).stage := by
  unfold knowledge
  rw [lastPublished?_append, List.any_append]
  cases lastPublished? ws with
  | some flags =>
    show _ ≤ 2
    cases lastPublished? vs with
    | some _ => exact Nat.le_refl _
    | none => cases vs.any isOpenStart <;> decide
  | none =>
    cases lastPublished? vs with
    | some _ => exact Nat.le_refl _
    | none => cases vs.any isOpenStart <;> cases ws.any isOpenStart <;> decide

end Visit

namespace PollingClient

/-! ## One event -/

variable (clock : Clock)

/-- The client that an event meets already waits for definitions if a start is in force. -/
def Waits (c : PollingClient) : Prop := c.isStarted = true → c.knowledge.await = c.knowledge

theorem underway_knowledge {c : PollingClient} {e : Event} {f : Fetch} (h : c.fetchOf? e = some f) :
    (c.underway e).knowledge =
      if (⟨c, e⟩ : Visit).isOpenStart then c.knowledge.await else c.knowledge := by
  have hc := (open_of_fetch h).2
  unfold Visit.isOpenStart
  rw [hc]
  cases e <;> rfl

/-- An event adds to what is known what it published, or at least that the client was started. -/
theorem after_knowledge {c : PollingClient} (hw : c.Waits) (e : Event) :
    (c.after clock e).knowledge = ((⟨c, e⟩ : Visit).published?.map .known).getD
      (if (⟨c, e⟩ : Visit).isOpenStart then c.knowledge.await else c.knowledge) := by
  unfold Visit.published? Visit.fetch?
  cases h : c.fetchOf? e with
  | some f => rw [(after_of_fetch clock h).knowledge, ← underway_knowledge h]; rfl
  | none =>
    -- a start that makes no fetch met a start in force, which waits already
    rw [(after_of_quiet clock h).knowledge]
    show c.knowledge = if (⟨c, e⟩ : Visit).isOpenStart then c.knowledge.await else c.knowledge
    split
    · rename_i hs
      rw [hw (started_of_quiet_start h hs)]
    · rfl

theorem Waits.after {c : PollingClient} (h : AtRest c) (hw : c.Waits) (e : Event) :
    (c.after clock e).Waits := by
  intro hs
  rw [(h.after clock e).2, Bool.and_eq_true, Bool.or_eq_true] at hs
  rw [after_knowledge clock hw e]
  cases (⟨c, e⟩ : Visit).published? with
  | some flags => rfl
  | none =>
    show Knowledge.await (if _ then _ else _) = if _ then _ else _
    split
    · exact c.knowledge.await_await
    · rename_i ho
      exact hw (hs.1.resolve_right ho)

/-- After an event the snapshot is what the event published, or else the one before. -/
theorem after_snapshot {c : PollingClient} (hw : c.Waits) (e : Event) :
    (c.after clock e).snapshot = (⟨c, e⟩ : Visit).published?.getD c.snapshot ∧
    (c.after clock e).isReady = ((⟨c, e⟩ : Visit).published?.isSome || c.isReady) := by
  unfold snapshot isReady
  rw [after_knowledge clock hw e]
  cases (⟨c, e⟩ : Visit).published? with
  | some flags => exact ⟨rfl, rfl⟩
  | none =>
    cases (⟨c, e⟩ : Visit).isOpenStart with
    | true => cases c.knowledge <;> exact ⟨rfl, rfl⟩
    | false => exact ⟨rfl, rfl⟩

/-! ## Runs -/

/-- What a client knows after a run is what its visits say. -/
theorem run_knowledge (settings : Settings) (tracker : Tracker) (es : List Event) :
    let c := (fresh settings tracker).run clock es
    AtRest c ∧ c.Waits ∧
      c.knowledge = Visit.knowledge ((fresh settings tracker).visits clock es) := by
  refine run_induction (P := fun c vs => AtRest c ∧ c.Waits ∧ c.knowledge = Visit.knowledge vs)
    clock ?_ ?_ es
  · exact ⟨.fresh settings tracker, fun h => absurd h Bool.false_ne_true, rfl⟩
  · rintro c vs e ⟨hr, hw, hk⟩
    refine ⟨(hr.after clock e).1, hw.after clock hr e, ?_⟩
    rw [after_knowledge clock hw e, Visit.knowledge_snoc, hk]

/-- What is known tells the snapshot, whether there is one, and how far the client has come. -/
theorem of_knowledge {c : PollingClient} {vs : List Visit} (h : c.knowledge = Visit.knowledge vs) :
    c.snapshot = (Visit.lastPublished? vs).getD [] ∧
    c.isReady = (Visit.lastPublished? vs).isSome ∧
    c.knowledge.name = (if (Visit.lastPublished? vs).isSome then "READY"
      else if vs.any Visit.isOpenStart then "POLLING_NOT_READY" else "NOT_STARTED") := by
  unfold snapshot isReady
  rw [h]
  unfold Visit.knowledge
  cases Visit.lastPublished? vs with
  | some flags => exact ⟨rfl, rfl, rfl⟩
  | none => cases vs.any Visit.isOpenStart <;> exact ⟨rfl, rfl, rfl⟩

/-- The snapshot after any run is that of the last fetch whose document was accepted and which did
not leave a closed client behind, and it is empty without such a fetch. The client is ready exactly
if there is one, else it waits exactly if some start met it open; so it only moves forward. A
refresh tells true exactly if it published, and fails only on a demand to end; and an event that
publishes nothing changes neither the snapshot nor the readiness. -/
theorem snapshot_is_last_published (settings : Settings) (tracker : Tracker) (es : List Event) :
    let c := (fresh settings tracker).run clock es
    let vs := (fresh settings tracker).visits clock es
    c.snapshot = (Visit.lastPublished? vs).getD [] ∧
    c.isReady = (Visit.lastPublished? vs).isSome ∧
    c.knowledge.name = (if (Visit.lastPublished? vs).isSome then "READY"
      else if vs.any Visit.isOpenStart then "POLLING_NOT_READY" else "NOT_STARTED") ∧
    (∀ more, c.knowledge.stage ≤ (c.run clock more).knowledge.stage) ∧
    (∀ f, ((c.refresh .caller f).result = .ok true ↔
        (⟨c, .refresh f⟩ : Visit).published?.isSome = true) ∧
      ∀ e, (c.refresh .caller f).result = .error e →
        ∃ name, e = .exit name ∧ f.flags.outcome = .error e) ∧
    (∀ e, (c.after clock e).snapshot = (⟨c, e⟩ : Visit).published?.getD c.snapshot ∧
      (c.after clock e).isReady = ((⟨c, e⟩ : Visit).published?.isSome || c.isReady)) := by
  intro c vs
  obtain ⟨-, hw, hk⟩ := run_knowledge clock settings tracker es
  obtain ⟨hs, hr, hn⟩ := of_knowledge hk
  refine ⟨hs, hr, hn, fun more => ?_, fun f => ?_, after_snapshot clock hw⟩
  · obtain ⟨-, -, hm⟩ := run_knowledge clock settings tracker (es ++ more)
    rw [run_append, visits_append] at hm
    rw [hk, hm]
    exact Visit.stage_le_append _ _
  · unfold Visit.published? Visit.fetch? fetchOf?
    cases hc : c.isClosed with
    | true =>
      rw [refresh_of_closed .caller f hc]
      exact ⟨⟨nofun, nofun⟩, nofun⟩
    | false =>
      rw [(refresh_of_open .caller f hc).2]
      refine ⟨Fetch.verdict_eq_true, fun e he => ?_⟩
      cases hx : f.exits with
      | false =>
        rw [Fetch.verdict_of_not_exits hx] at he
        cases he
      | true =>
        obtain ⟨name, ho, hv⟩ := Fetch.verdict_of_exits hx
        cases hv.symm.trans he
        exact ⟨name, rfl, ho⟩

end PollingClient

end StagedRollout
