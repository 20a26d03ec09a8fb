/-
A survey of all flags against a call for each. Whatever happened to a polling client, its snapshot is that
of a document: every flag is under its own key, a text, and no two under one. So the call for a key meets
the flag that the survey meets there, and both do the same with it. A flag that cannot be evaluated, or
that no call can name, takes no part in a survey.
-/
import StagedRollout.Proofs.Client.Agreement
import StagedRollout.Proofs.Client.Asking
import StagedRollout.Proofs.Flag.Accepted

namespace StagedRollout.PollingClient

/-! ## Snapshots -/

/-- Flags as a document has them: each under its own key, which is a text, and no two under one. -/
structure IsKeyed (flags : Table Flag) : Prop where
  rows : ∀ row ∈ flags, Document.TypedRow row
  apart : Table.IsApart flags

theorem IsKeyed.empty : IsKeyed [] := ⟨fun _ hr => (by cases hr), List.Pairwise.nil⟩

theorem IsKeyed.text {flags : Table Flag} (h : IsKeyed flags) {row : Key × Flag} (hr : row ∈ flags) :
    ∃ key, row.1 = .text key :=
  ⟨_, (h.rows row hr).2⟩

theorem isKeyed_of_published {f : Fetch} {flags : Table Flag} (h : f.published? = some flags) :
    IsKeyed flags := by
  unfold Fetch.published? Fetch.accepted? at h
  split at h
  · cases h
  · split at h
    · have hread := toOption_eq_some.1 h
      exact ⟨Document.read_typed hread, Document.read_apart hread⟩
    · cases h

theorem snapshot_congr {c d : PollingClient} (h : c.knowledge = d.knowledge) :
    c.snapshot = d.snapshot := by
  unfold snapshot
  rw [h]

theorem underway_snapshot (c : PollingClient) (e : Event) : (c.underway e).snapshot = c.snapshot := by
  cases e with
  | start f =>
    show c.begin.snapshot = _
    unfold snapshot begin
    cases c.knowledge <;> rfl
  | _ => rfl

/-- An event publishes the flags of a document, or leaves the snapshot as it is. -/
theorem isKeyed_after (clock : Clock) {c : PollingClient} (h : IsKeyed c.snapshot) (e : Event) :
    IsKeyed (c.after clock e).snapshot := by
  cases hf : c.fetchOf? e with
  | none =>
    rw [snapshot_congr (after_of_quiet clock hf).knowledge]
    exact h
  | some f =>
    rw [snapshot_congr (after_of_fetch clock hf).knowledge]
    cases hp : f.published? with
    | none =>
      show IsKeyed (c.underway e).snapshot
      rw [underway_snapshot]
      exact h
    | some flags => exact isKeyed_of_published hp

theorem isKeyed_perform (clock : Clock) (c : PollingClient) (a : Action) (h : IsKeyed c.snapshot) :
    IsKeyed (c.perform clock a).1.snapshot := by
  cases a with
  | event e => exact isKeyed_after clock h e
  | look f =>
    show IsKeyed (c.fetched .caller f).snapshot
    rw [snapshot_congr (fetched_knowledge .caller f c)]
    exact h
  | definitions => exact h

/-- Wherever a session of a client ends, its snapshot is that of a document. -/
theorem isKeyed_session (clock : Clock) (settings : Settings) (tracker : Tracker)
    (actions : List Action) :
    IsKeyed (lastOf (perform clock) (fresh settings tracker) actions).snapshot :=
  lastOf_induction (P := fun c => IsKeyed c.snapshot) (perform clock) (isKeyed_perform clock)
    (c := fresh settings tracker) IsKeyed.empty actions

/-! ## Calls for the flags of a snapshot -/

/-- The keys of the snapshot that a call can name, in its order. -/
def flagKeys (c : PollingClient) : List Value :=
  (c.snapshot.keys.filter (· ≠ .text "")).map Key.toValue

section Calls

variable {c : PollingClient} (isReported : Bool) (ms : Nat) (context : Context)

/-- What a survey does with a row of the snapshot. -/
def evaluateRow (c : PollingClient) (row : Key × Flag) : Call :=
  c.evaluateFlag isReported ms context row.1.toValue row.2

theorem isReady_of_mem {row : Key × Flag} (h : row ∈ c.snapshot) : c.isReady = true := by
  unfold snapshot at h
  unfold isReady
  split at h
  · rfl
  · cases h

/-- A call for the key of a flag evaluates that flag. -/
theorem call_of_mem (h : IsKeyed c.snapshot) {row : Key × Flag} (hr : row ∈ c.snapshot)
    (hk : row.1 ≠ .text "") :
    c.call isReported ms row.1.toValue context = c.evaluateRow isReported ms context row := by
  unfold evaluateRow
  obtain ⟨key, hkey⟩ := h.text hr
  have hne : key ≠ "" := fun he => hk (by rw [hkey, he])
  have hfound : Table.find? c.snapshot (.text key) = some row.2 :=
    h.apart.find?_of_mem hr (Key.same_text.2 hkey)
  rw [hkey]
  show Call.under (.text key) _ = _
  rw [Call.under_text hne, if_pos (isReady_of_mem hr), hfound]
  rfl

theorem calls_eq (h : IsKeyed c.snapshot) :
    c.flagKeys.map (c.call isReported ms · context) =
      (c.snapshot.filter fun row => row.1 ≠ .text "").map
        (c.evaluateRow isReported ms context) := by
  unfold flagKeys Table.keys
  rw [List.filter_map, List.map_map, List.map_map]
  refine List.map_congr_left fun row hr => ?_
  obtain ⟨hr, hk⟩ := List.mem_filter.1 hr
  exact call_of_mem isReported ms context h hr (of_decide_eq_true hk)

end Calls

/-! ## Calls that say nothing -/

/-- A call that selects nothing and reports nothing. -/
structure IsSilent (call : Call) : Prop where
  success : success? call = none
  exposures : call.exposures = []

/-- No flag is evaluated under the empty key, and one that cannot be evaluated is passed over. -/
theorem isSilent_of_fault (c : PollingClient) (isReported : Bool) (ms : Nat) {context : Context}
    {row : Key × Flag} (h : row.1 = .text "" ∨
      ∃ e, (Decision.evaluate (.flag row.2) context row.1.toValue).outcome = .error e) :
    IsSilent (c.evaluateRow isReported ms context row) := by
  obtain ⟨e, he⟩ : ∃ e, (Decision.evaluate (.flag row.2) context row.1.toValue).outcome = .error e := by
    rcases h with hk | he
    · rw [hk]
      exact ⟨.breach .emptyFlagKey, rfl⟩
    · exact he
  unfold evaluateRow evaluateFlag
  dsimp only
  rw [he]
  exact ⟨rfl, rfl⟩

namespace Survey

theorem ofCalls_append_silent (before after : List Call) {call : Call} (h : IsSilent call) :
    (ofCalls (before ++ call :: after)).selections = (ofCalls (before ++ after)).selections ∧
      (ofCalls (before ++ call :: after)).exposures = (ofCalls (before ++ after)).exposures := by
  simp [ofCalls, h.success, h.exposures]

/-- Rows whose calls say nothing can be left out of a survey. -/
theorem ofCalls_filter {α : Type} (f : α → Call) (p : α → Bool) (rows : List α)
    (h : ∀ row ∈ rows, p row = false → IsSilent (f row)) :
    (ofCalls ((rows.filter p).map f)).selections = (ofCalls (rows.map f)).selections ∧
      (ofCalls ((rows.filter p).map f)).exposures = (ofCalls (rows.map f)).exposures := by
  induction rows with
  | nil => exact ⟨rfl, rfl⟩
  | cons row rest ih =>
    obtain ⟨hs, he⟩ := ih fun r hr => h r (List.mem_cons_of_mem _ hr)
    simp only [ofCalls] at hs he ⊢
    cases hp : p row with
    | true => simp [hp, hs, he, List.filterMap_cons]
    | false =>
      obtain ⟨hsuccess, hexposures⟩ := h row List.mem_cons_self hp
      simp [hp, hs, he, hsuccess, hexposures]

end Survey

/-! ## The survey -/

/-- The client with other flags in its snapshot. -/
def withFlags (flags : Table Flag) (c : PollingClient) : PollingClient :=
  { c with knowledge := .known flags }

/-- Calls that come to a choice give results back, and those that are selections count in a survey. -/
theorem selections_of_returns {calls : List Call} (h : ∀ call ∈ calls, Returns call.chosen) :
    ∃ results : List Selection,
      calls.map (·.selection (Selection.fallback .null)) = results.map .ok ∧
        calls.filterMap success? = results.filter (·.isSuccess) := by
  induction calls with
  | nil => exact ⟨[], rfl, rfl⟩
  | cons call rest ih =>
    obtain ⟨results, hresults, hcounted⟩ := ih fun a ha => h a (List.mem_cons_of_mem _ ha)
    obtain ⟨choice, hc⟩ := h call List.mem_cons_self
    have hresult : call.selection (Selection.fallback .null) =
        .ok (choice.getD (Selection.fallback .null)) := by
      rw [(Call.follows_chosen call).selection, hc]
      rfl
    have hsuccess : success? call = choice.filter Selection.isSuccess := success?_of_chosen hc
    refine ⟨choice.getD (Selection.fallback .null) :: results, ?_, ?_⟩
    · rw [List.map_cons, List.map_cons, hresult, hresults]
    · cases choice with
      | none => rw [List.filterMap_cons_none hsuccess, hcounted]; rfl
      | some s =>
        rw [Option.getD_some]
        cases hs : s.isSuccess with
        | true =>
          rw [Option.filter_some_pos hs] at hsuccess
          rw [List.filterMap_cons_some hsuccess, List.filter_cons_of_pos hs, hcounted]
        | false =>
          rw [Option.filter_some_neg hs] at hsuccess
          rw [List.filterMap_cons_none hsuccess, List.filter_cons_of_neg (ne_true_of_eq_false hs),
            hcounted]

/-- Wherever a session of a client ends, a survey of all flags gives what the calls for the keys of the
snapshot give, in their order: each call has a result, the survey is the results that are selections, and
the events are the same. A flag that cannot be evaluated, or whose key is empty, might as well not be
there. -/
theorem survey_agrees_with_calls (clock : Clock) (settings : Settings) (tracker : Tracker)
    (actions : List Action) (context : Context) (isReported : Bool) (ms : Nat) :
    let c := lastOf (perform clock) (fresh settings tracker) actions
    let calls := c.flagKeys.map (c.call isReported ms · context)
    let survey := c.survey isReported ms context
    (∃ results : List Selection,
      calls.map (·.selection (Selection.fallback .null)) = results.map .ok ∧
        survey.selections = results.filter (·.isSuccess)) ∧
    survey.exposures = calls.flatMap (·.exposures) ∧
    ∀ before row after, c.snapshot = before ++ row :: after →
      (row.1 = .text "" ∨
        ∃ e, (Decision.evaluate (.flag row.2) context row.1.toValue).outcome = .error e) →
      let rest := (c.withFlags (before ++ after)).survey isReported ms context
      survey.selections = rest.selections ∧ survey.exposures = rest.exposures := by
  intro c calls survey
  have hcalls : calls = _ :=
    calls_eq isReported ms context (isKeyed_session clock settings tracker actions)
  -- the survey also meets the flag under the empty key, but that one is passed over
  obtain ⟨hselections, hexposures⟩ := Survey.ofCalls_filter (c.evaluateRow isReported ms context)
    (fun row => row.1 ≠ .text "") c.snapshot fun row _ hp =>
      isSilent_of_fault c isReported ms (.inl (not_not.1 (of_decide_eq_false hp)))
  rw [← hcalls] at hselections hexposures
  refine ⟨?_, hexposures.symm, fun before row after hrow hr => ?_⟩
  · have hreturns : ∀ call ∈ calls, Returns call.chosen := by
      intro call hm
      rw [hcalls] at hm
      obtain ⟨row, -, rfl⟩ := List.mem_map.1 hm
      exact ⟨_, c.evaluateFlag_chosen isReported ms context _ _⟩
    obtain ⟨results, hresults, hcounted⟩ := selections_of_returns hreturns
    exact ⟨results, hresults, hselections.symm.trans hcounted⟩
  · intro rest
    have hsurvey : survey = Survey.ofCalls (before.map (c.evaluateRow isReported ms context) ++
        c.evaluateRow isReported ms context row ::
          after.map (c.evaluateRow isReported ms context)) := by
      show Survey.ofCalls (c.snapshot.map (c.evaluateRow isReported ms context)) = _
      rw [hrow, List.map_append, List.map_cons]
    have hrest : rest = Survey.ofCalls (before.map (c.evaluateRow isReported ms context) ++
        after.map (c.evaluateRow isReported ms context)) := by
      show Survey.ofCalls ((before ++ after).map (c.evaluateRow isReported ms context)) = _
      rw [List.map_append]
    rw [hsurvey, hrest]
    exact Survey.ofCalls_append_silent _ _ (isSilent_of_fault c isReported ms hr)

/-- A flag that needs a user's plan is passed over for a user without properties, and the flag beside it
is selected from. -/
theorem survey_agrees_with_calls_past_fault :
    let c := lastOf (perform .system) (fresh MemoryClient.settings .recording)
      [.event (.refreshWith twoFlags)]
    let ann : Context := ⟨.text "ann", none⟩
    let survey := c.survey true 0 ann
    c.flagKeys.map (·.asText) = (["checkout", "banner"] : List Text) ∧ survey.selections.length = 1 ∧
      survey.exposures = (c.flagKeys.map (c.call true 0 · ann)).flatMap (·.exposures) ∧
      ∃ before row after, c.snapshot = before ++ row :: after ∧
        (∃ e, (Decision.evaluate (.flag row.2) ann row.1.toValue).outcome = .error e) ∧
        survey.selections = ((c.withFlags (before ++ after)).survey true 0 ann).selections := by
  intro c ann survey
  obtain ⟨-, hexposures, hleft⟩ := survey_agrees_with_calls .system MemoryClient.settings
    .recording [.event (.refreshWith twoFlags)] ann true 0
  obtain ⟨first, second, hsnapshot, e, he⟩ : ∃ first second, c.snapshot = [first, second] ∧
      ∃ e, (Decision.evaluate (.flag second.2) ann second.1.toValue).outcome = .error e :=
    ⟨_, _, rfl, _, rfl⟩
  exact ⟨by decide +kernel, by decide +kernel, hexposures, [first], second, [], hsnapshot, ⟨e, he⟩,
    (hleft [first] second [] hsnapshot (.inr ⟨e, he⟩)).1⟩

end StagedRollout.PollingClient
