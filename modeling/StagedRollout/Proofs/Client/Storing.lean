/-
What a client in memory holds is what was written to it last. A document that is accepted sets all flags,
and a flag that is stored sets the one under its key; so under every key is the flag that was stored last
since a document was accepted, or else that document's. A document that is refused changes nothing.
-/
import StagedRollout.Proofs.Client.Asking
import StagedRollout.Proofs.Value.Overlay
import Mathlib.Data.List.DropRight

namespace StagedRollout.MemoryClient

/-! ## Histories -/

namespace Action

/-- The flags of the document that an action brings, if it is accepted. -/
def document? : Action → Option (Table Flag)
  | .setDefinitions payload => (Document.read payload).outcome.toOption
  | _ => none

/-- The row that an action stores. Only a flag with a key can be stored. -/
def stored? : Action → Option (Key × Flag)
  | .setFlag flag => flag.key.toKey?.map fun key => (key, flag)
  | _ => none

end Action

/-- The flags of the document that was accepted last. -/
def lastDocument? (history : List Action) : Option (Table Flag) :=
  (history.filterMap (·.document?)).getLast?

/-- What was done after a document was accepted last. -/
def sinceDocument (history : List Action) : List Action :=
  history.rtakeWhile fun a => a.document?.isNone

/-- The flag that was stored last under a key. -/
def lastStored? (history : List Action) (key : Key) : Option Flag :=
  Table.find? (history.filterMap (·.stored?)).reverse key

theorem lastDocument?_snoc (history : List Action) (a : Action) :
    lastDocument? (history ++ [a]) = a.document?.or (lastDocument? history) := by
  unfold lastDocument?
  rw [List.filterMap_append, List.getLast?_append]
  cases h : a.document? <;> simp [h]

theorem sinceDocument_of_none (history : List Action) {a : Action} (h : a.document? = none) :
    sinceDocument (history ++ [a]) = sinceDocument history ++ [a] := by
  unfold sinceDocument
  rw [List.rtakeWhile_concat_pos _ _ _ (by rw [h]; rfl)]

theorem sinceDocument_of_some (history : List Action) {a : Action} {flags : Table Flag}
    (h : a.document? = some flags) : sinceDocument (history ++ [a]) = [] := by
  unfold sinceDocument
  exact List.rtakeWhile_concat_neg _ _ _ (by rw [h]; exact Bool.false_ne_true)

/-! ## One action -/

/-- An action sets all flags, or one, or none. -/
theorem perform_flags (c : MemoryClient) (a : Action) :
    (c.perform a).1.flags =
      a.document?.getD (a.stored?.elim c.flags fun row => Table.put c.flags row.1 row.2) := by
  cases a with
  | setFlag flag =>
    show (c.store (c.setFlag flag)).1.flags = (flag.key.toKey?.map fun key => (key, flag)).elim
      c.flags fun row => Table.put c.flags row.1 row.2
    unfold setFlag
    cases flag.key.toKey? <;> rfl
  | setDefinitions payload =>
    show (c.store (ofDocument payload).outcome).1.flags =
      (Document.read payload).outcome.toOption.getD c.flags
    rw [ofDocument_outcome]
    cases (Document.read payload).outcome <;> rfl
  | getFlag key => rfl
  | ask flagKey context wish => rfl

/-- A document that is refused leaves the client as it is. -/
theorem perform_refused (c : MemoryClient) {payload : Value} {e : Fault}
    (h : (Document.read payload).outcome = .error e) :
    c.perform (.setDefinitions payload) = (c, .done (.error e)) := by
  show c.store (ofDocument payload).outcome = _
  rw [ofDocument_outcome, h]
  rfl

/-! ## Sessions -/

/-- The flags after a session: those of the last document, and over them what was stored since. -/
theorem flags_eq (history : List Action) :
    (lastOf perform empty history).flags =
      ((sinceDocument history).filterMap (·.stored?)).foldl
        (fun t row => Table.put t row.1 row.2) ((lastDocument? history).getD []) := by
  -- from the end: the last action meets the client that all before it left
  induction history using List.reverseRecOn with
  | nil => rfl
  | append_singleton history a ih =>
    rw [lastOf_snoc, perform_flags, ih, lastDocument?_snoc]
    cases hd : a.document? with
    | some flags =>
      rw [sinceDocument_of_some history hd]
      rfl
    | none =>
      rw [sinceDocument_of_none history hd, List.filterMap_append, List.foldl_append, Option.none_or,
        Option.getD_none]
      cases hs : a.stored? with
      | none => rw [List.filterMap_cons_none hs]; rfl
      | some row => rw [List.filterMap_cons_some hs]; rfl

/-- The flag that is found after a session: the last one that was stored under the key since the last
document, or that document's. -/
theorem find?_flags (history : List Action) (key : Key) :
    Table.find? (lastOf perform empty history).flags key =
      (lastStored? (sinceDocument history) key).or
        ((lastDocument? history).bind fun flags => Table.find? flags key) := by
  rw [flags_eq, Table.find?_foldl_put]
  cases lastDocument? history <;> rfl

/-- After any session, whatever was accepted in it, a look-up under a key finds the flag that was stored
last under it since the last document that was accepted, else that document's flag, else none. A document
that is refused is a fault and leaves the client as it is. And a call with a key that is not empty is the
evaluation of the flag that is found under it, with the fallback where nothing is selected. -/
theorem flags_are_last_written (history : List Action) :
    let c := lastOf perform empty history
    (∀ key k, key.toKey? = some k → c.flag? key = .ok ((lastStored? (sinceDocument history) k).or
      ((lastDocument? history).bind fun flags => Table.find? flags k))) ∧
    (∀ payload e, (Document.read payload).outcome = .error e →
      c.perform (.setDefinitions payload) = (c, .done (.error e)) ∧
      ∀ key, (c.perform (.setDefinitions payload)).1.flag? key = c.flag? key) ∧
    ∀ key : Text, key ≠ "" → ∃ found, c.flag? (.text key) = .ok found ∧ ∀ context,
      let result := Decision.evaluate (.ofFlag? found) context (.text key)
      c.call (.text key) context = Call.ofReported result ∧ ∀ fallback,
        (c.call (.text key) context).selection fallback =
          result.outcome.map fun choice => choice.getD fallback := by
  intro c
  refine ⟨fun key k hk => ?_, fun payload e he => ?_, fun key hk => ?_⟩
  · rw [← find?_flags]
    unfold flag?
    rw [hk]
  · have hc := c.perform_refused he
    exact ⟨hc, fun key => by rw [hc]⟩
  · refine ⟨Table.find? c.flags (.text key), rfl, fun context => ?_⟩
    intro result
    have hcall : c.call (.text key) context = Call.ofReported result := c.call_text hk context
    refine ⟨hcall, fun fallback => ?_⟩
    rw [hcall]
    exact (Call.follows_chosen _).selection fallback

/-- A flag that was stored after a document stays when the next document is refused. -/
theorem flags_are_last_written_past_refusal :
    let document : Value := .object [(.text "flags", .list [.object [(.text "key", .text "x")]])]
    let flag : Flag := ⟨.text "x", RuleSet.empty, .null, .text "stored", .null, .null, .null, none, .null⟩
    let history : List Action := [.setDefinitions document, .setFlag flag, .setDefinitions (.list [])]
    let c := lastOf perform empty history
    c.flag? (.text "x") = .ok (some flag) ∧
      (∃ e, c.perform (.setDefinitions (.list [])) = (c, .done (.error e))) ∧
      ∃ found, c.flag? (.text "x") = .ok found ∧
        c.call (.text "x") ⟨.text "ann", none⟩ =
          Call.ofReported (Decision.evaluate (.ofFlag? found) ⟨.text "ann", none⟩ (.text "x")) := by
  intro document flag history c
  obtain ⟨hflag, hrefused, hcall⟩ := flags_are_last_written history
  obtain ⟨e, he⟩ : ∃ e, (Document.read (.list [])).outcome = .error e := ⟨_, rfl⟩
  obtain ⟨found, hfound, hcall⟩ := hcall "x" (by decide)
  exact ⟨hflag (.text "x") (.text "x") rfl, ⟨e, (hrefused (.list []) e he).1⟩, found, hfound,
    (hcall _).1⟩

end StagedRollout.MemoryClient
