/-
What a remote call makes of every outcome of its request. An answer selects exactly if it is no error
and its body is an object with an object of flags, in which an object for the flag names an arm; the
selection is then what that object tells. A body that goes deeper than the reader can is a fault that
reaches the caller. Every other answer and every failure of the transport leave the caller's fallback in
place. By which way the service is reached has no part in it.
-/
import StagedRollout.Proofs.Client.Selecting
import StagedRollout.Proofs.Json.Depth

namespace StagedRollout

/-! ## Fields of an entry -/

/-- A truth value that may be open: left out and null leave it open, any other value is true if it says
something. -/
inductive TruthOf : Option Value → Value → Prop where
  | absent : TruthOf none .null
  | null : TruthOf (some .null) .null
  | told {v : Value} (h : v ≠ .null) : TruthOf (some v) (.bool v.isTruthy)

theorem truthOf_iff {o : Option Value} {b : Value} :
    TruthOf o b ↔ b = Document.readOptionalBool (o.getD .null) := by
  constructor
  · rintro (_ | _ | h)
    · rfl
    · rfl
    · rename_i v
      cases v with
      | null => exact absurd rfl h
      | _ => rfl
  · rintro rfl
    cases o with
    | none => exact .absent
    | some v =>
      cases v with
      | null => exact .null
      | _ => exact .told nofun

/-- What says nothing spells no identifier. -/
theorem Identifier.ofText?_of_idle {v : Value} (h : v.isTruthy = false) :
    Identifier.ofText? v.asText = none := by
  cases v with
  | null => decide +kernel
  | bool b =>
    cases b with
    | false => decide +kernel
    | true => cases h
  | int n =>
    have hn : n = 0 := by simpa [Value.isTruthy] using h
    rw [hn]
    decide +kernel
  | float x =>
    have hx : x.value? = some 0 := by simpa [Value.isTruthy, Double.isZero] using h
    cases x with
    | nan => cases hx
    | infinity negative => cases hx
    | negZero => decide +kernel
    | finite q =>
      rw [Option.some.inj hx]
      decide +kernel
  | text s =>
    have hs : s = "" := by simpa [Value.isTruthy] using h
    rw [hs]
    decide +kernel
  | list items =>
    cases items with
    | nil => decide +kernel
    | cons item rest => cases h
  | object members =>
    cases members with
    | nil => decide +kernel
    | cons row rest => cases h

/-- A value is an identifier exactly if its text spells one; one that is left out is none. -/
theorem Document.readIdentifier_eq (o : Option Value) :
    (Document.readIdentifier (o.getD .null)).1 = o.bind fun v => Identifier.ofText? v.asText := by
  cases o with
  | none => rfl
  | some v =>
    rw [Option.getD_some, Option.bind_some]
    unfold Document.readIdentifier
    split
    · cases Identifier.ofText? v.asText <;> rfl
    · rename_i h
      rw [Identifier.ofText?_of_idle (eq_false_of_ne_true h)]

namespace RemoteClient

/-! ## Answers -/

/-- A selection is what an entry of the service tells. -/
structure SelectionOf (entry : Members) (s : Selection) : Prop where
  key : ∃ v, Table.find? entry (.text "variant_key") = some v ∧ v ≠ .null ∧ s.key = .text v.asText
  value : s.value = (Table.find? entry (.text "variant_value")).getD .null
  experiment : s.experimentId =
    (Table.find? entry (.text "experiment_id")).bind fun v => Identifier.ofText? v.asText
  isActive : TruthOf (Table.find? entry (.text "is_experiment_active")) s.isActive
  isTester : TruthOf (Table.find? entry (.text "is_qa_tester")) s.isTester

/-- An answer offers an arm of a flag by an entry: it is no error, its body is an object with an object
of flags, the entry is the object that this has for the flag, and the entry names an arm. -/
structure Offers (room : Nat) (key : Text) (answer : Http.Response) (entry : Members) : Prop where
  status : answer.status < 400
  body : ∃ members flags, Json.read room answer.body = .ok (.object members) ∧
    Table.find? members (.text "flags") = some (.object flags) ∧
    Table.find? flags (.text key) = some (.object entry)
  variant : ∃ v, Table.find? entry (.text "variant_key") = some v ∧ v ≠ .null

/-- An answer that is no error, with a body that goes deeper than there is room. -/
def IsTooDeep (room : Nat) (answer : Http.Response) : Prop :=
  answer.status < 400 ∧ Json.read room answer.body = .error .tooDeep

section Answers

variable {room : Nat} {key : Text} {answer : Http.Response} {entry : Members}

theorem isError_iff : answer.isError = true ↔ 400 ≤ answer.status :=
  decide_eq_true_iff

theorem members?_eq_some {v : Value} {members : Members} :
    v.members? = some members ↔ v = .object members := by
  cases v <;> simp [Value.members?]

/-- A member that is left out counts as null, which is no object. -/
theorem named_eq_object {members rows : Members} {name : String} :
    Exposure.named members name = .object rows ↔
      Table.find? members (.text name) = some (.object rows) := by
  unfold Exposure.named
  cases Table.find? members (.text name) <;> simp

theorem named_ne_null {members : Members} {name : String} :
    Exposure.named members name ≠ .null ↔
      ∃ v, Table.find? members (.text name) = some v ∧ v ≠ .null := by
  unfold Exposure.named
  cases Table.find? members (.text name) <;> simp

/-- Whether an entry names an arm. -/
def namesArm (entry : Members) : Bool :=
  match Exposure.named entry "variant_key" with
  | .null => false
  | _ => true

theorem namesArm_iff {entry : Members} :
    namesArm entry = true ↔ ∃ v, Table.find? entry (.text "variant_key") = some v ∧ v ≠ .null := by
  rw [← named_ne_null]
  unfold namesArm
  cases Exposure.named entry "variant_key" <;> simp

/-- The value of the body of an answer that is no error. -/
def body? (room : Nat) (answer : Http.Response) : Option Value :=
  if answer.isError then none else (Json.read room answer.body).toOption

/-- The entry by which an answer offers an arm of a flag. -/
def offer? (room : Nat) (key : Text) (answer : Http.Response) : Option Members := do
  let members ← (← body? room answer).members?
  let flags ← (Exposure.named members "flags").members?
  let entry ← (Table.find? flags (.text key)).bind Value.members?
  if namesArm entry then some entry else none

theorem body?_eq_some {v : Value} :
    body? room answer = some v ↔ answer.status < 400 ∧ Json.read room answer.body = .ok v := by
  unfold body?
  rw [Option.ite_none_left_eq_some, toOption_eq_some, isError_iff, Nat.not_le]

theorem offer?_eq_some : offer? room key answer = some entry ↔ Offers room key answer entry := by
  unfold offer?
  simp only [Option.bind_eq_bind, Option.bind_eq_some_iff, body?_eq_some, members?_eq_some,
    named_eq_object, Option.ite_none_right_eq_some, Option.some.injEq, namesArm_iff]
  constructor
  · rintro ⟨_, ⟨hs, hbody⟩, members, rfl, flags, hflags, found, ⟨_, hentry, rfl⟩, hv, rfl⟩
    exact ⟨hs, ⟨members, flags, hbody, hflags, hentry⟩, hv⟩
  · rintro ⟨hs, ⟨members, flags, hbody, hflags, hentry⟩, hv⟩
    exact ⟨_, ⟨hs, hbody⟩, members, rfl, flags, hflags, entry, ⟨_, hentry, rfl⟩, hv, rfl⟩

theorem Offers.entry_eq {other : Members} (h : Offers room key answer entry)
    (ho : Offers room key answer other) : entry = other := by
  rw [← offer?_eq_some] at h ho
  exact Option.some.inj (h.symm.trans ho)

theorem readEntry_of_variant {v : Value}
    (h : Table.find? entry (.text "variant_key") = some v) (hv : v ≠ .null) :
    ∃ s, (readEntry entry).outcome = .ok (some s) ∧ SelectionOf entry s := by
  have hn : Exposure.named entry "variant_key" = v := congrArg (·.getD .null) h
  let s : Selection := ⟨Exposure.named entry "variant_value", .text v.asText,
    (Document.readIdentifier (Exposure.named entry "experiment_id")).1,
    Document.readOptionalBool (Exposure.named entry "is_experiment_active"),
    Document.readOptionalBool (Exposure.named entry "is_qa_tester")⟩
  refine ⟨s, ?_, ⟨v, h, hv, rfl⟩, rfl, Document.readIdentifier_eq _, truthOf_iff.2 rfl,
    truthOf_iff.2 rfl⟩
  unfold readEntry
  rw [hn]
  cases v with
  | null => exact absurd rfl hv
  | _ => rfl

theorem readEntry_of_none
    (h : ¬ ∃ v, Table.find? entry (.text "variant_key") = some v ∧ v ≠ .null) :
    (readEntry entry).outcome = .ok none := by
  rw [← named_ne_null, not_not] at h
  unfold readEntry
  rw [h]
  rfl

/-- A value that is read for a flag holds an entry for it, or nothing, or is refused. -/
theorem readValue_cases (key : Text) (v : Value) :
    (∃ members flags entry, v = .object members ∧
      Table.find? members (.text "flags") = some (.object flags) ∧
      Table.find? flags (.text key) = some (.object entry) ∧
      (readValue key v).outcome = (readEntry entry).outcome) ∨
    (readValue key v).outcome = .ok none ∨
    ∃ detail, (readValue key v).outcome = .error (.service .parse detail none) := by
  unfold readValue
  split
  · rename_i members
    split
    · rename_i entry h
      obtain ⟨flags, hflags, hentry⟩ := Option.bind_eq_some_iff.1 h
      rw [members?_eq_some, named_eq_object] at hflags
      exact .inl ⟨members, flags, entry, rfl, hflags, hentry, rfl⟩
    · exact .inr (.inr ⟨_, rfl⟩)
    · exact .inr (.inl rfl)
  · exact .inr (.inr ⟨_, rfl⟩)

theorem readValue_of_entry {members flags : Members}
    (hflags : Table.find? members (.text "flags") = some (.object flags))
    (hentry : Table.find? flags (.text key) = some (.object entry)) :
    (readValue key (.object members)).outcome = (readEntry entry).outcome := by
  have hobject : Exposure.named members "flags" = .object flags := named_eq_object.2 hflags
  unfold readValue
  dsimp only
  rw [hobject, members?_eq_some.2 rfl, Option.bind_some, hentry]

/-- What is read from an answer that is no error. -/
theorem readAnswer_of_body (hs : answer.status < 400) :
    (readAnswer room key answer).outcome =
      (Json.read room answer.body).mapError (Http.Response.wrap "flags response") >>= fun v =>
        (readValue key v).outcome := by
  have he : ¬ answer.isError = true := fun h => absurd (isError_iff.1 h) (Nat.not_le.2 hs)
  unfold readAnswer Http.Response.read
  rw [Reported.outcome_bind, Reported.outcome_ofExcept, if_neg he]

/-- An error is refused by its text. -/
theorem readAnswer_of_error (h : 400 ≤ answer.status) :
    (readAnswer room key answer).outcome =
      .error (answer.fault ("get_variant(" ++ key ++ ")")) := by
  unfold readAnswer Http.Response.read
  rw [Reported.outcome_bind, Reported.outcome_ofExcept, if_pos (isError_iff.2 h)]
  rfl

theorem wrap_isTolerated {subject : String} {f : Fault} (h : f ≠ .tooDeep) :
    isTolerated (Http.Response.wrap subject f) = true := by
  cases f with
  | tooDeep => exact absurd rfl h
  | _ => rfl

/-- What is offered is selected. -/
theorem readAnswer_of_offer (h : Offers room key answer entry) :
    ∃ s, (readAnswer room key answer).outcome = .ok (some s) ∧ SelectionOf entry s := by
  obtain ⟨members, flags, hbody, hflags, hentry⟩ := h.body
  obtain ⟨v, hv, hn⟩ := h.variant
  rw [readAnswer_of_body h.status, hbody]
  show ∃ s, (readValue key (.object members)).outcome = _ ∧ _
  rw [readValue_of_entry hflags hentry]
  exact readEntry_of_variant hv hn

/-- An answer that is no error, without an offer, selects nothing: it is refused with a fault that is
tolerated, unless it is too deep. -/
theorem readAnswer_of_no_offer (hs : answer.status < 400)
    (h : ∀ entry, ¬ Offers room key answer entry) :
    (readAnswer room key answer).outcome = .ok none ∨
      (∃ f, (readAnswer room key answer).outcome = .error f ∧ isTolerated f = true) ∨
      (readAnswer room key answer).outcome = .error .tooDeep ∧ IsTooDeep room answer := by
  rw [readAnswer_of_body hs]
  cases hv : Json.read room answer.body with
  | error f =>
    right
    by_cases hf : f = .tooDeep
    · rw [hf] at hv ⊢
      exact .inr ⟨rfl, hs, hv⟩
    · exact .inl ⟨_, rfl, wrap_isTolerated hf⟩
  | ok v =>
    show (readValue key v).outcome = _ ∨ (∃ f, (readValue key v).outcome = _ ∧ _) ∨
      (readValue key v).outcome = _ ∧ _
    rcases readValue_cases key v with
      ⟨members, flags, entry, rfl, hflags, hentry, hr⟩ | hr | ⟨detail, hr⟩
    · left
      rw [hr]
      exact readEntry_of_none fun hvariant => h entry ⟨hs, ⟨_, _, hv, hflags, hentry⟩, hvariant⟩
    · exact .inl hr
    · exact .inr (.inl ⟨_, hr, rfl⟩)

/-- An answer that is too deep offers nothing, and its fault is not tolerated. -/
theorem readAnswer_of_tooDeep (h : IsTooDeep room answer) :
    (readAnswer room key answer).outcome = .error .tooDeep := by
  rw [readAnswer_of_body h.1, h.2]
  rfl

theorem IsTooDeep.not_offers (h : IsTooDeep room answer) : ¬ Offers room key answer entry := by
  intro ho
  obtain ⟨members, flags, hbody, -⟩ := ho.body
  cases h.2.symm.trans hbody

/-- What is selected was offered. -/
theorem offers_of_selected {s : Selection}
    (h : (readAnswer room key answer).outcome = .ok (some s)) :
    ∃ entry, Offers room key answer entry := by
  by_contra hno
  by_cases hs : answer.status < 400
  · rcases readAnswer_of_no_offer hs (not_exists.1 hno) with hr | ⟨f, hr, -⟩ | ⟨hr, -⟩ <;>
    · rw [hr] at h
      cases h
  · rw [readAnswer_of_error (Nat.not_lt.1 hs)] at h
    cases h

end Answers

/-! ## Requests -/

section Calls

variable {c : RemoteClient} {library : Http.Library} {isReported : Bool} {period : Period}
  {key : Text} {context : Context}

/-- What a call selects is read from the outcome of its request. -/
theorem call_chosen (hk : key ≠ "") :
    (c.call library isReported period (.text key) context).chosen =
      lenient (c.outcome library key context >>= fun answer =>
        (readAnswer library.room key answer).outcome) := by
  obtain ⟨r, hr, hcall⟩ := call_of_key (Call.keyOf?_text hk)
  rw [hcall, (conclude_eq c _ _ _ _ _ _).1, hr]

/-- An event with the times of an evaluation. -/
def timed (period : Period) (e : Exposure) : Exposure := ⟨e.user, e.properties ++ timing period⟩

/-- The events of a conclusion depend on what is concluded from, and on the period only by their
times. -/
theorem conclude_exposures (c : RemoteClient) (isReported : Bool) (key : Text)
    (context : Context) (x : Except Fault (Option Selection)) :
    ∃ events : List Exposure, ∀ period requests (r : Reported (Option Selection)), r.outcome = x →
      (c.conclude isReported period key context requests r).exposures =
        events.map (timed period) := by
  cases x with
  | error f =>
    refine ⟨[], fun period requests r hr => ?_⟩
    unfold conclude
    rw [hr]
    dsimp only
    split <;> rfl
  | ok choice =>
    cases choice with
    | none =>
      refine ⟨[], fun period requests r hr => ?_⟩
      unfold conclude
      rw [hr]
      rfl
    | some s =>
      let event : Exposure := ⟨context.distinctId, Exposure.describe (.text key) s.key
        (.text evaluationMode) (Exposure.experiment s.experimentId) s.isActive s.isTester⟩
      refine ⟨if isReported && s.isSuccess && Exposure.isDue c.tracker context.distinctId
        then [event] else [], fun period requests r hr => ?_⟩
      unfold conclude
      rw [hr]
      show (Exposure.sendSelection _ _ _ _ _ _ _).1 = _
      unfold Exposure.sendSelection Exposure.send
      cases isReported && s.isSuccess with
      | false => rfl
      | true => cases Exposure.isDue c.tracker context.distinctId <;> rfl

/-- The events of a call depend on the outcome of its request, and on the period only by their
times. -/
theorem call_exposures (c : RemoteClient) (isReported : Bool) (hk : key ≠ "") (context : Context)
    (room : Nat) (x : Except Fault Http.Response) :
    ∃ events : List Exposure, ∀ (library : Http.Library) period, library.room = room →
      c.outcome library key context = x →
      (c.call library isReported period (.text key) context).exposures =
        events.map (timed period) := by
  obtain ⟨events, he⟩ := conclude_exposures c isReported key context
    (x >>= fun answer => (readAnswer room key answer).outcome)
  refine ⟨events, fun library period hroom hx => ?_⟩
  obtain ⟨r, hr, hcall⟩ := call_of_key (Call.keyOf?_text hk)
  rw [hcall]
  refine he period _ r ?_
  rw [hr, hx, hroom]

/-- A call that reaches the service in another way, with the same outcome, comes to the same. -/
theorem call_same_by_other_library (c : RemoteClient) (isReported : Bool) (hk : key ≠ "") (context : Context)
    {library library' : Http.Library} (period period' : Period)
    (hroom : library'.room = library.room)
    (hx : c.outcome library' key context = c.outcome library key context) :
    let call := c.call library isReported period (.text key) context
    let other := c.call library' isReported period' (.text key) context
    other.chosen = call.chosen ∧ ∃ events : List Exposure,
      call.exposures = events.map (timed period) ∧
        other.exposures = events.map (timed period') := by
  obtain ⟨events, he⟩ := call_exposures c isReported hk context library.room
    (c.outcome library key context)
  refine ⟨?_, events, he library period rfl rfl, he library' period' hroom hx⟩
  rw [call_chosen hk, call_chosen hk, hx, hroom]

end Calls

/-! ## Every outcome -/

/-- The outcomes that a caller is to be spared from: a failure of the transport, or an answer of any
status and body, whose text the library makes if it reports an error. -/
inductive IsUsual : Except Fault Http.Response → Prop where
  | failure (name : String) (text : Text) : IsUsual (.error (.transport name text))
  | answer (answer : Http.Response) (h : 400 ≤ answer.status → Returns answer.text) :
    IsUsual (.ok answer)

/-- A usual outcome selects what it offers, fails if it is too deep, and selects nothing otherwise. -/
theorem lenient_of_usual {room : Nat} {key : Text} {x : Except Fault Http.Response}
    (h : IsUsual x) :
    let result := lenient (x >>= fun answer => (readAnswer room key answer).outcome)
    (∃ answer entry s, x = .ok answer ∧ Offers room key answer entry ∧ SelectionOf entry s ∧
      result = .ok (some s)) ∨
    (∃ answer, x = .ok answer ∧ IsTooDeep room answer ∧ result = .error .tooDeep) ∨
    (∀ answer, x = .ok answer → (∀ entry, ¬ Offers room key answer entry) ∧
      ¬ IsTooDeep room answer) ∧ result = .ok none := by
  cases h with
  | failure name text => exact .inr (.inr ⟨nofun, rfl⟩)
  | answer answer ht =>
    show (∃ _ _ _, _ ∧ _ ∧ _ ∧ lenient (readAnswer room key answer).outcome = _) ∨
      (∃ _, _ ∧ _ ∧ lenient (readAnswer room key answer).outcome = _) ∨
      _ ∧ lenient (readAnswer room key answer).outcome = _
    by_cases hs : answer.status < 400
    · by_cases hd : IsTooDeep room answer
      · refine .inr (.inl ⟨answer, rfl, hd, ?_⟩)
        rw [readAnswer_of_tooDeep hd]
        rfl
      by_cases ho : ∃ entry, Offers room key answer entry
      · obtain ⟨entry, ho⟩ := ho
        obtain ⟨s, hr, hentry⟩ := readAnswer_of_offer ho
        refine .inl ⟨answer, entry, s, rfl, ho, hentry, ?_⟩
        rw [hr]
        rfl
      · have hno : ∀ entry, ¬ Offers room key answer entry := fun entry h => ho ⟨entry, h⟩
        refine .inr (.inr ⟨fun _ hx => Except.ok.inj hx ▸ ⟨hno, hd⟩, ?_⟩)
        rcases readAnswer_of_no_offer hs hno with hr | ⟨f, hr, hf⟩ | ⟨-, hdeep⟩
        · rw [hr]
          rfl
        · rw [hr, lenient_of_tolerated hf]
        · exact absurd hdeep hd
    · -- an error offers nothing, whatever its body is
      have he : 400 ≤ answer.status := Nat.not_lt.1 hs
      refine .inr (.inr ⟨fun _ hx => Except.ok.inj hx ▸ ⟨fun _ ho => hs ho.status,
        fun hd => hs hd.1⟩, ?_⟩)
      obtain ⟨text, htext⟩ := ht he
      rw [readAnswer_of_error he]
      unfold Http.Response.fault
      rw [htext]
      rfl

/-- For every usual outcome of its request, a remote call selects exactly if the outcome is an answer
that offers an arm of the flag, and then what the entry of that offer tells. It fails exactly if the
outcome is an answer that is too deep, with the fault that says so. In all other cases the caller gets
the fallback. A call that reaches the service in another way, with the same outcome, comes to the same
and gives the tracker the same events but for their times. -/
theorem call_selects_what_is_offered (c : RemoteClient) (library : Http.Library)
    (isReported : Bool) (period : Period) {key : Text} (hk : key ≠ "") (context : Context)
    (h : IsUsual (c.outcome library key context)) :
    let call := c.call library isReported period (.text key) context
    ((∃ s, call.chosen = .ok (some s)) ↔
      ∃ answer entry, c.outcome library key context = .ok answer ∧
        Offers library.room key answer entry) ∧
    (∀ s answer entry, call.chosen = .ok (some s) → c.outcome library key context = .ok answer →
      Offers library.room key answer entry → SelectionOf entry s) ∧
    (∀ f, call.chosen = .error f ↔ f = .tooDeep ∧
      ∃ answer, c.outcome library key context = .ok answer ∧ IsTooDeep library.room answer) ∧
    ((∀ answer, c.outcome library key context = .ok answer → ¬ IsTooDeep library.room answer) →
      ∃ choice, call.chosen = .ok choice ∧
        ∀ fallback, call.selection fallback = .ok (choice.getD fallback)) ∧
    ∀ (library' : Http.Library) period', library'.room = library.room →
      c.outcome library' key context = c.outcome library key context →
      let other := c.call library' isReported period' (.text key) context
      other.chosen = call.chosen ∧ ∃ events : List Exposure,
        call.exposures = events.map (timed period) ∧
          other.exposures = events.map (timed period') := by
  intro call
  have hchosen : call.chosen = _ := call_chosen hk
  have hother := fun library' period' =>
    @call_same_by_other_library key c isReported hk context library library' period period'
  rcases @lenient_of_usual library.room key _ h with
    ⟨answer, entry, s, hx, ho, hs, hr⟩ | ⟨answer, hx, hd, hr⟩ | ⟨hno, hr⟩
  · have hc : call.chosen = .ok (some s) := hchosen.trans hr
    rw [hc, hx]
    refine ⟨⟨fun _ => ⟨answer, entry, rfl, ho⟩, fun _ => ⟨s, rfl⟩⟩, ?_, fun f => ⟨nofun, ?_⟩,
      fun _ => ⟨_, rfl, Call.selection_of_chosen hc⟩, hc ▸ hx ▸ hother⟩
    · rintro t answer' entry' ⟨⟩ ⟨⟩ ho'
      rw [← ho.entry_eq ho']
      exact hs
    · rintro ⟨-, answer', ⟨⟩, hd⟩
      exact absurd ho hd.not_offers
  · have hc : call.chosen = .error .tooDeep := hchosen.trans hr
    rw [hc, hx]
    refine ⟨⟨nofun, ?_⟩, nofun, fun f => ⟨?_, ?_⟩, fun hno => absurd hd (hno answer rfl),
      hc ▸ hx ▸ hother⟩
    · rintro ⟨answer', entry, ⟨⟩, ho⟩
      exact absurd ho hd.not_offers
    · rintro ⟨⟩
      exact ⟨rfl, answer, rfl, hd⟩
    · rintro ⟨rfl, -⟩
      rfl
  · have hc : call.chosen = .ok none := hchosen.trans hr
    rw [hc]
    refine ⟨⟨nofun, ?_⟩, nofun, fun f => ⟨nofun, ?_⟩, fun _ => ⟨_, rfl, Call.selection_of_chosen hc⟩,
      hc ▸ hother⟩
    · rintro ⟨answer, entry, hx, ho⟩
      exact absurd ho ((hno answer hx).1 entry)
    · rintro ⟨-, answer, hx, hd⟩
      exact absurd hd (hno answer hx).2

/-- A client with settings of which only a token is given. -/
def plainClient : RemoteClient :=
  ⟨⟨"test-token", Settings.defaultHost, Settings.defaultTimeout, none⟩, .recording⟩

/-- A context without properties of its own. -/
def plainContext : Context := ⟨.text "user-1", some []⟩

/-- A library that brings one answer. -/
def bringing (room : Nat) (answer : Http.Response) : Http.Library where
  connect _ := .ok ()
  get _ := .ok answer
  room := room
  contextRoom := 10

theorem request_plain {library : Http.Library}
    (hc : library.connect (Http.Access.ofSettings plainClient.settings) = .ok ())
    (hroom : library.contextRoom = 10) :
    Returns (plainClient.request library "f" plainContext) := by
  obtain ⟨parameters, hp⟩ : Returns (params library.contextRoom "f" plainContext) :=
    returns_of_isOk (by rw [hroom]; decide +kernel)
  unfold request
  rw [hc, hp]
  exact returns_ok _

theorem outcome_plain (room : Nat) (answer : Http.Response) :
    plainClient.outcome (bringing room answer) "f" plainContext = .ok answer := by
  obtain ⟨r, hr⟩ := @request_plain (bringing room answer) rfl rfl
  unfold outcome
  rw [hr]
  rfl

/-- An answer with an arm that is named by a number, of an experiment that is no identifier. -/
def numberedArm : Http.Response :=
  let entry : Value := .object [(.text "variant_key", .int 7), (.text "experiment_id", .text "seven")]
  let body : Value := .object [(.text "flags", .object [(.text "f", entry)])]
  ⟨200, Hash.textBytes (Json.text body), .ok ""⟩

theorem call_selects_what_is_offered_with_number_as_arm :
    let call := plainClient.call (bringing 10 numberedArm) true ⟨"", ""⟩ (.text "f") plainContext
    ∃ s, call.chosen = .ok (some s) ∧ s.key = .text "7" ∧ s.experimentId = none := by
  intro call
  have hx := outcome_plain 10 numberedArm
  have hu : IsUsual (plainClient.outcome (bringing 10 numberedArm) "f" plainContext) := by
    rw [hx]
    exact .answer numberedArm fun _ => returns_ok _
  -- the entry is known by its fields, which are evaluated
  have hkey : ((offer? 10 "f" numberedArm).bind fun entry =>
      Table.find? entry (.text "variant_key")).map Value.asText = some "7" := by decide +kernel
  have hexperiment : ((offer? 10 "f" numberedArm).bind fun entry =>
      (Table.find? entry (.text "experiment_id")).bind fun v => Identifier.ofText? v.asText) =
        none := by decide +kernel
  obtain ⟨v, hv, hseven⟩ := Option.map_eq_some_iff.1 hkey
  obtain ⟨entry, hentry, hv⟩ := Option.bind_eq_some_iff.1 hv
  rw [hentry] at hexperiment
  have ho : Offers 10 "f" numberedArm entry := offer?_eq_some.1 hentry
  obtain ⟨hiff, hs, -⟩ := call_selects_what_is_offered plainClient (bringing 10 numberedArm) true
    ⟨"", ""⟩ (by decide : ("f" : Text) ≠ "") plainContext hu
  obtain ⟨s, hc⟩ := hiff.2 ⟨numberedArm, entry, hx, ho⟩
  have hso := hs s numberedArm entry hc hx ho
  obtain ⟨w, hw, -, hk⟩ := hso.key
  rw [hv] at hw
  cases hw
  exact ⟨s, hc, by rw [hk, hseven], hso.experiment.trans hexperiment⟩

/-- No room is enough for every answer: a caller fails on a body of more opening brackets. -/
theorem selection_of_brackets {room n : Nat} (h : room < n + 4) (fallback : Selection) :
    (plainClient.call (bringing room ⟨200, List.replicate (n + 4) 0x5b, .ok ""⟩) true ⟨"", ""⟩
      (.text "f") plainContext).selection fallback = .error .tooDeep := by
  have hd : IsTooDeep room ⟨200, List.replicate (n + 4) 0x5b, .ok ""⟩ :=
    ⟨(by decide : 200 < 400), Json.read_brackets h⟩
  refine (Call.answers_of_error ?_).1 fallback
  rw [call_chosen (by decide), outcome_plain]
  show lenient (readAnswer room "f" _).outcome = _
  rw [readAnswer_of_tooDeep hd]
  rfl

/-- With room for a thousand lists inside one another, three thousand opening brackets in an answer that
is no error reach the caller. -/
theorem call_is_not_spared_of_brackets :
    let answer : Http.Response := ⟨200, List.replicate 3000 0x5b, .ok ""⟩
    ∀ fallback, (plainClient.call (bringing 1000 answer) true ⟨"", ""⟩ (.text "f")
      plainContext).selection fallback = .error .tooDeep :=
  selection_of_brackets (by decide : 1000 < 2996 + 4)

end RemoteClient

end StagedRollout
