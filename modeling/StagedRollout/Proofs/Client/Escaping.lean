/-
How a remote call can fail its caller. Faults of the transport and of the service are answered with
the fallback; whatever else goes wrong reaches the caller: any other fault of the library, on the way to
the service or when it makes the text of an error; a context that cannot be written; and an answer that
goes deeper than its reader. Nothing but these escapes.
-/
import StagedRollout.Proofs.Client.Answering

namespace StagedRollout.RemoteClient

/-! ## What escapes -/

/-- The faults that reach the caller. -/
inductive Escapes (c : RemoteClient) (library : Http.Library) (key : Text) (context : Context) :
    Fault → Prop where
  | connecting {f : Fault} (hf : library.connect (Http.Access.ofSettings c.settings) = .error f)
    (h : isTolerated f = false) : Escapes c library key context f
  /-- The context has no properties, so it makes no object. -/
  | noProperties (hc : library.connect (Http.Access.ofSettings c.settings) = .ok ())
    (h : context.properties = none) : Escapes c library key context .wrongKind
  /-- The context has a whole number of too many digits, or goes deeper than it can be written. -/
  | unwritable {object : Value} {f : Fault}
    (hc : library.connect (Http.Access.ofSettings c.settings) = .ok ())
    (ho : context.toObject = .ok object) (h : Json.flaw? library.contextRoom object = some f) :
    Escapes c library key context f
  | sending {r : Http.Request} {f : Fault} (hr : c.request library key context = .ok r)
    (hf : library.get r = .error f) (h : isTolerated f = false) : Escapes c library key context f
  /-- The answer is an error whose text cannot be made. -/
  | garbled {answer : Http.Response} {f : Fault}
    (ha : c.outcome library key context = .ok answer) (hs : 400 ≤ answer.status)
    (hf : answer.text = .error f) (h : isTolerated f = false) : Escapes c library key context f
  | tooDeep {answer : Http.Response} (ha : c.outcome library key context = .ok answer)
    (h : IsTooDeep library.room answer) : Escapes c library key context .tooDeep

section Steps

variable {c : RemoteClient} {library : Http.Library} {key : Text} {context : Context} {f : Fault}

theorem toObject_eq_error :
    context.toObject = .error f ↔ context.properties = none ∧ f = .wrongKind := by
  unfold Context.toObject
  cases context.properties <;> simp [eq_comm]

/-- Parameters are not made of a context that makes no object, or one that cannot be written. -/
theorem params_eq_error {room : Nat} :
    params room key context = .error f ↔
      (context.properties = none ∧ f = .wrongKind) ∨
      ∃ object, context.toObject = .ok object ∧ Json.flaw? room object = some f := by
  unfold params
  rw [bind_error_iff, toObject_eq_error]
  refine or_congr_right (exists_congr fun object => and_congr_right' ?_)
  rw [bind_error_iff, Json.write_eq_error]
  exact or_iff_left fun ⟨_, _, h⟩ => nomatch h

theorem params_faults (room : Nat) :
    FailsOnly (fun f => isTolerated f = false) (params room key context) := by
  intro f h
  rcases params_eq_error.1 h with ⟨-, rfl⟩ | ⟨object, -, hf⟩
  · rfl
  · rcases Json.flaw?_eq_some hf with ⟨rfl, -⟩ | ⟨rfl, -⟩ <;> rfl

theorem request_eq_error :
    c.request library key context = .error f ↔
      library.connect (Http.Access.ofSettings c.settings) = .error f ∨
      library.connect (Http.Access.ofSettings c.settings) = .ok () ∧
        params library.contextRoom key context = .error f := by
  unfold request
  rw [bind_error_iff]
  refine or_congr_right ⟨fun ⟨_, hc, h⟩ => ⟨hc, ?_⟩, fun ⟨hc, h⟩ => ⟨(), hc, ?_⟩⟩
  · exact (bind_error_iff.1 h).resolve_right fun ⟨_, _, h⟩ => nomatch h
  · exact bind_error_iff.2 (.inl h)

/-- Of the faults of reading an answer, those are not tolerated that the text of an error comes to, and
that of an answer which is too deep. -/
theorem readAnswer_eq_error {answer : Http.Response} {room : Nat} (hf : isTolerated f = false) :
    (readAnswer room key answer).outcome = .error f ↔
      400 ≤ answer.status ∧ answer.text = .error f ∨ IsTooDeep room answer ∧ f = .tooDeep := by
  by_cases hs : answer.status < 400
  · have he : ¬ 400 ≤ answer.status := Nat.not_le.2 hs
    constructor
    · intro h
      right
      by_cases ho : ∃ entry, Offers room key answer entry
      · obtain ⟨entry, ho⟩ := ho
        obtain ⟨s, hs, -⟩ := readAnswer_of_offer ho
        cases hs.symm.trans h
      · rcases readAnswer_of_no_offer hs (not_exists.1 ho) with hr | ⟨e, hr, he⟩ | ⟨hr, hd⟩
        · cases hr.symm.trans h
        · cases hr.symm.trans h
          cases he.symm.trans hf
        · cases hr.symm.trans h
          exact ⟨hd, rfl⟩
    · rintro (⟨h, -⟩ | ⟨hd, rfl⟩)
      · exact absurd h he
      · exact readAnswer_of_tooDeep hd
  · have he : 400 ≤ answer.status := Nat.not_lt.1 hs
    have hdeep : ¬ IsTooDeep room answer := fun hd => hs hd.1
    rw [readAnswer_of_error he, or_iff_left fun h => hdeep h.1, and_iff_right he]
    unfold Http.Response.fault
    cases answer.text with
    | ok text =>
      refine ⟨fun h => ?_, nofun⟩
      cases Except.error.inj h
      cases hf
    | error e => simp

/-- A call fails with just the faults that escape. -/
theorem call_eq_error {isReported : Bool} {period : Period} (hk : key ≠ "") :
    (c.call library isReported period (.text key) context).chosen = .error f ↔
      Escapes c library key context f := by
  rw [call_chosen hk, lenient_eq_error]
  constructor
  · rintro ⟨h, hf⟩
    rcases bind_error_iff.1 h with h | ⟨answer, ha, h⟩
    · rcases bind_error_iff.1 h with h | ⟨r, hr, h⟩
      · rcases request_eq_error.1 h with h | ⟨hc, h⟩
        · exact .connecting h hf
        · rcases params_eq_error.1 h with ⟨hp, rfl⟩ | ⟨object, ho, hw⟩
          · exact .noProperties hc hp
          · exact .unwritable hc ho hw
      · exact .sending hr h hf
    · rcases (readAnswer_eq_error hf).1 h with ⟨hs, ht⟩ | ⟨hd, rfl⟩
      · exact .garbled ha hs ht hf
      · exact .tooDeep ha hd
  · have hrequest : c.request library key context = .error f → isTolerated f = false →
        (c.outcome library key context >>= fun answer =>
          (readAnswer library.room key answer).outcome) = .error f ∧ isTolerated f = false :=
      fun h hf => ⟨bind_error_iff.2 (.inl (bind_error_iff.2 (.inl h))), hf⟩
    intro h
    cases h with
    | connecting h hf => exact hrequest (request_eq_error.2 (.inl h)) hf
    | noProperties hc hp =>
      exact hrequest (request_eq_error.2 (.inr ⟨hc, params_eq_error.2 (.inl ⟨hp, rfl⟩)⟩)) rfl
    | unwritable hc ho hw =>
      have hparams : params library.contextRoom key context = .error f :=
        params_eq_error.2 (.inr ⟨_, ho, hw⟩)
      exact hrequest (request_eq_error.2 (.inr ⟨hc, hparams⟩)) (params_faults _ f hparams)
    | sending hr he hf =>
      exact ⟨bind_error_iff.2 (.inl (bind_error_iff.2 (.inr ⟨_, hr, he⟩))), hf⟩
    | garbled ha hs ht hf =>
      exact ⟨bind_error_iff.2 (.inr ⟨_, ha, (readAnswer_eq_error hf).2 (.inl ⟨hs, ht⟩)⟩), hf⟩
    | tooDeep ha hd =>
      exact ⟨bind_error_iff.2 (.inr ⟨_, ha, (readAnswer_eq_error rfl).2 (.inr ⟨hd, rfl⟩)⟩), rfl⟩

end Steps

/-- A remote call fails its caller exactly with what escapes it, whichever question was asked. If nothing
escapes and the service offers no arm, the caller has the fallback, its value, and a flag that is
off. -/
theorem call_fails_with_what_escapes (c : RemoteClient) (library : Http.Library)
    (isReported : Bool) (period : Period) {key : Text} (hk : key ≠ "") (context : Context) :
    let call := c.call library isReported period (.text key) context
    (∀ f, (call.chosen = .error f ↔ Escapes c library key context f) ∧
      (Escapes c library key context f → (∀ fallback, call.selection fallback = .error f) ∧
        (∀ v, call.value v = .error f) ∧ call.isOn = .error f)) ∧
    ((∀ f, ¬ Escapes c library key context f) →
      (∀ answer entry, c.outcome library key context = .ok answer →
        ¬ Offers library.room key answer entry) →
      (∀ fallback, call.selection fallback = .ok fallback) ∧ (∀ v, call.value v = .ok v) ∧
        call.isOn = .ok false) := by
  intro call
  refine ⟨fun f => ⟨call_eq_error hk, fun h => Call.answers_of_error ((call_eq_error hk).2 h)⟩,
    fun hno ha => Call.answers_of_none ?_⟩
  have hc : call.chosen = lenient (c.outcome library key context >>= fun answer =>
    (readAnswer library.room key answer).outcome) := call_chosen hk
  cases hchosen : call.chosen with
  | error f => exact absurd ((call_eq_error hk).1 hchosen) (hno f)
  | ok choice =>
    cases choice with
    | none => rfl
    | some s =>
      rw [hchosen] at hc
      obtain ⟨answer, hx, hs⟩ := bind_ok (lenient_eq_some.1 hc.symm)
      obtain ⟨entry, ho⟩ := offers_of_selected hs
      exact absurd ho (ha answer entry hx)

/-- A library that refuses some accesses, and whose requests come to one outcome. -/
def meeting (refused : Http.Access → Bool) (outcome : Except Fault Http.Response) :
    Http.Library where
  connect access := if refused access then .error .invalidAddress else .ok ()
  get _ := outcome
  room := 10
  contextRoom := 10

theorem connect_meeting (refused : Http.Access → Bool) (outcome : Except Fault Http.Response)
    (access : Http.Access) : (meeting refused outcome).connect access =
      if refused access then .error .invalidAddress else .ok () := rfl

theorem call_fails_with_what_escapes_not_on_timeout :
    let call := plainClient.call (meeting (fun _ => false) (.error (.transport "ReadTimeout" "")))
      true ⟨"", ""⟩ (.text "f") plainContext
    (∀ fallback, call.selection fallback = .ok fallback) ∧ (∀ v, call.value v = .ok v) ∧
      call.isOn = .ok false := by
  let library := meeting (fun _ => false) (.error (.transport "ReadTimeout" ""))
  obtain ⟨r, hr⟩ := @request_plain library rfl rfl
  have hx : plainClient.outcome library "f" plainContext =
      .error (.transport "ReadTimeout" "") := by
    unfold outcome
    rw [hr]
    rfl
  refine (call_fails_with_what_escapes plainClient library true ⟨"", ""⟩
    (by decide : ("f" : Text) ≠ "") plainContext).2 (fun f h => ?_) fun answer entry ha => ?_
  · cases h with
    | connecting hf => cases hf
    | noProperties _ hp => cases hp
    | unwritable hc ho hw =>
      have hrequest : plainClient.request library "f" plainContext = .error f :=
        request_eq_error.2 (.inr ⟨hc, params_eq_error.2 (.inr ⟨_, ho, hw⟩)⟩)
      cases hr.symm.trans hrequest
    | sending _ he hf =>
      cases he
      cases hf
    | garbled ha => cases hx.symm.trans ha
    | tooDeep ha => cases hx.symm.trans ha
  · cases hx.symm.trans ha

/-- A client whose host has a port that is no number. -/
def misnamedClient : RemoteClient :=
  { plainClient with settings := { plainClient.settings with host := "localhost:port" } }

/-- A call fails on a fault of the system below the transport, with a host that the library takes for no
address, and on an error whose text the library cannot make. -/
theorem fallback_is_not_reached :
    let isMisnamed (access : Http.Access) : Bool := access.address = .plain "https://localhost:port"
    let garbled : Http.Response := ⟨500, [0x6e, 0x6f], .error .unmarked⟩
    let selection (c : RemoteClient) (outcome : Except Fault Http.Response)
        (fallback : Selection) :=
      (c.call (meeting isMisnamed outcome) true ⟨"", ""⟩ (.text "f") plainContext).selection
        fallback
    ∀ fallback,
      selection plainClient (.error (.foreign "OSError")) fallback = .error (.foreign "OSError") ∧
      (∀ outcome, selection misnamedClient outcome fallback = .error .invalidAddress) ∧
      selection plainClient (.ok garbled) fallback = .error .unmarked := by
  intro isMisnamed garbled selection fallback
  have hfails : ∀ (c : RemoteClient) outcome f,
      Escapes c (meeting isMisnamed outcome) "f" plainContext f →
      selection c outcome fallback = .error f := fun c outcome f h =>
    (Call.answers_of_error ((call_eq_error (by decide)).2 h)).1 fallback
  have hconnected : isMisnamed (Http.Access.ofSettings plainClient.settings) = false := by
    decide +kernel
  have hrequest : ∀ outcome,
      Returns (plainClient.request (meeting isMisnamed outcome) "f" plainContext) := by
    intro outcome
    refine request_plain ?_ rfl
    rw [connect_meeting, hconnected]
    rfl
  refine ⟨?_, fun outcome => ?_, ?_⟩
  · obtain ⟨r, hr⟩ := hrequest (.error (.foreign "OSError"))
    exact hfails _ _ _ (.sending hr rfl rfl)
  · have hrefused : isMisnamed (Http.Access.ofSettings misnamedClient.settings) = true := by
      decide +kernel
    refine hfails _ _ _ (.connecting ?_ rfl)
    rw [connect_meeting, hrefused]
    rfl
  · obtain ⟨r, hr⟩ := hrequest (.ok garbled)
    have ha : plainClient.outcome (meeting isMisnamed (.ok garbled)) "f" plainContext =
        .ok garbled := by
      unfold outcome
      rw [hr]
      rfl
    exact hfails _ _ _ (.garbled ha (by decide : 400 ≤ 500) rfl rfl)

end StagedRollout.RemoteClient
