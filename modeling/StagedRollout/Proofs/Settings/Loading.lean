/-
What loading settings comes to, whatever the files hold and whatever the format makes of them. Either
the check finds settings, or the load is refused as an error of the settings, or one of three faults
escapes: bytes that are no text, a fault of the reader that is none of the format's own, or mappings
that lie in one another too deep to be merged, such as one that holds itself.
-/
import StagedRollout.Outer.Settings
import StagedRollout.Proofs.Outcome
import StagedRollout.Proofs.Settings.Merging

namespace StagedRollout.Settings

variable {α κ : Type} {format : Format α κ}

/-! ## Refusals -/

/-- A fault of the settings. -/
def IsRefusal (f : Fault) : Prop := ∃ detail cause, f = .service .config detail cause

theorem build_fails (placement : Placement) (data : α) :
    FailsOnly IsRefusal (build format placement data) := by
  intro f h
  unfold build at h
  cases hc : format.check placement data with
  | ok s => rw [hc] at h; cases h
  | error m => rw [hc] at h; cases h; exact ⟨_, _, rfl⟩

/-- Settings are what the check of their placement found. -/
theorem build_ok {placement : Placement} {data : α} {s : Settings}
    (h : build format placement data = .ok s) : format.check placement data = .ok s :=
  mapError_ok h

/-! ## Merging -/

/-- So many mappings lie in a mapping, each an entry of the one before. -/
inductive IsDeep (format : Format α κ) : Nat → α → Prop
  | here (data : α) : IsDeep format 0 data
  | entry {room : Nat} {data : α} {entry : κ × α} (he : entry ∈ format.entries data)
    (hm : format.isMapping entry.2 = true) (h : IsDeep format room entry.2) :
    IsDeep format (room + 1) data

theorem layEntry_fails {P : Fault → Prop} {lay : α → α → Except Fault α} {entry : κ × α}
    (h : format.isMapping entry.2 = true → ∀ held, FailsOnly P (lay held entry.2)) (below : α) :
    FailsOnly P (format.layEntry lay below entry) := by
  unfold Format.layEntry
  split
  · rename_i held _
    split
    · rename_i hm
      exact failsOnly_bind (h (Bool.and_eq_true_iff.1 hm).2 held) fun _ _ => failsOnly_ok _
    · exact failsOnly_ok _
  · exact failsOnly_ok _

/-- A merge fails only for want of room, and then the upper mapping is deeper than there is room. -/
theorem merge_fails (room : Nat) (below above : α) :
    FailsOnly (fun f => f = .tooDeep ∧ IsDeep format room above) (format.merge room below above) := by
  induction room generalizing below above with
  | zero => exact failsOnly_error ⟨rfl, .here above⟩
  | succ room ih =>
    refine failsOnly_foldlM (fun entry he => layEntry_fails fun hm held => ?_) below
    exact (ih held entry.2).mono fun f hf => ⟨hf.1, .entry he hm hf.2⟩

/-- A mapping that holds nothing but itself, over one that holds itself under the same key: no room is
enough to merge them. -/
theorem merge_of_ring {below above : α} {key : κ} (he : format.entries above = [(key, above)])
    (hf : format.find? below key = some below) (hb : format.isMapping below = true)
    (ha : format.isMapping above = true) (room : Nat) :
    format.merge room below above = .error .tooDeep := by
  induction room with
  | zero => rfl
  | succ room ih =>
    show (format.entries above).foldlM (format.layEntry (format.merge room)) below = _
    rw [he, List.foldlM_cons]
    show (format.layEntry (format.merge room) below (key, above) >>= _) = _
    unfold Format.layEntry
    dsimp only
    rw [hf]
    dsimp only
    rw [hb, ha, Bool.and_self, if_pos rfl, ih]
    rfl

section Values

variable {format : Format Value Key}

/-- A format of which the mappings are the objects, with their members. -/
structure HoldsMembers (format : Format Value Key) : Prop where
  isMapping : ∀ v, format.isMapping v = v.members?.isSome
  entries : ∀ members, format.entries (.object members) = members
  find? : ∀ members key, format.find? (.object members) key = Table.find? members key
  put : ∀ members key v, format.put (.object members) key v = .object (Table.put members key v)

theorem yaml_holdsMembers : HoldsMembers yaml :=
  ⟨fun _ => rfl, fun _ => rfl, fun _ _ => rfl, fun _ _ _ => rfl⟩

/-- An entry laid over members sets its key, where two objects under the key can be merged. -/
theorem layEntry_eq_put (hf : HoldsMembers format) {lay : Value → Value → Except Fault Value}
    {key : Key} {v : Value} (h : ∀ held above, v = .object above →
      lay (.object held) v = .ok (.object (mergeMembers held above))) (below : Members) :
    format.layEntry lay (.object below) (key, v) =
      .ok (.object (Table.put below key
        (overlay ((Table.find? below key).getD .null) v))) := by
  unfold Format.layEntry
  rw [hf.find?]
  dsimp only
  cases Table.find? below key with
  | none => rw [Option.getD_none, overlay_null, hf.put]
  | some w =>
    dsimp only
    rw [Option.getD_some, hf.isMapping, hf.isMapping]
    -- only two objects are merged; otherwise the value above stands
    rcases isLeaf_or_object v with hv | ⟨above, rfl⟩
    · rw [show v.members?.isSome = false by rw [hv]; rfl, Bool.and_false,
        if_neg Bool.false_ne_true, hf.put, overlay_leaf hv]
    · rcases isLeaf_or_object w with hw | ⟨held, rfl⟩
      · rw [show w.members?.isSome = false by rw [hw]; rfl, Bool.false_and,
          if_neg Bool.false_ne_true, hf.put, overlay_of_leaf hw]
      · show (lay _ _ >>= _) = _
        rw [h held above rfl]
        show Except.ok (format.put _ _ _) = _
        rw [hf.put, overlay]

/-- Where objects lie in one another no deeper than there is room, a merge is that of their members. -/
theorem merge_eq_mergeMembers (hf : HoldsMembers format) {room : Nat} {above : Members}
    (h : ¬ IsDeep format room (.object above)) (below : Members) :
    format.merge room (.object below) (.object above) = .ok (.object (mergeMembers below above)) := by
  induction room generalizing below above with
  | zero => exact absurd (.here _) h
  | succ room ih =>
    have hlay : ∀ entry ∈ above, ∀ held inner, entry.2 = .object inner →
        format.merge room (.object held) entry.2 = .ok (.object (mergeMembers held inner)) := by
      intro entry he held inner hv
      have hmem : entry ∈ format.entries (.object above) := by rw [hf.entries]; exact he
      have hm : format.isMapping entry.2 = true := by rw [hf.isMapping, hv]; rfl
      rw [hv]
      exact ih (fun hd => h (.entry hmem hm (hv.symm ▸ hd))) held
    show (format.entries _).foldlM (format.layEntry (format.merge room)) _ = _
    rw [hf.entries]
    clear h
    -- one entry after the other
    induction above generalizing below with
    | nil => rw [mergeMembers]; rfl
    | cons entry rest ihrest =>
      obtain ⟨key, v⟩ := entry
      rw [List.foldlM_cons, mergeMembers_cons,
        layEntry_eq_put hf (hlay (key, v) List.mem_cons_self) below]
      exact ihrest _ fun e he => hlay e (List.mem_cons_of_mem _ he)

end Values

/-! ## Files -/

/-- The faults of a file's content that are none of the settings: its bytes encode no text, or the reader
of the format stops with a fault that is not its own. -/
inductive ContentFault (format : Format α κ) (file : File) : Fault → Prop
  | encoding {content : List UInt8} (hc : file.content = .bytes content)
    (h : ¬ (ByteArray.mk content.toArray).IsValidUTF8) : ContentFault format file .undecodable
  | reader {content : List UInt8} {text : String} {f : Fault} (hc : file.content = .bytes content)
    (ht : decode content = .ok text) (h : format.read text = .error f)
    (hf : ∀ stage, f ≠ .yaml stage) : ContentFault format file f

theorem ContentFault.content_eq_bytes {file : File} {f : Fault} (h : ContentFault format file f) :
    ∃ content, file.content = .bytes content := by
  cases h with
  | encoding hc => exact ⟨_, hc⟩
  | reader hc => exact ⟨_, hc⟩

theorem decode_eq_error {content : List UInt8} {f : Fault} :
    decode content = .error f ↔
      ¬ (ByteArray.mk content.toArray).IsValidUTF8 ∧ f = .undecodable := by
  unfold decode String.fromUTF8?
  by_cases h : (ByteArray.mk content.toArray).IsValidUTF8
  · simp [h]
  · simp [h, eq_comm]

theorem wrapFormat_of_foreign {path : Text} {f : Fault} (h : ∀ stage, f ≠ .yaml stage) :
    wrapFormat path f = f := by
  unfold wrapFormat
  split
  · rename_i stage
    exact absurd rfl (h stage)
  · rfl

variable {file base : File} {environment : Option File} {f : Fault}

theorem readFile_of_contentFault (h : ContentFault format file f) :
    readFile format file = .error f := by
  unfold readFile fileText
  cases h with
  | encoding hc h =>
    rw [hc]
    dsimp only
    rw [decode_eq_error.2 ⟨h, rfl⟩]
    rfl
  | reader hc ht h hf =>
    rw [hc]
    dsimp only
    rw [ht]
    show (Except.mapError _ (format.read _) >>= _) = _
    rw [h]
    show Except.error (wrapFormat _ _) = _
    rw [wrapFormat_of_foreign hf]

theorem fileText_ok {text : String} (h : fileText file = .ok text) :
    ∃ content, file.content = .bytes content ∧ decode content = .ok text := by
  unfold fileText at h
  split at h
  · cases h
  · cases h
  · rename_i content hc
    exact ⟨content, hc, h⟩

theorem fileText_fails (format : Format α κ) (file : File) :
    FailsOnly (fun f => IsRefusal f ∨ ContentFault format file f) (fileText file) := by
  intro f h
  unfold fileText at h
  split at h
  · cases h
    exact .inl ⟨_, _, rfl⟩
  · cases h
    exact .inl ⟨_, _, rfl⟩
  · rename_i content hc
    obtain ⟨hno, rfl⟩ := decode_eq_error.1 h
    exact .inr (.encoding hc hno)

theorem readFile_fails (format : Format α κ) (file : File) :
    FailsOnly (fun f => IsRefusal f ∨ ContentFault format file f) (readFile format file) := by
  unfold readFile
  refine failsOnly_bind (fileText_fails format file) fun text ht => failsOnly_bind ?_ fun data _ => ?_
  · obtain ⟨content, hc, hd⟩ := fileText_ok ht
    intro f h
    cases hy : format.read text with
    | ok v =>
      rw [hy] at h
      cases h
    | error e =>
      rw [hy] at h
      cases h
      by_cases hstage : ∃ stage, e = .yaml stage
      · obtain ⟨stage, rfl⟩ := hstage
        exact .inl ⟨_, _, rfl⟩
      · rw [not_exists] at hstage
        rw [wrapFormat_of_foreign hstage]
        exact .inr (.reader hc hd hy hstage)
  · dsimp only
    generalize (if format.isTruthy data = true then data else format.empty) = held
    split
    · exact failsOnly_ok _
    · exact failsOnly_error (.inl ⟨_, _, rfl⟩)

/-! ## Loads -/

/-- The faults that escape a load: those of the content of the base file; if that is read, those of the
content of the file of the environment; and if that is read too, the want of room for a mapping of the
environment that is too deep. -/
inductive Escapes (format : Format α κ) (base : File) (environment : Option File) : Fault → Prop
  | base {f : Fault} (h : ContentFault format base f) : Escapes format base environment f
  | environment {below : α} {file : File} {f : Fault} (hb : readFile format base = .ok below)
    (he : environment = some file) (h : ContentFault format file f) :
    Escapes format base environment f
  | merging {below above : α} {file : File} (hb : readFile format base = .ok below)
    (he : environment = some file) (ha : readFile format file = .ok above)
    (hd : IsDeep format format.room above)
    (h : format.merge format.room below above = .error .tooDeep) :
    Escapes format base environment .tooDeep

theorem readFile_ok_content {data : α} (h : readFile format file = .ok data) :
    ∃ content, file.content = .bytes content := by
  obtain ⟨text, ht, -⟩ := bind_ok h
  obtain ⟨content, hc, -⟩ := fileText_ok ht
  exact ⟨content, hc⟩

/-- A file of the environment that is there is read and merged. -/
theorem readFiles_of_bytes {below : α} {content : List UInt8}
    (hb : readFile format base = .ok below) (hc : file.content = .bytes content) :
    readFiles format base (some file) =
      (readFile format file >>= fun above => format.merge format.room below above) := by
  unfold readFiles
  rw [hb]
  dsimp only [Bind.bind, Except.bind]
  rw [hc]

theorem readFiles_of_escapes (h : Escapes format base environment f) :
    readFiles format base environment = .error f := by
  cases h with
  | base h =>
    unfold readFiles
    rw [readFile_of_contentFault h]
    rfl
  | environment hb he h =>
    obtain ⟨content, hc⟩ := h.content_eq_bytes
    rw [he, readFiles_of_bytes hb hc, readFile_of_contentFault h]
    rfl
  | merging hb he ha _ h =>
    obtain ⟨content, hc⟩ := readFile_ok_content ha
    rw [he, readFiles_of_bytes hb hc, ha]
    exact h

theorem readFiles_fails (format : Format α κ) (base : File) (environment : Option File) :
    FailsOnly (fun f => IsRefusal f ∨ Escapes format base environment f)
      (readFiles format base environment) := by
  unfold readFiles
  refine failsOnly_bind ?_ fun below hb => ?_
  · exact (readFile_fails format base).mono fun f h => h.imp_right .base
  · split
    · exact failsOnly_ok _
    · rename_i file
      split
      · exact failsOnly_ok _
      · refine failsOnly_bind ?_ fun above ha => ?_
        · exact (readFile_fails format file).mono fun f h => h.imp_right (.environment hb rfl)
        · intro f h
          obtain ⟨rfl, hd⟩ := merge_fails format.room below above f h
          exact .inr (.merging hb rfl ha hd h)

theorem load_of_escapes (placement : Placement) (h : Escapes format base environment f) :
    load format placement base environment = .error f := by
  unfold load
  rw [readFiles_of_escapes h]
  rfl

/-- A load comes to settings that the check of the placement found, or to a fault of the settings, or to
a fault that escapes; and what can escape does, whatever placement is asked for. -/
theorem load_outcomes (format : Format α κ) (placement : Placement) (base : File)
    (environment : Option File) :
    ((∃ s held, load format placement base environment = .ok s ∧
        format.check placement held = .ok s) ∨
      (∃ detail cause,
        load format placement base environment = .error (.service .config detail cause)) ∨
      ∃ f, load format placement base environment = .error f ∧ Escapes format base environment f) ∧
    ∀ f, Escapes format base environment f → load format placement base environment = .error f := by
  refine ⟨?_, fun f hf => load_of_escapes placement hf⟩
  unfold load
  cases hr : readFiles format base environment with
  | error f =>
    rcases readFiles_fails format base environment f hr with ⟨detail, cause, rfl⟩ | hf
    · exact .inr (.inl ⟨detail, cause, rfl⟩)
    · exact .inr (.inr ⟨f, rfl, hf⟩)
  | ok data =>
    dsimp only [Bind.bind, Except.bind]
    split
    · cases hb : build format placement _ with
      | ok s => exact .inl ⟨s, _, rfl, build_ok hb⟩
      | error f =>
        obtain ⟨detail, cause, rfl⟩ := build_fails placement _ f hb
        exact .inr (.inl ⟨detail, cause, rfl⟩)
    · exact .inr (.inl ⟨_, _, rfl⟩)

/-! ## Each of the three does escape -/

/-- A format of which every text holds one mapping that holds itself. -/
def knot : Format Unit Unit where
  read _ := .ok ()
  isTruthy _ := true
  isMapping _ := true
  empty := ()
  entries _ := [((), ())]
  find? _ _ := some ()
  put _ _ _ := ()
  key _ := ()
  check _ _ := .error ⟨"", []⟩
  room := 970

/-- That format, with a reader that stops at every text with a fault of another kind. -/
def mute : Format Unit Unit :=
  { knot with read := fun _ => .error (.breach (.stated "month must be in 1..12")) }

/-- A byte that begins no character is the fault of its file in every format; the fault of a reader that
is none of the format's own passes; and a mapping that holds itself is not merged with itself. -/
theorem undecodable_file_escapes :
    (∀ (α κ : Type) (format : Format α κ) (placement : Placement) (environment : Option File),
      load format placement ⟨"base.yaml", .bytes [0xff]⟩ environment = .error .undecodable) ∧
    (∀ placement environment, load mute placement ⟨"base.yaml", .bytes []⟩ environment =
      .error (.breach (.stated "month must be in 1..12"))) ∧
    ∀ placement, load knot placement ⟨"base.yaml", .bytes []⟩ (some ⟨"prod.yaml", .bytes []⟩) =
      .error .tooDeep := by
  refine ⟨fun α κ format placement environment => ?_, fun placement environment => ?_,
    fun placement => ?_⟩
  · exact load_of_escapes placement (.base (.encoding rfl (by decide)))
  · exact load_of_escapes placement (.base (.reader rfl rfl rfl fun _ => nofun))
  · have hm : knot.merge knot.room () () = .error .tooDeep :=
      merge_of_ring rfl rfl rfl rfl knot.room
    exact load_of_escapes placement (.merging rfl rfl rfl (merge_fails _ _ _ _ hm).2 hm)

end StagedRollout.Settings
