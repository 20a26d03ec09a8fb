/-
How safe the evaluation of accepted flags is. A share and a double have a value in single precision, so
that every split that an accepted document can hold does; rules fail to no one but themselves. What is
left to fail is the text by which a user is put into a bucket: there may be no properties to find it in,
a whole number may have too many digits to be written, and half a character has no bytes to be hashed.
-/
import StagedRollout.Proofs.Client.Selecting
import StagedRollout.Proofs.Decision.Provenance
import StagedRollout.Proofs.Number.Single

namespace StagedRollout

/-! ## Shares -/

/-- A share is stored in single precision, whatever kind of number it is. -/
theorem Ratio.toSingle_returns (r : Ratio) : Returns r.value.toSingle := by
  obtain ⟨v, hv⟩ := r
  cases v with
  | bool b => exact returns_ok _
  | float x => exact returns_ok _
  | int n =>
    -- a whole number that is a share is zero or one, far from the largest double
    have hn : n = 0 ∨ n = 1 := by
      have hr : (Double.finite 0).le (.finite n) && (Double.finite n).le (.finite 1) := hv
      rw [Double.le_of_value rfl rfl, Double.le_of_value rfl rfl, Bool.and_eq_true,
        decide_eq_true_eq, decide_eq_true_eq] at hr
      have h0 : 0 ≤ n := by exact_mod_cast hr.1
      have h1 : n ≤ 1 := by exact_mod_cast hr.2
      omega
    rcases hn with rfl | rfl
    · exact ⟨_, by rfl⟩
    · exact ⟨_, by rfl⟩
  | null => cases hv
  | text s => cases hv
  | list items => cases hv
  | object members => cases hv

/-! ## Long numbers -/

theorem Value.not_isWritable_of_le {n : Nat} (h : Nat.pow 10 digitLimit ≤ n) :
    (Value.int n).isWritable = false := by
  rw [isWritable, isShort, decide_eq_false_iff_not, Int.natAbs_natCast]
  exact Nat.not_lt.2 h

namespace Decision

/-! ## Choosing by splits -/

variable {α : Type}

theorem walk_returns {entries : List (α × Value)} (h : ∀ e ∈ entries, Returns e.2.toSingle)
    (position total : Double) (last : Option α) : Returns (walk position total last entries) := by
  induction entries generalizing total last with
  | nil => exact returns_ok last
  | cons first rest ih =>
    obtain ⟨item, split⟩ := first
    unfold walk
    refine returns_bind (h _ List.mem_cons_self) fun share _ => ?_
    split
    · exact returns_ok _
    · exact ih (fun e he => h e (List.mem_cons_of_mem _ he)) _ _

theorem select_returns {entries : List (α × Value)} (h : ∀ e ∈ entries, Returns e.2.toSingle)
    (x : Double) : Returns (select entries (.float x)) := by
  unfold select
  exact returns_bind (returns_ok _) fun position _ => walk_returns h position _ _

theorem resolve_returns (ruleset : RuleSet) {rollout : Rollout} (h : rollout.Typed)
    (bucketing : String) : Returns (resolve ruleset rollout bucketing) := by
  unfold resolve
  cases rollout.override with
  | some key => exact returns_ok _
  | none =>
    have hv : Returns (select (variantEntries ruleset) (.float (Hash.variantPosition bucketing))) := by
      refine select_returns (fun e he => ?_) _
      obtain ⟨v, -, rfl⟩ := List.mem_map.1 he
      exact v.split.toSingle_returns
    cases hs : rollout.splits with
    | none => exact hv
    | some members =>
      cases members with
      | nil => exact hv
      | cons m rest =>
        refine returns_bind (select_returns (fun e he => ?_) _) fun _ _ => returns_ok _
        obtain ⟨row, hr, rfl⟩ := List.mem_map.1 he
        -- such a split need not be a share, but a double always has a value in single precision
        obtain ⟨-, x, hx⟩ := h.splits _ hs row hr
        show Returns row.2.toSingle
        rw [hx]
        exact returns_ok _

/-- The stages of an accepted rule set always come to an arm or to none. -/
theorem firstVariant_returns {ruleset : RuleSet} (h : ruleset.Typed) (context : Context)
    (bucketing : String) :
    Returns (firstVariant ruleset context bucketing ruleset.rollouts) := by
  unfold firstVariant
  split
  · rename_i rollout hf
    exact resolve_returns ruleset (h.rollouts rollout (List.mem_of_find?_eq_some hf)) bucketing
  · exact returns_ok none

/-! ## The text of a bucket -/

theorem identityText_eq_error {identity : Value} {f : Fault} :
    identityText identity = .error f ↔
      identity.isWritable = false ∧ f = .breach .tooManyDigits := by
  cases identity with
  | bool b => simp [identityText, Value.isWritable]
  | _ =>
    unfold identityText
    dsimp only
    split
    · rename_i hw
      simp [hw]
    · rename_i hw
      simp [hw, eq_comm]

theorem characters_eq_error {s : Text} {f : Fault} :
    Hash.characters s = .error f ↔ s.string? = none ∧ f = .unencodable := by
  unfold Hash.characters
  cases s.string? <;> simp [eq_comm]

theorem bucketingText_eq_error {identity : Value} {key : Text} {f : Fault} :
    bucketingText identity (.text key) = .error f ↔
      (identity.isWritable = false ∧ f = .breach .tooManyDigits) ∨
      ∃ own, identityText identity = .ok own ∧ (own ++ key).string? = none ∧ f = .unencodable := by
  unfold bucketingText
  simp only [bind_error_iff, identityText_eq_error, characters_eq_error]

/-! ## What escapes -/

/-- The faults that the evaluation of a flag comes to for a user whom a text names. -/
inductive Escapes (flag : Flag) (context : Context) (key : Text) : Fault → Prop where
  /-- Users are put into buckets by a property, and there are no properties. -/
  | noProperties (hn : flag.context ≠ .text distinctIdName) (hp : context.properties = none) :
    Escapes flag context key .noMembers
  /-- No arm is fixed for the user, and what they are put into a bucket by has too many digits. -/
  | tooManyDigits {identity : Value} (hi : context.property flag.context = .ok identity)
    (hf : ∀ variant, ¬ IsFixed flag.ruleset context.distinctId variant)
    (hw : identity.isWritable = false) : Escapes flag context key (.breach .tooManyDigits)
  /-- No arm is fixed for the user, and half a character is in what they are put into a bucket by or in
  the key. -/
  | unencodable {identity : Value} {own : Text}
    (hi : context.property flag.context = .ok identity) (hn : identity ≠ .null)
    (hf : ∀ variant, ¬ IsFixed flag.ruleset context.distinctId variant)
    (ho : identityText identity = .ok own) (hh : (own ++ key).string? = none) :
    Escapes flag context key .unencodable

section Steps

variable {flag : Flag} {context : Context} {key : Text} {f : Fault}

theorem property_eq_error {name : Text} :
    context.property (.text name) = .error f ↔
      Value.text name ≠ .text distinctIdName ∧ context.properties = none ∧ f = .noMembers := by
  unfold Context.property
  split
  · rename_i h
    simp [Value.text_same.1 h]
  · rename_i h
    have hn : Value.text name ≠ .text distinctIdName := fun he => h (Value.text_same.2 he.symm)
    cases context.properties with
    | none => simp [hn, eq_comm]
    | some members => simp [Value.toKey?]

theorem testVariant_returns (ruleset : RuleSet) (user : Text) :
    Returns (testVariant ruleset (.text user)) := by
  unfold testVariant testKey
  split
  · exact returns_ok _
  · exact returns_ok _

theorem testVariant_eq_none {ruleset : RuleSet} {user : Text} :
    testVariant ruleset (.text user) = .ok none ↔
      ∀ variant, ¬ IsFixed ruleset (.text user) variant := by
  obtain ⟨tester, ht⟩ := testVariant_returns ruleset user
  simp only [← testVariant_eq_iff, ht]
  cases tester with
  | none => simp
  | some variant => simp

theorem approachFor_eq_error {ruleset : RuleSet} {user : Text} (hu : context.distinctId = .text user)
    {identity : Value} :
    approachFor ruleset context (.text key) identity = .error f ↔
      (∀ variant, ¬ IsFixed ruleset context.distinctId variant) ∧
        bucketingText identity (.text key) = .error f := by
  obtain ⟨tester, ht⟩ := testVariant_returns ruleset user
  rw [hu, ← testVariant_eq_none, ht]
  rw [← hu] at ht
  unfold approachFor
  rw [ht]
  cases tester with
  | some variant => simp [Bind.bind, Except.bind, pure, Except.pure]
  | none =>
    show (bucketingText identity (.text key) >>= _) = _ ↔ _
    rw [bind_error_iff]
    simp [pure, Except.pure]

/-- The approach of a flag for a user with a bucketing property is about the rule set; without one it
comes to no fault. -/
theorem approach_eq_error (hk : key ≠ "") :
    approach (.flag flag) context (.text key) = .error f ↔
      context.property flag.context = .error f ∨
      ∃ identity, context.property flag.context = .ok identity ∧ identity ≠ .null ∧
        approachFor flag.ruleset context (.text key) identity = .error f := by
  have ht : (Value.text key).isTruthy = true := decide_eq_true hk
  unfold approach
  rw [if_pos ht]
  refine bind_error_iff.trans (or_congr_right (exists_congr fun identity => and_congr_right' ?_))
  cases identity with
  | null => simp [pure, Except.pure]
  | _ => exact (and_iff_right nofun).symm

/-- A flag with the types of a document's is evaluated under any key for any user that a text names,
whatever their properties are, unless something escapes. -/
theorem evaluate_eq_error (h : flag.Typed) (hk : key ≠ "") {user : Text}
    (hu : context.distinctId = .text user) :
    (evaluate (.flag flag) context (.text key)).outcome = .error f ↔
      Escapes flag context key f := by
  have hselection : ∀ a : Approach,
      a.selection (.flag flag) context flag.ruleset.rollouts ≠ .error f := by
    intro a
    cases a with
    | stages bucketing =>
      obtain ⟨variant, hv⟩ := firstVariant_returns h.ruleset context bucketing
      show Except.map _ (firstVariant flag.ruleset context bucketing flag.ruleset.rollouts) ≠ _
      rw [hv]
      nofun
    | _ => nofun
  obtain ⟨name, hc⟩ := h.context
  have happroach : (evaluate (.flag flag) context (.text key)).outcome = .error f ↔
      approach (.flag flag) context (.text key) = .error f := by
    rw [evaluate_outcome, bind_error_iff]
    exact or_iff_left fun ⟨a, _, ha⟩ => hselection a ha
  rw [happroach, approach_eq_error hk]
  simp only [approachFor_eq_error hu, bucketingText_eq_error]
  constructor
  · rintro (hp | ⟨identity, hi, hn, hf, (⟨hw, rfl⟩ | ⟨own, ho, hh, rfl⟩)⟩)
    · rw [hc, property_eq_error, ← hc] at hp
      obtain ⟨hn, hp, rfl⟩ := hp
      exact .noProperties hn hp
    · exact .tooManyDigits hi hf hw
    · exact .unencodable hi hn hf ho hh
  · intro he
    cases he with
    | noProperties hn hp =>
      left
      rw [hc, property_eq_error, ← hc]
      exact ⟨hn, hp, rfl⟩
    | @tooManyDigits identity hi hf hw =>
      have hn : identity ≠ .null := by
        rintro rfl
        cases hw
      exact .inr ⟨identity, hi, hn, hf, .inl ⟨hw, rfl⟩⟩
    | unencodable hi hn hf ho hh => exact .inr ⟨_, hi, hn, hf, .inr ⟨_, ho, hh, rfl⟩⟩

end Steps

end Decision

/-! ## Documents -/

theorem Call.selection_eq_error {c : Call} {fallback : Selection} {f : Fault} :
    c.selection fallback = .error f ↔ c.chosen = .error f := by
  unfold selection
  cases c.chosen with
  | error e => simp [Bind.bind, Except.bind]
  | ok choice => simp [Bind.bind, Except.bind, pure, Except.pure]

/-- Every flag of an accepted document whose key is not empty can be evaluated under its key, for every
user that a text names, whatever their properties and the fallback are, unless one of three faults
escapes; and these reach the caller of a client in memory that took the document. Nesting is taken
without the recursion limit of an interpreter, which the text of a property of some thousand levels would
meet. -/
theorem Document.accepted_is_safe_up_to_bucketing {payload : Value} {flags : Table Flag}
    (h : (read payload).outcome = .ok flags) (user : Text) (properties : Option Members) :
    let context : Context := ⟨.text user, properties⟩
    (∀ row ∈ flags, ∀ key : Text, row.2.key = .text key → key ≠ "" → ∀ fallback f,
      (Call.ofReported (Decision.evaluate (.flag row.2) context (.text key))).selection fallback =
        .error f ↔ Decision.Escapes row.2 context key f) ∧
    ∃ client, (MemoryClient.ofDocument payload).outcome = .ok client ∧
      ∀ key : Text, key ≠ "" → ∀ fallback f,
        (client.call (.text key) context).selection fallback = .error f ↔
          ∃ flag, Table.find? flags (.text key) = some flag ∧
            Decision.Escapes flag context key f := by
  intro context
  refine ⟨fun row hr key _ hk fallback f => ?_, ⟨flags⟩, ?_, fun key hk fallback f => ?_⟩
  · rw [Call.selection_eq_error]
    exact Decision.evaluate_eq_error (read_typed h row hr).1 hk rfl
  · rw [MemoryClient.ofDocument_outcome, h]
    rfl
  · rw [Call.selection_eq_error, MemoryClient.call_chosen _ hk]
    show (Decision.evaluate (.ofFlag? (Table.find? flags (.text key))) _ _).outcome = _ ↔ _
    cases hf : Table.find? flags (.text key) with
    | none =>
      show (Decision.evaluate .unknown _ _).outcome = _ ↔ _
      rw [evaluate_of_unknown context hk]
      simp [pure, Reported.pure]
    | some flag =>
      obtain ⟨k, hm, -⟩ := Table.mem_of_find? hf
      show (Decision.evaluate (.flag flag) _ _).outcome = _ ↔ _
      rw [Decision.evaluate_eq_error (read_typed h _ hm).1 hk rfl]
      simp

/-- A document is accepted with a split that no number of single precision reaches, and its flag is
evaluated for a user with a plain name. -/
theorem Document.accepted_is_safe_up_to_bucketing_beyond_single :
    let rollout : Value := .object [(.text "rollout_percentage", .int 1),
      (.text "variant_splits", .object [(.text "on", .float (.finite (10 ^ 40)))])]
    let payload : Value := .object [(.text "flags", .list [.object [(.text "key", .text "f"),
      (.text "ruleset", .object [(.text "rollout", .list [rollout])])]])]
    ∃ flag, (read payload).outcome = .ok [(.text "f", flag)] ∧ ∀ fallback, ∃ s,
      (Call.ofReported (Decision.evaluate (.flag flag) ⟨.text "user", some []⟩
        (.text "f"))).selection fallback = .ok s := by
  intro rollout payload
  obtain ⟨flag, h, hkey, hcontext⟩ : ∃ flag, (read payload).outcome = .ok [(.text "f", flag)] ∧
      flag.key = .text "f" ∧ flag.context = .text distinctIdName := ⟨_, by rfl, rfl, rfl⟩
  refine ⟨flag, h, fun fallback => ?_⟩
  have hs := (accepted_is_safe_up_to_bucketing h "user" (some [])).1 (.text "f", flag)
    List.mem_cons_self "f" hkey (by decide) fallback
  have hi : Context.property ⟨.text "user", some []⟩ flag.context = .ok (.text "user") := by
    rw [hcontext]
    rfl
  cases hc : (Call.ofReported (Decision.evaluate (.flag flag) ⟨.text "user", some []⟩
      (.text "f"))).selection fallback with
  | ok s => exact ⟨s, rfl⟩
  | error f =>
    cases (hs f).1 hc with
    | noProperties _ hp => cases hp
    | tooManyDigits hi' _ hw =>
      cases hi.symm.trans hi'
      cases hw
    | unencodable hi' _ _ ho hh =>
      cases hi.symm.trans hi'
      cases ho
      cases hh

/-- Half a character as the name of a user is not hashed, and a number one digit too long is not
written, though the document is accepted. -/
theorem Document.accepted_is_unsafe_for_half_and_long_number :
    let payload : Value := .object [(.text "flags", .list [.object [(.text "key", .text "f")],
      .object [(.text "key", .text "g"), (.text "context", .text "size")]])]
    let half : Text := .broken "" ⟨0⟩ ""
    let long : Value := .int (Nat.pow 10 Value.digitLimit)
    ∃ f g, (read payload).outcome = .ok [(.text "f", f), (.text "g", g)] ∧ ∀ fallback,
      (Call.ofReported (Decision.evaluate (.flag f) ⟨.text half, some []⟩
        (.text "f"))).selection fallback = .error .unencodable ∧
      (Call.ofReported (Decision.evaluate (.flag g) ⟨.text "user", some [(.text "size", long)]⟩
        (.text "g"))).selection fallback = .error (.breach .tooManyDigits) := by
  intro payload half long
  obtain ⟨f, g, h, hf, hg⟩ : ∃ f g, (read payload).outcome = .ok [(.text "f", f), (.text "g", g)] ∧
      (f.context = .text distinctIdName ∧ f.ruleset = .empty) ∧
      g.context = .text "size" ∧ g.ruleset = .empty := ⟨_, _, by rfl, ⟨rfl, rfl⟩, rfl, rfl⟩
  have hfixed : ∀ user variant, ¬ Decision.IsFixed .empty user variant := by
    rintro user variant ⟨users, -, -, hu, -⟩
    cases hu
  have hlong : long.isWritable = false := Value.not_isWritable_of_le (Nat.le_refl _)
  have hft := (read_typed h (.text "f", f) (by simp)).1
  have hgt := (read_typed h (.text "g", g) (by simp)).1
  refine ⟨f, g, h, fun fallback => ?_⟩
  simp only [Call.selection_eq_error, Call.ofReported]
  rw [Decision.evaluate_eq_error hft (by decide) rfl, Decision.evaluate_eq_error hgt (by decide) rfl]
  constructor
  · have hi : Context.property ⟨.text half, some []⟩ f.context = .ok (.text half) := by
      rw [hf.1]
      rfl
    exact .unencodable hi nofun (hf.2 ▸ hfixed _) rfl rfl
  · have hi : Context.property ⟨.text "user", some [(.text "size", long)]⟩ g.context =
        .ok long := by
      rw [hg.1]
      rfl
    exact .tooManyDigits hi (hg.2 ▸ hfixed _) hlong

end StagedRollout
