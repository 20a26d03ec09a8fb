/-
Computations that come to a result or to a fault: what a result of a composed computation says about
its parts, when a composed computation is sure to come to a result, which faults it can come to, when
two computations come to results together, and the laws of results that come with notices.
-/
import StagedRollout.Notice
import Mathlib.Data.List.Perm.Basic

namespace StagedRollout

variable {α β γ ε δ : Type}

/-! ## Results of parts -/

theorem bind_ok {x : Except ε α} {f : α → Except ε β} {b : β} (h : x >>= f = .ok b) :
    ∃ a, x = .ok a ∧ f a = .ok b := by
  cases x with
  | error e => cases h
  | ok a => exact ⟨a, rfl, h⟩

theorem map_ok {x : Except ε α} {f : α → β} {b : β} (h : x.map f = .ok b) :
    ∃ a, x = .ok a ∧ f a = b := by
  cases x with
  | error e => cases h
  | ok a => exact ⟨a, rfl, Except.ok.inj h⟩

theorem mapError_ok {x : Except ε α} {f : ε → δ} {a : α} (h : x.mapError f = .ok a) :
    x = .ok a := by
  cases x with
  | error e => cases h
  | ok b => cases h; rfl

theorem toOption_eq_some {x : Except ε α} {a : α} : x.toOption = some a ↔ x = .ok a := by
  cases x <;> simp [Except.toOption]

theorem toOption_join_eq_some {x : Except ε (Option α)} {a : α} :
    x.toOption.join = some a ↔ x = .ok (some a) := by
  cases x with
  | error e => exact ⟨nofun, nofun⟩
  | ok choice => cases choice <;> simp [Except.toOption]

theorem mapM_ok_iff {f : α → Except ε β} {xs : List α} {ys : List β} :
    xs.mapM f = .ok ys ↔ List.Forall₂ (fun x y => f x = .ok y) xs ys := by
  constructor
  · intro h
    induction xs generalizing ys with
    | nil => cases h; exact .nil
    | cons x xs ih =>
      rw [List.mapM_cons] at h
      obtain ⟨y, hy, h⟩ := bind_ok h
      obtain ⟨rest, hr, h⟩ := bind_ok h
      cases h
      exact .cons hy (ih hr)
  · intro h
    induction h with
    | nil => rfl
    | cons hy _ ih =>
      rw [List.mapM_cons, hy]
      show (List.mapM f _ >>= _) = _
      rw [ih]
      rfl

/-- What follows of a result for any element holds of all the results for a list. -/
theorem mapM_ok {f : α → Except ε β} {P : β → Prop} (hf : ∀ a b, f a = .ok b → P b) {xs : List α}
    {ys : List β} (h : xs.mapM f = .ok ys) : ∀ y ∈ ys, P y := by
  have hall : List.Forall₂ (fun y x => P y ∧ f x = .ok y) ys xs :=
    ((mapM_ok_iff.1 h).imp fun x y hy => ⟨hf x y hy, hy⟩).flip
  exact ((List.forall₂_and_left ys xs).1 hall).1

/-! ## Sure results -/

/-- A computation that comes to a result. -/
def Returns (x : Except ε α) : Prop := ∃ a, x = .ok a

theorem returns_of_mapM {f : α → Except ε β} {xs : List α} {ys : List β} (h : xs.mapM f = .ok ys) :
    ∀ x ∈ xs, Returns (f x) := by
  have hall : List.Forall₂ (fun x y => Returns (f x) ∧ f x = .ok y) xs ys :=
    (mapM_ok_iff.1 h).imp fun x y hy => ⟨⟨y, hy⟩, hy⟩
  exact ((List.forall₂_and_left xs ys).1 hall).1

theorem returns_ok (a : α) : Returns (.ok a : Except ε α) := ⟨a, rfl⟩

theorem returns_of_isOk {x : Except ε α} (h : x.isOk = true) : Returns x := by
  cases x with
  | error e => cases h
  | ok a => exact ⟨a, rfl⟩

theorem returns_mapM {f : α → Except ε β} {xs : List α} (h : ∀ x ∈ xs, Returns (f x)) :
    Returns (xs.mapM f) := by
  induction xs with
  | nil => exact returns_ok []
  | cons x xs ih =>
    obtain ⟨y, hy⟩ := h x List.mem_cons_self
    obtain ⟨ys, hys⟩ := ih fun z hz => h z (List.mem_cons_of_mem x hz)
    exact ⟨y :: ys, mapM_ok_iff.2 (.cons hy (mapM_ok_iff.1 hys))⟩

/-- A computation returns if its first part does, and the rest does on whatever the first part
returns. -/
theorem returns_bind {x : Except ε α} {f : α → Except ε β} (hx : Returns x)
    (hf : ∀ a, x = .ok a → Returns (f a)) : Returns (x >>= f) := by
  obtain ⟨a, rfl⟩ := hx
  exact hf a rfl

theorem bind_congr_of_ok {x : Except ε α} {f g : α → Except ε β} (h : ∀ a, x = .ok a → f a = g a) :
    x >>= f = x >>= g := by
  cases x with
  | error e => rfl
  | ok a => exact h a rfl

/-! ## Possible faults -/

/-- A computation that comes to a result or to a fault of a kind. -/
def FailsOnly (P : ε → Prop) (x : Except ε α) : Prop := ∀ e, x = .error e → P e

variable {P Q : ε → Prop}

theorem bind_error_iff {x : Except ε α} {f : α → Except ε β} {e : ε} :
    x >>= f = .error e ↔ x = .error e ∨ ∃ a, x = .ok a ∧ f a = .error e := by
  cases x with
  | error e' => simp [Bind.bind, Except.bind]
  | ok a => simp [Bind.bind, Except.bind]

theorem failsOnly_ok (a : α) : FailsOnly P (.ok a : Except ε α) := fun _ h => by cases h

theorem failsOnly_error {e : ε} (h : P e) : FailsOnly P (.error e : Except ε α) := fun _ he => by
  cases he; exact h

theorem FailsOnly.mono {x : Except ε α} (hx : FailsOnly P x) (h : ∀ e, P e → Q e) :
    FailsOnly Q x := fun e he => h e (hx e he)

theorem failsOnly_bind {x : Except ε α} {f : α → Except ε β} (hx : FailsOnly P x)
    (hf : ∀ a, x = .ok a → FailsOnly P (f a)) : FailsOnly P (x >>= f) := by
  intro e h
  cases x with
  | error e' => cases h; exact hx _ rfl
  | ok a => exact hf a rfl e h

theorem failsOnly_mapM {f : α → Except ε β} {xs : List α} (h : ∀ x ∈ xs, FailsOnly P (f x)) :
    FailsOnly P (xs.mapM f) := by
  induction xs with
  | nil => exact failsOnly_ok []
  | cons x xs ih =>
    rw [List.mapM_cons]
    refine failsOnly_bind (h x List.mem_cons_self) fun y _ => ?_
    refine failsOnly_bind (ih fun z hz => h z (List.mem_cons_of_mem x hz)) fun ys _ => ?_
    exact failsOnly_ok _

theorem failsOnly_foldlM {f : β → α → Except ε β} {xs : List α}
    (h : ∀ x ∈ xs, ∀ b, FailsOnly P (f b x)) (b : β) : FailsOnly P (xs.foldlM f b) := by
  induction xs generalizing b with
  | nil => exact failsOnly_ok b
  | cons x xs ih =>
    rw [List.foldlM_cons]
    refine failsOnly_bind (h x List.mem_cons_self b) fun c _ => ?_
    exact ih (fun y hy => h y (List.mem_cons_of_mem x hy)) c

/-! ## Two computations -/

/-- Two computations that both come to a result, the one related to the other, or both to a fault. -/
inductive Alike (R : α → β → Prop) : Except ε α → Except ε β → Prop where
  | ok {a : α} {b : β} (h : R a b) : Alike R (.ok a) (.ok b)
  | error (e e' : ε) : Alike R (.error e) (.error e')

theorem Alike.refl (x : Except ε α) : Alike Eq x x := by
  cases x with
  | error e => exact .error e e
  | ok a => exact .ok rfl

theorem Alike.mono {R S : α → β → Prop} {x : Except ε α} {y : Except ε β} (h : Alike R x y)
    (hrs : ∀ a b, x = .ok a → R a b → S a b) : Alike S x y := by
  cases h with
  | ok h => exact .ok (hrs _ _ rfl h)
  | error e e' => exact .error e e'

theorem Alike.bind {R : α → β → Prop} {S : γ → δ → Prop} {x : Except ε α} {y : Except ε β}
    {f : α → Except ε γ} {g : β → Except ε δ} (h : Alike R x y)
    (hf : ∀ a b, x = .ok a → R a b → Alike S (f a) (g b)) : Alike S (x >>= f) (y >>= g) := by
  cases h with
  | ok h => exact hf _ _ rfl h
  | error e e' => exact .error e e'

/-- After a first part in common, only the rest matters. -/
theorem Alike.bind_right {S : γ → δ → Prop} (x : Except ε α) {f : α → Except ε γ}
    {g : α → Except ε δ} (h : ∀ a, Alike S (f a) (g a)) : Alike S (x >>= f) (x >>= g) :=
  (Alike.refl x).bind fun a _ _ hab => hab ▸ h a

theorem Alike.mapError {R : α → β → Prop} {x : Except ε α} {y : Except ε β} (h : Alike R x y)
    (f : ε → ε) : Alike R (x.mapError f) (y.mapError f) := by
  cases h with
  | ok h => exact .ok h
  | error e e' => exact .error _ _

/-- Alike up to equality means the same results. -/
theorem Alike.ok_iff {x y : Except ε α} (h : Alike Eq x y) (a : α) : x = .ok a ↔ y = .ok a := by
  cases h with
  | ok h => rw [h]
  | error e e' => exact ⟨nofun, nofun⟩

/-- A list that is rearranged has its results rearranged. -/
theorem alike_mapM {f : α → Except ε β} {xs ys : List α} (h : xs.Perm ys) :
    Alike List.Perm (xs.mapM f) (ys.mapM f) := by
  -- results of the one list, rearranged, are results of the other
  have hstep : ∀ {us vs : List α} {bs : List β}, us.Perm vs → vs.mapM f = .ok bs →
      ∃ as, us.mapM f = .ok as ∧ as.Perm bs := by
    intro us vs bs hp hb
    obtain ⟨as, ha, hperm⟩ := List.perm_comp_forall₂ hp (mapM_ok_iff.1 hb)
    exact ⟨as, mapM_ok_iff.2 ha, hperm⟩
  cases hy : ys.mapM f with
  | ok bs =>
    obtain ⟨as, ha, hperm⟩ := hstep h hy
    rw [ha]
    exact .ok hperm
  | error e =>
    cases hx : xs.mapM f with
    | ok as =>
      obtain ⟨bs, hb, -⟩ := hstep h.symm hx
      rw [hb] at hy
      cases hy
    | error e' => exact .error e' e

/-! ## Results with notices -/

namespace Reported

protected theorem bind_pure (x : Reported α) : x >>= pure = x := by
  obtain ⟨outcome, notices⟩ := x
  cases outcome with
  | error e => rfl
  | ok a =>
    show (⟨.ok a, notices ++ []⟩ : Reported α) = _
    rw [List.append_nil]

/-- Of parts one after the other it does not matter which are taken together. -/
protected theorem bind_assoc (x : Reported α) (f : α → Reported β) (g : β → Reported γ) :
    x >>= f >>= g = x >>= fun a => f a >>= g := by
  show Reported.bind (Reported.bind x f) g = Reported.bind x fun a => Reported.bind (f a) g
  unfold Reported.bind
  cases x.outcome with
  | error e => rfl
  | ok a =>
    dsimp only
    cases (f a).outcome with
    | error e => rfl
    | ok b =>
      dsimp only
      rw [List.append_assoc]

instance : LawfulMonad Reported :=
  LawfulMonad.mk' Reported Reported.bind_pure (fun _ _ => rfl) Reported.bind_assoc

theorem outcome_mapM (f : α → Reported β) (xs : List α) :
    (xs.mapM f).outcome = xs.mapM fun x => (f x).outcome := by
  induction xs with
  | nil => rfl
  | cons x xs ih =>
    rw [List.mapM_cons, List.mapM_cons, outcome_bind]
    refine bind_congr fun y => ?_
    rw [outcome_bind, ih]
    rfl

/-- A result with another fault in the place of its own. -/
def mapFault (f : Fault → Fault) (x : Reported α) : Reported α := ⟨x.outcome.mapError f, x.notices⟩

theorem mapFault_bind (f : Fault → Fault) (x : Reported α) (g : α → Reported β) :
    (x >>= g).mapFault f = x.mapFault f >>= fun a => (g a).mapFault f := by
  show (Reported.bind x g).mapFault f = Reported.bind (x.mapFault f) fun a => (g a).mapFault f
  obtain ⟨outcome, notices⟩ := x
  cases outcome <;> rfl

end Reported

end StagedRollout
