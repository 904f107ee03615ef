import OpenDNP3.Lib.Handler

/-!
# What a handler may throw

`Throws P x` says that the handler `x` throws nothing but exceptions with `P`, wherever it starts.
Unlike `Stable` it does not follow the state, so that the rule for a construct asks nothing of the
states in between, and a handler is gone through once for all of its callers.

* `Fails P x` — the same for a computation without a state.
* One rule for each construct of the monad, for components and for loops.
* `Throws.wp` — the way back to weakest preconditions, for a handler in the middle of one that has
  to be followed.
-/

set_option autoImplicit false

namespace Handler

variable {ε σ τ α β γ : Type} {P Q : ε → Prop}

/-! ## Computations without a state -/

/-- The computation fails with nothing but exceptions with `P`. -/
def Fails (P : ε → Prop) (x : Except ε α) : Prop := ∀ e, x = .error e → P e

theorem fails_ok (a : α) : Fails P (.ok a : Except ε α) := fun _ h ↦ nomatch h

theorem fails_error {e : ε} (h : P e) : Fails P (.error e : Except ε α) :=
  fun _ heq ↦ Except.error.inj heq ▸ h

theorem fails_bind {x : Except ε α} {f : α → Except ε β} (hx : Fails P x)
    (hf : ∀ a, Fails P (f a)) :
    Fails P (x >>= f) := by
  cases x with
  | ok a => exact hf a
  | error e => exact fails_error (hx e rfl)

theorem fails_ite {p : Prop} [Decidable p] {x y : Except ε α} (hx : Fails P x) (hy : Fails P y) :
    Fails P (if p then x else y) := by
  split
  · exact hx
  · exact hy

/-! ## Handlers -/

/-- Wherever it starts, the handler throws nothing but exceptions with `P`. -/
def Throws (P : ε → Prop) (x : EStateM ε σ α) : Prop :=
  ∀ s, wp x (fun _ _ ↦ True) (fun e _ ↦ P e) s

theorem Throws.wp {x : EStateM ε σ α} (h : Throws P x) (s : σ) :
    wp x (fun _ _ ↦ True) (fun e _ ↦ P e) s := h s

theorem Throws.mono {x : EStateM ε σ α} (h : Throws P x) (hPQ : ∀ e, P e → Q e) : Throws Q x :=
  fun s ↦ wp_mono (h s) (fun _ _ ht ↦ ht) fun e _ he ↦ hPQ e he

/-! ### Constructs that throw nothing

These hold of every class of exceptions. -/

theorem throws_pure (a : α) : Throws P (pure a : EStateM ε σ α) := fun _ ↦ trivial

theorem throws_get : Throws P (get : EStateM ε σ σ) := fun _ ↦ trivial

theorem throws_modify (f : σ → σ) : Throws P (modify f : EStateM ε σ PUnit) := fun _ ↦ trivial

/-! ### Constructs that throw -/

theorem throws_throw {e : ε} (h : P e) : Throws P (throw e : EStateM ε σ α) := fun _ ↦ h

theorem throws_ensure {p : Prop} [Decidable p] {e : ε} (h : P e) :
    Throws P (ensure p e : EStateM ε σ PUnit) := by
  intro s
  rw [wp_ensure]
  split
  · trivial
  · exact h

theorem throws_lift {x : Except ε α} (h : Fails P x) : Throws P (lift x : EStateM ε σ α) := by
  intro s
  cases x with
  | ok a => trivial
  | error e => exact h e rfl

/-! ### Compositions -/

theorem throws_bind {x : EStateM ε σ α} {f : α → EStateM ε σ β} (hx : Throws P x)
    (hf : ∀ a, Throws P (f a)) : Throws P (x >>= f) := by
  intro s
  rw [wp_bind]
  exact wp_mono (hx s) (fun a t _ ↦ hf a t) fun _ _ he ↦ he

/-- What a look at the state throws is thrown by what follows. -/
theorem throws_get_bind {f : σ → EStateM ε σ β} (h : ∀ s, Throws P (f s)) : Throws P (get >>= f) :=
  throws_bind throws_get h

theorem throws_ite {p : Prop} [Decidable p] {x y : EStateM ε σ α} (hx : Throws P x)
    (hy : Throws P y) :
    Throws P (if p then x else y) := by
  split
  · exact hx
  · exact hy

/-- An exception that is caught is replaced by what the `catch` throws. -/
theorem throws_tryCatch {x : EStateM ε σ α} {h : ε → EStateM ε σ α} (hx : Throws Q x)
    (hh : ∀ e, Q e → Throws P (h e)) : Throws P (tryCatch x h) := by
  intro s
  rw [wp_tryCatch]
  exact wp_mono (hx s) (fun _ _ ht ↦ ht) fun e t he ↦ hh e he t

theorem throws_zoom {get : σ → τ} {put : τ → σ → σ} {x : EStateM ε τ α} (hx : Throws P x) :
    Throws P (zoom get put x) := by
  intro s
  rw [wp_zoom]
  exact hx (get s)

theorem throws_forM {f : γ → EStateM ε σ PUnit} {l : List γ} (hf : ∀ c, Throws P (f c)) :
    Throws P (l.forM f) := by
  induction l with
  | nil => exact throws_pure _
  | cons c l ih => exact throws_bind (hf c) fun _ ↦ ih

end Handler
