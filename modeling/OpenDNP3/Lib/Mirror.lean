import OpenDNP3.Lib.Handler

/-!
# Handlers that do the same

Two objects may be models of one program, one with more in its state than the other.  That the
handlers of the one do what the handlers of the other do is a statement about both at once: from
states that are related they return the same value or throw the same exception, and the states that
they leave are related again.

* `Mirrors R x y` — the handlers `x` and `y` do the same, as far as the relation `R` sees.
* The rules follow the constructs of the monad, as those for `wp` do.
-/

set_option autoImplicit false

namespace Handler

variable {ε σ τ ρ α β : Type}

/-- The same outcome, in states that are related. -/
inductive SameResult (R : σ → τ → Prop) :
    EStateM.Result ε σ α → EStateM.Result ε τ α → Prop where
  | ok (a : α) {s : σ} {t : τ} (h : R s t) : SameResult R (.ok a s) (.ok a t)
  | error (e : ε) {s : σ} {t : τ} (h : R s t) : SameResult R (.error e s) (.error e t)

/-- From related states the two handlers come to the same. -/
def Mirrors (R : σ → τ → Prop) (x : EStateM ε σ α) (y : EStateM ε τ α) : Prop :=
  ∀ s t, R s t → SameResult R (x s) (y t)

variable {R : σ → τ → Prop}

theorem mirrors_pure (a : α) : Mirrors R (pure a : EStateM ε σ α) (pure a) := fun _ _ h ↦ .ok a h

theorem mirrors_throw (e : ε) : Mirrors R (throw e : EStateM ε σ α) (throw e) :=
  fun _ _ h ↦ .error e h

/-- **The rule for one handler after another**. -/
theorem mirrors_bind {x : EStateM ε σ α} {y : EStateM ε τ α} {f : α → EStateM ε σ β}
    {g : α → EStateM ε τ β} (hx : Mirrors R x y) (hf : ∀ a, Mirrors R (f a) (g a)) :
    Mirrors R (x >>= f) (y >>= g) := by
  intro s t h
  have hfirst := hx s t h
  change SameResult R (EStateM.bind x f s) (EStateM.bind y g t)
  rw [EStateM.bind, EStateM.bind]
  revert hfirst
  generalize x s = r
  generalize y t = r'
  intro hfirst
  cases hfirst with
  | ok a h => exact hf a _ _ h
  | error e h => exact .error e h

theorem mirrors_get {f : σ → EStateM ε σ α} {g : τ → EStateM ε τ α}
    (h : ∀ s t, R s t → Mirrors R (f s) (g t)) : Mirrors R (get >>= f) (get >>= g) :=
  fun s t hst ↦ h s t hst s t hst

theorem mirrors_modify {f : σ → σ} {g : τ → τ} (h : ∀ s t, R s t → R (f s) (g t)) :
    Mirrors R (modify f : EStateM ε σ PUnit) (modify g) := by
  intro s t hst
  change SameResult R (.ok PUnit.unit (f s)) (.ok PUnit.unit (g t))
  exact .ok _ (h s t hst)

theorem mirrors_ensure (p : Prop) [Decidable p] (e : ε) :
    Mirrors R (ensure p e : EStateM ε σ PUnit) (ensure p e) := by
  rw [ensure, ensure]
  split
  · exact mirrors_pure PUnit.unit
  · exact mirrors_throw e

theorem mirrors_ite {p : Prop} [Decidable p] {x x' : EStateM ε σ α} {y y' : EStateM ε τ α}
    (hx : Mirrors R x y) (hy : Mirrors R x' y') :
    Mirrors R (if p then x else x') (if p then y else y') := by
  split
  · exact hx
  · exact hy

/-- A handler of a component, which another relation sees. -/
theorem mirrors_zoom {Q : ρ → τ → Prop} {get : σ → ρ} {put : ρ → σ → σ} {x : EStateM ε ρ α}
    {y : EStateM ε τ α} (hget : ∀ s t, R s t → Q (get s) t)
    (hput : ∀ s t r u, R s t → Q r u → R (put r s) u) (h : Mirrors Q x y) :
    Mirrors R (zoom get put x) y := by
  intro s t hst
  have hinner := h (get s) t (hget s t hst)
  rw [zoom]
  revert hinner
  generalize x (get s) = r
  generalize y t = r'
  intro hinner
  cases hinner with
  | ok a h => exact .ok a (hput s t _ _ hst h)
  | error e h => exact .error e (hput s t _ _ hst h)

end Handler
