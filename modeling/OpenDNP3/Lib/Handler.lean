import Mathlib.Data.List.Basic

/-!
# Handlers that may throw

An event handler of a reactive object is here a program of `EStateM ε σ`: it changes a state and
may stop early with an exception, and what it had done before the exception stays done.  This file
is the program logic of such handlers.

* `wp x Q E s` — run in `s`, the handler `x` either returns with `Q` or throws with `E`.
* `wp_mono` and the rules for the constructs of the monad, which `simp only` applies in order.
* `Stable` — a handler keeps a predicate, with one rule for each construct; `Total` says in addition
  that it does not throw.
* `zoom` — a handler of one component, run on the whole it is a part of, and its rule.
* `exec` — the state after a handler together with the exception that ended it, and `wp_exec`,
  which turns a weakest precondition into a fact about them.
-/

set_option autoImplicit false

namespace Handler

universe u v

variable {ε σ τ α β : Type}

/-! ## Weakest preconditions

A handler is described by what holds after it, once for the case that it returns and once for the
case that it throws. The rules go through a program from its first statement to its last. -/

/-- Run in `s`, the handler `x` returns a value and a state with `Q`, or throws with `E`. -/
def wp (x : EStateM ε σ α) (Q : α → σ → Prop) (E : ε → σ → Prop) (s : σ) : Prop :=
  match x s with
  | .ok a t => Q a t
  | .error e t => E e t

theorem wp_eq_of_ok {x : EStateM ε σ α} {Q : α → σ → Prop} {E : ε → σ → Prop} {s t : σ} {a : α}
    (h : x s = .ok a t) : wp x Q E s = Q a t := by
  rw [wp, h]

theorem wp_eq_of_error {x : EStateM ε σ α} {Q : α → σ → Prop} {E : ε → σ → Prop} {s t : σ} {e : ε}
    (h : x s = .error e t) : wp x Q E s = E e t := by
  rw [wp, h]

/-- **The rule of consequence**. -/
theorem wp_mono {x : EStateM ε σ α} {Q Q' : α → σ → Prop} {E E' : ε → σ → Prop} {s : σ}
    (h : wp x Q E s) (hQ : ∀ a t, Q a t → Q' a t) (hE : ∀ e t, E e t → E' e t) :
    wp x Q' E' s := by
  rw [wp] at h ⊢
  split at h
  · exact hQ _ _ h
  · exact hE _ _ h

/-- What holds of every result holds after every handler. -/
theorem wp_of_forall {x : EStateM ε σ α} {Q : α → σ → Prop} {E : ε → σ → Prop} {s : σ}
    (hQ : ∀ a t, Q a t) (hE : ∀ e t, E e t) : wp x Q E s := by
  rw [wp]
  split
  · exact hQ _ _
  · exact hE _ _

/-- Two facts about the same run. -/
theorem wp_and {x : EStateM ε σ α} {Q Q' : α → σ → Prop} {E E' : ε → σ → Prop} {s : σ}
    (h : wp x Q E s) (h' : wp x Q' E' s) :
    wp x (fun a t ↦ Q a t ∧ Q' a t) (fun e t ↦ E e t ∧ E' e t) s := by
  rw [wp] at h h' ⊢
  revert h h'
  cases x s with
  | ok a t => exact fun h h' ↦ ⟨h, h'⟩
  | error e t => exact fun h h' ↦ ⟨h, h'⟩

/-- As a handler has one result, what decides its postcondition there decides the precondition. -/
theorem wp_iff {x : EStateM ε σ α} {Q : α → σ → Prop} {E : ε → σ → Prop} {P : Prop} {s : σ}
    (h : wp x (fun a t ↦ Q a t ↔ P) (fun e t ↦ E e t ↔ P) s) : wp x Q E s ↔ P := by
  rw [wp] at h ⊢
  split at h
  · exact h
  · exact h

@[simp] theorem wp_pure (a : α) (Q : α → σ → Prop) (E : ε → σ → Prop) (s : σ) :
    wp (pure a) Q E s = Q a s := rfl

@[simp] theorem wp_bind (x : EStateM ε σ α) (f : α → EStateM ε σ β) (Q : β → σ → Prop)
    (E : ε → σ → Prop) (s : σ) :
    wp (x >>= f) Q E s = wp x (fun a t ↦ wp (f a) Q E t) E s := by
  change wp (EStateM.bind x f) Q E s = _
  rw [wp, wp, EStateM.bind]
  cases x s with
  | ok a t => rfl
  | error e t => rfl

/-- What the last step decides does not depend on the steps before it. -/
theorem wp_bind_of_last {x : EStateM ε σ α} {f : α → EStateM ε σ β} {Q : β → σ → Prop}
    (hf : ∀ a t, wp (f a) Q (fun _ _ ↦ True) t) (s : σ) :
    wp (x >>= f) Q (fun _ _ ↦ True) s := by
  rw [wp_bind]
  exact wp_of_forall (fun a t ↦ hf a t) fun _ _ ↦ trivial

@[simp] theorem wp_throw (e : ε) (Q : α → σ → Prop) (E : ε → σ → Prop) (s : σ) :
    wp (throw e) Q E s = E e s := rfl

@[simp] theorem wp_get (Q : σ → σ → Prop) (E : ε → σ → Prop) (s : σ) :
    wp get Q E s = Q s s := rfl

@[simp] theorem wp_set (t : σ) (Q : PUnit → σ → Prop) (E : ε → σ → Prop) (s : σ) :
    wp (set t) Q E s = Q ⟨⟩ t := rfl

@[simp] theorem wp_modify (f : σ → σ) (Q : PUnit → σ → Prop) (E : ε → σ → Prop) (s : σ) :
    wp (modify f) Q E s = Q ⟨⟩ (f s) := rfl

@[simp] theorem wp_map (f : α → β) (x : EStateM ε σ α) (Q : β → σ → Prop) (E : ε → σ → Prop)
    (s : σ) : wp (f <$> x) Q E s = wp x (fun a t ↦ Q (f a) t) E s := by
  change wp (EStateM.map f x) Q E s = _
  rw [wp, wp, EStateM.map]
  cases x s with
  | ok a t => rfl
  | error e t => rfl

theorem wp_ite {p : Prop} [Decidable p] {x y : EStateM ε σ α} {Q : α → σ → Prop}
    {E : ε → σ → Prop} {s : σ} (hp : p → wp x Q E s) (hn : ¬p → wp y Q E s) :
    wp (if p then x else y) Q E s := by
  split
  · exact hp ‹_›
  · exact hn ‹_›

/-- `try`-`catch`: what the handler had done before it threw is not undone. -/
@[simp] theorem wp_tryCatch (x : EStateM ε σ α) (h : ε → EStateM ε σ α) (Q : α → σ → Prop)
    (E : ε → σ → Prop) (s : σ) :
    wp (tryCatch x h) Q E s = wp x Q (fun e t ↦ wp (h e) Q E t) s := by
  change wp (EStateM.tryCatch x h) Q E s = _
  rw [wp, wp, EStateM.tryCatch]
  cases x s with
  | ok a t => rfl
  | error e t => rfl

theorem map_tryCatch (f : α → β) (x : EStateM ε σ α) (h : ε → EStateM ε σ α) :
    f <$> tryCatch x h = tryCatch (f <$> x) fun e ↦ f <$> h e := by
  funext s
  change EStateM.map f (EStateM.tryCatch x h) s =
    EStateM.tryCatch (EStateM.map f x) (fun e ↦ EStateM.map f (h e)) s
  rw [EStateM.map, EStateM.tryCatch, EStateM.tryCatch, EStateM.map]
  cases x s with
  | ok a t => rfl
  | error e t => rfl

/-- A computation that does not look at the state. -/
def lift (x : Except ε α) : EStateM ε σ α := fun s ↦
  match x with
  | .ok a => .ok a s
  | .error e => .error e s

@[simp] theorem wp_lift_ok (a : α) (Q : α → σ → Prop) (E : ε → σ → Prop) (s : σ) :
    wp (lift (.ok a)) Q E s = Q a s := rfl

@[simp] theorem wp_lift_error (e : ε) (Q : α → σ → Prop) (E : ε → σ → Prop) (s : σ) :
    wp (lift (.error e)) Q E s = E e s := rfl

/-- Throw unless a condition holds. -/
def ensure (p : Prop) [Decidable p] (e : ε) : EStateM ε σ PUnit :=
  if p then pure ⟨⟩ else throw e

theorem wp_ensure {p : Prop} [Decidable p] {e : ε} {Q : PUnit → σ → Prop} {E : ε → σ → Prop}
    {s : σ} : wp (ensure p e) Q E s = if p then Q ⟨⟩ s else E e s := by
  rw [ensure]
  split <;> rfl

@[simp] theorem wp_ensure_of {p : Prop} [Decidable p] {e : ε} {Q : PUnit → σ → Prop}
    {E : ε → σ → Prop} {s : σ} (h : p) : wp (ensure p e) Q E s = Q ⟨⟩ s := by
  rw [wp_ensure, if_pos h]

/-! ## Equations -/

/-- What follows a handler may be replaced where the handler leads. -/
theorem bind_congr_of_ok {x : EStateM ε σ α} {f g : α → EStateM ε σ β} {s : σ}
    (h : ∀ a t, x s = .ok a t → f a t = g a t) : (x >>= f) s = (x >>= g) s := by
  change EStateM.bind x f s = EStateM.bind x g s
  rw [EStateM.bind, EStateM.bind]
  revert h
  cases x s with
  | ok a t => exact fun h ↦ h a t rfl
  | error e t => exact fun _ ↦ rfl

/-! ## Loops -/

/-- A loop over a list is its first round and the others. -/
theorem wp_forM_cons {γ : Type} (f : γ → EStateM ε σ PUnit) (c : γ) (l : List γ)
    (Q : PUnit → σ → Prop) (E : ε → σ → Prop) (s : σ) :
    wp ((c :: l).forM f) Q E s = wp (f c) (fun _ t ↦ wp (l.forM f) Q E t) E s :=
  wp_bind (f c) (fun _ ↦ l.forM f) Q E s

/-- A loop over a list keeps what its body keeps. -/
theorem wp_forM {γ : Type} {f : γ → EStateM ε σ PUnit} {I : σ → Prop} {E : ε → σ → Prop}
    {l : List γ} (hf : ∀ c ∈ l, ∀ s, I s → wp (f c) (fun _ t ↦ I t) E s) {s : σ} (hs : I s) :
    wp (l.forM f) (fun _ t ↦ I t) E s := by
  induction l generalizing s with
  | nil => exact hs
  | cons c l ih =>
    rw [wp_forM_cons]
    refine wp_mono (hf c (List.mem_cons_self ..) s hs) (fun _ t ht ↦ ?_) (fun _ _ he ↦ he)
    exact ih (fun c' hc' ↦ hf c' (List.mem_cons_of_mem _ hc')) ht

/-! ## Components

An object that is a member of another one has handlers of its own. On the whole they run as they
do on the part, and leave the rest of the state alone. -/

/-- Run a handler of a component, which `get` reads and `put` writes back. -/
def zoom (get : σ → τ) (put : τ → σ → σ) (x : EStateM ε τ α) : EStateM ε σ α := fun s ↦
  match x (get s) with
  | .ok a t => .ok a (put t s)
  | .error e t => .error e (put t s)

/-- **The rule for components**. -/
@[simp] theorem wp_zoom (get : σ → τ) (put : τ → σ → σ) (x : EStateM ε τ α) (Q : α → σ → Prop)
    (E : ε → σ → Prop) (s : σ) :
    wp (zoom get put x) Q E s =
      wp x (fun a t ↦ Q a (put t s)) (fun e t ↦ E e (put t s)) (get s) := by
  rw [wp, wp, zoom]
  cases x (get s) with
  | ok a t => rfl
  | error e t => rfl

/-! ## Invariants

To show that a predicate is kept one goes through the constructs of the handler, and states
nothing in between. There is one rule for each of them. -/

/-- The handler keeps the predicate, whether it returns or throws. -/
def Stable (I : σ → Prop) (x : EStateM ε σ α) : Prop :=
  ∀ s, I s → wp x (fun _ t ↦ I t) (fun _ t ↦ I t) s

variable {I : σ → Prop}

theorem stable_pure (a : α) : Stable I (pure a : EStateM ε σ α) := fun _ hs ↦ hs

theorem stable_throw (e : ε) : Stable I (throw e : EStateM ε σ α) := fun _ hs ↦ hs

theorem stable_lift (x : Except ε α) : Stable I (lift x : EStateM ε σ α) := by
  intro s hs
  cases x with
  | ok a => exact hs
  | error e => exact hs

theorem stable_ensure (p : Prop) [Decidable p] (e : ε) :
    Stable I (ensure p e : EStateM ε σ PUnit) := by
  intro s hs
  rw [wp_ensure]
  split
  · exact hs
  · exact hs

theorem stable_modify {f : σ → σ} (h : ∀ s, I s → I (f s)) :
    Stable I (modify f : EStateM ε σ PUnit) := h

theorem stable_bind {x : EStateM ε σ α} {f : α → EStateM ε σ β} (hx : Stable I x)
    (hf : ∀ a, Stable I (f a)) : Stable I (x >>= f) := by
  intro s hs
  rw [wp_bind]
  exact wp_mono (hx s hs) (fun a t ht ↦ hf a t ht) (fun _ _ he ↦ he)

/-- What keeps the predicate may come first. -/
theorem wp_bind_of_stable {x : EStateM ε σ α} {f : α → EStateM ε σ β} {Q : β → σ → Prop}
    {E : ε → σ → Prop} {s : σ} (hx : Stable I x) (hs : I s) (hE : ∀ e t, I t → E e t)
    (hf : ∀ a t, I t → wp (f a) Q E t) : wp (x >>= f) Q E s := by
  rw [wp_bind]
  exact wp_mono (hx s hs) hf hE

/-- What follows a look at the state may rely on what was seen. -/
theorem stable_get_bind {f : σ → EStateM ε σ β}
    (h : ∀ s, I s → wp (f s) (fun _ t ↦ I t) (fun _ t ↦ I t) s) : Stable I (get >>= f) := by
  intro s hs
  rw [wp_bind]
  exact h s hs

theorem stable_ite {p : Prop} [Decidable p] {x y : EStateM ε σ α} (hx : Stable I x)
    (hy : Stable I y) : Stable I (if p then x else y) := by
  split
  · exact hx
  · exact hy

theorem stable_tryCatch {x : EStateM ε σ α} {h : ε → EStateM ε σ α} (hx : Stable I x)
    (hh : ∀ e, Stable I (h e)) : Stable I (tryCatch x h) := by
  intro s hs
  rw [wp_tryCatch]
  exact wp_mono (hx s hs) (fun _ _ ht ↦ ht) (fun e t ht ↦ hh e t ht)

/-! ## Invariants of handlers that do not throw -/

/-- The handler keeps the predicate and does not throw. -/
def Total (I : σ → Prop) (x : EStateM ε σ α) : Prop :=
  ∀ s, I s → wp x (fun _ t ↦ I t) (fun _ _ ↦ False) s

theorem Total.stable {x : EStateM ε σ α} (h : Total I x) : Stable I x :=
  fun s hs ↦ wp_mono (h s hs) (fun _ _ ht ↦ ht) fun _ _ he ↦ he.elim

theorem total_modify {f : σ → σ} (h : ∀ s, I s → I (f s)) :
    Total I (modify f : EStateM ε σ PUnit) := h

theorem total_bind {x : EStateM ε σ α} {f : α → EStateM ε σ β} (hx : Total I x)
    (hf : ∀ a, Total I (f a)) : Total I (x >>= f) := by
  intro s hs
  rw [wp_bind]
  exact wp_mono (hx s hs) (fun a t ht ↦ hf a t ht) fun _ _ he ↦ he

theorem total_get_bind {f : σ → EStateM ε σ β}
    (h : ∀ s, I s → wp (f s) (fun _ t ↦ I t) (fun _ _ ↦ False) s) : Total I (get >>= f) := by
  intro s hs
  rw [wp_bind]
  exact h s hs

theorem total_ite {p : Prop} [Decidable p] {x y : EStateM ε σ α} (hx : Total I x)
    (hy : Total I y) : Total I (if p then x else y) := by
  split
  · exact hx
  · exact hy

/-! ## Execution -/

/-- The state after the handler, and the exception that ended it. -/
def exec (x : EStateM ε σ α) (s : σ) : σ × Option ε :=
  match x s with
  | .ok _ t => (t, none)
  | .error e t => (t, some e)

theorem exec_of_wp {x : EStateM ε σ α} {Q : σ → Option ε → Prop} {s : σ}
    (h : wp x (fun _ t ↦ Q t none) (fun e t ↦ Q t (some e)) s) : Q (exec x s).1 (exec x s).2 := by
  rw [wp] at h
  rw [exec]
  split at h
  · exact h
  · exact h

end Handler
