import Mathlib.Data.List.Basic

/-!
# Runs of a partial step function

A reactive program is given here by a step function `step : σ → ε → Option σ`: `step s e` is the
state after the event `e` has been handled in `s`, or `none` when `e` cannot happen in `s`.  `run`
takes a list of events in order, and this file is the induction over such runs, done once.

* `inv_of_run` — a predicate that holds at the start and is kept by every step holds at the end.
* `Guarded` and `inv_of_guarded` — the same for the runs whose every event meets a condition on
  the state it is taken in.  This is how an assumption on the environment ("the timer expires only
  when nothing is in flight") enters a statement without becoming part of the step function.
-/

set_option autoImplicit false

namespace Run

universe u v

variable {σ : Type u} {ε : Type v}

/-- Handle the events in order, stopping at the first one that cannot happen. -/
def run (step : σ → ε → Option σ) : σ → List ε → Option σ
  | s, [] => some s
  | s, e :: es => (step s e).bind fun t ↦ run step t es

@[simp] theorem run_nil (step : σ → ε → Option σ) (s : σ) : run step s [] = some s := rfl

theorem run_cons (step : σ → ε → Option σ) (s : σ) (e : ε) (es : List ε) :
    run step s (e :: es) = (step s e).bind fun t ↦ run step t es := rfl

theorem run_cons_eq_some {step : σ → ε → Option σ} {s u : σ} {e : ε} {es : List ε} :
    run step s (e :: es) = some u ↔ ∃ t, step s e = some t ∧ run step t es = some u := by
  rw [run_cons, Option.bind_eq_some_iff]

/-- A run of `es ++ fs` is a run of `es` followed by a run of `fs`. -/
theorem run_append (step : σ → ε → Option σ) (s : σ) (es fs : List ε) :
    run step s (es ++ fs) = (run step s es).bind fun t ↦ run step t fs := by
  induction es generalizing s with
  | nil => rfl
  | cons e es ih =>
    rw [List.cons_append, run_cons, run_cons]
    cases step s e with
    | none => rfl
    | some t => exact ih t

/-- **The run rule**: what every step keeps, every run keeps. -/
theorem inv_of_run {step : σ → ε → Option σ} {I : σ → Prop}
    (hstep : ∀ s e t, I s → step s e = some t → I t) {s t : σ} {es : List ε}
    (hs : I s) (h : run step s es = some t) : I t := by
  induction es generalizing s with
  | nil =>
    rw [run_nil, Option.some_inj] at h
    exact h ▸ hs
  | cons e es ih =>
    obtain ⟨u, hu, hrun⟩ := run_cons_eq_some.mp h
    exact ih (hstep s e u hs hu) hrun

/-- Every event of the run is taken in a state in which `G` allows it. -/
def Guarded (step : σ → ε → Option σ) (G : σ → ε → Prop) : σ → List ε → Prop
  | _, [] => True
  | s, e :: es => G s e ∧ ∀ t, step s e = some t → Guarded step G t es

/-- One allowed event in front of an allowed run. -/
theorem Guarded.cons {step : σ → ε → Option σ} {G : σ → ε → Prop} {s t : σ} {e : ε} {es : List ε}
    (hG : G s e) (hs : step s e = some t) (h : Guarded step G t es) :
    Guarded step G s (e :: es) :=
  ⟨hG, fun _ hu ↦ Option.some.inj (hs.symm.trans hu) ▸ h⟩

/-- A condition that can be tested in each state can be tested along a run. -/
instance Guarded.decidable {step : σ → ε → Option σ} {G : σ → ε → Prop}
    [∀ s e, Decidable (G s e)] : ∀ (s : σ) (es : List ε), Decidable (Guarded step G s es)
  | _, [] => isTrue trivial
  | s, e :: es =>
    match h : step s e with
    | none => decidable_of_iff (G s e) ⟨fun hG ↦ ⟨hG, fun t ht ↦ by simp [h] at ht⟩, And.left⟩
    | some u =>
      haveI : Decidable (Guarded step G u es) := Guarded.decidable u es
      decidable_of_iff (G s e ∧ Guarded step G u es)
        ⟨fun hG ↦ .cons hG.1 h hG.2, fun hG ↦ ⟨hG.1, hG.2 u h⟩⟩

/-- **The run rule under a guard**: what every allowed step keeps, every allowed run keeps. -/
theorem inv_of_guarded {step : σ → ε → Option σ} {G : σ → ε → Prop} {I : σ → Prop}
    (hstep : ∀ s e t, I s → G s e → step s e = some t → I t) {s t : σ} {es : List ε}
    (hs : I s) (hg : Guarded step G s es) (h : run step s es = some t) : I t := by
  induction es generalizing s with
  | nil =>
    rw [run_nil, Option.some_inj] at h
    exact h ▸ hs
  | cons e es ih =>
    obtain ⟨u, hu, hrun⟩ := run_cons_eq_some.mp h
    exact ih (hstep s e u hs hg.1 hu) (hg.2 u hu) hrun

/-- **What an invariant says of an event**, every event of an allowed run does. -/
theorem guarded_of_inv {step : σ → ε → Option σ} {G H : σ → ε → Prop} {J : σ → Prop}
    (hstep : ∀ s e t, J s → G s e → step s e = some t → J t) (hevent : ∀ s e, J s → G s e → H s e)
    {s : σ} {es : List ε} (hs : J s) (hg : Guarded step G s es) : Guarded step H s es := by
  induction es generalizing s with
  | nil => trivial
  | cons e es ih => exact ⟨hevent s e hs hg.1, fun t ht ↦ ih (hstep s e t hs hg.1 ht) (hg.2 t ht)⟩

end Run
