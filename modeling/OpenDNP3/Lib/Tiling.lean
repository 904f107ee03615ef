import Mathlib.Algebra.GroupWithZero.Nat
import Mathlib.Data.List.Basic

/-!
# Spans that tile an interval

A `Span` is a run of positions, given by where it starts and by its size.  A list of spans `Tiles`
an interval when each one starts where the one before it stops: no position of the interval is left
out and none belongs to two spans.

* `tiles_append` — a tiling can be cut between any two of its spans.
* `Tiles.sum` — the sizes add up to the interval.
* `Tiles.within` and `Tiles.pairwise_disjoint` — the spans of a tiling lie in the interval and are
  disjoint in pairs.
-/

set_option autoImplicit false

/-- A run of positions. -/
structure Span where
  start : ℕ
  size : ℕ
  deriving DecidableEq, Repr

namespace Span

/-- The position after the last one. -/
def stop (s : Span) : ℕ := s.start + s.size

/-- The span lies in the interval. -/
def Within (s : Span) (lo hi : ℕ) : Prop := lo ≤ s.start ∧ s.stop ≤ hi

/-- The spans share no position. -/
def Disjoint (s t : Span) : Prop := s.stop ≤ t.start ∨ t.stop ≤ s.start

/-- Each span starts where the one before it stops. -/
def Tiles : ℕ → ℕ → List Span → Prop
  | lo, hi, [] => lo = hi
  | lo, hi, s :: l => s.start = lo ∧ Tiles s.stop hi l

variable {lo mid hi : ℕ} {l l₁ l₂ : List Span} {s : Span}

theorem tiles_append : Tiles lo hi (l₁ ++ l₂) ↔ ∃ mid, Tiles lo mid l₁ ∧ Tiles mid hi l₂ := by
  induction l₁ generalizing lo with
  | nil =>
    constructor
    · exact fun h ↦ ⟨lo, rfl, h⟩
    · rintro ⟨mid, hmid, h⟩
      rw [Tiles] at hmid
      exact hmid ▸ h
  | cons s l ih =>
    rw [List.cons_append, Tiles, ih]
    constructor
    · rintro ⟨hs, mid, hl, h⟩
      exact ⟨mid, ⟨hs, hl⟩, h⟩
    · rintro ⟨mid, ⟨hs, hl⟩, h⟩
      exact ⟨hs, mid, hl, h⟩

/-- One tiling after another. -/
theorem Tiles.append (h₁ : Tiles lo mid l₁) (h₂ : Tiles mid hi l₂) : Tiles lo hi (l₁ ++ l₂) :=
  tiles_append.mpr ⟨mid, h₁, h₂⟩

/-- **The sizes of a tiling add up to the interval.** -/
theorem Tiles.sum (h : Tiles lo hi l) : lo + (l.map size).sum = hi := by
  induction l generalizing lo with
  | nil => simpa [Tiles] using h
  | cons s l ih =>
    obtain ⟨hs, h⟩ := h
    have := ih h
    rw [List.map_cons, List.sum_cons, ← Nat.add_assoc, ← hs]
    exact this

theorem Tiles.le (h : Tiles lo hi l) : lo ≤ hi := h.sum ▸ Nat.le_add_right _ _

/-- **The spans of a tiling lie in the interval.** -/
theorem Tiles.within (h : Tiles lo hi l) (hs : s ∈ l) : s.Within lo hi := by
  induction l generalizing lo with
  | nil => exact absurd hs List.not_mem_nil
  | cons t l ih =>
    obtain ⟨ht, h⟩ := h
    have hstop : lo ≤ t.stop := ht ▸ Nat.le_add_right _ _
    rcases List.mem_cons.mp hs with rfl | hs
    · exact ⟨Nat.le_of_eq ht.symm, h.le⟩
    · exact ⟨Nat.le_trans hstop (ih h hs).1, (ih h hs).2⟩

/-- **The spans of a tiling share nothing.** -/
theorem Tiles.pairwise_disjoint (h : Tiles lo hi l) : l.Pairwise Disjoint := by
  induction l generalizing lo with
  | nil => exact List.Pairwise.nil
  | cons s l ih => exact List.Pairwise.cons (fun t ht ↦ .inl (h.2.within ht).1) (ih h.2)

end Span
