import Mathlib.Data.Finset.Card
import Mathlib.Logic.Relation

/-!
# Searching a directed graph without cycles

A graph is given by the successors of each vertex.  A depth-first search that follows all paths ends
if there is no cycle; `within` is this search with a bound on the length of the path.

* `within_sound` and `within_complete` — in a graph without cycles, a bound of the number of
  vertices that have a predecessor is enough.
* `Acyclic.insert` — an edge whose end does not reach its start closes no cycle.
-/

set_option autoImplicit false

namespace Reach

open Relation

universe u

variable {α : Type u}

section Search

variable [DecidableEq α] (succ : α → List α)

/-- The target of the search is found on a path of at most so many edges. -/
def within : ℕ → α → α → Bool
  | 0, _, _ => false
  | n + 1, a, b => (succ a).any fun k ↦ k = b || within n k b

variable {succ}

theorem within_succ {n : ℕ} {a b : α} :
    within succ (n + 1) a b = true ↔ ∃ k ∈ succ a, k = b ∨ within succ n k b = true := by
  simp [within]

/-- **What is found is reached**. -/
theorem within_sound {n : ℕ} {a b : α} (h : within succ n a b = true) :
    TransGen (fun x y ↦ y ∈ succ x) a b := by
  induction n generalizing a with
  | zero => exact absurd h Bool.false_ne_true
  | succ n ih =>
    obtain ⟨k, hk, rfl | hb⟩ := within_succ.mp h
    · exact .single hk
    · exact .head hk (ih hb)

/-- No vertex reaches itself. -/
def Acyclic (r : α → α → Prop) : Prop := ∀ a, ¬TransGen r a a

/-- **What is reached is found**, if the bound is at least the number of vertices with a
predecessor. -/
theorem within_complete {s : Finset α} (hs : ∀ a, ∀ k ∈ succ a, k ∈ s)
    (hacyclic : Acyclic fun x y ↦ y ∈ succ x) {a b : α} (h : TransGen (fun x y ↦ y ∈ succ x) a b) :
    within succ s.card a b = true := by
  classical
  -- along an edge there are fewer vertices left to reach
  have hmem : ∀ a b, TransGen (fun x y ↦ y ∈ succ x) a b → b ∈ s := by
    intro a b hab
    cases hab with
    | single hab => exact hs a b hab
    | tail _ hab => exact hs _ b hab
  have hbound : ∀ n a, {x ∈ s | TransGen (fun x y ↦ y ∈ succ x) a x}.card ≤ n →
      TransGen (fun x y ↦ y ∈ succ x) a b → within succ n a b = true := by
    intro n
    induction n with
    | zero =>
      intro a hcard hab
      have hempty := Finset.card_eq_zero.mp (Nat.le_zero.mp hcard)
      have hb : b ∈ ({x ∈ s | TransGen (fun x y ↦ y ∈ succ x) a x} : Finset α) :=
        Finset.mem_filter.mpr ⟨hmem a b hab, hab⟩
      rw [hempty] at hb
      exact absurd hb (Finset.notMem_empty b)
    | succ n ih =>
      intro a hcard hab
      obtain ⟨k, hk, hkb⟩ := TransGen.head'_iff.mp hab
      refine within_succ.mpr ⟨k, hk, ?_⟩
      rcases reflTransGen_iff_eq_or_transGen.mp hkb with rfl | hkb
      · exact .inl rfl
      · refine .inr (ih k ?_ hkb)
        have hlt : {x ∈ s | TransGen (fun x y ↦ y ∈ succ x) k x}.card <
            {x ∈ s | TransGen (fun x y ↦ y ∈ succ x) a x}.card := by
          refine Finset.card_lt_card (Finset.ssubset_iff_of_subset ?_ |>.mpr ⟨k, ?_, ?_⟩)
          · intro x hx
            obtain ⟨hxs, hkx⟩ := Finset.mem_filter.mp hx
            exact Finset.mem_filter.mpr ⟨hxs, .head hk hkx⟩
          · exact Finset.mem_filter.mpr ⟨hs a k hk, .single hk⟩
          · exact fun hkk ↦ hacyclic k (Finset.mem_filter.mp hkk).2
        omega
  exact hbound _ a (Finset.card_le_card (Finset.filter_subset _ s)) h

end Search

variable {r r' : α → α → Prop}

theorem Acyclic.mono (h : Acyclic r) (hle : ∀ a b, r' a b → r a b) : Acyclic r' :=
  fun a hcycle ↦ h a (TransGen.mono hle a a hcycle)

/-- A path of the graph with one more edge is an old one, or goes through the new edge. -/
theorem transGen_insert {i j : α} (hle : ∀ a b, r' a b → r a b ∨ a = i ∧ b = j) {a b : α}
    (h : TransGen r' a b) : TransGen r a b ∨ ReflTransGen r a i ∧ ReflTransGen r j b := by
  induction h with
  | single hab =>
    rcases hle _ _ hab with hab | ⟨rfl, rfl⟩
    · exact .inl (.single hab)
    · exact .inr ⟨.refl, .refl⟩
  | tail _ hbc ih =>
    rcases hle _ _ hbc with hbc | ⟨rfl, rfl⟩
    · rcases ih with ih | ⟨hai, hjb⟩
      · exact .inl (ih.tail hbc)
      · exact .inr ⟨hai, hjb.tail hbc⟩
    · rcases ih with ih | ⟨hai, -⟩
      · exact .inr ⟨ih.to_reflTransGen, .refl⟩
      · exact .inr ⟨hai, .refl⟩

/-- **An edge closes no cycle** if its end does not reach its start. -/
theorem Acyclic.insert {i j : α} (h : Acyclic r) (hij : ¬ReflTransGen r j i)
    (hle : ∀ a b, r' a b → r a b ∨ a = i ∧ b = j) : Acyclic r' := by
  intro a hcycle
  rcases transGen_insert hle hcycle with hcycle | ⟨hai, hja⟩
  · exact h a hcycle
  · exact hij (hja.trans hai)

end Reach
