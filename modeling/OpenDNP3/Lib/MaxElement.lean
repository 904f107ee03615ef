import Mathlib.Data.List.Basic

/-!
# The greatest element of a list, by a relation that need not be an order

`maxElement` runs over a list and keeps the greatest element so far, as `std::max_element` does: it
replaces it by a later one only if it is less.  For a strict weak order the result is a greatest
element.  For another relation it is whatever the order of the list makes of it.

* `not_lt_maxElement` — the result is less than no element, if the relation is asymmetric and
  transitive on the triples of the list, in their order, that end with the result.
* `maxElement_of_top` — an element that all others are less than is the result.
-/

set_option autoImplicit false

namespace MaxElement

universe u

variable {α : Type u} (lt : α → α → Bool)

/-- The greatest element so far is `a`. -/
def scan (a : α) : List α → α
  | [] => a
  | x :: xs => scan (if lt a x then x else a) xs

/-- `std::max_element`, of the elements themselves. -/
def maxElement : List α → Option α
  | [] => none
  | x :: xs => some (scan lt x xs)

variable {lt}

theorem scan_mem (a : α) (xs : List α) : scan lt a xs = a ∨ scan lt a xs ∈ xs := by
  induction xs generalizing a with
  | nil => exact .inl rfl
  | cons x xs ih =>
    rw [scan]
    split
    · exact (ih x).elim (fun h ↦ .inr (by rw [h]; exact List.mem_cons_self))
        fun h ↦ .inr (List.mem_cons_of_mem x h)
    · exact (ih a).imp_right (List.mem_cons_of_mem x)

theorem maxElement_mem {l : List α} {m : α} (h : maxElement lt l = some m) : m ∈ l := by
  cases l with
  | nil => cases h
  | cons a xs =>
    cases h
    have hmem : scan lt a xs = a ∨ scan lt a xs ∈ xs := scan_mem a xs
    rcases hmem with h | h
    · rw [h]
      exact List.mem_cons_self
    · exact List.mem_cons_of_mem a h

theorem maxElement_eq_none {l : List α} : maxElement lt l = none ↔ l = [] := by
  cases l with
  | nil => exact ⟨fun _ ↦ rfl, fun _ ↦ rfl⟩
  | cons a xs =>
    exact ⟨fun h ↦ absurd h (Option.some_ne_none _), fun h ↦ absurd h (List.cons_ne_nil a xs)⟩

/-- The relation is **transitive on the triples that end with `m`**, in the order of the list, where
`m` may also be between the other two. -/
def TransitiveTo (lt : α → α → Bool) (l : List α) (m : α) : Prop :=
  ∀ a b, [a, b, m].Sublist l →
    (lt a b = true → lt b m = true → lt a m = true) ∧
      (lt a m = true → lt m b = true → lt a b = true)

theorem TransitiveTo.sublist {l l' : List α} {m : α} (h : TransitiveTo lt l m) (hs : l'.Sublist l) :
    TransitiveTo lt l' m := fun a b hab ↦ h a b (hab.trans hs)

theorem irrefl_of_asymm (hasymm : ∀ x y, lt x y = true → lt y x = false) (x : α) :
    lt x x = false := by
  by_contra h
  exact h (hasymm x x (Bool.not_eq_false _ ▸ h))

/-- What starts a run over a list is less than the result, or is the result. -/
theorem eq_or_lt_scan {a : α} {xs : List α} (hirrefl : ∀ x, lt x x = false)
    (htrans : TransitiveTo lt (a :: xs) (scan lt a xs)) :
    scan lt a xs = a ∨ lt a (scan lt a xs) = true := by
  induction xs generalizing a with
  | nil => exact .inl rfl
  | cons x xs ih =>
    rw [scan] at htrans ⊢
    by_cases hlt : lt a x = true
    · rw [if_pos hlt] at htrans ⊢
      rcases ih (htrans.sublist (List.sublist_cons_self a (x :: xs))) with h | h
      · exact .inr (by rw [h]; exact hlt)
      · have hmem : scan lt x xs ∈ xs := by
          refine (scan_mem x xs).resolve_left fun heq ↦ ?_
          rw [heq, hirrefl] at h
          exact Bool.noConfusion h
        have hsub : [a, x, scan lt x xs].Sublist (a :: x :: xs) :=
          ((List.singleton_sublist.mpr hmem).cons_cons x).cons_cons a
        exact .inr ((htrans a x hsub).1 hlt h)
    · rw [if_neg hlt] at htrans ⊢
      exact ih (htrans.sublist ((List.sublist_cons_self x xs).cons_cons a))

theorem not_lt_scan {a : α} {xs : List α} (hasymm : ∀ x y, lt x y = true → lt y x = false)
    (htrans : TransitiveTo lt (a :: xs) (scan lt a xs)) :
    ∀ y ∈ a :: xs, lt (scan lt a xs) y = false := by
  have hirrefl := irrefl_of_asymm hasymm
  induction xs generalizing a with
  | nil =>
    intro y hy
    rw [List.mem_singleton.mp hy]
    exact hirrefl a
  | cons x xs ih =>
    have hfirst := eq_or_lt_scan hirrefl htrans
    rw [scan] at htrans hfirst ⊢
    have hbelow : ∀ y, scan lt (if lt a x then x else a) xs = y ∨
        lt y (scan lt (if lt a x then x else a) xs) = true →
        lt (scan lt (if lt a x then x else a) xs) y = false := by
      rintro y (h | h)
      · rw [h]
        exact hirrefl y
      · exact hasymm _ _ h
    by_cases hlt : lt a x = true
    · rw [if_pos hlt] at htrans hfirst hbelow ⊢
      have hrest := htrans.sublist (List.sublist_cons_self a (x :: xs))
      intro y hy
      rcases List.mem_cons.mp hy with rfl | hy
      · exact hbelow y hfirst
      · exact ih hrest y hy
    · rw [if_neg hlt] at htrans hfirst hbelow ⊢
      have hrest := htrans.sublist ((List.sublist_cons_self x xs).cons_cons a)
      intro y hy
      rcases List.mem_cons.mp hy with rfl | hy
      · exact hbelow y hfirst
      · rcases List.mem_cons.mp hy with rfl | hy
        · rcases hfirst with h | h
          · rw [h]
            exact Bool.eq_false_iff.mpr hlt
          · have hmem : scan lt a xs ∈ xs := by
              refine (scan_mem a xs).resolve_left fun heq ↦ ?_
              rw [heq, hirrefl] at h
              exact Bool.noConfusion h
            have hsub : [a, y, scan lt a xs].Sublist (a :: y :: xs) :=
              ((List.singleton_sublist.mpr hmem).cons_cons y).cons_cons a
            exact Bool.eq_false_iff.mpr fun hy ↦ hlt ((htrans a y hsub).2 h hy)
        · exact ih hrest y (List.mem_cons_of_mem a hy)

/-- **The result is less than no element**, if the relation is transitive where the run relies on
it. -/
theorem not_lt_maxElement {l : List α} {m : α} (h : maxElement lt l = some m)
    (hasymm : ∀ x y, lt x y = true → lt y x = false) (htrans : TransitiveTo lt l m) :
    ∀ y ∈ l, lt m y = false := by
  cases l with
  | nil => cases h
  | cons a xs =>
    cases h
    exact not_lt_scan hasymm htrans

/-- **A top element** that is less than nothing is never replaced, and replaces everything that is
not one. -/
theorem maxElement_of_top {P : α → Prop} {l : List α} {m : α} (h : maxElement lt l = some m)
    (hkeep : ∀ x y, P x → lt x y = false) (htake : ∀ x y, ¬P x → P y → lt x y = true)
    (hex : ∃ x ∈ l, P x) : P m := by
  have hscan : ∀ a xs, (P a ∨ ∃ x ∈ xs, P x) → P (scan lt a xs) := by
    intro a xs
    induction xs generalizing a with
    | nil =>
      rintro (ha | ⟨x, hx, -⟩)
      · exact ha
      · exact absurd hx List.not_mem_nil
    | cons x xs ih =>
      intro hp
      rw [scan]
      refine ih _ ?_
      by_cases ha : P a
      · rw [if_neg (by rw [hkeep a x ha]; exact Bool.false_ne_true)]
        exact .inl ha
      · obtain ⟨y, hy, hP⟩ := hp.resolve_left ha
        rcases List.mem_cons.mp hy with rfl | hy
        · rw [if_pos (htake a y ha hP)]
          exact .inl hP
        · exact .inr ⟨y, hy, hP⟩
  cases l with
  | nil => cases h
  | cons a xs =>
    cases h
    refine hscan a xs ?_
    obtain ⟨x, hx, hP⟩ := hex
    rcases List.mem_cons.mp hx with rfl | hx
    · exact .inl hP
    · exact .inr ⟨x, hx, hP⟩

end MaxElement
