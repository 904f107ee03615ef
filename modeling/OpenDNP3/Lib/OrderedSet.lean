import Mathlib.Data.List.Sort
import Mathlib.Data.List.TakeWhile

/-!
# Ordered sets as lists

`std::set` and `std::multiset` hold their elements in the order of a comparison `lt`, and take two
elements to be the same when neither comes before the other.  Here such a set is the list of its
elements in order.

* `insertMulti` — `std::multiset::insert`: behind the elements that are the same.
* `insertUnique` — `std::set::insert`: not at all if an element is the same.
* `find` and `erase` — the element that is the same, and the others.

What is said of them is which elements they leave, up to order (`perm_insertMulti`,
`perm_insertUnique`, `perm_of_find`), and that the elements of a set stay different from each other
(`Distinct`).
-/

set_option autoImplicit false

namespace OrderedSet

universe u

variable {α : Type u} (lt : α → α → Bool)

/-- Neither comes before the other. -/
def same (a b : α) : Bool := !lt a b && !lt b a

/-- `std::multiset::insert` -/
def insertMulti (a : α) (l : List α) : List α := l.orderedInsert (fun a b ↦ lt a b = true) a

/-- `std::set::insert` -/
def insertUnique (a : α) (l : List α) : List α :=
  if l.any (same lt a) then l else insertMulti lt a l

/-- `std::set::find` -/
def find (a : α) (l : List α) : Option α := l.find? (same lt a)

/-- `std::set::erase`, of the element that is the same. -/
def erase (a : α) (l : List α) : List α := l.eraseP (same lt a)

variable {lt}

theorem perm_insertMulti (a : α) (l : List α) : (insertMulti lt a l).Perm (a :: l) :=
  List.perm_orderedInsert _ a l

theorem insertUnique_of_any {a : α} {l : List α} (h : l.any (same lt a) = true) :
    insertUnique lt a l = l := if_pos h

theorem perm_insertUnique {a : α} {l : List α} (h : l.any (same lt a) = false) :
    (insertUnique lt a l).Perm (a :: l) := by
  rw [insertUnique, h]
  exact perm_insertMulti a l

theorem find_eq_none {a : α} {l : List α} : find lt a l = none ↔ l.any (same lt a) = false := by
  rw [find, List.find?_eq_none, List.any_eq_false]

/-- A set with an element that is the same consists of this one and the others. -/
theorem perm_of_find {a x : α} {l : List α} (h : find lt a l = some x) :
    l.Perm (x :: erase lt a l) := by
  induction l with
  | nil => exact absurd h (by simp [find])
  | cons b l ih =>
    cases hb : same lt a b with
    | true =>
      rw [find, List.find?_cons, hb] at h
      rw [erase, List.eraseP_cons_of_pos hb, Option.some.inj h]
    | false =>
      rw [find, List.find?_cons, hb] at h
      rw [erase, List.eraseP_cons_of_neg (by simp [hb])]
      exact ((ih h).cons b).trans (List.Perm.swap x b _)

theorem same_of_find {a x : α} {l : List α} (h : find lt a l = some x) : same lt a x = true :=
  List.find?_some h

theorem mem_of_find {a x : α} {l : List α} (h : find lt a l = some x) : x ∈ l :=
  List.mem_of_find?_eq_some h

/-! ## The place of an element

An element is inserted behind those that are not greater, so insertion into a sorted list is
described by the part in front of the new element and the part behind it. -/

/-- The element stands behind all that it does not come before, up to the first that it does. -/
theorem insertMulti_eq (a : α) (l : List α) :
    insertMulti lt a l = l.takeWhile (!lt a ·) ++ a :: l.dropWhile (!lt a ·) := by
  have h := List.orderedInsert_eq_take_drop (fun a b ↦ lt a b = true) a l
  simpa only [insertMulti, decide_not, Bool.decide_eq_true] using h

theorem mem_insertMulti {a x : α} {l : List α} : x ∈ insertMulti lt a l ↔ x = a ∨ x ∈ l := by
  rw [(perm_insertMulti a l).mem_iff, List.mem_cons]

theorem sublist_insertMulti (a : α) (l : List α) : l.Sublist (insertMulti lt a l) := by
  rw [insertMulti_eq]
  have h := (List.sublist_cons_self a (l.dropWhile (!lt a ·))).append_left (l.takeWhile (!lt a ·))
  rwa [List.takeWhile_append_dropWhile] at h

/-- An element that comes before none goes to the end. -/
theorem insertMulti_of_behind {a : α} {l : List α} (h : ∀ x ∈ l, lt a x = false) :
    insertMulti lt a l = l ++ [a] := by
  have hall : ∀ x ∈ l, (!lt a x) = true := fun x hx ↦ by rw [h x hx]; rfl
  rw [insertMulti_eq, List.takeWhile_eq_self_iff.mpr hall, List.dropWhile_eq_nil_iff.mpr hall]

/-- **Insertion keeps a relation between the elements in order**, when `a` is so related to those on
either side and the elements that `a` comes before are followed by such elements only. -/
theorem pairwise_insertMulti {R : α → α → Prop} {a : α} {l : List α} (hl : l.Pairwise R)
    (hbefore : ∀ x ∈ l, lt a x = true → R a x) (hbehind : ∀ x ∈ l, lt a x = false → R x a)
    (hmono : l.Pairwise fun x y ↦ lt a x = true → lt a y = true) :
    (insertMulti lt a l).Pairwise R := by
  induction l with
  | nil => exact List.pairwise_singleton R a
  | cons b l ih =>
    obtain ⟨hb, hl'⟩ := List.pairwise_cons.mp hl
    obtain ⟨hbm, hmono'⟩ := List.pairwise_cons.mp hmono
    rw [insertMulti, List.orderedInsert]
    split
    · next hlt =>
      refine List.pairwise_cons.mpr ⟨fun x hx ↦ hbefore x hx ?_, hl⟩
      rcases List.mem_cons.mp hx with rfl | hx
      · exact hlt
      · exact hbm x hx hlt
    · next hlt =>
      have hrest := ih hl' (fun x hx ↦ hbefore x (List.mem_cons_of_mem b hx))
        (fun x hx ↦ hbehind x (List.mem_cons_of_mem b hx)) hmono'
      refine List.pairwise_cons.mpr ⟨fun x hx ↦ ?_, hrest⟩
      rcases mem_insertMulti.mp hx with rfl | hx
      · exact hbehind b List.mem_cons_self (Bool.eq_false_of_not_eq_true hlt)
      · exact hb x hx

/-- **What the element stands behind is so related to it**, if insertion keeps the relation. -/
theorem rel_of_pairwise_insertMulti {R : α → α → Prop} {a x : α} {l : List α}
    (h : (insertMulti lt a l).Pairwise R)
    (hmono : l.Pairwise fun x y ↦ lt a x = true → lt a y = true)
    (hx : x ∈ l) (hlt : lt a x = false) : R x a := by
  induction l with
  | nil => exact absurd hx List.not_mem_nil
  | cons b l ih =>
    obtain ⟨hb, hmono'⟩ := List.pairwise_cons.mp hmono
    rw [insertMulti, List.orderedInsert] at h
    rcases List.mem_cons.mp hx with rfl | hx'
    · rw [if_neg (by simp [hlt])] at h
      exact (List.pairwise_cons.mp h).1 a (mem_insertMulti.mpr (.inl rfl))
    · have hb : ¬lt a b = true := by
        intro hab
        rw [hb x hx' hab] at hlt
        exact Bool.noConfusion hlt
      rw [if_neg hb] at h
      exact ih (List.pairwise_cons.mp h).2 hmono' hx'

/-! ## Sets have no two elements that are the same -/

/-- No two elements are the same. -/
def Distinct (lt : α → α → Bool) (l : List α) : Prop := l.Pairwise fun a b ↦ same lt a b = false

theorem same_comm (a b : α) : same lt a b = same lt b a := Bool.and_comm _ _

theorem Distinct.perm {l l' : List α} (h : Distinct lt l) (hp : l.Perm l') : Distinct lt l' :=
  List.Pairwise.perm h hp fun h ↦ by rwa [same_comm]

theorem Distinct.insertUnique {l : List α} (h : Distinct lt l) (a : α) :
    Distinct lt (insertUnique lt a l) := by
  cases hany : l.any (same lt a) with
  | true => rwa [insertUnique_of_any hany]
  | false =>
    refine Distinct.perm ?_ (perm_insertUnique hany).symm
    exact List.pairwise_cons.mpr ⟨fun b hb ↦ by simpa using List.any_eq_false.mp hany b hb, h⟩

theorem Distinct.erase {l : List α} (h : Distinct lt l) (a : α) : Distinct lt (erase lt a l) :=
  List.Pairwise.sublist List.eraseP_sublist h

end OrderedSet
