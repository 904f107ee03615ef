import Mathlib.Data.List.Basic

/-!
# Greedy scanners, and why they do not see how their input is cut up

A greedy scanner reads a stream from left to right with one question: what is at this position?
The answer is a `Verdict`: an item of a known length (`take`), nothing (`skip`, move on by one), or
"I cannot tell yet" (`wait`).  `Scanner.scan` asks the question again and again, and returns the
items found together with the tail it is still waiting on.

The one thing asked of the question is that more input never changes an answer that has been given
(`Scanner.look_append`).  That is enough for `Scanner.scan_append`: scanning `bs ++ cs` is scanning
`bs` and then scanning `cs` after whatever `bs` left over.  So a receiver that keeps the left-over
tail between reads finds the same items whatever the sizes of the reads
(`Scanner.Keeps.items_append`).

A scanner that is to start afresh must not see what was left over before.  `Scanner.Forgets` says
when it does not, and `Scanner.Forgets.items_append` that it then finds what a fresh one finds.
-/

set_option autoImplicit false

namespace Scan

universe u v

/-- What a scanner finds at a position. -/
inductive Verdict (β : Type v) where
  /-- An item that is `n` symbols long. -/
  | take (n : ℕ) (b : β)
  /-- No item starts here. -/
  | skip
  /-- More input is needed to tell. -/
  | wait

/-- A question asked of the unread input whose answers are final. -/
structure Scanner (α : Type u) (β : Type v) where
  /-- What starts at the first symbol of the unread input. -/
  look : List α → Verdict β
  /-- An item is not empty. -/
  take_pos : ∀ {bs n b}, look bs = .take n b → 0 < n
  /-- An item lies within the unread input. -/
  take_le : ∀ {bs n b}, look bs = .take n b → n ≤ bs.length
  /-- There is always a symbol to skip. -/
  skip_ne_nil : ∀ {bs}, look bs = .skip → bs ≠ []
  /-- More input does not change an answer. -/
  look_append : ∀ {bs} (cs : List α), look bs ≠ .wait → look (bs ++ cs) = look bs

namespace Scanner

variable {α : Type u} {β : Type v} (S : Scanner α β)

/-- Read the whole input greedily: the items found, and the tail that is still undecided. -/
def scan (bs : List α) : List β × List α :=
  match _h : S.look bs with
  | .take n b =>
    let r := scan (bs.drop n)
    (b :: r.1, r.2)
  | .skip => scan (bs.drop 1)
  | .wait => ([], bs)
termination_by bs.length
decreasing_by
  · have h1 := S.take_pos ‹_›
    have h2 := S.take_le ‹_›
    rw [List.length_drop]; omega
  · have h1 := List.length_pos_of_ne_nil (S.skip_ne_nil ‹_›)
    rw [List.length_drop]; omega

/-- The items found in an input. -/
def items (bs : List α) : List β := (S.scan bs).1

/-- What is still undecided at the end of an input. -/
def rest (bs : List α) : List α := (S.scan bs).2

variable {S}

theorem scan_of_take {bs : List α} {n : ℕ} {b : β} (h : S.look bs = .take n b) :
    S.scan bs = (b :: S.items (bs.drop n), S.rest (bs.drop n)) := by
  rw [scan]
  split
  · next h' =>
    rw [h] at h'
    cases h'
    rfl
  · next h' => simp [h] at h'
  · next h' => simp [h] at h'

theorem scan_of_skip {bs : List α} (h : S.look bs = .skip) : S.scan bs = S.scan (bs.drop 1) := by
  rw [scan]
  split
  · next h' => simp [h] at h'
  · rfl
  · next h' => simp [h] at h'

theorem scan_of_wait {bs : List α} (h : S.look bs = .wait) : S.scan bs = ([], bs) := by
  rw [scan]
  split
  · next h' => simp [h] at h'
  · next h' => simp [h] at h'
  · rfl

/-- **A scan can be interrupted anywhere.**  Scanning the rest of the input after the tail that
was left over gives the remaining items, and leaves the same tail. -/
theorem scan_append (bs cs : List α) :
    S.scan (bs ++ cs) = (S.items bs ++ S.items (S.rest bs ++ cs), S.rest (S.rest bs ++ cs)) := by
  induction hn : bs.length using Nat.strongRecOn generalizing bs with
  | _ n ih =>
    cases h : S.look bs with
    | take k b =>
      have h1 := S.take_pos h
      have h2 := S.take_le h
      have happ : S.look (bs ++ cs) = .take k b := by rw [S.look_append cs (by simp [h]), h]
      have hr : S.rest bs = S.rest (bs.drop k) := by rw [rest, scan_of_take h]
      have hi : S.items bs = b :: S.items (bs.drop k) := by rw [items, scan_of_take h]
      have hrec := ih (bs.drop k).length (by rw [List.length_drop]; omega) _ rfl
      rw [scan_of_take happ, List.drop_append_of_le_length h2, items, rest, hrec, hr, hi]
      rfl
    | skip =>
      have h1 := List.length_pos_of_ne_nil (S.skip_ne_nil h)
      have happ : S.look (bs ++ cs) = .skip := by rw [S.look_append cs (by simp [h]), h]
      have hr : S.rest bs = S.rest (bs.drop 1) := by rw [rest, scan_of_skip h]; rfl
      have hi : S.items bs = S.items (bs.drop 1) := by rw [items, scan_of_skip h]; rfl
      have hrec := ih (bs.drop 1).length (by rw [List.length_drop]; omega) _ rfl
      rw [scan_of_skip happ, List.drop_append_of_le_length (by omega), hrec, hr, hi]
    | wait =>
      have hr : S.rest bs = bs := by rw [rest, scan_of_wait h]
      have hi : S.items bs = [] := by rw [items, scan_of_wait h]
      rw [hr, hi]
      rfl

theorem items_append (bs cs : List α) :
    S.items (bs ++ cs) = S.items bs ++ S.items (S.rest bs ++ cs) := by
  rw [items, scan_append]

theorem rest_append (bs cs : List α) : S.rest (bs ++ cs) = S.rest (S.rest bs ++ cs) := by
  rw [rest, scan_append]

/-- What a receiver may keep of the input `bs` that it has gone through: an input `u` in which there
is nothing to find, and whose undecided tail is that of `bs`. -/
structure Keeps (S : Scanner α β) (u bs : List α) : Prop where
  items : S.items u = []
  rest : S.rest u = S.rest bs

/-- **Chunking does not matter**: what a chunk completes is found in what was kept and the chunk. -/
theorem Keeps.items_append {u bs : List α} (h : Keeps S u bs) (cs : List α) :
    S.items (bs ++ cs) = S.items bs ++ S.items (u ++ cs) := by
  rw [Scanner.items_append bs, Scanner.items_append u, h.items, h.rest, List.nil_append]

theorem Keeps.rest_append {u bs : List α} (h : Keeps S u bs) (cs : List α) :
    S.rest (u ++ cs) = S.rest (bs ++ cs) := by
  rw [Scanner.rest_append u, Scanner.rest_append bs, h.rest]

/-! ## What is left over

A scanner that has come to the end of its symbols may wait for more of them. These are the
symbols that the next ones are appended to, and they matter only if an item can start in them. -/

/-- An item that is found starts somewhere in the input. -/
theorem exists_of_mem_items {b : β} {bs : List α} (h : b ∈ S.items bs) :
    ∃ v n, v <:+ bs ∧ S.look v = .take n b := by
  induction hn : bs.length using Nat.strongRecOn generalizing bs with
  | _ k ih =>
    cases hl : S.look bs with
    | take n c =>
      have hpos := S.take_pos hl
      have hle := S.take_le hl
      rw [items, scan_of_take hl] at h
      rcases List.mem_cons.mp h with rfl | h
      · exact ⟨bs, n, List.suffix_refl bs, hl⟩
      · obtain ⟨v, m, hv, hlook⟩ := ih (bs.drop n).length (by simp; omega) h rfl
        exact ⟨v, m, hv.trans (List.drop_suffix n bs), hlook⟩
    | skip =>
      have hpos := List.length_pos_of_ne_nil (S.skip_ne_nil hl)
      rw [items, scan_of_skip hl] at h
      obtain ⟨v, m, hv, hlook⟩ := ih (bs.drop 1).length (by simp; omega) h rfl
      exact ⟨v, m, hv.trans (List.drop_suffix 1 bs), hlook⟩
    | wait =>
      rw [items, scan_of_wait hl] at h
      exact absurd h List.not_mem_nil

/-- **What is left over does not matter**: `k` further symbols, whatever they are, show that no item
starts in it. -/
def Forgets (S : Scanner α β) (k : ℕ) (u : List α) : Prop :=
  ∀ v, v ≠ [] → v <:+ u → ∀ cs : List α, k ≤ cs.length → S.look (v ++ cs) = .skip

theorem forgets_nil (k : ℕ) : S.Forgets k [] := by
  intro v hne hv
  exact absurd (List.suffix_nil.mp hv) hne

theorem Forgets.tail {k : ℕ} {b : α} {u : List α} (h : S.Forgets k (b :: u)) : S.Forgets k u :=
  fun v hne hv ↦ h v hne (hv.trans (List.suffix_cons b u))

/-- A scan passes over what does not matter. -/
theorem Forgets.scan_append {k : ℕ} {u : List α} (h : S.Forgets k u) {cs : List α}
    (hk : k ≤ cs.length) : S.scan (u ++ cs) = S.scan cs := by
  induction u with
  | nil => rfl
  | cons b u ih =>
    rw [scan_of_skip (h (b :: u) (List.cons_ne_nil b u) (List.suffix_refl _) cs hk)]
    exact ih h.tail

/-- In less than an item there is nothing to find. -/
theorem items_of_length_lt {k : ℕ} (hmin : ∀ {bs n b}, S.look bs = .take n b → k ≤ n) {bs : List α}
    (hlen : bs.length < k) : S.items bs = [] := by
  rw [List.eq_nil_iff_forall_not_mem]
  intro b hb
  obtain ⟨v, n, hv, hl⟩ := exists_of_mem_items hb
  have hle := Nat.le_trans (hmin hl) (S.take_le hl)
  have hsuffix := hv.length_le
  omega

/-- **After what does not matter a scanner finds what a fresh one finds**, if no item is shorter
than `k`. -/
theorem Forgets.items_append {k : ℕ} (hmin : ∀ {bs n b}, S.look bs = .take n b → k ≤ n) {u : List α}
    (h : S.Forgets k u) (cs : List α) : S.items (u ++ cs) = S.items cs := by
  rcases Nat.lt_or_ge cs.length k with hlt | hk
  · rw [items_of_length_lt hmin hlt]
    induction u with
    | nil => exact items_of_length_lt hmin hlt
    | cons b u ih =>
      cases hl : S.look (b :: u ++ cs) with
      | skip =>
        rw [items, scan_of_skip hl]
        exact ih h.tail
      | wait => rw [items, scan_of_wait hl]
      | take n c =>
        -- `k` further symbols would show the same item
        have hskip := h (b :: u) (List.cons_ne_nil b u) (List.suffix_refl _)
          (cs ++ List.replicate k b) (by simp)
        have hmore : S.look (b :: u ++ cs ++ List.replicate k b) = S.look (b :: u ++ cs) :=
          S.look_append _ (by rw [hl]; simp)
        rw [List.append_assoc, hskip, hl] at hmore
        cases hmore
  · rw [items, h.scan_append hk]
    rfl

/-- If what is left over matters, the first position at which it does is where every scan goes
on. -/
theorem exists_of_not_forgets {k : ℕ} {u : List α} (h : ¬S.Forgets k u) :
    ∃ v, v ≠ [] ∧ v <:+ u ∧ (∃ cs : List α, k ≤ cs.length ∧ S.look (v ++ cs) ≠ .skip) ∧
      ∀ cs : List α, k ≤ cs.length → S.scan (u ++ cs) = S.scan (v ++ cs) := by
  induction u with
  | nil => exact absurd (forgets_nil k) h
  | cons b u ih =>
    by_cases hfirst : ∀ cs : List α, k ≤ cs.length → S.look (b :: u ++ cs) = .skip
    · have hu : ¬S.Forgets k u := by
        intro hu
        refine h fun v hne hv ↦ ?_
        rcases List.suffix_cons_iff.mp hv with rfl | hv
        · exact hfirst
        · exact hu v hne hv
      obtain ⟨v, hne, hv, hmatters, hscan⟩ := ih hu
      refine ⟨v, hne, hv.trans (List.suffix_cons b u), hmatters, fun cs hcs ↦ ?_⟩
      rw [scan_of_skip (hfirst cs hcs), ← hscan cs hcs]
      rfl
    · push Not at hfirst
      exact ⟨b :: u, List.cons_ne_nil b u, List.suffix_refl _, hfirst, fun _ _ ↦ rfl⟩

end Scanner

end Scan
