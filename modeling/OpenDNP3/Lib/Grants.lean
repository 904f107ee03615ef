import Mathlib.Data.List.Basic

/-!
# One-time permissions in a history

A history is a list of entries, the oldest first.  Some entries grant a permission for a key, some
make use of one, and some revoke all permissions at once; `Rules` says which is which, and which use
fits which grant.  A permission is good for one use.

* `Outstanding` — a grant that has been neither used nor revoked.
* `Justified` — every use of the history comes from a grant of its own: an earlier one of the same
  key that fits it, with nothing revoked in between, and no two uses come from one grant.
* `Justified.append` and `Justified.append_use` — how a history that is justified may grow, which is
  what an invariant over the runs of a program needs.
-/

set_option autoImplicit false

namespace Grants

/-- Which entries grant the permission for a key, which use it, which revoke all permissions, and
which use fits which grant. -/
structure Rules (α κ : Type) where
  grantOf : α → Option κ
  useOf : α → Option κ
  revokes : α → Prop
  Fits : α → α → Prop

variable {α κ : Type} {R : Rules α κ} {l : List α} {k : κ} {i j : ℕ} {a b : α}

/-- The grant at position `i` for the key has been neither used nor revoked. -/
structure Outstanding (R : Rules α κ) (l : List α) (k : κ) (i : ℕ) (a : α) : Prop where
  get : l[i]? = some a
  grant : R.grantOf a = some k
  unrevoked : ∀ j b, i < j → l[j]? = some b → ¬R.revokes b
  unused : ∀ j b, i < j → l[j]? = some b → R.useOf b ≠ some k

/-- The use at position `j` comes from the grant at position `i`. -/
structure Justifies (R : Rules α κ) (l : List α) (i j : ℕ) (b : α) : Prop where
  lt : i < j
  grant : ∃ a, l[i]? = some a ∧ R.grantOf a = R.useOf b ∧ R.Fits a b
  unrevoked : ∀ m c, i < m → m < j → l[m]? = some c → ¬R.revokes c

/-- **Every use comes from a grant of its own.** -/
def Justified (R : Rules α κ) (l : List α) : Prop :=
  ∃ f : ℕ → ℕ, (∀ j b, l[j]? = some b → R.useOf b ≠ none → Justifies R l (f j) j b) ∧
    ∀ j j' b b', l[j]? = some b → R.useOf b ≠ none → l[j']? = some b' → R.useOf b' ≠ none →
      f j = f j' → j = j'

theorem justified_nil : Justified R ([] : List α) :=
  ⟨id, fun _ _ h ↦ absurd h (by simp), fun _ _ _ _ h ↦ absurd h (by simp)⟩

/-! ## Histories that grow -/

theorem lt_of_getElem?_eq_some (h : l[i]? = some a) : i < l.length := by
  rw [List.getElem?_eq_some_iff] at h
  exact h.1

/-- An entry of a longer history is an entry of the old one or the new one. -/
theorem getElem?_append_singleton {c : α} (h : (l ++ [c])[j]? = some b) :
    l[j]? = some b ∨ j = l.length ∧ b = c := by
  rcases Nat.lt_or_ge j l.length with hj | hj
  · rw [List.getElem?_append_left hj] at h
    exact .inl h
  · rw [List.getElem?_append_right hj, List.getElem?_singleton] at h
    split at h
    · exact .inr ⟨by omega, (Option.some.inj h).symm⟩
    · exact absurd h (by simp)

theorem getElem?_append_of_some {c : α} (h : l[i]? = some a) : (l ++ [c])[i]? = some a := by
  rw [List.getElem?_append_left (lt_of_getElem?_eq_some h), h]

/-- The entry that grants is outstanding. -/
theorem outstanding_append_self (h : R.grantOf a = some k) :
    Outstanding R (l ++ [a]) k l.length a where
  get := List.getElem?_concat_length
  grant := h
  unrevoked j b hj hb := by
    have := lt_of_getElem?_eq_some hb
    simp only [List.length_append, List.length_singleton] at this
    omega
  unused j b hj hb := by
    have := lt_of_getElem?_eq_some hb
    simp only [List.length_append, List.length_singleton] at this
    omega

/-- **A grant stays outstanding** under an entry that neither revokes nor uses it. -/
theorem Outstanding.append {c : α} (h : Outstanding R l k i a) (hrevoke : ¬R.revokes c)
    (huse : R.useOf c ≠ some k) : Outstanding R (l ++ [c]) k i a where
  get := getElem?_append_of_some h.get
  grant := h.grant
  unrevoked j b hj hb := by
    rcases getElem?_append_singleton hb with hb | ⟨rfl, rfl⟩
    · exact h.unrevoked j b hj hb
    · exact hrevoke
  unused j b hj hb := by
    rcases getElem?_append_singleton hb with hb | ⟨rfl, rfl⟩
    · exact h.unused j b hj hb
    · exact huse

theorem Justifies.append {c : α} (h : Justifies R l i j b) (hj : j ≤ l.length) :
    Justifies R (l ++ [c]) i j b where
  lt := h.lt
  grant := by
    obtain ⟨a, ha, hk⟩ := h.grant
    exact ⟨a, getElem?_append_of_some ha, hk⟩
  unrevoked m d hm hmj hd := by
    rcases getElem?_append_singleton hd with hd | ⟨rfl, rfl⟩
    · exact h.unrevoked m d hm hmj hd
    · omega

/-- A history that is justified stays so under an entry that uses nothing. -/
theorem Justified.append {c : α} (h : Justified R l) (hc : R.useOf c = none) :
    Justified R (l ++ [c]) := by
  obtain ⟨f, hf, hinj⟩ := h
  have hold : ∀ (j : ℕ) (b : α), (l ++ [c])[j]? = some b → R.useOf b ≠ none →
      l[j]? = some b := by
    intro j b hb huse
    rcases getElem?_append_singleton hb with hb | ⟨rfl, rfl⟩
    · exact hb
    · exact absurd hc huse
  refine ⟨f, ?_, ?_⟩
  · intro j b hb huse
    have hb := hold j b hb huse
    exact (hf j b hb huse).append (Nat.le_of_lt (lt_of_getElem?_eq_some hb))
  · intro j j' b b' hb huse hb' huse'
    exact hinj j j' b b' (hold j b hb huse) huse (hold j' b' hb' huse') huse'

/-- **A use of an outstanding grant that it fits is justified.** -/
theorem Justified.append_use {c : α} (h : Justified R l) (ho : Outstanding R l k i a)
    (huse : R.useOf c = some k) (hfits : R.Fits a c) : Justified R (l ++ [c]) := by
  obtain ⟨f, hf, hinj⟩ := h
  have hi : i < l.length := lt_of_getElem?_eq_some ho.get
  -- no earlier use comes from the grant, as there has been none since
  have hne : ∀ (j : ℕ) (b : α), l[j]? = some b → R.useOf b ≠ none → f j ≠ i := by
    rintro j b hb hu rfl
    have hj := hf j b hb hu
    obtain ⟨a', ha', hk, -⟩ := hj.grant
    obtain rfl : a = a' := Option.some.inj (ho.get.symm.trans ha')
    exact ho.unused j b hj.lt hb (hk.symm.trans ho.grant)
  have hold : ∀ (j : ℕ) (b : α), l[j]? = some b → (if j = l.length then i else f j) = f j :=
    fun j b hb ↦ if_neg (Nat.ne_of_lt (lt_of_getElem?_eq_some hb))
  refine ⟨fun j ↦ if j = l.length then i else f j, ?_, ?_⟩
  · intro j b hb hu
    dsimp only
    rcases getElem?_append_singleton hb with hb₀ | ⟨rfl, rfl⟩
    · rw [hold j b hb₀]
      exact (hf j b hb₀ hu).append (Nat.le_of_lt (lt_of_getElem?_eq_some hb₀))
    · simp only [if_true]
      refine ⟨hi, ⟨a, getElem?_append_of_some ho.get, ho.grant.trans huse.symm, hfits⟩, ?_⟩
      intro m d hm hmj hd
      rcases getElem?_append_singleton hd with hd | ⟨rfl, -⟩
      · exact ho.unrevoked m d hm hd
      · omega
  · intro j j' b b' hb hu hb' hu' heq
    dsimp only at heq
    rcases getElem?_append_singleton hb with hb₀ | ⟨rfl, -⟩
    · rw [hold j b hb₀] at heq
      rcases getElem?_append_singleton hb' with hb₁ | ⟨rfl, -⟩
      · rw [hold j' b' hb₁] at heq
        exact hinj j j' b b' hb₀ hu hb₁ hu' heq
      · rw [if_pos rfl] at heq
        exact absurd heq (hne j b hb₀ hu)
    · rw [if_pos rfl] at heq
      rcases getElem?_append_singleton hb' with hb₁ | ⟨rfl, -⟩
      · rw [hold j' b' hb₁] at heq
        exact absurd heq.symm (hne j' b' hb₁ hu')
      · rfl

end Grants
