import Mathlib.Data.List.Basic

/-!
# Shift registers with feedback

A register of `w` bits is shifted to the right once for each bit of its input.  If the bit that
falls out and the bit of the input differ, a fixed polynomial is added to what is left.  This is the
division of the input by the polynomial, lowest bit first, and what stays in the register is the
remainder.

* `step` and `feed` — one shift, and one for each bit of the input.
* `feed_xor` — **a register is linear**: the sum of two inputs leads from the sum of two registers
  to the sum of what they lead to.
* `feed_injective` — a register that is fed can be recovered, if the polynomial has its highest bit.
* `feed_eq_zero_iff` — `w` bits clear the register exactly if they are its own.
* `feed_ne_zero_of_burst` — **an input whose bits lie in a window of `w` bits does not leave a
  cleared register clear**.
-/

set_option autoImplicit false

namespace ShiftRegister

variable {w : ℕ}

/-- One shift, for one bit of the input. -/
def step (poly reg : BitVec w) (b : Bool) : BitVec w :=
  if reg.getLsbD 0 ^^ b then (reg >>> 1) ^^^ poly else reg >>> 1

/-- The register after an input. -/
def feed (poly reg : BitVec w) (bits : List Bool) : BitVec w := bits.foldl (step poly) reg

variable {poly : BitVec w}

@[simp] theorem feed_nil (reg : BitVec w) : feed poly reg [] = reg := rfl

@[simp] theorem feed_cons (reg : BitVec w) (b : Bool) (bits : List Bool) :
    feed poly reg (b :: bits) = feed poly (step poly reg b) bits := rfl

@[simp] theorem feed_append (reg : BitVec w) (bits bits' : List Bool) :
    feed poly reg (bits ++ bits') = feed poly (feed poly reg bits) bits' :=
  List.foldl_append

/-! ## Linearity

The register holds a sum of what its contents and each of its inputs would have led to alone, so
two runs can be compared by the run of their difference. -/

/-- The polynomial is added to what is left, or nothing. -/
theorem step_eq (reg : BitVec w) (b : Bool) :
    step poly reg b = reg >>> 1 ^^^ bif reg.getLsbD 0 ^^ b then poly else 0#w := by
  rw [step]
  cases reg.getLsbD 0 ^^ b with
  | true => rfl
  | false => exact (BitVec.xor_zero).symm

theorem step_xor (r s : BitVec w) (b c : Bool) :
    step poly (r ^^^ s) (b ^^ c) = step poly r b ^^^ step poly s c := by
  have hbits : ((r ^^^ s).getLsbD 0 ^^ (b ^^ c)) = ((r.getLsbD 0 ^^ b) ^^ (s.getLsbD 0 ^^ c)) := by
    rw [BitVec.getLsbD_xor]
    cases r.getLsbD 0 <;> cases s.getLsbD 0 <;> cases b <;> cases c <;> rfl
  have hsum (x y : Bool) : (bif x ^^ y then poly else 0#w) =
      (bif x then poly else 0#w) ^^^ bif y then poly else 0#w := by
    cases x <;> cases y <;> simp
  rw [step_eq, step_eq, step_eq, hbits, hsum, BitVec.ushiftRight_xor_distrib]
  ac_rfl

/-- **A register is linear** in what it holds and in what it is fed. -/
theorem feed_xor (r s : BitVec w) {bits bits' : List Bool} (hlen : bits.length = bits'.length) :
    feed poly (r ^^^ s) (List.zipWith (· ^^ ·) bits bits') =
      feed poly r bits ^^^ feed poly s bits' := by
  induction bits generalizing r s bits' with
  | nil =>
    obtain rfl := List.eq_nil_of_length_eq_zero hlen.symm
    rfl
  | cons b bits ih =>
    cases bits' with
    | nil => exact absurd hlen (by simp)
    | cons c bits' =>
      rw [List.zipWith_cons_cons, feed_cons, feed_cons, feed_cons, step_xor]
      exact ih _ _ (Nat.succ.inj hlen)

/-- The same input adds nothing to the sum of two registers. -/
theorem feed_xor_same (r s : BitVec w) (bits : List Bool) :
    feed poly r bits ^^^ feed poly s bits = feed poly (r ^^^ s)
      (List.replicate bits.length false) := by
  rw [← feed_xor r s rfl]
  congr 1
  induction bits with
  | nil => rfl
  | cons b bits ih =>
    rw [List.zipWith_cons_cons, ih, Bool.xor_self, List.length_cons, List.replicate_succ]

/-! ## What a register is cleared by

A register can be run backwards. So as many bits as it is wide clear it in one case only, that
they are the ones it holds. -/

/-- Without input a cleared register stays clear. -/
@[simp] theorem feed_zero_replicate (n : ℕ) : feed poly 0#w (List.replicate n false) = 0#w := by
  induction n with
  | zero => rfl
  | succ n ih =>
    rw [List.replicate_succ, feed_cons]
    have hstep : step poly 0#w false = 0#w := by simp [step]
    rw [hstep, ih]

/-- A register that is fed its own bits is only shifted. -/
theorem feed_own (reg : BitVec w) (n : ℕ) :
    feed poly reg ((List.range n).map reg.getLsbD) = reg >>> n := by
  induction n with
  | zero => simp
  | succ n ih =>
    rw [List.range_succ, List.map_append, feed_append, ih, List.map_singleton, feed_cons,
      feed_nil, step, BitVec.getLsbD_ushiftRight, Nat.add_zero, Bool.xor_self,
      if_neg Bool.false_ne_true,
        BitVec.shiftRight_add]

/-- Only a clear register is cleared by a shift, if the polynomial has its highest bit. -/
theorem eq_zero_of_step (hpoly : poly.msb = true) {reg : BitVec w} (h : step poly reg false = 0#w) :
    reg = 0#w := by
  rw [step, Bool.xor_false] at h
  split at h
  · -- the highest bit of what is left is clear, and that of the polynomial is not
    have hmsb := congrArg BitVec.msb h
    rw [BitVec.msb_xor, hpoly, BitVec.msb_ushiftRight] at hmsb
    simp at hmsb
  · next hlow =>
    refine BitVec.eq_of_getLsbD_eq fun i hi ↦ ?_
    rw [BitVec.getLsbD_zero]
    cases i with
    | zero => exact Bool.eq_false_iff.mpr hlow
    | succ i =>
      have hbit := congrArg (BitVec.getLsbD · i) h
      rw [BitVec.getLsbD_ushiftRight, BitVec.getLsbD_zero, Nat.add_comm] at hbit
      exact hbit

/-- **A register that is fed can be recovered.** -/
theorem feed_injective (hpoly : poly.msb = true) {r s : BitVec w} {bits : List Bool}
    (h : feed poly r bits = feed poly s bits) : r = s := by
  have hzero : ∀ (n : ℕ) (d : BitVec w), feed poly d (List.replicate n false) = 0#w → d = 0#w := by
    intro n
    induction n with
    | zero => exact fun d hd ↦ hd
    | succ n ih =>
      intro d hd
      rw [List.replicate_succ, feed_cons] at hd
      exact eq_zero_of_step hpoly (ih _ hd)
  have hsum : feed poly r bits ^^^ feed poly s bits =
      feed poly (r ^^^ s) (List.replicate bits.length false) := feed_xor_same r s bits
  rw [h, BitVec.xor_self] at hsum
  exact BitVec.xor_eq_zero_iff.mp (hzero _ _ hsum.symm)

/-- **`w` bits clear a register exactly if they are its own.** -/
theorem feed_eq_zero_iff (hpoly : poly.msb = true) (reg : BitVec w) {bits : List Bool}
    (hlen : bits.length = w) :
    feed poly reg bits = 0#w ↔ bits = (List.range w).map reg.getLsbD := by
  have hown (r : BitVec w) : feed poly r ((List.range w).map r.getLsbD) = 0#w := by
    rw [feed_own]
    exact BitVec.ushiftRight_eq_zero (Nat.le_refl w)
  constructor
  · intro h
    -- the register that has these bits is cleared by them as well
    obtain ⟨r, hr⟩ : ∃ r : BitVec w, bits = (List.range w).map r.getLsbD := by
      subst hlen
      refine ⟨BitVec.ofBoolListLE bits, List.ext_getElem (by simp) fun i hi _ ↦ ?_⟩
      rw [List.getElem_map, List.getElem_range, BitVec.getLsbD_ofBoolListLE]
      simp [hi]
    have hsame : feed poly reg bits = feed poly r bits := by
      rw [h, hr, hown]
    rw [feed_injective hpoly hsame, ← hr]
  · rintro rfl
    exact hown reg

/-! ## Bursts -/

/-- There is a bit, and all bits lie in a window of so many. -/
structure IsBurst (aWidth : ℕ) (bits : List Bool) : Prop where
  nonzero : true ∈ bits
  confined : ∃ p, ∀ i : ℕ, bits[i]? = some true → p ≤ i ∧ i < p + aWidth

/-- Bits that are not set are no input. -/
theorem eq_replicate_of_forall {bits : List Bool} (h : ∀ i : ℕ, bits[i]? ≠ some true) :
    bits = List.replicate bits.length false := by
  refine List.ext_getElem (by simp) fun i hi _ ↦ ?_
  have hbit := h i
  rw [List.getElem?_eq_getElem hi, Ne, Option.some_inj] at hbit
  rw [List.getElem_replicate]
  exact Bool.eq_false_iff.mpr hbit

/-- **A burst does not leave a cleared register clear**, wherever it is. -/
theorem feed_ne_zero_of_burst (hpoly : poly.msb = true) {bits : List Bool} (hlen : w ≤ bits.length)
    (hburst : IsBurst w bits) : feed poly 0#w bits ≠ 0#w := by
  obtain ⟨p, hconfined⟩ := hburst.confined
  -- a window of `w` bits that lies in the input
  obtain ⟨q, hq, hwindow⟩ : ∃ q, q + w ≤ bits.length ∧ ∀ i : ℕ, bits[i]? = some true → q ≤ i ∧
      i < q + w := by
    refine ⟨min p (bits.length - w), by omega, fun i hi ↦ ?_⟩
    have hlt := (List.getElem?_eq_some_iff.mp hi).1
    have := hconfined i hi
    omega
  have hbefore : bits.take q = List.replicate q false := by
    have hnone : ∀ i : ℕ, (bits.take q)[i]? ≠ some true := by
      intro i hi
      obtain ⟨hlt, -⟩ := List.getElem?_eq_some_iff.mp hi
      rw [List.getElem?_take, if_pos (by rw [List.length_take] at hlt; omega)] at hi
      have := hwindow i hi
      rw [List.length_take] at hlt
      omega
    have heq := eq_replicate_of_forall hnone
    rwa [List.length_take, Nat.min_eq_left (by omega)] at heq
  have hafter : bits.drop (q + w) = List.replicate (bits.length - (q + w)) false := by
    have hnone : ∀ i : ℕ, (bits.drop (q + w))[i]? ≠ some true := by
      intro i hi
      rw [List.getElem?_drop] at hi
      have := hwindow _ hi
      omega
    have heq := eq_replicate_of_forall hnone
    rwa [List.length_drop] at heq
  have hsplit : bits = bits.take q ++ ((bits.drop q).take w ++ bits.drop (q + w)) := by
    rw [← List.drop_drop, List.take_append_drop, List.take_append_drop]
  have hcut : ((bits.drop q).take w).length = w := by
    rw [List.length_take, List.length_drop]
    omega
  intro hclear
  rw [hsplit, feed_append, hbefore, feed_zero_replicate, feed_append, hafter] at hclear
  have hmiddle : feed poly 0#w ((bits.drop q).take w) = 0#w := by
    have hsame : feed poly (feed poly 0#w ((bits.drop q).take w))
        (List.replicate (bits.length - (q + w)) false) =
          feed poly 0#w (List.replicate (bits.length - (q + w)) false) := by
      rw [hclear, feed_zero_replicate]
    exact feed_injective hpoly hsame
  rw [feed_eq_zero_iff hpoly _ hcut] at hmiddle
  obtain ⟨i, hi⟩ := List.mem_iff_getElem?.mp hburst.nonzero
  have hin := hwindow i hi
  have hbit : ((bits.drop q).take w)[i - q]? = some true := by
    rw [List.getElem?_take, if_pos (by omega), List.getElem?_drop, Nat.add_sub_cancel' hin.1]
    exact hi
  rw [hmiddle] at hbit
  simp at hbit

end ShiftRegister
