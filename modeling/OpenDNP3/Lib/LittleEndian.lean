import Mathlib.Algebra.Ring.Int.Defs
import Mathlib.Algebra.Ring.Nat
import Mathlib.Data.List.Basic

/-!
# Integers in a record of octets

A record is a list of octets, and a field of it is so many of them from a position on.  An integer
is put into a field least significant octet first, modulo what the field can hold, and is taken out
again as a number without a sign or in two's complement.

* `encode`, `decode` — the octets of an integer, and the number that octets are.
* `splice`, `slice` — a record with some of its octets replaced, and some of its octets.
* `slice_splice_self`, `slice_splice_of_disjoint` — a field holds what was put into it last; what is
  put into another one does not matter.
-/

set_option autoImplicit false

namespace LittleEndian

/-! ## Integers -/

/-- The octets of an integer, as many as are asked for. -/
def encode : (n : ℕ) → ℤ → List (BitVec 8)
  | 0, _ => []
  | n + 1, v => BitVec.ofInt 8 v :: encode n (v / 256)

/-- The number that octets are. -/
def decode : List (BitVec 8) → ℕ
  | [] => 0
  | b :: bs => b.toNat + 256 * decode bs

@[simp] theorem length_encode (n : ℕ) (v : ℤ) : (encode n v).length = n := by
  induction n generalizing v with
  | zero => rfl
  | succ n ih => rw [encode, List.length_cons, ih]

/-- A remainder, digit by digit. -/
theorem emod_mul (v : ℤ) {m : ℤ} (hm : 0 < m) : v % (256 * m) = v % 256 + 256 * (v / 256 % m) := by
  have hnonneg := Int.emod_nonneg (v / 256) (Int.ne_of_gt hm)
  have hlt := Int.emod_lt_of_pos (v / 256) hm
  have hsplit : v = v % 256 + 256 * (v / 256 % m) + 256 * m * (v / 256 / m) := by
    have hdigits := Int.emod_add_mul_ediv (v / 256) m
    rw [Int.mul_assoc]
    omega
  calc
    v % (256 * m) = (v % 256 + 256 * (v / 256 % m) + 256 * m * (v / 256 / m)) % (256 * m) := by
      rw [← hsplit]
    _ = (v % 256 + 256 * (v / 256 % m)) % (256 * m) := Int.add_mul_emod_self_left _ _ _
    _ = v % 256 + 256 * (v / 256 % m) := Int.emod_eq_of_lt (by omega) (by omega)

/-- An integer comes back modulo what so many octets can hold. -/
theorem decode_encode (n : ℕ) (v : ℤ) : (decode (encode n v) : ℤ) = v % 256 ^ n := by
  induction n generalizing v with
  | zero => rw [Int.pow_zero, Int.emod_one]; rfl
  | succ n ih =>
    have hoctet : ((BitVec.ofInt 8 v).toNat : ℤ) = v % 256 := by
      rw [BitVec.toNat_ofInt]
      exact Int.toNat_of_nonneg (Int.emod_nonneg v (by decide))
    have hpow : (256 : ℤ) ^ (n + 1) = 256 * 256 ^ n := Int.pow_succ' 256 n
    rw [encode, decode, Int.natCast_add, Int.natCast_mul, hoctet, ih, hpow]
    exact (emod_mul v (Int.pow_pos (by decide))).symm

/-- **An integer without a sign comes back**, if the octets can hold it. -/
theorem decode_encode_of_lt {n : ℕ} {v : ℤ} (hnonneg : 0 ≤ v) (hlt : v < 256 ^ n) :
    (decode (encode n v) : ℤ) = v := by
  rw [decode_encode, Int.emod_eq_of_lt hnonneg hlt]

/-- **An integer with a sign comes back**, if the octets can hold it. -/
theorem bmod_decode_encode {n : ℕ} {v : ℤ} (hle : -256 ^ n ≤ v * 2) (hlt : v * 2 < 256 ^ n) :
    Int.bmod (decode (encode n v)) (256 ^ n) = v := by
  have hcast : ((256 ^ n : ℕ) : ℤ) = 256 ^ n := Int.natCast_pow 256 n
  rw [decode_encode, ← hcast, Int.emod_bmod]
  exact Int.bmod_eq_of_le_mul_two (by rw [hcast]; exact hle) (by rw [hcast]; exact hlt)

/-! ## Fields -/

variable {α : Type}

/-- So many of the elements, from a position on. -/
def slice (l : List α) (pos n : ℕ) : List α := (l.drop pos).take n

/-- The list with other elements from a position on. -/
def splice (l : List α) (pos : ℕ) (bs : List α) : List α := l.take pos ++ bs ++ l.drop
    (pos + bs.length)

/-- Nothing is added to a record. -/
theorem length_splice {l bs : List α} {pos : ℕ} (h : pos + bs.length ≤ l.length) :
    (splice l pos bs).length = l.length := by
  simp [splice]
  omega

theorem getElem?_splice {l bs : List α} {pos : ℕ} (h : pos + bs.length ≤ l.length) (i : ℕ) :
    (splice l pos bs)[i]? = if pos ≤ i ∧ i < pos + bs.length then bs[i - pos]? else l[i]? := by
  have hpos : (l.take pos).length = pos := List.length_take_of_le (by omega)
  rw [splice, List.append_assoc]
  by_cases hlt : i < pos
  · rw [if_neg (by omega), List.getElem?_append_left (by omega), List.getElem?_take_of_lt hlt]
  · rw [List.getElem?_append_right (by omega), hpos]
    by_cases hin : i < pos + bs.length
    · rw [if_pos ⟨by omega, hin⟩, List.getElem?_append_left (by omega)]
    · rw [if_neg (by omega), List.getElem?_append_right (by omega), List.getElem?_drop]
      congr 1
      omega

theorem getElem?_slice (l : List α) (pos n i : ℕ) : (slice l pos n)[i]? = if i < n then l[pos + i]?
    else none := by
  rw [slice, List.getElem?_take, List.getElem?_drop]

/-- A field holds what was put into it. -/
theorem slice_splice_self {l bs : List α} {pos : ℕ} (h : pos + bs.length ≤ l.length) :
    slice (splice l pos bs) pos bs.length = bs := by
  refine List.ext_getElem? fun i ↦ ?_
  rw [getElem?_slice]
  by_cases hi : i < bs.length
  · rw [if_pos hi, getElem?_splice h, if_pos (by omega), Nat.add_sub_cancel_left]
  · rw [if_neg hi, List.getElem?_eq_none (by omega)]

/-- What is put into one field is not seen in another one. -/
theorem slice_splice_of_disjoint {l bs : List α} {pos pos' n : ℕ} (h : pos + bs.length ≤ l.length)
    (hdisjoint : pos' + n ≤ pos ∨ pos + bs.length ≤ pos') : slice (splice l pos bs) pos' n =
    slice l pos' n := by
  refine List.ext_getElem? fun i ↦ ?_
  rw [getElem?_slice, getElem?_slice]
  by_cases hi : i < n
  · rw [if_pos hi, if_pos hi, getElem?_splice h, if_neg (by omega)]
  · rw [if_neg hi, if_neg hi]

end LittleEndian
