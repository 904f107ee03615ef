import Mathlib.Algebra.Group.Nat.Defs
import Mathlib.Data.List.Basic

/-!
# Octets and the little-endian integers of the wire

The integer packers of `PackingUnpacking.h` that the link layer uses: `Bit16LE`, which reads and
writes a 16-bit integer least significant octet first.  Sizes are natural numbers; only where one is
subtracted that may be too large does it matter that they are of type `size_t` (`sizeSub`).
-/

set_option autoImplicit false

namespace OpenDNP3

/-- An octet, `boost::uint8_t`. -/
abbrev Byte := BitVec 8

/-- `Bit16LE<T>::Read`: the 16-bit integer at the start of a buffer. -/
def UInt16LE.read (apStart : List Byte) : BitVec 16 :=
  (apStart.getD 0 0).setWidth 16 ||| ((apStart.getD 1 0).setWidth 16 <<< 8)

/-- `Bit16LE<T>::Write`: the two octets that `aValue` is written as. -/
def UInt16LE.write (aValue : BitVec 16) : List Byte :=
  [(aValue &&& 0xFF).setWidth 8, ((aValue >>> 8) &&& 0xFF).setWidth 8]

theorem UInt16LE.length_write (v : BitVec 16) : (UInt16LE.write v).length = 2 := rfl

/-- Cutting an integer down to an octet masks it. -/
theorem setWidth_and_255 {n : ℕ} (v : BitVec n) (h : 8 ≤ n) :
    (v &&& 255#n).setWidth 8 = v.setWidth 8 := by
  apply BitVec.eq_of_getLsbD_eq
  intro i hi
  have h255 : (255#n).getLsbD i = true := by
    have h1 : (255#8).getLsbD i = true := by revert i; decide
    rw [BitVec.getLsbD_ofNat] at h1 ⊢
    simp only [Bool.and_eq_true, decide_eq_true_eq] at h1 ⊢
    exact ⟨by omega, h1.2⟩
  simp [hi, h255]

/-- What was written is read back, whatever follows it. -/
theorem UInt16LE.read_write_append (v : BitVec 16) (bs : List Byte) :
    UInt16LE.read (UInt16LE.write v ++ bs) = v := by
  simp only [UInt16LE.read, UInt16LE.write, List.cons_append, List.getD_cons_zero,
    List.getD_cons_succ]
  rw [show (0xFF : BitVec 16) = 255#16 from rfl, setWidth_and_255 _ (by decide),
    setWidth_and_255 _ (by decide)]
  apply BitVec.eq_of_getLsbD_eq
  intro i hi
  by_cases h : i < 8
  · simp [h, hi]
  · have h1 : i - 8 < 8 := by omega
    have h2 : 8 + (i - 8) = i := by omega
    simp [h, hi, h1, h2]

/-- Reading looks at two octets only. -/
theorem UInt16LE.read_append {bs : List Byte} (cs : List Byte) (h : 2 ≤ bs.length) :
    UInt16LE.read (bs ++ cs) = UInt16LE.read bs := by
  match bs, h with
  | _ :: _ :: _, _ => rfl

/-! ## Sizes -/

/-- `std::numeric_limits<size_t>::max()` -/
@[irreducible] def sizeMax : ℕ := 2 ^ 64 - 1

theorem sizeMax_eq : sizeMax = 2 ^ 64 - 1 := by
  rw [sizeMax]

/-- The difference of two numbers of type `size_t`. -/
def sizeSub (a b : ℕ) : ℕ := (a + 2 ^ 64 - b) % 2 ^ 64

theorem sizeSub_of_le {a b : ℕ} (h : b ≤ a) (ha : a ≤ sizeMax) : sizeSub a b = a - b := by
  rw [sizeMax_eq] at ha
  rw [sizeSub, show a + 2 ^ 64 - b = a - b + 2 ^ 64 by omega, Nat.add_mod_right]
  exact Nat.mod_eq_of_lt (by omega)

end OpenDNP3
