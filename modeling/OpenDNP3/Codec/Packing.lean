import Mathlib.Data.List.Pairwise
import OpenDNP3.APL.Bytes
import OpenDNP3.Lib.LittleEndian

/-!
# Packing the fields of an object

`PackingUnpacking.h` has a class for each kind of integer in an object, and `Pack` puts one of them
at an offset.  An object is written by setting its fields one after the other, into octets that may
hold anything before, and it is read by getting them.

* `Packer` — the classes, with what they write and read; `Packer.read_write` is that what a class
  can hold comes back.
* `Pack.get_setAll` — of fields that do not overlap, each holds what it was set to, in whichever
  order they are set.
-/

set_option autoImplicit false

namespace OpenDNP3

open LittleEndian

/-! ## Packers -/

/-- The integer classes of `PackingUnpacking.h`. -/
inductive Packer where
  | uInt8 | uInt16LE | int16LE | uInt32LE | int32LE | uInt48LE
  deriving DecidableEq, Repr

namespace Packer

/-- `Size` -/
def size : Packer → ℕ
  | .uInt8 => 1
  | .uInt16LE | .int16LE => 2
  | .uInt32LE | .int32LE => 4
  | .uInt48LE => 6

/-- `Max` -/
def max : Packer → ℤ
  | .uInt8 => 0xFF
  | .uInt16LE => 0xFFFF
  | .int16LE => 0x7FFF
  | .uInt32LE => 0xFFFFFFFF
  | .int32LE => 0x7FFFFFFF
  | .uInt48LE => 281474976710655

/-- `Min`, where there is one; `UInt48LE` has none, and takes no negative value back. -/
def min : Packer → ℤ
  | .int16LE => -0x8000
  | .int32LE => -0x80000000
  | _ => 0

/-- `Write`, of a value that is converted to the type of the class before. -/
def write (t : Packer) (aValue : ℤ) : List Byte :=
  match t with
  | .uInt48LE => encode 6 (if aValue > Packer.uInt48LE.max then Packer.uInt48LE.max else aValue)
  | _ => encode t.size aValue

/-- `Read` -/
def read (t : Packer) (apStart : List Byte) : ℤ :=
  match t with
  | .int16LE => Int.bmod (decode (apStart.take 2)) (256 ^ 2)
  | .int32LE => Int.bmod (decode (apStart.take 4)) (256 ^ 4)
  | _ => decode (apStart.take t.size)

/-- The class can hold a value. -/
def Holds (t : Packer) (aValue : ℤ) : Prop := t.min ≤ aValue ∧ aValue ≤ t.max

instance (t : Packer) (v : ℤ) : Decidable (t.Holds v) := inferInstanceAs (Decidable (_ ∧ _))

@[simp] theorem length_write (t : Packer) (v : ℤ) : (t.write v).length = t.size := by
  cases t <;> exact length_encode _ _

/-- **What a class can hold comes back.** -/
theorem read_write {t : Packer} {v : ℤ} (h : t.Holds v) : t.read (t.write v) = v := by
  obtain ⟨hmin, hmax⟩ := h
  have hunsigned {n : ℕ} (hnonneg : 0 ≤ v) (hlt : v < 256 ^ n) :
      (decode ((encode n v).take n) : ℤ) = v := by
    rw [List.take_of_length_le (Nat.le_of_eq (length_encode n v)), decode_encode_of_lt hnonneg hlt]
  have hsigned {n : ℕ} (hle : -256 ^ n ≤ v * 2) (hlt : v * 2 < 256 ^ n) :
      Int.bmod (decode ((encode n v).take n)) (256 ^ n) = v := by
    rw [List.take_of_length_le (Nat.le_of_eq (length_encode n v)), bmod_decode_encode hle hlt]
  cases t with
  | uInt8 => exact hunsigned (n := 1) hmin (Int.lt_of_le_of_lt hmax (by decide))
  | uInt16LE => exact hunsigned (n := 2) hmin (Int.lt_of_le_of_lt hmax (by decide))
  | uInt32LE => exact hunsigned (n := 4) hmin (Int.lt_of_le_of_lt hmax (by decide))
  | int16LE =>
    simp only [min, max] at hmin hmax
    exact hsigned (n := 2) (by omega) (by omega)
  | int32LE =>
    simp only [min, max] at hmin hmax
    exact hsigned (n := 4) (by omega) (by omega)
  | uInt48LE =>
    rw [write, if_neg (Int.not_lt.mpr hmax)]
    exact hunsigned (n := 6) hmin (Int.lt_of_le_of_lt hmax (by decide))

end Packer

/-! ## Fields

A field is a place in the octets of an object. Fields that do not overlap can be written in any
order. -/

/-- `Pack`: a class, and the offset of the field in the object. -/
structure Pack where
  packer : Packer
  pos : ℕ
  deriving DecidableEq, Repr

namespace Pack

/-- `Get` -/
def get (f : Pack) (apBuffer : List Byte) : ℤ := f.packer.read (slice apBuffer f.pos f.packer.size)

/-- `Set` -/
def set (f : Pack) (apBuffer : List Byte) (aValue : ℤ) : List Byte :=
    splice apBuffer f.pos (f.packer.write aValue)

/-- The end of the field. -/
def stop (f : Pack) : ℕ := f.pos + f.packer.size

/-- The fields have no octet in common. -/
def Disjoint (f g : Pack) : Prop := f.stop ≤ g.pos ∨ g.stop ≤ f.pos

instance (f g : Pack) : Decidable (f.Disjoint g) := inferInstanceAs (Decidable (_ ∨ _))

variable {p : List Byte}

theorem length_set {f : Pack} (h : f.stop ≤ p.length) (v : ℤ) : (f.set p v).length = p.length :=
  length_splice (by rwa [Packer.length_write])

theorem get_set_self {f : Pack} (h : f.stop ≤ p.length) {v : ℤ} (hv : f.packer.Holds v) :
    f.get (f.set p v) = v := by
  have hslice : slice (splice p f.pos (f.packer.write v)) f.pos (f.packer.write v).length =
      f.packer.write v :=
    slice_splice_self (by rwa [Packer.length_write])
  rw [Packer.length_write] at hslice
  rw [get, set, hslice, Packer.read_write hv]

theorem get_set_of_disjoint {f g : Pack} (h : f.stop ≤ p.length) (hfg : f.Disjoint g) (v : ℤ) :
    g.get (f.set p v) = g.get p := by
  rw [get, set, slice_splice_of_disjoint (by rwa [Packer.length_write])]
  · rfl
  · rw [Packer.length_write]
    exact hfg.symm

/-- Fields are set one after the other. -/
def setAll : List (Pack × ℤ) → List Byte → List Byte
  | [], p => p
  | a :: l, p => setAll l (a.1.set p a.2)

/-- The fields do not overlap, and are within so many octets. -/
def Apart (size : ℕ) (fs : List Pack) : Prop := fs.Pairwise Disjoint ∧ ∀ f ∈ fs, f.stop ≤ size

instance (size : ℕ) (fs : List Pack) : Decidable (Apart size fs) :=
    inferInstanceAs (Decidable (_ ∧ _))

theorem Apart.of_cons {size : ℕ} {f : Pack} {fs : List Pack} (h : Apart size (f :: fs)) :
    Apart size fs :=
  ⟨h.1.of_cons, fun g hg ↦ h.2 g (List.mem_cons_of_mem _ hg)⟩

theorem Apart.mono {m n : ℕ} {fs : List Pack} (h : Apart m fs) (hmn : m ≤ n) : Apart n fs :=
  ⟨h.1, fun f hf ↦ Nat.le_trans (h.2 f hf) hmn⟩

theorem length_setAll {l : List (Pack × ℤ)} (hl : Apart p.length (l.map (·.1))) :
    (setAll l p).length = p.length := by
  induction l generalizing p with
  | nil => rfl
  | cons a l ih =>
    have hset := length_set (hl.2 a.1 List.mem_cons_self) a.2
    rw [setAll, ih (hset ▸ hl.of_cons), hset]

/-- What is set elsewhere is not seen. -/
theorem get_setAll_of_disjoint {l : List (Pack × ℤ)} (hl : Apart p.length (l.map (·.1))) {g : Pack}
    (hg : ∀ a ∈ l, a.1.Disjoint g) : g.get (setAll l p) = g.get p := by
  induction l generalizing p with
  | nil => rfl
  | cons a l ih =>
    have hstop := hl.2 a.1 List.mem_cons_self
    rw [setAll, ih (length_set hstop a.2 ▸ hl.of_cons) fun b hb ↦ hg b (List.mem_cons_of_mem _ hb),
      get_set_of_disjoint hstop (hg a List.mem_cons_self)]

/-- **Of fields that do not overlap, each holds what it was set to.** -/
theorem get_setAll {l : List (Pack × ℤ)} (hl : Apart p.length (l.map (·.1))) {f : Pack} {v : ℤ}
    (ha : (f, v) ∈ l) (hv : f.packer.Holds v) : f.get (setAll l p) = v := by
  induction l generalizing p with
  | nil => cases ha
  | cons b l ih =>
    have hstop := hl.2 b.1 List.mem_cons_self
    have hrest : Apart (b.1.set p b.2).length (l.map (·.1)) := length_set hstop b.2 ▸ hl.of_cons
    rw [setAll]
    rcases List.mem_cons.mp ha with rfl | ha
    · rw [get_setAll_of_disjoint hrest, get_set_self hstop hv]
      intro b hb
      rcases (List.pairwise_cons.mp hl.1).1 b.1 (List.mem_map_of_mem hb) with h | h
      · exact .inr h
      · exact .inl h
    · exact ih hrest ha

end Pack

end OpenDNP3
