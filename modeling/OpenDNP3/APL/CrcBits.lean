import OpenDNP3.APL.Crc
import OpenDNP3.Lib.ShiftRegister

/-!
# The cyclic redundancy check, bit by bit

`CRC::CalcCRC` looks up eight shifts at a time in the table of `CRC::PrecomputeCRC`.  Here it is
brought back to the shift register whose shifts the table holds: the octets go through the register
one bit at a time, the lowest bit of each octet first, which is the order they are transmitted in.

* `Crc.calcCRC_eq_serialCRC` — **the table computes what the register does**, for each polynomial
  and start value of 16 bits.
* `DNPCrc.isCorrectCRC_zipWith_iff` — an error is not noticed exactly if the polynomial divides it.
* `DNPCrc.isCorrectCRC_of_burst` — **an error that lies within 16 consecutive bits is noticed**,
  wherever in the block or its CRC it is.
-/

set_option autoImplicit false

namespace OpenDNP3

open ShiftRegister (step feed IsBurst)

/-- The bits of an octet, the lowest first. -/
def octetBits (b : Byte) : List Bool := (List.range 8).map b.getLsbD

/-- The bits of octets, in the order they are transmitted in. -/
def transmittedBits (bs : List Byte) : List Bool := bs.flatMap octetBits

@[simp] theorem length_octetBits (b : Byte) : (octetBits b).length = 8 := by
  simp [octetBits]

@[simp] theorem transmittedBits_cons (b : Byte) (bs : List Byte) :
    transmittedBits (b :: bs) = octetBits b ++ transmittedBits bs := rfl

@[simp] theorem transmittedBits_append (bs cs : List Byte) :
    transmittedBits (bs ++ cs) = transmittedBits bs ++ transmittedBits cs :=
  List.flatMap_append

@[simp] theorem length_transmittedBits (bs : List Byte) : (transmittedBits bs).length =
    8 * bs.length := by
  induction bs with
  | nil => rfl
  | cons b bs ih =>
    rw [transmittedBits_cons, List.length_append, ih, length_octetBits, List.length_cons]; omega

theorem octetBits_xor (b c : Byte) : octetBits (b ^^^ c) = List.zipWith (· ^^ ·) (octetBits b)
    (octetBits c) := by
  rw [octetBits, octetBits, octetBits, List.zipWith_map_left, List.zipWith_map_right,
    List.zipWith_self]
  simp

/-- Errors in octets are errors in the bits that are transmitted. -/
theorem transmittedBits_zipWith {bs es : List Byte} (hlen : bs.length = es.length) :
    transmittedBits (List.zipWith (· ^^^ ·) bs es) =
      List.zipWith (· ^^ ·) (transmittedBits bs) (transmittedBits es) := by
  induction bs generalizing es with
  | nil => rfl
  | cons b bs ih =>
    obtain ⟨e, es, rfl⟩ := List.exists_cons_of_length_eq_add_one hlen.symm
    rw [List.zipWith_cons_cons, transmittedBits_cons, transmittedBits_cons, transmittedBits_cons,
      List.zipWith_append (by simp), octetBits_xor, ih (Nat.succ.inj hlen)]

/-- Errors in the two octets of an integer are errors in the integer. -/
theorem read_zipWith {bs es : List Byte} (hbs : bs.length = 2) (hes : es.length = 2) :
    UInt16LE.read (List.zipWith (· ^^^ ·) bs es) = UInt16LE.read bs ^^^ UInt16LE.read es := by
  match bs, es, hbs, hes with
  | [b, c], [d, e], _, _ =>
    refine BitVec.eq_of_getLsbD_eq fun i hi ↦ ?_
    by_cases h : i < 8
    · simp [UInt16LE.read, h, hi]
    · simp [UInt16LE.read, h, hi, BitVec.getLsbD_of_ge _ i (Nat.le_of_not_lt h)]

/-- The two octets of an integer are transmitted as its bits, the lowest first. -/
theorem transmittedBits_eq_read {es : List Byte} (hlen : es.length = 2) :
    transmittedBits es = (List.range 16).map (UInt16LE.read es).getLsbD := by
  obtain ⟨b, es, rfl⟩ := List.exists_cons_of_length_eq_add_one hlen
  obtain ⟨c, es, rfl⟩ := List.exists_cons_of_length_eq_add_one (Nat.succ.inj hlen)
  obtain rfl := List.eq_nil_of_length_eq_zero (Nat.succ.inj (Nat.succ.inj hlen))
  refine List.ext_getElem (by simp) fun i hi _ ↦ ?_
  rw [length_transmittedBits, hlen] at hi
  by_cases h : i < 8
  · simp [octetBits, UInt16LE.read, h, hi]
  · simp [octetBits, UInt16LE.read, List.getElem_append, h, hi, BitVec.getLsbD_of_ge b i (by omega)]
    intro hge
    omega

namespace Crc

/-! ## The table

The loop of the source shifts eight bits at a time, by a table of what eight steps do to an
octet. -/

theorem and_one_ne_zero_iff (CRC : BitVec 32) : CRC &&& 0x0001 ≠ 0 ↔ CRC.getLsbD 0 = true := by
  have hone (i : ℕ) : (1#32).getLsbD i = decide (i = 0) := by simp [BitVec.getLsbD_one]
  constructor
  · intro h
    by_contra hlow
    refine h (BitVec.eq_of_getLsbD_eq fun i _ ↦ ?_)
    cases i with
    | zero => simpa using hlow
    | succ i => simp [hone]
  · intro hlow h
    have hbit := congrArg (BitVec.getLsbD · 0) h
    rw [BitVec.getLsbD_and, hlow] at hbit
    simp at hbit

theorem shiftBit_eq (aPolynomial CRC : BitVec 32) : shiftBit aPolynomial CRC =
    step aPolynomial CRC false := by
  simp only [shiftBit, step, and_one_ne_zero_iff, Bool.xor_false]

/-- An entry of the table is what eight shifts make of its index. -/
theorem precomputeCRC_eq (aPolynomial : BitVec 32) (i : Byte) :
    precomputeCRC aPolynomial i = feed aPolynomial (i.setWidth 32) (List.replicate 8 false) := by
  rw [precomputeCRC, feed]
  simp only [shiftBit_eq]
  rfl

/-- What is above the lowest octet is shifted down. -/
theorem feed_of_octet_clear {aPolynomial CRC : BitVec 32} (h : ∀ i < 8, CRC.getLsbD i = false) :
    feed aPolynomial CRC (List.replicate 8 false) = CRC >>> 8 := by
  rw [← @ShiftRegister.feed_own _ aPolynomial]
  congr 1
  refine List.ext_getElem (by simp) fun i hi _ ↦ ?_
  rw [List.length_replicate] at hi
  rw [List.getElem_replicate, List.getElem_map, List.getElem_range, h i hi]

/-- **A turn of the loop shifts an octet in.**  Only the lowest octet of the sum meets the table,
and the rest is shifted down. -/
theorem update_precomputeCRC (aPolynomial CRC : BitVec 32) (b : Byte) :
    update (precomputeCRC aPolynomial) CRC b = feed aPolynomial CRC (octetBits b) := by
  set x := CRC ^^^ b.setWidth 32 with hx
  set low := ((x &&& 0xFF).setWidth 8).setWidth 32 with hlow
  have hlowBits (i : ℕ) : low.getLsbD i = (decide (i < 8) && x.getLsbD i) := by
    rw [hlow, show (0xFF : BitVec 32) = 255#32 from rfl, setWidth_and_255 _ (by decide)]
    by_cases h : i < 8
    · simp [h, show i < 32 by omega]
    · simp [h]
  have hclear : ∀ i < 8, (low ^^^ x).getLsbD i = false := by
    intro i hi
    simp [hlowBits, hi]
  have hrest : (low ^^^ x) >>> 8 = CRC >>> 8 := by
    refine BitVec.eq_of_getLsbD_eq fun i _ ↦ ?_
    simp [hlowBits, hx, show ¬8 + i < 8 by omega]
  -- what the octet itself leaves in the register
  have hown : feed aPolynomial (b.setWidth 32) (octetBits b) = 0#32 := by
    have hbits : octetBits b = (List.range 8).map (b.setWidth 32).getLsbD := by
      refine List.map_congr_left fun i hi ↦ ?_
      have := List.mem_range.mp hi
      simp [show i < 32 by omega]
    rw [hbits, ShiftRegister.feed_own]
    refine BitVec.eq_of_getLsbD_eq fun i _ ↦ ?_
    simp
  calc
    update (precomputeCRC aPolynomial) CRC b = precomputeCRC aPolynomial
      ((x &&& 0xFF).setWidth 8) ^^^ CRC >>> 8 := rfl
    _ = feed aPolynomial low (List.replicate 8 false) ^^^ feed aPolynomial (low ^^^ x)
        (List.replicate 8 false) := by
      rw [precomputeCRC_eq, feed_of_octet_clear hclear, hrest]
    _ = feed aPolynomial x (List.replicate 8 false) := by
      rw [ShiftRegister.feed_xor_same, ← BitVec.xor_assoc, BitVec.xor_self, BitVec.zero_xor,
        List.length_replicate]
    _ = feed aPolynomial x (List.replicate 8 false) ^^^ feed aPolynomial (b.setWidth 32)
        (octetBits b) := by
      rw [hown, BitVec.xor_zero]
    _ = feed aPolynomial CRC (octetBits b) := by
      rw [← ShiftRegister.feed_xor _ _ (by simp), hx, BitVec.xor_assoc, BitVec.xor_self,
        BitVec.xor_zero]
      congr 1
      refine List.ext_getElem (by simp) fun i hi _ ↦ ?_
      rw [List.getElem_zipWith, List.getElem_replicate, Bool.false_xor]

/-! ## Sixteen bits in a register of thirty-two

The source computes with an `unsigned int`, of which the lower half is what a register of sixteen
bits would hold. -/

/-- A shift does not use the upper half of the register. -/
theorem step_setWidth (aPolynomial CRC : BitVec 16) (b : Bool) :
    step (aPolynomial.setWidth 32) (CRC.setWidth 32) b = (step aPolynomial CRC b).setWidth 32 := by
  have hlow : (CRC.setWidth 32).getLsbD 0 = CRC.getLsbD 0 := by simp
  refine BitVec.eq_of_getLsbD_eq fun i hi ↦ ?_
  rw [step, step, hlow]
  split <;> simp [hi]

theorem feed_setWidth (aPolynomial CRC : BitVec 16) (bits : List Bool) :
    feed (aPolynomial.setWidth 32) (CRC.setWidth 32) bits =
      (feed aPolynomial CRC bits).setWidth 32 := by
  induction bits generalizing CRC with
  | nil => rfl
  | cons b bits ih => rw [ShiftRegister.feed_cons, step_setWidth, ih, ShiftRegister.feed_cons]

/-- The loop of `CRC::CalcCRC` shifts all octets in. -/
theorem foldl_update (aInput : List Byte) (aPolynomial aStart : BitVec 16) :
    aInput.foldl (update (precomputeCRC (aPolynomial.setWidth 32))) (aStart.setWidth 32) =
      (feed aPolynomial aStart (transmittedBits aInput)).setWidth 32 := by
  induction aInput generalizing aStart with
  | nil => rfl
  | cons b bs ih =>
    rw [List.foldl_cons, update_precomputeCRC, feed_setWidth, ih, transmittedBits_cons,
      ShiftRegister.feed_append]

/-- The check, bit by bit: the octets are shifted through the reflected polynomial, the lowest bit
of each first. -/
def serialCRC (aInput : List Byte) (aPolynomial aStart : BitVec 16) (aInvert : Bool) : BitVec 16 :=
  let CRC := feed aPolynomial aStart (transmittedBits aInput)
  if aInvert then ~~~CRC else CRC

/-- Within sixteen bits, inverting is masked. -/
theorem not_and_setWidth (CRC : BitVec 16) : ~~~CRC.setWidth 32 &&& 0xFFFF =
    (~~~CRC).setWidth 32 := by
  have hmask : (0xFFFF : BitVec 32) = (BitVec.allOnes 16).setWidth 32 := by decide
  refine BitVec.eq_of_getLsbD_eq fun i hi ↦ ?_
  rw [BitVec.getLsbD_and, hmask, BitVec.getLsbD_setWidth, BitVec.getLsbD_allOnes]
  by_cases h : i < 16 <;> simp [hi, h]

/-- **The table-driven CRC is the bit-serial one**, for each polynomial and start value of sixteen
bits. -/
theorem calcCRC_eq_serialCRC (aInput : List Byte) (aPolynomial aStart : BitVec 16)
    (aInvert : Bool) :
    calcCRC aInput (precomputeCRC (aPolynomial.setWidth 32)) (aStart.setWidth 32) aInvert =
      (serialCRC aInput aPolynomial aStart aInvert).setWidth 32 := by
  rw [calcCRC, foldl_update, serialCRC]
  cases aInvert with
  | false => rfl
  | true => exact not_and_setWidth _

end Crc

namespace DNPCrc

/-! ## Errors -/

/-- The polynomial of the link layer. -/
def polynomial : BitVec 16 := 0xA6BC

theorem calcCrc_eq (bs : List Byte) :
    calcCrc bs = (~~~feed polynomial 0#16 (transmittedBits bs)).setWidth 32 := by
  rw [← Crc.not_and_setWidth, ← Crc.foldl_update]
  rfl

/-- A block passes the check if its CRC octets are the inverted remainder. -/
theorem isCorrectCRC_iff (bs : List Byte) (n : ℕ) : isCorrectCRC bs n = true ↔
    ~~~feed polynomial 0#16 (transmittedBits (bs.take n)) = UInt16LE.read (bs.drop n) := by
  rw [isCorrectCRC, beq_iff_eq, calcCrc_eq]
  constructor
  · intro h
    simpa using congrArg (BitVec.setWidth 16) h
  · intro h
    rw [h]

/-- **An error is not noticed exactly if the polynomial divides it**, that is if the register is
clear after it. -/
theorem isCorrectCRC_zipWith_iff (bs : List Byte) {es : List Byte}
    (hlen : es.length = bs.length + 2) :
    isCorrectCRC (List.zipWith (· ^^^ ·) (addCrc bs) es) bs.length = true ↔
      feed polynomial 0#16 (transmittedBits es) = 0#16 := by
  have hcrc := addCrc_eq bs
  set crc := UInt16LE.write ((calcCrc bs).setWidth 16) with hcrcDef
  have hcrcLen : crc.length = 2 := rfl
  have hcrcRead : UInt16LE.read crc = ~~~feed polynomial 0#16 (transmittedBits bs) := by
    have h := UInt16LE.read_write_append ((calcCrc bs).setWidth 16) []
    rw [List.append_nil, ← hcrcDef, calcCrc_eq] at h
    rw [h]
    simp
  -- the error in the block and the error in the CRC
  set e := es.take bs.length with he
  set f := es.drop bs.length with hf
  have hsplit : es = e ++ f := (List.take_append_drop _ _).symm
  have heLen : bs.length = e.length := by rw [he, List.length_take]; omega
  have hfLen : f.length = 2 := by rw [hf, List.length_drop]; omega
  have hreadXor := read_zipWith hcrcLen hfLen
  have hzipLen : (List.zipWith (· ^^^ ·) bs e).length = bs.length := by
    rw [List.length_zipWith, heLen, Nat.min_self]
  have hfeed : feed polynomial 0#16 (transmittedBits (List.zipWith (· ^^^ ·) bs e)) =
      feed polynomial 0#16 (transmittedBits bs) ^^^ feed polynomial 0#16 (transmittedBits e) := by
    rw [transmittedBits_zipWith heLen, ← ShiftRegister.feed_xor 0#16 0#16 (by simp [heLen])]
    rfl
  rw [isCorrectCRC_iff, hcrc, hsplit, List.zipWith_append heLen, List.take_left' hzipLen,
    List.drop_left' hzipLen, hreadXor, hfeed, hcrcRead, BitVec.not_xor_left, BitVec.xor_right_inj,
    transmittedBits_append, ShiftRegister.feed_append,
    ShiftRegister.feed_eq_zero_iff (by decide) _ (by simp [hfLen]), transmittedBits_eq_read hfLen,
    List.map_inj_left]
  constructor
  · rintro h i -
    rw [h]
  · intro h
    exact BitVec.eq_of_getLsbD_eq fun i hi ↦ (h i (List.mem_range.mpr hi)).symm

/-- **A burst is noticed**: whatever the block, an error that is confined to sixteen consecutive
bits of the block and its CRC fails the check. -/
theorem isCorrectCRC_of_burst (bs es : List Byte) (hlen : es.length = bs.length + 2)
    (hburst : IsBurst 16 (transmittedBits es)) :
    isCorrectCRC (List.zipWith (· ^^^ ·) (addCrc bs) es) bs.length = false := by
  rw [Bool.eq_false_iff, Ne, isCorrectCRC_zipWith_iff bs hlen]
  refine ShiftRegister.feed_ne_zero_of_burst (by decide) ?_ hburst
  rw [length_transmittedBits]
  omega

/-- Sixteen bits of a link status frame are inverted, across two octets. -/
theorem isCorrectCRC_of_burst_status :
    isCorrectCRC (List.zipWith (· ^^^ ·) (addCrc [0x05, 0x64, 0x05, 0x0B, 0x01, 0x00, 0x02, 0x00])
      [0, 0, 0, 0xF0, 0xFF, 0x0F, 0, 0, 0, 0]) 8 = false :=
  isCorrectCRC_of_burst _ _ rfl ⟨by decide, 28, by
    intro i hi
    obtain ⟨hlt, -⟩ := List.getElem?_eq_some_iff.mp hi
    have hall : ∀ j < 80, (transmittedBits [0, 0, 0, 0xF0, 0xFF, 0x0F, 0, 0, 0, 0])[j]? =
      some true →
        28 ≤ j ∧ j < 28 + 16 := by decide +kernel
    exact hall i (by simpa using hlt) hi⟩

end DNPCrc

end OpenDNP3
