import OpenDNP3.APL.Bytes

/-!
# The cyclic redundancy check

`CRC::PrecomputeCRC` and `CRC::CalcCRC` are the table-driven CRC of the library, and `DNPCrc` is
its instance for the link layer: the polynomial `0xA6BC`, started at zero and inverted at the end.
A block that `DNPCrc::AddCrc` has closed passes `DNPCrc::IsCorrectCRC` (`isCorrectCRC_addCrc`),
which is all that the framing needs to know about the check.
-/

set_option autoImplicit false

namespace OpenDNP3

namespace Crc

/-- One of the eight shifts that make a table entry. -/
def shiftBit (aPolynomial CRC : BitVec 32) : BitVec 32 :=
  if CRC &&& 0x0001 ≠ 0 then (CRC >>> 1) ^^^ aPolynomial else CRC >>> 1

/-- `CRC::PrecomputeCRC`: the table entry at an index. -/
def precomputeCRC (aPolynomial : BitVec 32) (i : Byte) : BitVec 32 :=
  (List.range 8).foldl (fun CRC _ ↦ shiftBit aPolynomial CRC) (i.setWidth 32)

/-- One turn of the loop of `CRC::CalcCRC`. -/
def update (apTable : Byte → BitVec 32) (CRC : BitVec 32) (b : Byte) : BitVec 32 :=
  apTable (((CRC ^^^ b.setWidth 32) &&& 0xFF).setWidth 8) ^^^ (CRC >>> 8)

/-- `CRC::CalcCRC`. -/
def calcCRC (aInput : List Byte) (apTable : Byte → BitVec 32) (aStart : BitVec 32)
    (aInvert : Bool) : BitVec 32 :=
  let CRC := aInput.foldl (update apTable) aStart
  if aInvert then ~~~CRC &&& 0xFFFF else CRC

end Crc

namespace DNPCrc

/-- The table `DNPCrc::InitCrcTable` fills. -/
def crcTable : Byte → BitVec 32 := Crc.precomputeCRC 0xA6BC

/-- `DNPCrc::CalcCrc`. -/
def calcCrc (aInput : List Byte) : BitVec 32 := Crc.calcCRC aInput crcTable 0x0000 true

/-- `DNPCrc::AddCrc`: the block with its CRC appended, least significant octet first. -/
def addCrc (aInput : List Byte) : List Byte :=
  let crc := calcCrc aInput
  aInput ++ [(crc &&& 0xFF).setWidth 8, ((crc >>> 8) &&& 0xFF).setWidth 8]

/-- `DNPCrc::IsCorrectCRC`: the `aLength` octets at the start of the buffer are followed by their
CRC. -/
def isCorrectCRC (aInput : List Byte) (aLength : ℕ) : Bool :=
  calcCrc (aInput.take aLength) == (UInt16LE.read (aInput.drop aLength)).setWidth 32

@[simp] theorem length_addCrc (bs : List Byte) : (addCrc bs).length = bs.length + 2 := by
  simp [addCrc]

/-- A CRC fits in the two octets it is sent in. -/
theorem calcCrc_lt (bs : List Byte) : (calcCrc bs).toNat < 65536 := by
  simp only [calcCrc, Crc.calcCRC, if_true, BitVec.toNat_and]
  exact Nat.lt_of_le_of_lt Nat.and_le_right (by decide)

/-- The two octets `addCrc` appends are the CRC, written as a 16-bit integer. -/
theorem addCrc_eq (bs : List Byte) :
    addCrc bs = bs ++ UInt16LE.write ((calcCrc bs).setWidth 16) := by
  simp only [addCrc, UInt16LE.write]
  congr 2
  · rw [show (0xFF : BitVec 32) = 255#32 from rfl, show (0xFF : BitVec 16) = 255#16 from rfl,
      setWidth_and_255 _ (by decide), setWidth_and_255 _ (by decide),
      BitVec.setWidth_setWidth_of_le _ (by decide)]
  · rw [show (0xFF : BitVec 32) = 255#32 from rfl, show (0xFF : BitVec 16) = 255#16 from rfl,
      setWidth_and_255 _ (by decide), setWidth_and_255 _ (by decide)]
    congr 1
    apply BitVec.eq_of_getLsbD_eq
    intro i hi
    simp [hi, show 8 + i < 16 by omega]

/-- **A closed block passes the check**, whatever follows it. -/
theorem isCorrectCRC_addCrc (bs cs : List Byte) :
    isCorrectCRC (addCrc bs ++ cs) bs.length = true := by
  rw [isCorrectCRC, addCrc_eq, List.append_assoc, List.take_left, List.drop_left,
    UInt16LE.read_write_append, beq_iff_eq]
  apply BitVec.eq_of_toNat_eq
  have h := calcCrc_lt bs
  rw [BitVec.toNat_setWidth, BitVec.toNat_setWidth, Nat.mod_eq_of_lt h,
    Nat.mod_eq_of_lt (by omega)]

/-- The check looks at the block and its CRC only. -/
theorem isCorrectCRC_append {bs : List Byte} {n : ℕ} (cs : List Byte) (h : n + 2 ≤ bs.length) :
    isCorrectCRC (bs ++ cs) n = isCorrectCRC bs n := by
  rw [isCorrectCRC, isCorrectCRC, List.take_append_of_le_length (by omega),
    List.drop_append_of_le_length (by omega),
    UInt16LE.read_append _ (by rw [List.length_drop]; omega)]

end DNPCrc

end OpenDNP3
