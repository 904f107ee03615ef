import OpenDNP3.App.OutApdu
import OpenDNP3.App.ReadObjects
import OpenDNP3.Lib.LittleEndian

/-!
# A fragment as octets

What a fragment is on the wire: the application header, and block after block the object header and
the objects.  It is parsed by `APDU::Interpret`, and the iterators go through the objects of each
header again.

* `Block.octets`, `OutAPDU.octets` — the octets of a block and of a fragment.
* `Block.Formed` — what has to be true of a block for its header to say what is in it.
* `ObjectReadIterator.collect` — what a loop over the objects of a header gets: the index and the
  octets of each.
* `interpret_octets` — the parser finds the blocks, and `Noted` says what its headers are;
  `Block.Formed.collect_eq` — the iterator finds the objects.
* `readAs_of_formed` — both together: a fragment is read as it was written.
-/

set_option autoImplicit false

namespace OpenDNP3

open LittleEndian

/-! ## Numbers and bits -/

/-- `UInt8::Write`, `UInt16LE::Write` and `UInt32LE::Write` -/
def writeUInt (aSize aValue : ℕ) : List Byte := encode aSize aValue

@[simp] theorem length_writeUInt (aSize aValue : ℕ) : (writeUInt aSize aValue).length = aSize :=
    length_encode _ _

/-- What octets are read as does not depend on what stands around them. -/
theorem readUInt_append (pre bs post : List Byte) :
    readUInt (pre ++ (bs ++ post)) bs.length pre.length = decode bs := by
  induction bs generalizing pre with
  | nil => rfl
  | cons b bs ih =>
    have hrest := ih (pre ++ [b])
    have hget : (pre ++ (b :: bs ++ post)).getD pre.length 0 = b := by simp
    rw [List.append_assoc, List.length_append] at hrest
    rw [List.length_cons, readUInt, decode, hget]
    exact congrArg (b.toNat + 256 * ·) hrest

/-- **A number is read as it was written**, if it fits. -/
theorem readUInt_writeUInt (pre post : List Byte) {aSize aValue : ℕ} (h : aValue < 256 ^ aSize) :
    readUInt (pre ++ (writeUInt aSize aValue ++ post)) aSize pre.length = aValue := by
  have hread := readUInt_append pre (writeUInt aSize aValue) post
  rw [length_writeUInt] at hread
  have hcast : ((aValue : ℕ) : ℤ) < 256 ^ aSize := by exact_mod_cast h
  have hvalue := decode_encode_of_lt (Int.natCast_nonneg aValue) hcast
  rw [hread, writeUInt]
  exact_mod_cast hvalue

/-- The same, where the octets are known otherwise. -/
theorem readUInt_of_eq (pre post : List Byte) {aBuffer : List Byte} {aSize aPos aValue : ℕ}
    (h : aValue < 256 ^ aSize) (hpos : pre.length = aPos)
    (hbuffer : aBuffer = pre ++ (writeUInt aSize aValue ++ post)) :
    readUInt aBuffer aSize aPos = aValue := by
  rw [hbuffer, ← hpos, readUInt_writeUInt pre post h]

/-- The octets of a bit field, eight bits in each, the first one lowest. -/
def bitOctets (bits : List Bool) : List Byte :=
  if bits.length = 0 then []
  else (BitVec.ofBoolListLE (bits.take 8)).setWidth 8 :: bitOctets (bits.drop 8)
termination_by bits.length
decreasing_by rw [List.length_drop]; omega

/-- `BitfieldObject::StaticRead`, of the bit with a number. -/
def readBit (aBuffer : List Byte) (aPos aBit : ℕ) : Bool :=
    (aBuffer.getD (aPos + aBit / 8) 0).getLsbD (aBit % 8)

theorem length_bitOctets (bits : List Bool) : (bitOctets bits).length =
    bitfieldSize bits.length := by
  fun_induction bitOctets bits with
  | case1 bits h => rw [h]; rfl
  | case2 bits h ih =>
    rw [List.length_cons, ih, List.length_drop, bitfieldSize, bitfieldSize]
    split <;> split <;> omega

/-- **A bit is read as it was written.** -/
theorem readBit_bitOctets (pre post : List Byte) (bits : List Bool) {i : ℕ} (hi : i < bits.length) :
    readBit (pre ++ (bitOctets bits ++ post)) pre.length i = bits.getD i false := by
  fun_induction bitOctets bits generalizing pre i with
  | case1 bits h => omega
  | case2 bits h ih =>
    by_cases hlow : i < 8
    · have hdiv : i / 8 = 0 := by omega
      have hmod : i % 8 = i := Nat.mod_eq_of_lt hlow
      rw [readBit, hdiv, hmod]
      simp [hlow, List.getElem?_take_of_lt]
    · have hrest := ih (pre ++ [(BitVec.ofBoolListLE (bits.take 8)).setWidth 8]) (i := i - 8)
        (by rw [List.length_drop]; omega)
      rw [List.append_assoc, List.length_append, readBit] at hrest
      have hdiv : pre.length + i / 8 = pre.length + 1 + (i - 8) / 8 := by omega
      have hmod : i % 8 = (i - 8) % 8 := by omega
      rw [readBit, hdiv, hmod]
      refine hrest.trans ?_
      simp only [List.getD_eq_getElem?_getD, List.getElem?_drop]
      rw [show 8 + (i - 8) = i by omega]

/-! ## Blocks -/

/-- The value of a qualifier. -/
def QualifierCode.toNat (q : QualifierCode) : ℕ :=
  ((QualifierCode.values.find? fun p ↦ p.2 = q).map Prod.fst).getD 0xFF

theorem QualifierCode.toNat_lt (q : QualifierCode) : q.toNat < 256 := by
  cases q <;> decide

theorem QualifierCode.byteToQualifierCode_toNat (q : QualifierCode) :
    byteToQualifierCode q.toNat = q := by
  cases q <;> decide

/-- The two ends of a range are read as they were written. -/
theorem ObjectHeaderTypes.getRange_of_eq (t : ObjectHeaderTypes) (pre post : List Byte)
    {aBuffer : List Byte} {aPos : ℕ}
    {r : RangeInfo} (hle : r.start ≤ r.stop) (hlt : r.stop < 256 ^ t.fieldSize)
    (hpos : pre.length = aPos + 3)
    (hbuffer : aBuffer = pre ++
      (writeUInt t.fieldSize r.start ++ (writeUInt t.fieldSize r.stop ++ post))) :
    t.getRange aBuffer aPos = r := by
  have hstart := readUInt_of_eq pre _ (Nat.lt_of_le_of_lt hle hlt) hpos hbuffer
  have hstop : readUInt aBuffer t.fieldSize (aPos + 3 + t.fieldSize) = r.stop :=
    readUInt_of_eq (pre ++ writeUInt t.fieldSize r.start) post hlt (by simp [hpos])
      (by rw [hbuffer, List.append_assoc])
  rw [ObjectHeaderTypes.getRange, hstart, hstop]

namespace Block

variable (b : Block (List Byte)) (d : Bool) (t : ObjectHeaderTypes) (o : ObjectBase)

/-- The numbers of the object header: a count, or the two ends of a range. -/
def fields : List Byte :=
  match t with
  | .allObjects => []
  | .ranged2Octet | .ranged4Octet | .ranged8Octet =>
    match b.range with
    | some r => writeUInt t.fieldSize r.start ++ writeUInt t.fieldSize r.stop
    | none => []
  | .count1Octet | .count2Octet | .count4Octet => writeUInt t.fieldSize b.objects.length

/-- The object header. -/
def headerOctets : List Byte :=
  writeUInt 1 b.group ++ (writeUInt 1 b.variation ++ (writeUInt 1 b.qualifier.toNat ++ b.fields t))

/-- An object: the index, if the qualifier has one, and the data. -/
def objectOctets (q : QualifierCode) (obj : ℕ × List Byte) : List Byte :=
    writeUInt q.indexSize obj.1 ++ obj.2

/-- The objects; the bit of one in a bit field is its octet. -/
def dataOctets : List Byte :=
  if o.getType = .bitfield then
    if d then bitOctets (b.objects.map (·.2 != [0])) else []
  else b.objects.flatMap (objectOctets b.qualifier)

/-- **The octets of a block**, whose object is looked up as the parser does. -/
def octets : List Byte :=
  match getObjectHeader b.qualifier, ObjectBase.get b.group b.variation with
  | .ok t, some o => b.headerOctets t ++ b.dataOctets d o
  | _, _ => []

/-- The octets of one object of the type, without its index. -/
def dataSize : ℕ :=
  if d then
    match o.getType with
    | .fixed aSize => aSize
    | .sizeByVariation => b.variation
    | .bitfield => 1
    | _ => 0
  else 0

/-- **A block that is what its header says**: the header has as many objects as it announces, and
the numbers in it and in front of the objects fit their fields. -/
structure Formed : Prop where
  lists : Lists b.group b.variation o
  group : b.group < 256
  variation : b.variation < 256
  header : getObjectHeader b.qualifier = .ok t
  suits : b.qualifier.Suits o.getType
  all : t = .allObjects → b.objects = []
  range : t.isCount = false → t ≠ .allObjects → ∃ r, b.range = some r ∧ r.start ≤ r.stop ∧
    r.stop < 256 ^ t.fieldSize ∧ b.objects.length = r.stop + 1 - r.start
  range_none : t.isCount = true ∨ t = .allObjects → b.range = none
  count : t.isCount = true → b.objects.length < 256 ^ t.fieldSize
  index : b.qualifier.indexSize ≠ 0 → ∀ obj ∈ b.objects, obj.1 < 256 ^ b.qualifier.indexSize
  size : ∀ obj ∈ b.objects, obj.2.length = b.dataSize d o
  bits : d = true → o.getType = .bitfield → ∀ obj ∈ b.objects, obj.2 = [0] ∨ obj.2 = [1]
  one : o.getType = .sizeByVariation → b.objects.length = 1
  few : d = true → o.getType = .placeholder → b.objects.length ≤ 1

/-- What the parser notes of a block. -/
def info (aPos : ℕ) : HeaderInfo :=
  ⟨aPos, b.group, b.variation, b.qualifier, b.objects.length, b.qualifier.indexSize, t, o⟩

end Block

namespace Block

variable {b : Block (List Byte)} {d : Bool} {t : ObjectHeaderTypes} {o : ObjectBase}

theorem Formed.octets_eq (h : b.Formed d t o) : b.octets d = b.headerOctets t ++
    b.dataOctets d o := by
  rw [octets, h.header, h.lists.get]

theorem Formed.length_fields (h : b.Formed d t o) : (b.fields t).length + 3 = t.getSize := by
  have hrange := h.range
  cases t with
  | allObjects => rfl
  | count1Octet | count2Octet | count4Octet =>
    simp [fields, ObjectHeaderTypes.fieldSize, ObjectHeaderTypes.getSize]
  | ranged2Octet | ranged4Octet | ranged8Octet =>
    obtain ⟨r, hr, -⟩ := hrange rfl (by rintro ⟨⟩)
    simp [fields, hr, ObjectHeaderTypes.fieldSize, ObjectHeaderTypes.getSize]

theorem Formed.length_headerOctets (h : b.Formed d t o) : (b.headerOctets t).length =
    t.getSize := by
  have hfields := h.length_fields
  simp only [headerOctets, List.length_append, length_writeUInt]
  omega

/-- Objects without an index and without data take no octets. -/
theorem length_objectOctets {q : QualifierCode} {obj : ℕ × List Byte} {n : ℕ}
    (hn : obj.2.length = n) : (objectOctets q obj).length = q.indexSize + n := by
  rw [objectOctets, List.length_append, length_writeUInt, hn]

/-- Objects of one size. -/
theorem length_flatMap_objectOctets {q : QualifierCode} {n : ℕ} {objs : List (ℕ × List Byte)}
    (h : ∀ obj ∈ objs, obj.2.length = n) : (objs.flatMap (objectOctets q)).length = objs.length *
    (q.indexSize + n) := by
  induction objs with
  | nil => exact (Nat.zero_mul _).symm
  | cons obj objs ih =>
    rw [List.flatMap_cons, List.length_append, ih fun x hx ↦ h x (List.mem_cons_of_mem _ hx),
      length_objectOctets (h obj List.mem_cons_self), List.length_cons, Nat.succ_mul, Nat.add_comm]

theorem Formed.length_dataOctets (h : b.Formed d t o) (aPos : ℕ) :
    (b.dataOctets d o).length = (b.info t o aPos).countedSize d := by
  have hobjects : (b.objects.flatMap (objectOctets b.qualifier)).length =
      (b.qualifier.indexSize + b.dataSize d o) * b.objects.length :=
    (length_flatMap_objectOctets h.size).trans (Nat.mul_comm _ _)
  have hone := h.one
  rw [HeaderInfo.countedSize_eq (h := b.info t o aPos) hone, dataOctets, HeaderInfo.requiredSize,
    HeaderInfo.objectSize]
  simp only [info]
  cases ho : o.getType with
  | bitfield =>
    rw [if_pos rfl]
    cases d with
    | false => rfl
    | true =>
      rw [if_pos rfl, length_bitOctets, List.length_map, bitfieldSize]
      simp only [if_true]
      split <;> omega
  | _ =>
    rw [if_neg (by simp), hobjects, dataSize, ho]

/-- The number of objects is what the numbers of the header say. -/
theorem Formed.counts (h : b.Formed d t o) (pre post : List Byte) {aBuffer : List Byte} {aPos : ℕ}
    (hpos : pre.length = aPos + 3)
    (hbuffer : aBuffer = pre ++ (b.fields t ++ post)) :
    t.Counts aBuffer aPos b.objects.length := by
  have hall := h.all
  have hrange := h.range
  have hcount := h.count
  cases t with
  | allObjects => exact List.length_eq_zero_iff.mpr (hall rfl)
  | count1Octet | count2Octet | count4Octet =>
    exact (readUInt_of_eq pre post (hcount rfl) hpos hbuffer).symm
  | ranged2Octet | ranged4Octet | ranged8Octet =>
    obtain ⟨r, hr, hle, hlt, hlen⟩ := hrange rfl (by rintro ⟨⟩)
    simp only [fields, hr, List.append_assoc] at hbuffer
    simp only [ObjectHeaderTypes.Counts]
    rw [ObjectHeaderTypes.getRange_of_eq _ pre post hle hlt hpos hbuffer]
    exact ⟨hle, hlen⟩

/-- **The parser finds the header of a block** where it is. -/
theorem Formed.headerAt (h : b.Formed d t o) (pre post : List Byte) :
    HeaderAt (fun g v o ↦ ObjectBase.get g v = some o) (pre ++ (b.octets d ++ post)) pre.length
      (b.info t o pre.length) := by
  obtain ⟨rest, hrest⟩ : ∃ rest, b.dataOctets d o ++ post = rest := ⟨_, rfl⟩
  have hbuffer : pre ++ (b.octets d ++ post) = pre ++
    (writeUInt 1 b.group ++ (writeUInt 1 b.variation ++
      (writeUInt 1 b.qualifier.toNat ++ (b.fields t ++ rest)))) := by
    simp [h.octets_eq, headerOctets, ← hrest]
  have hg := readUInt_of_eq pre _ (by simpa using h.group) rfl hbuffer
  have hv : readUInt (pre ++ (b.octets d ++ post)) 1 (pre.length + 1) = b.variation :=
    readUInt_of_eq (pre ++ writeUInt 1 b.group)
      (writeUInt 1 b.qualifier.toNat ++ (b.fields t ++ rest))
      (by simpa using h.variation) (by simp) (by rw [hbuffer, List.append_assoc])
  have hq : readUInt (pre ++ (b.octets d ++ post)) 1 (pre.length + 2) = b.qualifier.toNat :=
    readUInt_of_eq (pre ++ (writeUInt 1 b.group ++ writeUInt 1 b.variation)) (b.fields t ++ rest)
      (by simpa using b.qualifier.toNat_lt) (by simp)
        (by rw [hbuffer]; simp only [List.append_assoc])
  refine ⟨rfl, hg.symm, hv.symm, ?_, h.lists.get, h.header, h.suits, rfl, ?_⟩
  · rw [hq, QualifierCode.byteToQualifierCode_toNat]
    rfl
  · exact h.counts (pre ++
        (writeUInt 1 b.group ++ (writeUInt 1 b.variation ++ writeUInt 1 b.qualifier.toNat)))
      rest (by simp) (by rw [hbuffer]; simp only [List.append_assoc])

end Block

/-! ## Fragments -/

namespace OutAPDU

/-- The application header. -/
def headerOctets (f : OutAPDU (List Byte)) : List Byte :=
  match f.function with
  | none => []
  | some aCode =>
    f.control.toByte :: BitVec.ofNat 8 aCode.toNat :: if isResponse aCode
      then [f.iin.mLSB, f.iin.mMSB] else []

/-- **The octets of a fragment.** -/
def octets (f : OutAPDU (List Byte)) : List Byte := f.headerOctets ++ f.blocks.flatMap
    (Block.octets · f.hasData)

end OutAPDU

/-- What the parser notes of blocks that stand one after the other. -/
inductive Noted (d : Bool) : ℕ → List (Block (List Byte)) → List HeaderInfo → Prop
  | nil {aPos : ℕ} : Noted d aPos [] []
  | cons {aPos : ℕ} {b : Block (List Byte)} {bs : List (Block (List Byte))} {t : ObjectHeaderTypes}
      {o : ObjectBase}
      {hs : List HeaderInfo} (hb : b.Formed d t o)
        (hrest : Noted d (aPos + (b.octets d).length) bs hs) :
      Noted d aPos (b :: bs) (b.info t o aPos :: hs)

/-- There is one note of each block. -/
theorem exists_noted {d : Bool} {bs : List (Block (List Byte))}
    (h : ∀ b ∈ bs, ∃ t o, b.Formed d t o) (aPos : ℕ) :
    ∃ hs, Noted d aPos bs hs := by
  induction bs generalizing aPos with
  | nil => exact ⟨[], .nil⟩
  | cons b bs ih =>
    obtain ⟨t, o, hb⟩ := h b List.mem_cons_self
    obtain ⟨hs, hrest⟩ := ih (fun c hc ↦ h c (List.mem_cons_of_mem _ hc))
      (aPos + (b.octets d).length)
    exact ⟨_, .cons hb hrest⟩

/-- The octets of blocks are cut into their headers. -/
theorem Noted.cut {d : Bool} {bs : List (Block (List Byte))} {aPos : ℕ} {hs : List HeaderInfo}
    (h : Noted d aPos bs hs)
    {aBuffer pre : List Byte} (hpos : pre.length = aPos)
    (hbuffer : aBuffer = pre ++ bs.flatMap (Block.octets · d)) :
    Cut (fun g v o ↦ ObjectBase.get g v = some o) (HeaderInfo.countedSize d) aBuffer aPos hs := by
  induction h generalizing pre with
  | nil =>
    rw [List.flatMap_nil, List.append_nil] at hbuffer
    rw [← hpos, ← hbuffer]
    exact .nil
  | @cons aPos b bs t o hs hb hrest ih =>
    rw [List.flatMap_cons] at hbuffer
    have hhead := hb.headerAt pre (bs.flatMap (Block.octets · d))
    rw [← hbuffer, hpos] at hhead
    refine .cons hhead ?_
    have hlen : (b.octets d).length = t.getSize + (b.info t o aPos).countedSize d := by
      rw [hb.octets_eq, List.length_append, hb.length_headerOctets, hb.length_dataOctets aPos]
    have hcut := @ih (pre ++ b.octets d) (by rw [List.length_append, hpos])
      (by rw [hbuffer, List.append_assoc])
    rwa [hlen] at hcut

/-- The header of a fragment with a function code. -/
theorem OutAPDU.headerOctets_eq {f : OutAPDU (List Byte)} {aCode : FunctionCodes}
    (h : f.function = some aCode) :
    f.headerOctets = f.control.toByte :: BitVec.ofNat 8 aCode.toNat ::
      if isResponse aCode then [f.iin.mLSB, f.iin.mMSB] else [] := by
  rw [headerOctets, h]

theorem OutAPDU.length_headerOctets {f : OutAPDU (List Byte)} {aCode : FunctionCodes}
    (h : f.function = some aCode) :
    f.headerOctets.length = appHeaderSize aCode := by
  rw [f.headerOctets_eq h, appHeaderSize]
  cases isResponse aCode <;> rfl

theorem OutAPDU.functionOf_octets {f : OutAPDU (List Byte)} {aCode : FunctionCodes}
    (h : f.function = some aCode) :
    functionOf f.octets = aCode := by
  have hread : readUInt f.octets 1 1 = aCode.toNat := by
    rw [octets, f.headerOctets_eq h]
    simp only [readUInt, List.cons_append, List.getD_cons_succ, List.getD_cons_zero,
      BitVec.toNat_ofNat]
    have hlt := aCode.toNat_lt
    omega
  rw [functionOf, hread, FunctionCodes.intToFunction_toNat]

/-- **The parser takes the octets of a fragment for that fragment.** -/
theorem OutAPDU.interpret_octets {f : OutAPDU (List Byte)} {aCode : FunctionCodes}
    (hf : f.function = some aCode) (hblocks : ∀ b ∈ f.blocks, ∃ t o, b.Formed f.hasData t o) :
    ∃ hs, Noted f.hasData f.headerOctets.length f.blocks hs ∧
      APDU.interpret f.octets = .ok
        ⟨f.octets, { f.control with seq := f.control.seq % 16 }, aCode, hs⟩ := by
  obtain ⟨hs, hnoted⟩ := exists_noted hblocks f.headerOctets.length
  have hdata : f.hasData = OpenDNP3.hasData aCode := by rw [hasData, hf]; rfl
  have hfunction := f.functionOf_octets hf
  have hcontrol : AppControlField.ofByte (f.octets.getD 0 0) =
      { f.control with seq := f.control.seq % 16 } := by
    rw [← AppControlField.ofByte_toByte, octets, f.headerOctets_eq hf]
    rfl
  have hlen : appHeaderSize aCode ≤ f.octets.length := by
    rw [octets, List.length_append, f.length_headerOctets hf]
    exact Nat.le_add_right _ _
  have hcut := @Noted.cut _ _ _ _ hnoted f.octets f.headerOctets rfl rfl
  refine ⟨hs, hnoted, APDU.interpret_eq_ok.mpr ⟨?_, ⟨Nat.le_trans ?_ hlen, ?_⟩, ?_⟩⟩
  · rw [hcontrol, hfunction]
  · rw [appHeaderSize]
    split <;> decide
  · rwa [hfunction]
  · rwa [hfunction, ← hdata, ← f.length_headerOctets hf]

/-! ## Readers -/

namespace ObjectReadIterator

/-- The data of the current object: what a reader takes from where the iterator points. -/
def data (it : ObjectReadIterator) (aPos : ℕ) : List Byte :=
  match it.mHeaderInfo.mObjectBase.getType with
  | .fixed aSize => slice it.mpBuffer aPos aSize
  | .sizeByVariation => slice it.mpBuffer aPos it.mHeaderInfo.mVariation
  | .bitfield => if readBit it.mpBuffer aPos (it.mIndex - it.mStart) then [1] else [0]
  | _ => []

/-- The data of the current object, if the fragment carries any. -/
def octets (it : ObjectReadIterator) : Except Exception (List Byte) :=
  if it.mHasData then do return it.data (← it.deref) else .ok []

/-- The loop of a reader: the index and the data of each of the objects that are left. -/
def collect : ℕ → ObjectReadIterator → Except Exception (List (ℕ × List Byte))
  | 0, _ => .ok []
  | n + 1, it => do
    let obj ← it.octets
    let it' ← it.next
    let rest ← collect n it'
    return (it.mIndex, obj) :: rest

/-- The size of the current object, which does not depend on its data. -/
theorem calcObjSize_of_steppable {it : ObjectReadIterator} (hacc : it.mHeaderInfo.Accepted)
    (hstep : Steppable it.mHasData it.mHeaderInfo.mObjectBase.getType)
    (hbit : it.mHeaderInfo.mObjectBase.getType ≠ .bitfield) :
    it.calcObjSize = .ok (it.mHeaderInfo.objectSize it.mHasData) := by
  have hvcnt := getPrefixSizeAndValidate_vcnt hacc.prefixSize
    (ObjectBase.getType_ne_variable hacc.object)
  rw [calcObjSize, HeaderInfo.objectSize]
  cases hd : it.mHasData with
  | false => rfl
  | true =>
    obtain ⟨n, hn⟩ := (hstep hd).resolve_right hbit
    simp only [Bool.not_true, Bool.false_eq_true, if_false, if_true, hn]
    split
    · exact absurd ‹_› hvcnt.1
    · exact absurd ‹_› hvcnt.2.1
    · exact absurd ‹_› hvcnt.2.2
    · rfl

/-- The next object, where its position and its index are known. -/
theorem next_eq {it : ObjectReadIterator} {aPos aIndex : ℕ} (hacc : it.mHeaderInfo.Accepted)
    (hnum : it.mCurrentObjectNum + 1 < it.count)
    (hstep : Steppable it.mHasData it.mHeaderInfo.mObjectBase.getType)
    (hpos : aPos = if it.mHeaderInfo.mObjectBase.getType = .bitfield then it.mpPrefixPos
      else it.mpPrefixPos + (it.mHeaderInfo.mPrefixSize + it.mHeaderInfo.objectSize it.mHasData))
    (hindex : { it with
      mCurrentObjectNum := it.mCurrentObjectNum + 1, mpPrefixPos := aPos }.calcIndex = .ok aIndex) :
    it.next = .ok { it with
      mCurrentObjectNum := it.mCurrentObjectNum + 1, mpPrefixPos := aPos, mIndex := aIndex } := by
  have hend : it.isEnd = false := by simp [isEnd]; omega
  have hend' : { it with mCurrentObjectNum := it.mCurrentObjectNum + 1 }.isEnd = false := by
    simpa [isEnd, count] using hnum
  rw [next, hend]
  simp only [bind, Except.bind, pure, Except.pure, Bool.false_eq_true, if_false, hend']
  by_cases hbit : it.mHeaderInfo.mObjectBase.getType = .bitfield
  · rw [if_pos hbit] at hpos
    subst hpos
    rw [if_neg (not_not.mpr hbit), setObjectInfo, hindex]
    rfl
  · rw [if_neg hbit] at hpos
    have hsize : { it with mCurrentObjectNum := it.mCurrentObjectNum + 1 }.calcObjSize =
        .ok (it.mHeaderInfo.objectSize it.mHasData) := calcObjSize_of_steppable hacc hstep hbit
    rw [if_pos hbit, hsize]
    simp only [← hpos]
    rw [setObjectInfo, hindex]
    rfl

end ObjectReadIterator

/-- What a reader finds behind a header. -/
def HeaderInfo.collect (h : HeaderInfo) (aBuffer : List Byte) (d : Bool) :
    Except Exception (List (ℕ × List Byte)) := do
  let it ← ObjectReadIterator.beginRead h aBuffer d
  it.collect h.mCount

/-! ## The objects of a block

A reader is at one object after the other. Where it is and what it reads there is known from the
block, if the buffer holds the octets of the block. -/

namespace Block

/-- The index that a reader finds for an object: the one in front of it, or its place in the range
or in the header. -/
def seenIndex (b : Block (List Byte)) (k : ℕ) : ℕ :=
  if b.qualifier.indexSize ≠ 0 then (b.objects.getD k (0, [])).1
  else
    match getObjectHeader b.qualifier with
    | .ok .ranged2Octet | .ok .ranged4Octet | .ok .ranged8Octet => (b.range.getD ⟨0, 0⟩).start + k
    | _ => k

/-- **A block as it is read.** -/
def seen (b : Block (List Byte)) : Block (List Byte) :=
  { b with objects := b.objects.mapIdx fun k obj ↦ (b.seenIndex k, obj.2) }

/-- The octets of one object with its index. -/
def stride (b : Block (List Byte)) (d : Bool) (o : ObjectBase) : ℕ :=
  if o.getType = .bitfield then 0 else b.qualifier.indexSize + b.dataSize d o

/-- The iterator at an object. -/
def iteratorAt (b : Block (List Byte)) (d : Bool) (t : ObjectHeaderTypes) (o : ObjectBase)
    (aBuffer : List Byte) (aPos k : ℕ) : ObjectReadIterator where
  mHeaderInfo := b.info t o aPos
  mCurrentObjectNum := k
  mIndex := b.seenIndex k
  mStart := if o.getType = .bitfield then b.seenIndex 0 else 0
  mpPrefixPos := aPos + t.getSize + k * b.stride d o
  mpBuffer := aBuffer
  mHasData := d

/-- The octets of a block are in the buffer. -/
structure Within (b : Block (List Byte)) (d : Bool) (aBuffer : List Byte) (aPos : ℕ) : Prop where
  buffer : ∃ pre post, pre.length = aPos ∧ aBuffer = pre ++ (b.octets d ++ post)

variable {b : Block (List Byte)} {d : Bool} {t : ObjectHeaderTypes} {o : ObjectBase}
    {aBuffer : List Byte} {aPos : ℕ}

/-- An object that is not in a bit field is at a place of its own. -/
theorem Formed.object_at (h : b.Formed d t o) (hw : b.Within d aBuffer aPos)
    (hbit : o.getType ≠ .bitfield) {k : ℕ} {obj : ℕ × List Byte} (hobj : b.objects[k]? = some obj) :
    ∃ pre post, pre.length = aPos + t.getSize + k * b.stride d o ∧
      aBuffer = pre ++ (objectOctets b.qualifier obj ++ post) := by
  obtain ⟨pre, post, hpos, hbuffer⟩ := hw.buffer
  obtain ⟨hk, hget⟩ := List.getElem?_eq_some_iff.mp hobj
  have hsplit : b.objects = b.objects.take k ++ (obj :: b.objects.drop (k + 1)) := by
    rw [← hget, List.getElem_cons_drop, List.take_append_drop]
  have hbefore : ((b.objects.take k).flatMap (objectOctets b.qualifier)).length =
      k * b.stride d o := by
    rw [length_flatMap_objectOctets fun x hx ↦ h.size x (List.mem_of_mem_take hx),
      List.length_take_of_le (by omega), stride, if_neg hbit]
  refine ⟨pre ++ (b.headerOctets t ++ (b.objects.take k).flatMap (objectOctets b.qualifier)),
    (b.objects.drop (k + 1)).flatMap (objectOctets b.qualifier) ++ post, ?_, ?_⟩
  · rw [List.length_append, List.length_append, hpos, h.length_headerOctets, hbefore, Nat.add_assoc]
  · have hdata : b.dataOctets d o = (b.objects.take k).flatMap (objectOctets b.qualifier) ++
        (objectOctets b.qualifier obj ++ (b.objects.drop (k + 1)).flatMap
          (objectOctets b.qualifier)) := by
      rw [dataOctets, if_neg hbit]
      conv_lhs => rw [hsplit]
      rw [List.flatMap_append, List.flatMap_cons]
    rw [hbuffer, h.octets_eq, hdata]
    simp only [List.append_assoc]

/-- The range of a header is read as it was written. -/
theorem Formed.getRange_eq (h : b.Formed d t o) (hw : b.Within d aBuffer aPos)
    (hcount : t.isCount = false)
    (hall : t ≠ .allObjects) : t.getRange aBuffer aPos = b.range.getD ⟨0, 0⟩ := by
  obtain ⟨pre, post, hpos, hbuffer⟩ := hw.buffer
  obtain ⟨r, hr, hle, hlt, -⟩ := h.range hcount hall
  have hfields : b.fields t = writeUInt t.fieldSize r.start ++ writeUInt t.fieldSize r.stop := by
    cases t with
    | allObjects => exact absurd rfl hall
    | count1Octet | count2Octet | count4Octet => cases hcount
    | ranged2Octet | ranged4Octet | ranged8Octet => simp only [fields, hr]
  rw [hr]
  refine t.getRange_of_eq
    (pre ++ (writeUInt 1 b.group ++ (writeUInt 1 b.variation ++ writeUInt 1 b.qualifier.toNat)))
    (b.dataOctets d o ++ post) hle hlt (by simp [hpos]) ?_
  rw [hbuffer, h.octets_eq, headerOctets, hfields]
  simp only [List.append_assoc, Option.getD_some]

/-- The index in front of an object is read as it was written. -/
theorem Formed.readUInt_index (h : b.Formed d t o) (hw : b.Within d aBuffer aPos) {k : ℕ}
    (hk : k < b.objects.length)
    (hindex : b.qualifier.indexSize ≠ 0) (hbit : o.getType ≠ .bitfield) :
    readUInt aBuffer b.qualifier.indexSize (aPos + t.getSize + k * b.stride d o) =
      b.seenIndex k := by
  have hobj : b.objects[k]? = some b.objects[k] := List.getElem?_eq_getElem hk
  obtain ⟨pre, post, hpos, hbuffer⟩ := h.object_at hw hbit hobj
  rw [objectOctets, List.append_assoc] at hbuffer
  rw [readUInt_of_eq pre _ (h.index hindex _ (List.getElem_mem hk)) hpos hbuffer, seenIndex,
    if_pos hindex, List.getD_eq_getElem?_getD, hobj]
  rfl

/-- The iterator finds the index of an object. -/
theorem Formed.calcIndex_iteratorAt (h : b.Formed d t o) (hw : b.Within d aBuffer aPos) {k : ℕ}
    (hk : k < b.objects.length) : (b.iteratorAt d t o aBuffer aPos k).calcIndex = .ok
    (b.seenIndex k) := by
  have hheader := h.header
  have hsuits := h.suits
  have hrange := h.getRange_eq hw
  have hindex := h.readUInt_index hw hk
  cases hq : b.qualifier with
  | startStop1B | startStop2B | startStop4B =>
    rw [hq] at hheader
    cases hheader
    have hr := hrange rfl (by rintro ⟨⟩)
    simp only [ObjectReadIterator.calcIndex, iteratorAt, info, hr, seenIndex, hq]
    rfl
  | allObj =>
    rw [hq] at hheader
    cases hheader
    rw [h.all rfl] at hk
    exact absurd hk (Nat.not_lt_zero _)
  | cnt1B | cnt2B | cnt4B =>
    rw [hq] at hheader
    cases hheader
    simp only [ObjectReadIterator.calcIndex, ObjectReadIterator.calcCountIndex, iteratorAt, info,
      seenIndex, hq]
    rfl
  | cnt1BIndex1B | cnt2BIndex2B | cnt4BIndex4B =>
    have hbit : o.getType ≠ .bitfield := by
      rw [hq] at hsuits
      rintro hbit
      rw [hbit] at hsuits
      simp [QualifierCode.Suits] at hsuits
    rw [hq] at hheader hindex
    cases hheader
    rw [← hindex (by decide) hbit]
    simp only [ObjectReadIterator.calcIndex, ObjectReadIterator.calcCountIndex, iteratorAt,
      info, hq]
    rfl
  | vcnt1BSize1B | vcnt1BSize2B | vcnt1BSize4B =>
    rw [hq] at hsuits
    exact absurd hsuits (ObjectBase.getType_ne_variable h.lists.get)
  | undefined =>
    rw [hq] at hheader
    cases hheader

/-- Some octets of a list. -/
theorem slice_of_eq (pre post : List Byte) {bs l : List Byte} {n pos : ℕ} (hpos : pre.length = pos)
    (hn : bs.length = n) (h : l = pre ++ (bs ++ post)) : slice l pos n = bs := by
  rw [h, slice, List.drop_left' hpos, List.take_left' hn]

/-- Nothing stands in front of a bit field. -/
theorem Formed.indexSize_bitfield (h : b.Formed d t o) (hbit : o.getType = .bitfield) :
    b.qualifier.indexSize = 0 := by
  have hsuits := h.suits
  rw [hbit] at hsuits
  revert hsuits
  cases b.qualifier <;> simp [QualifierCode.Suits, QualifierCode.indexSize]

/-- The places in a bit field are counted from its first object on. -/
theorem Formed.seenIndex_sub (h : b.Formed d t o) (hbit : o.getType = .bitfield) (k : ℕ) :
    b.seenIndex k - b.seenIndex 0 = k := by
  have hindex := h.indexSize_bitfield hbit
  simp only [seenIndex, hindex, ne_eq, not_true_eq_false, if_false]
  split <;> omega

/-- The iterator finds the bit of an object. -/
theorem Formed.data_bitfield (h : b.Formed true t o) (hw : b.Within true aBuffer aPos)
    (hbit : o.getType = .bitfield) {k : ℕ} {obj : ℕ × List Byte} (hobj : b.objects[k]? = some obj) :
    (b.iteratorAt true t o aBuffer aPos k).data
      (aPos + t.getSize + k * b.stride true o + b.qualifier.indexSize) = obj.2 := by
  obtain ⟨pre, post, hpos, hbuffer⟩ := hw.buffer
  obtain ⟨hk, hget⟩ := List.getElem?_eq_some_iff.mp hobj
  have hindex := h.indexSize_bitfield hbit
  have hpre : (pre ++ b.headerOctets t).length = aPos + t.getSize + k * b.stride true o +
      b.qualifier.indexSize := by
    rw [List.length_append, hpos, h.length_headerOctets, stride, if_pos hbit, hindex]
    omega
  have hbuffer' : aBuffer = (pre ++ b.headerOctets t) ++
      (bitOctets (b.objects.map (·.2 != [0])) ++ post) := by
    rw [hbuffer, h.octets_eq, dataOctets, if_pos hbit, if_pos rfl]
    simp only [List.append_assoc]
  have hread := readBit_bitOctets (pre ++ b.headerOctets t) post (b.objects.map (·.2 != [0]))
    (i := k) (by rwa [List.length_map])
  rw [← hbuffer', hpre, List.getD_eq_getElem?_getD, List.getElem?_map, hobj] at hread
  have hsub := h.seenIndex_sub hbit k
  simp only [ObjectReadIterator.data, iteratorAt, info, hbit, if_true, hsub, hread]
  rcases h.bits rfl hbit obj (List.mem_of_getElem? hobj) with hzero | hone
  · simp [hzero]
  · simp [hone]

/-- The iterator finds the data of an object. -/
theorem Formed.octets_iteratorAt (h : b.Formed d t o) (hw : b.Within d aBuffer aPos) {k : ℕ}
    {obj : ℕ × List Byte}
    (hobj : b.objects[k]? = some obj) : (b.iteratorAt d t o aBuffer aPos k).octets = .ok obj.2 := by
  obtain ⟨hk, hget⟩ := List.getElem?_eq_some_iff.mp hobj
  have hmem : obj ∈ b.objects := hget ▸ List.getElem_mem hk
  have hsize := h.size obj hmem
  cases d with
  | false =>
    rw [dataSize, if_neg Bool.false_ne_true, List.length_eq_zero_iff] at hsize
    rw [hsize]
    rfl
  | true =>
    have hend : (b.iteratorAt true t o aBuffer aPos k).isEnd = false := by
      simpa [ObjectReadIterator.isEnd, ObjectReadIterator.count, iteratorAt, info] using hk
    have hderef : (b.iteratorAt true t o aBuffer aPos k).deref =
        .ok (aPos + t.getSize + k * b.stride true o + b.qualifier.indexSize) := by
      rw [ObjectReadIterator.deref, hend]
      rfl
    have hdata : (b.iteratorAt true t o aBuffer aPos k).octets = .ok
      ((b.iteratorAt true t o aBuffer aPos k).data
        (aPos + t.getSize + k * b.stride true o + b.qualifier.indexSize)) := by
      rw [ObjectReadIterator.octets, hderef]
      rfl
    rw [hdata]
    refine congrArg _ ?_
    by_cases hbit : o.getType = .bitfield
    · exact h.data_bitfield hw hbit hobj
    obtain ⟨pre, post, hpos, hbuffer⟩ := h.object_at hw hbit hobj
    have hslice : slice aBuffer (aPos + t.getSize + k * b.stride true o + b.qualifier.indexSize)
      (b.dataSize true o) =
        obj.2 := by
      refine slice_of_eq (pre ++ writeUInt b.qualifier.indexSize obj.1) post
        (by simp [hpos]) hsize ?_
      rw [hbuffer, objectOctets]
      simp only [List.append_assoc]
    have hvariable := ObjectBase.getType_ne_variable h.lists.get
    rw [dataSize, if_pos rfl] at hslice hsize
    cases ho : o.getType with
    | fixed n =>
      rw [ho] at hslice
      simpa only [ObjectReadIterator.data, iteratorAt, info, ho] using hslice
    | sizeByVariation =>
      rw [ho] at hslice
      simpa only [ObjectReadIterator.data, iteratorAt, info, ho] using hslice
    | bitfield => exact absurd ho hbit
    | placeholder =>
      rw [ho, List.length_eq_zero_iff] at hsize
      simp only [ObjectReadIterator.data, iteratorAt, info, ho, hsize]
    | _ => exact absurd ho hvariable

/-- The parser accepts the header of a block. -/
theorem Formed.accepted (h : b.Formed d t o) (aPos : ℕ) : (b.info t o aPos).Accepted where
  object := h.lists.get
  header := h.header
  prefixSize := (getPrefixSizeAndValidate_eq_ok (ObjectBase.getType_ne_variable h.lists.get)).mpr
    ⟨h.suits, rfl⟩
  count_allObjects hall := by
    rw [info, h.all hall]
    rfl

theorem objectSize_info (hbit : o.getType ≠ .bitfield) : (b.info t o aPos).objectSize d =
    b.dataSize d o := by
  simp only [HeaderInfo.objectSize, dataSize, info]
  cases ho : o.getType with
  | bitfield => exact absurd ho hbit
  | _ => rfl

/-- The iterator goes on to the next object. -/
theorem Formed.next_iteratorAt (h : b.Formed d t o) (hw : b.Within d aBuffer aPos) {k : ℕ}
    (hk : k + 1 < b.objects.length) :
    (b.iteratorAt d t o aBuffer aPos k).next = .ok (b.iteratorAt d t o aBuffer aPos (k + 1)) := by
  have hsized : (b.info t o aPos).Sized d := ⟨h.one, h.few⟩
  have hstep := (hsized.steppable (h.accepted aPos)).resolve_right (Nat.not_le.mpr (by
    show 1 < b.objects.length
    omega))
  have hpos : aPos + t.getSize + (k + 1) * b.stride d o = if o.getType = .bitfield then
      aPos + t.getSize + k * b.stride d o
      else aPos + t.getSize + k * b.stride d o +
        (b.qualifier.indexSize + (b.info t o aPos).objectSize d) := by
    by_cases hbit : o.getType = .bitfield
    · rw [if_pos hbit, stride, if_pos hbit, Nat.mul_zero, Nat.mul_zero]
    · rw [if_neg hbit, objectSize_info hbit, stride, if_neg hbit, Nat.succ_mul]
      omega
  exact ObjectReadIterator.next_eq (h.accepted aPos) hk hstep hpos (h.calcIndex_iteratorAt hw hk)

/-- Where a reader starts. -/
theorem Formed.beginRead (h : b.Formed d t o) (hw : b.Within d aBuffer aPos)
    (hne : 0 < b.objects.length) :
    ObjectReadIterator.beginRead (b.info t o aPos) aBuffer d = .ok
      (b.iteratorAt d t o aBuffer aPos 0) := by
  have hend : (⟨b.info t o aPos, 0, 0, 0, 0, aBuffer, d⟩ : ObjectReadIterator).isEnd = false :=
    decide_eq_false (Nat.not_le.mpr hne)
  have hobject : (b.info t o aPos).mObjectBase = o := rfl
  have hindex := h.calcIndex_iteratorAt hw hne
  have hpos : aPos + t.getSize + 0 * b.stride d o = aPos + t.getSize := by omega
  have hset : (⟨b.info t o aPos, 0, 0, 0, aPos + t.getSize, aBuffer, d⟩ :
    ObjectReadIterator).setObjectInfo =
      .ok ⟨b.info t o aPos, 0, b.seenIndex 0, 0, aPos + t.getSize, aBuffer, d⟩ := by
    have hcalc : (⟨b.info t o aPos, 0, 0, 0, aPos + t.getSize, aBuffer, d⟩ :
      ObjectReadIterator).calcIndex =
        .ok (b.seenIndex 0) := by
      rw [← hindex, iteratorAt, hpos]
      rfl
    rw [ObjectReadIterator.setObjectInfo, hcalc]
    rfl
  rw [ObjectReadIterator.beginRead, hend]
  simp only [bind, Except.bind, pure, Except.pure, Bool.false_eq_true, if_false]
  rw [show (b.info t o aPos).mPos + (b.info t o aPos).mHeader.getSize = aPos + t.getSize
    from rfl, hset]
  simp only [iteratorAt, hpos, hobject]
  by_cases hbit : o.getType = .bitfield
  · rw [if_pos hbit, if_pos hbit]
  · rw [if_neg hbit, if_neg hbit]

/-- What a reader finds from an object on. -/
theorem Formed.collect_iteratorAt (h : b.Formed d t o) (hw : b.Within d aBuffer aPos) {n k : ℕ}
    (hn : k + n = b.objects.length) :
    (b.iteratorAt d t o aBuffer aPos k).collect n = .ok (b.seen.objects.drop k) := by
  induction n generalizing k with
  | zero =>
    rw [ObjectReadIterator.collect, List.drop_of_length_le (by simp [seen]; omega)]
  | succ n ih =>
    have hk : k < b.objects.length := by omega
    have hobj : b.objects[k]? = some b.objects[k] := List.getElem?_eq_getElem hk
    have hdrop : b.seen.objects.drop k = (b.seenIndex k, b.objects[k].2) :: b.seen.objects.drop
        (k + 1) := by
      rw [List.drop_eq_getElem_cons (by simpa [seen] using hk)]
      simp [seen]
    rw [ObjectReadIterator.collect, h.octets_iteratorAt hw hobj, except_ok_bind, hdrop]
    cases n with
    | zero =>
      have hlast := ObjectReadIterator.next_last (b.iteratorAt d t o aBuffer aPos k) hn
      rw [hlast, List.drop_of_length_le (by simp [seen]; omega)]
      rfl
    | succ n =>
      rw [h.next_iteratorAt hw (by omega), except_ok_bind, ih (by omega)]
      rfl

/-- **A reader finds the objects of a block.** -/
theorem Formed.collect_eq (h : b.Formed d t o) (hw : b.Within d aBuffer aPos) :
    (b.info t o aPos).collect aBuffer d = .ok b.seen.objects := by
  rcases Nat.eq_zero_or_pos b.objects.length with hzero | hpos
  · obtain ⟨it, hit, -⟩ := ObjectReadIterator.beginRead_of_accepted (h.accepted aPos) aBuffer d
    have hcount : (b.info t o aPos).mCount = 0 := hzero
    rw [HeaderInfo.collect, hit, except_ok_bind, hcount, seen, List.length_eq_zero_iff.mp hzero]
    rfl
  · rw [HeaderInfo.collect, h.beginRead hw hpos, except_ok_bind]
    exact h.collect_iteratorAt hw (Nat.zero_add _)

end Block

/-! ## The round trip

The parser finds the headers of the blocks, and the readers find their objects. -/

/-- The range of a header, if it has one. -/
def HeaderInfo.range (h : HeaderInfo) (aBuffer : List Byte) : Option RangeInfo :=
  match h.mHeader with
  | .ranged2Octet | .ranged4Octet | .ranged8Octet => some (h.mHeader.getRange aBuffer h.mPos)
  | _ => none

/-- The blocks that a reader finds in a fragment. -/
def readBlocks (aBuffer : List Byte) (d : Bool) : List HeaderInfo →
    Except Exception (List (Block (List Byte)))
  | [] => .ok []
  | h :: hs => do
    let objects ← h.collect aBuffer d
    let bs ← readBlocks aBuffer d hs
    return ⟨h.mGroup, h.mVariation, h.mQualifier, objects, h.range aBuffer⟩ :: bs

/-- The blocks of a fragment that has been interpreted. -/
def APDU.blocks (f : APDU) : Except Exception (List (Block (List Byte))) :=
  readBlocks f.mBuffer (hasData f.getFunction) f.mObjectHeaders

/-- A reader finds the range of a block. -/
theorem Block.Formed.range_eq {b : Block (List Byte)} {d : Bool} {t : ObjectHeaderTypes}
    {o : ObjectBase}
    (h : b.Formed d t o) {aBuffer : List Byte} {aPos : ℕ} (hw : b.Within d aBuffer aPos) :
    (b.info t o aPos).range aBuffer = b.range := by
  have hrange := h.range
  have hget := h.getRange_eq hw
  have hnone := h.range_none
  cases t with
  | allObjects => exact (hnone (.inr rfl)).symm
  | count1Octet | count2Octet | count4Octet => exact (hnone (.inl rfl)).symm
  | ranged2Octet | ranged4Octet | ranged8Octet =>
    obtain ⟨r, hr, -⟩ := hrange rfl (by rintro ⟨⟩)
    simp only [HeaderInfo.range, Block.info, hget rfl (by rintro ⟨⟩), hr]
    rfl

/-- A reader finds the blocks that stand one after the other. -/
theorem Noted.readBlocks_eq {d : Bool} {bs : List (Block (List Byte))} {aPos : ℕ}
    {hs : List HeaderInfo}
    (h : Noted d aPos bs hs) {aBuffer pre : List Byte} (hpos : pre.length = aPos)
    (hbuffer : aBuffer = pre ++ bs.flatMap (Block.octets · d)) :
    readBlocks aBuffer d hs = .ok (bs.map Block.seen) := by
  induction h generalizing pre with
  | nil => rfl
  | @cons aPos b bs t o hs hb hrest ih =>
    rw [List.flatMap_cons] at hbuffer
    have hw : b.Within d aBuffer aPos := ⟨pre, _, hpos, hbuffer⟩
    have hblocks := @ih (pre ++ b.octets d) (by rw [List.length_append, hpos])
      (by rw [hbuffer, List.append_assoc])
    rw [readBlocks, hb.collect_eq hw, except_ok_bind, hblocks, except_ok_bind, hb.range_eq hw]
    rfl

/-- **A fragment is read as it was written**: the header with its control octet and its indications,
and the blocks with their objects, each with the index that a reader finds for it. -/
structure OutAPDU.ReadAs (f : OutAPDU (List Byte)) (apdu : APDU) : Prop where
  control : apdu.getControl = { f.control with seq := f.control.seq % 16 }
  function : f.function = some apdu.getFunction
  iin : isResponse apdu.getFunction = true → apdu.getIIN = f.iin
  blocks : apdu.blocks = .ok (f.blocks.map Block.seen)

theorem OutAPDU.readAs_of_formed {f : OutAPDU (List Byte)} {aCode : FunctionCodes}
    (hf : f.function = some aCode) (hblocks : ∀ b ∈ f.blocks, ∃ t o, b.Formed f.hasData t o) :
    ∃ apdu, APDU.interpret f.octets = .ok apdu ∧ f.ReadAs apdu := by
  obtain ⟨hs, hnoted, heq⟩ := f.interpret_octets hf hblocks
  have hdata : f.hasData = OpenDNP3.hasData aCode := by rw [hasData, hf]; rfl
  refine ⟨_, heq, rfl, hf, fun hresponse ↦ ?_, ?_⟩
  · have hheader := f.headerOctets_eq hf
    rw [if_pos hresponse] at hheader
    rw [APDU.getIIN, octets, hheader]
    rfl
  · rw [APDU.blocks, ← hdata]
    exact hnoted.readBlocks_eq rfl rfl

end OpenDNP3
