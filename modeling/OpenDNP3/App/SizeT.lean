import OpenDNP3.App.Grammar

/-!
# Header sizes in a machine word

`APDU::ReadObjectHeader` and `APDU::GetNumObjects` compute with `size_t` what `readObjectHeader` and
`getNumObjects` compute with natural numbers: the number of objects of a range, and the octets that
so many objects take.  Here they are written once more with the width of `size_t` as a parameter.

* `SizeT.interpret_eq` — **with 64 bits nothing wraps**, so the parser is the one that computes with
  natural numbers.
* `SizeT.exactAt_iff` — with 32 bits the numbers are exact, and a header is accepted only with all
  its data, **exactly if** the header is not for all 2^32 indices and its objects take less than
  2^32 octets (and if it is for an object sized by its variation, for one such object).
* `SizeT.not_exactAt` — 2^31 objects of two octets are accepted without any.
-/

set_option autoImplicit false

namespace OpenDNP3

namespace SizeT

variable (aBits : ℕ)

/-- What a `size_t` keeps of a number. -/
def wrap (n : ℕ) : ℕ := n % 2 ^ aBits

/-- `APDU::GetNumObjects` -/
def getNumObjects (apHeader : ObjectHeaderTypes) (aBuffer : List Byte) (aPos : ℕ) :
    Except Exception ℕ :=
  match apHeader with
  | .allObjects => .ok 0
  | .ranged2Octet | .ranged4Octet | .ranged8Octet =>
    let info := apHeader.getRange aBuffer aPos
    if info.start > info.stop then .error (.general "ALERR_START_STOP_MISMATCH")
    else .ok (wrap aBits (info.stop - info.start + 1))  -- indices are inclusive
  | .count1Octet | .count2Octet | .count4Octet => .ok (apHeader.getCount aBuffer aPos)

/-- `BitfieldObject::GetSize` -/
def bitfieldSize (aNumValues : ℕ) : ℕ :=
  if aNumValues % 8 ≠ 0 then wrap aBits (aNumValues / 8 + 1) else aNumValues / 8

/-- The octets of the objects of a header. -/
def objectDataSize (aHasData : Bool) (aType : ObjectTypes) (aVariation aPrefixSize aCount : ℕ) :
    Except Exception ℕ :=
  match aType with
  | .placeholder => .ok 0
  | .fixed size =>
    .ok (wrap aBits (wrap aBits (aPrefixSize + if aHasData then size else 0) * aCount))
  | .bitfield => .ok (if aHasData then bitfieldSize aBits aCount else 0)
  | .sizeByVariation => .ok (wrap aBits (aPrefixSize + if aHasData then aVariation else 0))
  | .variable => .error (.general "Unknown object type")

/-- `APDU::ReadObjectHeader`.  What it returns is no more than `aRemainder`, so that the last sum
does not wrap. -/
def readObjectHeader (aFunction : FunctionCodes) (aBuffer : List Byte) (aOffset aRemainder : ℕ) :
    Except Exception (HeaderInfo × ℕ) := do
  if aRemainder < ObjectHeaderTypes.allObjects.getSize then throw (insufficientData aRemainder)
  let group := readUInt aBuffer 1 aOffset
  let variation := readUInt aBuffer 1 (aOffset + 1)
  let qualifier := byteToQualifierCode (readUInt aBuffer 1 (aOffset + 2))
  if qualifier = .undefined then throw (.general "Unknown qualifier")
  let pHdr ← getObjectHeader qualifier
  match ObjectBase.get group variation with
  | none => throw (.object s!"Undefined object, Group: {group} Var: {variation}")
  | some pObj =>
    if aRemainder < pHdr.getSize then throw (insufficientData aRemainder)
    let prefixSize ← getPrefixSizeAndValidate qualifier pObj.getType
    let objCount ← getNumObjects aBits pHdr aBuffer aOffset
    -- reads carry only indices
    let dataSize ← objectDataSize aBits (hasData aFunction) pObj.getType variation
      prefixSize objCount
    if dataSize > aRemainder - pHdr.getSize then
      throw (.general "ALERR_INSUFFICIENT_DATA_FOR_OBJECTS")
    return (⟨aOffset, group, variation, qualifier, objCount, prefixSize, pHdr, pObj⟩,
      pHdr.getSize + dataSize)

/-- The loop of `APDU::Interpret` over the object headers, with a bound on its rounds. -/
def readObjectHeaders (aFunction : FunctionCodes) (aBuffer : List Byte) :
    (fuel consumed remainder : ℕ) → Except Exception (List HeaderInfo)
  | 0, _, _ => .ok []
  | fuel + 1, consumed, remainder =>
    if remainder = 0 then .ok []
    else do
      let (info, headerSize) ← readObjectHeader aBits aFunction aBuffer consumed remainder
      let infos ← readObjectHeaders aFunction aBuffer fuel (consumed + headerSize)
        (remainder - headerSize)
      return info :: infos

/-- `APDU::Interpret` -/
def interpret (apData : List Byte) : Except Exception APDU := do
  let (control, function, consumed) ← APDU.interpretHeader apData
  let remainder := apData.length - consumed
  let infos ← readObjectHeaders aBits function apData remainder consumed remainder
  return ⟨apData, control, function, infos⟩

/-! ## Numbers that fit -/

variable {aBits}

theorem wrap_eq_self_iff {n : ℕ} : wrap aBits n = n ↔ n < 2 ^ aBits :=
  Nat.mod_eq_iff_lt (Nat.ne_of_gt (Nat.two_pow_pos aBits))

/-- The header that the octets at a position are, by the lookup of the code. -/
abbrev KnownAt (aBuffer : List Byte) (aPos : ℕ) (h : HeaderInfo) : Prop :=
  HeaderAt (fun g v o ↦ ObjectBase.get g v = some o) aBuffer aPos h

variable {aBuffer : List Byte} {aPos aRemainder : ℕ} {h : HeaderInfo} {f : FunctionCodes} {d : Bool}

theorem getCount_lt (t : ObjectHeaderTypes) (aBuffer : List Byte) (aPos : ℕ) :
    t.getCount aBuffer aPos < 2 ^ 32 := by
  have hlt := readUInt_lt aBuffer t.fieldSize (aPos + 3)
  have hsize : t.fieldSize ≤ 4 := by cases t <;> decide
  exact Nat.lt_of_lt_of_le hlt (Nat.pow_le_pow_right (by decide : 0 < 256) hsize)

/-- The number of objects is the exact one, as far as it fits. -/
theorem getNumObjects_eq (hbits : 32 ≤ aBits) (t : ObjectHeaderTypes) (aBuffer : List Byte)
    (aPos : ℕ) :
    getNumObjects aBits t aBuffer aPos = (OpenDNP3.getNumObjects t aBuffer aPos).map
      (wrap aBits) := by
  have hcount : wrap aBits (t.getCount aBuffer aPos) = t.getCount aBuffer aPos :=
    wrap_eq_self_iff.mpr
      (Nat.lt_of_lt_of_le (getCount_lt t aBuffer aPos) (Nat.pow_le_pow_right (by decide) hbits))
  have hrange (i : RangeInfo) : (if i.start > i.stop then
      (.error (.general "ALERR_START_STOP_MISMATCH") : Except Exception ℕ)
      else .ok (wrap aBits (i.stop - i.start + 1))) =
      (if i.start > i.stop then (.error (.general "ALERR_START_STOP_MISMATCH") : Except Exception ℕ)
      else .ok (i.stop - i.start + 1)).map (wrap aBits) := by
    split <;> rfl
  cases t with
  | allObjects => exact congrArg Except.ok (Nat.zero_mod _).symm
  | ranged2Octet | ranged4Octet | ranged8Octet => exact hrange _
  | count1Octet | count2Octet | count4Octet => exact congrArg Except.ok hcount.symm

/-- The octets of the objects are what the code means to count, as far as they fit. -/
theorem objectDataSize_eq (hbits : 32 ≤ aBits) {aType : ObjectTypes}
    {aVariation aPrefixSize aCount : ℕ} (hcount : aCount < 2 ^ aBits) :
    objectDataSize aBits d aType aVariation aPrefixSize aCount =
      (OpenDNP3.objectDataSize d aType aVariation aPrefixSize aCount).map (wrap aBits) := by
  have htwo : 2 ^ 32 ≤ 2 ^ aBits := Nat.pow_le_pow_right (by decide) hbits
  cases aType with
  | placeholder => exact congrArg Except.ok (Nat.zero_mod _).symm
  | fixed size =>
    refine congrArg Except.ok ?_
    rw [wrap, wrap, wrap, Nat.mul_mod, Nat.mod_mod, ← Nat.mul_mod]
  | bitfield =>
    have hsize : bitfieldSize aBits aCount = OpenDNP3.bitfieldSize aCount := by
      rw [bitfieldSize, OpenDNP3.bitfieldSize, wrap_eq_self_iff.mpr (by omega)]
    have hlt : OpenDNP3.bitfieldSize aCount < 2 ^ aBits := by
      rw [OpenDNP3.bitfieldSize]
      split <;> omega
    refine congrArg Except.ok ?_
    rw [hsize]
    cases d with
    | false => exact (Nat.zero_mod _).symm
    | true => exact (wrap_eq_self_iff.mpr hlt).symm
  | _ => rfl

/-- **Where the numbers fit, the header is read as with natural numbers.** -/
theorem readObjectHeader_eq (hbits : 32 ≤ aBits)
    (hfits : ∀ h, KnownAt aBuffer aPos h → h.mHeader.getSize ≤ aRemainder →
      h.mCount < 2 ^ aBits ∧ h.countedSize (hasData f) < 2 ^ aBits) :
    readObjectHeader aBits f aBuffer aPos aRemainder =
      OpenDNP3.readObjectHeader f aBuffer aPos aRemainder := by
  rw [readObjectHeader, OpenDNP3.readObjectHeader]
  simp only [bind, Except.bind, throw, throwThe, MonadExceptOf.throw, pure, Except.pure]
  generalize hg : readUInt aBuffer 1 aPos = g
  generalize hv : readUInt aBuffer 1 (aPos + 1) = v
  generalize hq : byteToQualifierCode (readUInt aBuffer 1 (aPos + 2)) = q
  split
  · rfl
  split
  · rfl
  cases hhdr : getObjectHeader q with
  | error e => rfl
  | ok t =>
    dsimp only
    cases hobj : ObjectBase.get g v with
    | none => rfl
    | some o =>
      dsimp only
      by_cases hlen : aRemainder < t.getSize
      · rw [if_pos hlen, if_pos hlen]
      · rw [if_neg hlen, if_neg hlen]
        cases hpre : getPrefixSizeAndValidate q o.getType with
        | error e => rfl
        | ok k =>
          dsimp only
          rw [getNumObjects_eq hbits]
          cases hcount : OpenDNP3.getNumObjects t aBuffer aPos with
          | error e => rfl
          | ok n =>
            -- the octets are a header, and what is computed of it fits
            have ht := ObjectBase.getType_ne_variable hobj
            obtain ⟨hsuits, hk⟩ := (getPrefixSizeAndValidate_eq_ok ht).mp hpre
            have hat : KnownAt aBuffer aPos ⟨aPos, g, v, q, n, k, t, o⟩ :=
              ⟨rfl, hg.symm, hv.symm, hq.symm, hobj, hhdr, hsuits, hk,
                getNumObjects_eq_ok.mp hcount⟩
            obtain ⟨hn, hsize⟩ := hfits _ hat (Nat.le_of_not_lt hlen)
            have hdata := OpenDNP3.objectDataSize_eq (h := ⟨aPos, g, v, q, n, k, t, o⟩)
              (d := hasData f) ht hsuits hk
            dsimp only at hn hdata
            simp only [Except.map, wrap_eq_self_iff.mpr hn]
            rw [objectDataSize_eq hbits hn, hdata]
            simp only [Except.map, wrap_eq_self_iff.mpr hsize]

theorem readObjectHeaders_eq
    (hread : ∀ aPos aRemainder,
      readObjectHeader aBits f aBuffer aPos aRemainder =
        OpenDNP3.readObjectHeader f aBuffer aPos aRemainder)
    (fuel consumed remainder : ℕ) :
    readObjectHeaders aBits f aBuffer fuel consumed remainder =
      OpenDNP3.readObjectHeaders f aBuffer fuel consumed remainder := by
  induction fuel generalizing consumed remainder with
  | zero => rfl
  | succ fuel ih => simp only [readObjectHeaders, OpenDNP3.readObjectHeaders, hread, ih]

/-! ## With 64 bits

The number of the objects and the size of one of them are so small that their product is far
below the limit. -/

/-- No header is for more than 2^32 objects. -/
theorem mCount_le (hat : KnownAt aBuffer aPos h) : h.mCount ≤ 2 ^ 32 := by
  have hcount := hat.count
  have hstop := readUInt_lt aBuffer h.mHeader.fieldSize (aPos + 3 + h.mHeader.fieldSize)
  have hget := getCount_lt h.mHeader aBuffer aPos
  revert hcount hstop hget
  cases h.mHeader with
  | allObjects =>
    rintro hcount - -
    rw [show h.mCount = 0 from hcount]
    exact Nat.zero_le _
  | ranged2Octet | ranged4Octet | ranged8Octet =>
    rintro ⟨-, hcount⟩ hstop -
    rw [hcount, ObjectHeaderTypes.getRange]
    simp only [ObjectHeaderTypes.fieldSize] at hstop ⊢
    omega
  | count1Octet | count2Octet | count4Octet =>
    rintro hcount - hget
    rw [show h.mCount = _ from hcount]
    exact Nat.le_of_lt hget

/-- The octets in front of an object and in it are few. -/
theorem objectSize_le (hat : KnownAt aBuffer aPos h) (hbit : h.mObjectBase.getType ≠ .bitfield) :
    h.mPrefixSize + h.objectSize d ≤ 259 := by
  have hprefix : h.mPrefixSize ≤ 4 := by
    rw [hat.prefixSize]
    cases h.mQualifier <;> decide
  have hvariation : h.mVariation < 256 := by
    rw [hat.variation]
    exact readUInt_lt aBuffer 1 _
  have hfixed (n : ℕ) (hn : h.mObjectBase.getType = .fixed n) : n ≤ 15 := by
    have hall : (ObjectBase.known ++ ObjectBase.knownGroups).all
        (fun o ↦ match o.getType with | .fixed n => n ≤ 15 | _ => true) = true := by decide
    have hmem : h.mObjectBase ∈ ObjectBase.known ++ ObjectBase.knownGroups :=
      ObjectBase.mem_of_get hat.object
    have hthis := List.all_eq_true.mp hall _ hmem
    rw [hn] at hthis
    exact of_decide_eq_true hthis
  have hsize : h.objectSize d ≤ 255 := by
    rw [HeaderInfo.objectSize]
    split
    · split
      · exact Nat.zero_le _
      · exact Nat.zero_le _
      · next n hn => exact Nat.le_trans (hfixed n hn) (by decide)
      · next hn => exact absurd hn hbit
      · omega
    · exact Nat.zero_le _
  omega

/-- **What is computed of a header fits in 64 bits.** -/
theorem fits_of_64 (hat : KnownAt aBuffer aPos h) : h.mCount < 2 ^ 64 ∧
    h.countedSize d < 2 ^ 64 := by
  have hcount := mCount_le hat
  refine ⟨by omega, ?_⟩
  by_cases hbit : h.mObjectBase.getType = .bitfield
  · simp only [HeaderInfo.countedSize, HeaderInfo.requiredSize, HeaderInfo.objectSize, hbit]
    split <;> omega
  · have hsize := objectSize_le (d := d) hat hbit
    have hall : (h.mPrefixSize + h.objectSize d) * h.mCount ≤ 259 * 2 ^ 32 :=
      Nat.mul_le_mul hsize hcount
    rw [HeaderInfo.countedSize, HeaderInfo.requiredSize]
    split
    · omega
    · split <;> omega

/-- **With 64 bits nothing wraps**: the parser is the one that computes with natural numbers. -/
theorem interpret_eq (apData : List Byte) : interpret 64 apData = APDU.interpret apData := by
  have hread (f : FunctionCodes) (aPos aRemainder : ℕ) :
      readObjectHeader 64 f apData aPos aRemainder =
        OpenDNP3.readObjectHeader f apData aPos aRemainder :=
    readObjectHeader_eq (by decide) fun h hat _ ↦ fits_of_64 hat
  simp only [interpret, APDU.interpret, readObjectHeaders_eq (hread _)]

/-! ## With 32 bits

Here the product may wrap, and a header may be accepted whose objects are not there. -/

/-- What is computed of the header fits in 32 bits, and is what its objects take. -/
structure Representable (aHasData : Bool) (aBuffer : List Byte) (h : HeaderInfo) : Prop where
  /-- The header is not for all indices. -/
  range : ¬(h.mHeader = .ranged8Octet ∧ h.mHeader.getRange aBuffer h.mPos = ⟨0, 0xFFFFFFFF⟩)
  /-- So many objects of this size take less than 2^32 octets. -/
  size : ∀ n, h.mObjectBase.getType = .fixed n →
    (h.mPrefixSize + if aHasData then n else 0) * h.mCount ≤ 0xFFFFFFFF
  /-- An object that is sized by its variation is alone. -/
  one : h.mObjectBase.getType = .sizeByVariation → h.mCount = 1

/-- The numbers that `GetNumObjects` and `ReadObjectHeader` compute for the header at a position are
exact, and a header is accepted only if the octets that its objects take are there. -/
structure ExactAt (aFunction : FunctionCodes) (aBuffer : List Byte) (aPos aRemainder : ℕ) :
    Prop where
  count : ∀ h, KnownAt aBuffer aPos h → h.mHeader.getSize ≤ aRemainder →
    getNumObjects 32 h.mHeader aBuffer aPos = .ok h.mCount
  size : ∀ h n, KnownAt aBuffer aPos h → h.mHeader.getSize ≤ aRemainder →
    getNumObjects 32 h.mHeader aBuffer aPos = .ok n →
    objectDataSize 32 (hasData aFunction) h.mObjectBase.getType h.mVariation h.mPrefixSize n =
      .ok (h.requiredSize (hasData aFunction))
  accepted : ∀ h n, readObjectHeader 32 aFunction aBuffer aPos aRemainder = .ok (h, n) →
    KnownAt aBuffer aPos h ∧ n = h.mHeader.getSize + h.requiredSize (hasData aFunction) ∧
      n ≤ aRemainder

/-- All indices are the only ones that are too many. -/
theorem mCount_lt_iff (hat : KnownAt aBuffer aPos h) : h.mCount < 2 ^ 32 ↔
    ¬(h.mHeader = .ranged8Octet ∧ h.mHeader.getRange aBuffer h.mPos = ⟨0, 0xFFFFFFFF⟩) := by
  rw [hat.pos]
  have hcount := hat.count
  have hstop := readUInt_lt aBuffer h.mHeader.fieldSize (aPos + 3 + h.mHeader.fieldSize)
  have hget := getCount_lt h.mHeader aBuffer aPos
  revert hcount hstop hget
  cases h.mHeader with
  | allObjects =>
    rintro hcount - -
    rw [show h.mCount = 0 from hcount]
    simp
  | ranged2Octet | ranged4Octet =>
    rintro ⟨-, hcount⟩ hstop -
    rw [hcount, ObjectHeaderTypes.getRange]
    simp only [ObjectHeaderTypes.fieldSize] at hstop ⊢
    refine ⟨fun _ h ↦ absurd h.1 (by decide), fun _ ↦ ?_⟩
    omega
  | ranged8Octet =>
    rintro ⟨-, hcount⟩ hstop -
    rw [hcount, ObjectHeaderTypes.getRange]
    simp only [ObjectHeaderTypes.fieldSize, RangeInfo.mk.injEq, true_and] at hstop ⊢
    omega
  | count1Octet | count2Octet | count4Octet =>
    rintro hcount - hget
    rw [show h.mCount = _ from hcount]
    exact ⟨fun _ h ↦ absurd h.1 (by decide), fun _ ↦ hget⟩

/-- Objects of a fixed size take what the prefix, the size and their number make. -/
theorem requiredSize_of_fixed {n : ℕ} (hn : h.mObjectBase.getType = .fixed n) :
    h.requiredSize d = (h.mPrefixSize + if d then n else 0) * h.mCount := by
  simp only [HeaderInfo.requiredSize, HeaderInfo.objectSize, hn]

theorem countedSize_lt (hat : KnownAt aBuffer aPos h) (hrep : Representable d aBuffer h) :
    h.countedSize d < 2 ^ 32 := by
  have hcount := mCount_le hat
  cases ho : h.mObjectBase.getType with
  | placeholder =>
    -- no index stands in front of what has no data
    have hzero : h.mPrefixSize = 0 := by
      have hsuits := hat.suits
      rw [hat.prefixSize]
      rw [ho] at hsuits
      revert hsuits
      cases h.mQualifier <;> simp [QualifierCode.Suits, QualifierCode.indexSize]
    simp [HeaderInfo.countedSize, HeaderInfo.requiredSize, HeaderInfo.objectSize, ho, hzero]
  | fixed n =>
    have hsize := hrep.size n ho
    rw [← requiredSize_of_fixed ho] at hsize
    simp only [HeaderInfo.countedSize, ho]
    omega
  | bitfield =>
    simp only [HeaderInfo.countedSize, HeaderInfo.requiredSize, HeaderInfo.objectSize, ho]
    split <;> omega
  | sizeByVariation =>
    have hsize := objectSize_le (d := d) hat (by rw [ho]; simp)
    simp only [HeaderInfo.countedSize, ho]
    omega
  | _ => exact absurd ho (ObjectBase.getType_ne_variable hat.object)

/-- **With 32 bits the sizes are exact exactly if they can be represented.** -/
theorem exactAt_iff (aFunction : FunctionCodes) (aBuffer : List Byte) (aPos aRemainder : ℕ) :
    ExactAt aFunction aBuffer aPos aRemainder ↔
      ∀ h, KnownAt aBuffer aPos h → h.mHeader.getSize ≤ aRemainder →
        Representable (hasData aFunction) aBuffer h := by
  have hdata (h : HeaderInfo) (hat : KnownAt aBuffer aPos h) (hlt : h.mCount < 2 ^ 32) :
      objectDataSize 32 (hasData aFunction) h.mObjectBase.getType h.mVariation h.mPrefixSize
        h.mCount =
        .ok (wrap 32 (h.countedSize (hasData aFunction))) := by
    rw [objectDataSize_eq (by decide) hlt,
      OpenDNP3.objectDataSize_eq (ObjectBase.getType_ne_variable hat.object) hat.suits
        hat.prefixSize]
    rfl
  have hnum (h : HeaderInfo) (hat : KnownAt aBuffer aPos h) :
      getNumObjects 32 h.mHeader aBuffer aPos = .ok (wrap 32 h.mCount) := by
    rw [getNumObjects_eq (by decide), getNumObjects_eq_ok.mpr hat.count]
    rfl
  constructor
  · intro hexact h hat hlen
    have hcount := hexact.count h hat hlen
    have hlt : h.mCount < 2 ^ 32 :=
      wrap_eq_self_iff.mp (Except.ok.inj ((hnum h hat).symm.trans hcount))
    have hsize := Except.ok.inj
      ((hdata h hat hlt).symm.trans (hexact.size h h.mCount hat hlen hcount))
    refine ⟨(mCount_lt_iff hat).mp hlt, fun n hn ↦ ?_, fun ho ↦ ?_⟩
    · have hcounted : h.countedSize (hasData aFunction) = h.requiredSize (hasData aFunction) := by
        simp only [HeaderInfo.countedSize, hn]
      rw [hcounted, wrap_eq_self_iff, requiredSize_of_fixed hn] at hsize
      omega
    · have hsmall := objectSize_le (d := hasData aFunction) hat (by rw [ho]; simp)
      have hcounted : h.countedSize (hasData aFunction) = h.mPrefixSize + h.objectSize
          (hasData aFunction) := by
        simp only [HeaderInfo.countedSize, ho]
      rw [wrap_eq_self_iff.mpr (by omega)] at hsize
      exact hat.one_of_countedSize hsize ho
  · intro hrep
    have hfits (h : HeaderInfo) (hat : KnownAt aBuffer aPos h)
      (hlen : h.mHeader.getSize ≤ aRemainder) :
        h.mCount < 2 ^ 32 ∧ h.countedSize (hasData aFunction) < 2 ^ 32 :=
      ⟨(mCount_lt_iff hat).mpr (hrep h hat hlen).range, countedSize_lt hat (hrep h hat hlen)⟩
    refine ⟨fun h hat hlen ↦ ?_, fun h n hat hlen hn ↦ ?_, fun h n hread ↦ ?_⟩
    · rw [hnum h hat, wrap_eq_self_iff.mpr (hfits h hat hlen).1]
    · obtain ⟨hcount, hsize⟩ := hfits h hat hlen
      rw [hnum h hat, wrap_eq_self_iff.mpr hcount] at hn
      obtain rfl := Except.ok.inj hn
      rw [hdata h hat hcount, wrap_eq_self_iff.mpr hsize, HeaderInfo.countedSize_eq
        (hrep h hat hlen).one]
    · rw [readObjectHeader_eq (by decide) hfits, readObjectHeader_eq_ok] at hread
      obtain ⟨hat, hn, hle⟩ := hread
      rw [HeaderInfo.countedSize_eq (hrep h hat (by omega)).one] at hn
      exact ⟨hat, hn, hle⟩

/-- A write of 2^31 analog inputs of two octets is accepted, and there is no octet of them. -/
theorem not_exactAt :
    ¬ExactAt .write [0xC0, 0x02, 0x1E, 0x04, 0x09, 0x00, 0x00, 0x00, 0x80] 2 7 ∧
      ∃ apdu, interpret 32 [0xC0, 0x02, 0x1E, 0x04, 0x09, 0x00, 0x00, 0x00, 0x80] = .ok apdu ∧
        apdu.mObjectHeaders.map HeaderInfo.mCount = [2 ^ 31] := by
  obtain ⟨p, hread⟩ : ∃ p, readObjectHeader 32 .write
      [0xC0, 0x02, 0x1E, 0x04, 0x09, 0x00, 0x00, 0x00, 0x80] 2 7 = .ok p := ⟨_, rfl⟩
  have heval : (readObjectHeader 32 .write [0xC0, 0x02, 0x1E, 0x04, 0x09, 0x00, 0x00, 0x00, 0x80] 2
    7).toOption.all
      (fun p ↦ p.1.requiredSize true = 2 ^ 32) = true := by decide +kernel
  rw [hread] at heval
  refine ⟨fun hexact ↦ ?_, _, rfl, by decide +kernel⟩
  obtain ⟨-, hn, hle⟩ := hexact.accepted p.1 p.2 hread
  rw [show hasData .write = true from rfl, of_decide_eq_true heval] at hn
  omega

end SizeT

end OpenDNP3
