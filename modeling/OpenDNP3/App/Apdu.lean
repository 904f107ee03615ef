import OpenDNP3.Lib.Handler
import OpenDNP3.App.Objects

/-!
# Reading a fragment

`APDU::Interpret` cuts a received fragment into its object headers, and the two iterators go
through what it found: `HeaderReadIterator` through the headers and `ObjectReadIterator` through
the objects of one header.

* `APDU.interpret` — the parser with its error paths.  Its loop is bounded here by the number of
  octets that are left, which `readObjectHeaders_fuel` shows to be no restriction.
* `HeaderInfo.Accepted` — what is known of a header once `Interpret` has accepted it, and
  `ObjectReadIterator.begin_of_accepted`: to start reading its objects never fails.
-/

set_option autoImplicit false

namespace OpenDNP3

open Handler

/-! ## Numbers in a fragment -/

/-- `UInt8::Read`, `UInt16LE::Read` and `UInt32LE::Read`: the number in the octets from a position
on, least significant first. -/
def readUInt (aBuffer : List Byte) : (aSize aPos : ℕ) → ℕ
  | 0, _ => 0
  | n + 1, aPos => (aBuffer.getD aPos 0).toNat + 256 * readUInt aBuffer n (aPos + 1)

theorem readUInt_lt (aBuffer : List Byte) (aSize aPos : ℕ) :
    readUInt aBuffer aSize aPos < 256 ^ aSize := by
  induction aSize generalizing aPos with
  | zero => exact Nat.one_pos
  | succ n ih =>
    have hbyte := (aBuffer.getD aPos 0).isLt
    have hrest := ih (aPos + 1)
    rw [readUInt, Nat.pow_succ]
    omega

/-- `RangeInfo` -/
structure RangeInfo where
  start : ℕ
  stop : ℕ
  deriving DecidableEq, Repr

/-- `IRangeHeader::GetRange`, of the header that starts at the position. -/
def ObjectHeaderTypes.getRange (h : ObjectHeaderTypes) (aBuffer : List Byte) (aPos : ℕ) :
    RangeInfo where
  start := readUInt aBuffer h.fieldSize (aPos + 3)
  stop := readUInt aBuffer h.fieldSize (aPos + 3 + h.fieldSize)

/-- `ICountHeader::GetCount`, of the header that starts at the position. -/
def ObjectHeaderTypes.getCount (h : ObjectHeaderTypes) (aBuffer : List Byte) (aPos : ℕ) : ℕ :=
  readUInt aBuffer h.fieldSize (aPos + 3)

/-! ## Headers -/

/-- `HeaderInfo` -/
structure HeaderInfo where
  mPos : ℕ
  mGroup : ℕ
  mVariation : ℕ
  mQualifier : QualifierCode
  mCount : ℕ
  mPrefixSize : ℕ
  mHeader : ObjectHeaderTypes
  mObjectBase : ObjectBase
  deriving DecidableEq, Repr

/-- The number by which the handlers tell the objects of a header apart. -/
def HeaderInfo.radix (h : HeaderInfo) : ℕ := OpenDNP3.radix h.mGroup h.mVariation

/-- `APDU::GetNumObjects` -/
def getNumObjects (apHeader : ObjectHeaderTypes) (aBuffer : List Byte) (aPos : ℕ) :
    Except Exception ℕ :=
  match apHeader with
  | .allObjects => .ok 0
  | .ranged2Octet | .ranged4Octet | .ranged8Octet =>
    let info := apHeader.getRange aBuffer aPos
    if info.start > info.stop then .error (.general "ALERR_START_STOP_MISMATCH")
    else .ok (info.stop - info.start + 1)  -- indices are inclusive
  | .count1Octet | .count2Octet | .count4Octet => .ok (apHeader.getCount aBuffer aPos)

/-- What is thrown when fewer octets are left than a header takes. -/
def insufficientData (aSize : ℕ) : Exception :=
  .general s!"Insufficient data for object header: {aSize}"

/-- The octets of the objects of a header. -/
def objectDataSize (aHasData : Bool) (aType : ObjectTypes) (aVariation aPrefixSize aCount : ℕ) :
    Except Exception ℕ :=
  match aType with
  | .placeholder => .ok 0
  | .fixed size => .ok ((aPrefixSize + if aHasData then size else 0) * aCount)
  | .bitfield => .ok (if aHasData then bitfieldSize aCount else 0)
  | .sizeByVariation => .ok (aPrefixSize + if aHasData then aVariation else 0)
  | .variable => .error (.general "Unknown object type")

/-- `APDU::ReadObjectHeader`: the header and the octets that it takes with its objects. -/
def readObjectHeader (aFunction : FunctionCodes) (aBuffer : List Byte) (aOffset aRemainder : ℕ) :
    Except Exception (HeaderInfo × ℕ) := do
  if aRemainder < ObjectHeaderTypes.allObjects.getSize then throw (insufficientData aRemainder)
  let group := readUInt aBuffer 1 aOffset
  let variation := readUInt aBuffer 1 (aOffset + 1)
  let qualifier := byteToQualifierCode (readUInt aBuffer 1 (aOffset + 2))
  if qualifier = .undefined then throw (.general "Unknown qualifier")
  let pHdr ← getObjectHeader qualifier
  match ObjectBase.get group variation with
  | none => throw (.object s!"Undefined object, Group: {group} Var: {variation}")
  | some pObj =>
    if aRemainder < pHdr.getSize then throw (insufficientData aRemainder)
    let prefixSize ← getPrefixSizeAndValidate qualifier pObj.getType
    let objCount ← getNumObjects pHdr aBuffer aOffset
    -- reads carry only indices
    let dataSize ← objectDataSize (hasData aFunction) pObj.getType variation prefixSize objCount
    if dataSize > aRemainder - pHdr.getSize then
      throw (.general "ALERR_INSUFFICIENT_DATA_FOR_OBJECTS")
    return (⟨aOffset, group, variation, qualifier, objCount, prefixSize, pHdr, pObj⟩,
      pHdr.getSize + dataSize)

/-- The loop of `APDU::Interpret` over the object headers, with a bound on its rounds. -/
def readObjectHeaders (aFunction : FunctionCodes) (aBuffer : List Byte) :
    (fuel consumed remainder : ℕ) → Except Exception (List HeaderInfo)
  | 0, _, _ => .ok []
  | fuel + 1, consumed, remainder =>
    if remainder = 0 then .ok []
    else do
      let (info, headerSize) ← readObjectHeader aFunction aBuffer consumed remainder
      let infos ← readObjectHeaders aFunction aBuffer fuel (consumed + headerSize)
        (remainder - headerSize)
      return info :: infos

/-- `APDU`, interpreted. -/
structure APDU where
  mBuffer : List Byte
  getControl : AppControlField
  getFunction : FunctionCodes
  mObjectHeaders : List HeaderInfo
  deriving DecidableEq, Repr

namespace APDU

/-- `APDU::InterpretHeader`: the control octet, the function code and the size of the header. -/
def interpretHeader (apData : List Byte) :
    Except Exception (AppControlField × FunctionCodes × ℕ) := do
  if apData.length < 2 then throw (insufficientData apData.length)
  let function := intToFunction (readUInt apData 1 1)
  let control := AppControlField.ofByte (apData.getD 0 0)
  if isResponse function then
    if apData.length < 4 then throw (insufficientData apData.length)
    return (control, function, 4)
  else
    return (control, function, 2)

/-- `APDU::Interpret` -/
def interpret (apData : List Byte) : Except Exception APDU := do
  let (control, function, consumed) ← interpretHeader apData
  let remainder := apData.length - consumed
  let infos ← readObjectHeaders function apData remainder consumed remainder
  return ⟨apData, control, function, infos⟩

/-- `APDU::GetIIN`, of a response. -/
def getIIN (arAPDU : APDU) : IINField where
  mLSB := arAPDU.mBuffer.getD 2 0
  mMSB := arAPDU.mBuffer.getD 3 0

end APDU

/-! ## Rejected fragments

Every error of the parser is one that the application layer catches. -/

theorem getObjectHeader_error {q : QualifierCode} {e : Exception}
    (h : getObjectHeader q = .error e) : e.isRejection = true := by
  unfold getObjectHeader at h
  split at h
  all_goals try contradiction
  rw [← Except.error.inj h]
  rfl

theorem getPrefixSizeAndValidate_error {q : QualifierCode} {t : ObjectTypes} {e : Exception}
    (h : getPrefixSizeAndValidate q t = .error e) : e.isRejection = true := by
  unfold getPrefixSizeAndValidate at h
  split at h
  all_goals try contradiction
  rw [← Except.error.inj h]
  rfl

theorem getNumObjects_error {t : ObjectHeaderTypes} {aBuffer : List Byte} {aPos : ℕ} {e : Exception}
    (h : getNumObjects t aBuffer aPos = .error e) : e.isRejection = true := by
  unfold getNumObjects at h
  dsimp only at h
  repeat' split at h
  all_goals try contradiction
  all_goals
    rw [← Except.error.inj h]
    rfl

theorem objectDataSize_error {d : Bool} {t : ObjectTypes} {v p c : ℕ} {e : Exception}
    (h : objectDataSize d t v p c = .error e) : e.isRejection = true := by
  unfold objectDataSize at h
  split at h
  all_goals try contradiction
  rw [← Except.error.inj h]
  rfl

theorem readObjectHeader_error {aFunction : FunctionCodes} {aBuffer : List Byte}
    {aOffset aRemainder : ℕ} {e : Exception}
    (heq : readObjectHeader aFunction aBuffer aOffset aRemainder = .error e) :
    e.isRejection = true := by
  rw [readObjectHeader] at heq
  simp only [bind, Except.bind, throw, throwThe, MonadExceptOf.throw, pure, Except.pure] at heq
  repeat' split at heq
  all_goals try contradiction
  all_goals rw [← Except.error.inj heq]
  all_goals first
    | rfl
    | exact getObjectHeader_error ‹_›
    | exact getPrefixSizeAndValidate_error ‹_›
    | exact getNumObjects_error ‹_›
    | exact objectDataSize_error ‹_›

theorem readObjectHeaders_error {aFunction : FunctionCodes} {aBuffer : List Byte}
    {fuel consumed remainder : ℕ} {e : Exception}
    (heq : readObjectHeaders aFunction aBuffer fuel consumed remainder = .error e) :
    e.isRejection = true := by
  induction fuel generalizing consumed remainder with
  | zero => exact absurd heq (by simp [readObjectHeaders])
  | succ fuel ih =>
    rw [readObjectHeaders] at heq
    split at heq
    · contradiction
    · rcases except_bind_eq_error.mp heq with heq | ⟨_, _, heq⟩
      · exact readObjectHeader_error heq
      · rcases except_bind_eq_error.mp heq with heq | ⟨_, _, heq⟩
        · exact ih heq
        · contradiction

theorem APDU.interpretHeader_error {apData : List Byte} {e : Exception}
    (heq : APDU.interpretHeader apData = .error e) : e.isRejection = true := by
  rw [interpretHeader] at heq
  simp only [bind, Except.bind, throw, throwThe, MonadExceptOf.throw, pure, Except.pure] at heq
  repeat' split at heq
  all_goals try contradiction
  all_goals
    rw [← Except.error.inj heq]
    rfl

/-- **What `Interpret` throws is caught by `_OnReceive`**, and it is no `InvalidStateException`. -/
theorem APDU.interpret_error {apData : List Byte} {e : Exception}
    (heq : APDU.interpret apData = .error e) : e.isRejection = true := by
  rw [interpret] at heq
  rcases except_bind_eq_error.mp heq with heq | ⟨_, _, heq⟩
  · exact interpretHeader_error heq
  · rcases except_bind_eq_error.mp heq with heq | ⟨_, _, heq⟩
    · exact readObjectHeaders_error heq
    · contradiction

/-! ## Accepted headers

What the checks of the parser establish about a header: its object is known, its qualifier fits
the object, and the octets of its objects are there. -/

/-- What `ReadObjectHeader` has checked of the headers that it returns. -/
structure HeaderInfo.Accepted (h : HeaderInfo) : Prop where
  object : ObjectBase.get h.mGroup h.mVariation = some h.mObjectBase
  header : getObjectHeader h.mQualifier = .ok h.mHeader
  prefixSize : getPrefixSizeAndValidate h.mQualifier h.mObjectBase.getType = .ok h.mPrefixSize
  count_allObjects : h.mHeader = .allObjects → h.mCount = 0

theorem accepted_of_readObjectHeader {aFunction : FunctionCodes} {aBuffer : List Byte}
    {aOffset aRemainder n : ℕ} {h : HeaderInfo}
    (heq : readObjectHeader aFunction aBuffer aOffset aRemainder = .ok (h, n)) :
    h.Accepted ∧ 3 ≤ n := by
  rw [readObjectHeader] at heq
  simp only [bind, Except.bind, throw, throwThe, MonadExceptOf.throw, pure, Except.pure] at heq
  repeat' split at heq
  all_goals try contradiction
  rename_i hdr hhdr _ o ho _ _ pre hpre _ count hcount _ size _ _
  obtain ⟨rfl, rfl⟩ := Prod.mk.inj (Except.ok.inj heq)
  refine ⟨⟨ho, hhdr, hpre, fun hall ↦ ?_⟩, ?_⟩
  · change hdr = _ at hall
    subst hall
    exact (Except.ok.inj hcount).symm
  · exact Nat.le_trans hdr.three_le_getSize (Nat.le_add_right _ _)

/-- Every header of the list that the loop returns is accepted. -/
theorem accepted_of_mem_readObjectHeaders {aFunction : FunctionCodes} {aBuffer : List Byte}
    {fuel consumed remainder : ℕ} {hs : List HeaderInfo}
    (heq : readObjectHeaders aFunction aBuffer fuel consumed remainder = .ok hs) {h : HeaderInfo}
    (hmem : h ∈ hs) : h.Accepted := by
  induction fuel generalizing consumed remainder hs with
  | zero =>
    rw [readObjectHeaders] at heq
    rw [← Except.ok.inj heq] at hmem
    exact absurd hmem List.not_mem_nil
  | succ fuel ih =>
    rw [readObjectHeaders] at heq
    split at heq
    · rw [← Except.ok.inj heq] at hmem
      exact absurd hmem List.not_mem_nil
    · obtain ⟨⟨info, n⟩, hinfo, heq⟩ := except_bind_eq_ok.mp heq
      obtain ⟨infos, hinfos, heq⟩ := except_bind_eq_ok.mp heq
      rw [← Except.ok.inj heq] at hmem
      rcases List.mem_cons.mp hmem with rfl | hmem
      · exact (accepted_of_readObjectHeader hinfo).1
      · exact ih hinfos hmem

/-- **Every header of a fragment that `Interpret` accepts is accepted.** -/
theorem APDU.accepted_of_interpret {apData : List Byte} {apdu : APDU}
    (heq : APDU.interpret apData = .ok apdu) {h : HeaderInfo} (hmem : h ∈ apdu.mObjectHeaders) :
    h.Accepted := by
  rw [interpret] at heq
  obtain ⟨⟨control, function, consumed⟩, _, heq⟩ := except_bind_eq_ok.mp heq
  obtain ⟨infos, hinfos, heq⟩ := except_bind_eq_ok.mp heq
  rw [← Except.ok.inj heq] at hmem
  exact accepted_of_mem_readObjectHeaders hinfos hmem

/-- As a header takes three octets or more, the number of octets left bounds the rounds of the
loop: no more are ever needed. -/
theorem readObjectHeaders_fuel (aFunction : FunctionCodes) (aBuffer : List Byte)
    {fuel consumed remainder : ℕ} (h : remainder ≤ fuel) :
    readObjectHeaders aFunction aBuffer fuel consumed remainder =
      readObjectHeaders aFunction aBuffer remainder consumed remainder := by
  induction fuel using Nat.strongRecOn generalizing consumed remainder with
  | ind fuel ih =>
    match fuel, remainder with
    | 0, 0 => rfl
    | fuel + 1, 0 => simp [readObjectHeaders]
    | fuel + 1, remainder + 1 =>
      simp only [readObjectHeaders, Nat.add_one_ne_zero, if_false]
      cases hinfo : readObjectHeader aFunction aBuffer consumed (remainder + 1) with
      | error e => rfl
      | ok p =>
        have hn := (accepted_of_readObjectHeader (h := p.1) (n := p.2) hinfo).2
        simp only [except_ok_bind]
        rw [ih fuel (Nat.lt_succ_self _) (by omega), ih remainder (by omega) (by omega)]

/-! ## The objects of a header

The iterator computes the index and the place of an object when it comes to it. -/

/-- `ObjectReadIterator`, with the place of `mpPrefixPos` in the buffer. -/
structure ObjectReadIterator where
  mHeaderInfo : HeaderInfo
  mCurrentObjectNum : ℕ
  mIndex : ℕ
  mStart : ℕ
  mpPrefixPos : ℕ
  mpBuffer : List Byte
  mHasData : Bool
  deriving DecidableEq, Repr

namespace ObjectReadIterator

/-- `Count` -/
def count (it : ObjectReadIterator) : ℕ := it.mHeaderInfo.mCount

/-- `IsEnd` -/
def isEnd (it : ObjectReadIterator) : Bool := it.mCurrentObjectNum ≥ it.count

/-- `CalcCountIndex` -/
def calcCountIndex (it : ObjectReadIterator) : Except Exception ℕ :=
  match it.mHeaderInfo.mQualifier with
  | .cnt1B | .cnt2B | .cnt4B | .allObj => .ok it.mCurrentObjectNum
  | .cnt1BIndex1B => .ok (readUInt it.mpBuffer 1 it.mpPrefixPos)
  | .cnt2BIndex2B => .ok (readUInt it.mpBuffer 2 it.mpPrefixPos)
  | .cnt4BIndex4B => .ok (readUInt it.mpBuffer 4 it.mpPrefixPos)
  | _ => .error (.general "Invalid qualifier code")

/-- `CalcIndex` -/
def calcIndex (it : ObjectReadIterator) : Except Exception ℕ :=
  match it.mHeaderInfo.mHeader with
  | .count1Octet | .count2Octet | .count4Octet => it.calcCountIndex
  | .ranged2Octet | .ranged4Octet | .ranged8Octet =>
    .ok ((it.mHeaderInfo.mHeader.getRange it.mpBuffer it.mHeaderInfo.mPos).start
      + it.mCurrentObjectNum)
  | .allObjects => .ok 0

/-- `CalcObjSize`, the octets of the current object. -/
def calcObjSize (it : ObjectReadIterator) : Except Exception ℕ :=
  if !it.mHasData then .ok 0
  else
    match it.mHeaderInfo.mQualifier with
    | .vcnt1BSize1B => .ok (readUInt it.mpBuffer 1 it.mpPrefixPos)
    | .vcnt1BSize2B => .ok (readUInt it.mpBuffer 2 it.mpPrefixPos)
    | .vcnt1BSize4B => .ok (readUInt it.mpBuffer 4 it.mpPrefixPos)
    | _ =>
      match it.mHeaderInfo.mObjectBase.getType with
      | .fixed size => .ok size
      | .bitfield => .ok (bitfieldSize it.mHeaderInfo.mCount)
      | _ => .error (.general "Invalid object type for non-sized prefix")

/-- `SetObjectInfo` -/
def setObjectInfo (it : ObjectReadIterator) : Except Exception ObjectReadIterator := do
  return { it with mIndex := ← it.calcIndex }

/-- `HeaderReadIterator::BeginRead` and the constructor.  The members that the constructor leaves
unset when there is no object are zero here; nothing reads them. -/
def beginRead (arInfo : HeaderInfo) (apBuffer : List Byte) (aHasData : Bool) :
    Except Exception ObjectReadIterator := do
  let it : ObjectReadIterator := ⟨arInfo, 0, 0, 0, 0, apBuffer, aHasData⟩
  if it.isEnd then return it
  let it ← { it with mpPrefixPos := arInfo.mPos + arInfo.mHeader.getSize }.setObjectInfo
  if arInfo.mObjectBase.getType = .bitfield then return { it with mStart := it.mIndex }
  else return it

/-- `operator++` -/
def next (it : ObjectReadIterator) : Except Exception ObjectReadIterator := do
  if it.isEnd then throw (.general "ALERR_ITERATOR_OUT_OF_BOUNDS")
  let it := { it with mCurrentObjectNum := it.mCurrentObjectNum + 1 }
  if it.isEnd then return it
  if it.mHeaderInfo.mObjectBase.getType ≠ .bitfield then
    let size ← it.calcObjSize
    let mpPrefixPos := it.mpPrefixPos + (it.mHeaderInfo.mPrefixSize + size)
    { it with mpPrefixPos }.setObjectInfo
  else it.setObjectInfo

/-- `operator*`: where the data of the current object is in the buffer. -/
def deref (it : ObjectReadIterator) : Except Exception ℕ := do
  if it.isEnd then throw (.general "ALERR_ITERATOR_OUT_OF_BOUNDS")
  if !it.mHasData then throw (.general "ALERR_ITERATOR_NO_DATA")
  return it.mpPrefixPos + it.mHeaderInfo.mPrefixSize

/-! ### Reading objects that were accepted -/

variable {it : ObjectReadIterator}

/-- A qualifier that is accepted with a count is not one of a variable size. -/
theorem calcCountIndex_of_accepted (h : it.mHeaderInfo.Accepted)
    (hcount : it.mHeaderInfo.mHeader.isCount) : ∃ n, it.calcCountIndex = .ok n := by
  have hvcnt := getPrefixSizeAndValidate_vcnt h.prefixSize (ObjectBase.getType_ne_variable h.object)
  have hhdr := h.header
  rw [calcCountIndex]
  revert hhdr hvcnt
  cases it.mHeaderInfo.mQualifier with
  | startStop1B | startStop2B | startStop4B =>
    intro _ hhdr
    rw [← Except.ok.inj hhdr] at hcount
    exact absurd hcount (by decide)
  | undefined => exact fun _ hhdr ↦ absurd hhdr (by simp [getObjectHeader])
  | vcnt1BSize1B | vcnt1BSize2B | vcnt1BSize4B => exact fun hvcnt ↦ absurd hvcnt (by simp)
  | _ => exact fun _ _ ↦ ⟨_, rfl⟩

/-- Every object of an accepted header has an index. -/
theorem calcIndex_of_accepted (h : it.mHeaderInfo.Accepted) : ∃ n, it.calcIndex = .ok n := by
  have hcount := calcCountIndex_of_accepted h
  rw [calcIndex]
  revert hcount
  cases it.mHeaderInfo.mHeader <;> intro hcount
  case count1Octet | count2Octet | count4Octet => exact hcount rfl
  all_goals exact ⟨_, rfl⟩

theorem setObjectInfo_of_accepted (it : ObjectReadIterator) (h : it.mHeaderInfo.Accepted) :
    ∃ n, it.setObjectInfo = .ok { it with mIndex := n } := by
  obtain ⟨n, hn⟩ := calcIndex_of_accepted h
  exact ⟨n, by rw [setObjectInfo, hn]; rfl⟩

/-- **To start reading the objects of an accepted header never fails.** -/
theorem beginRead_of_accepted {h : HeaderInfo} (hacc : h.Accepted) (apBuffer : List Byte)
    (aHasData : Bool) :
    ∃ it, beginRead h apBuffer aHasData = .ok it ∧ it.mHeaderInfo = h ∧
      it.mCurrentObjectNum = 0 ∧ it.mpBuffer = apBuffer ∧ it.mHasData = aHasData := by
  rw [beginRead]
  simp only [pure, Except.pure, bind, Except.bind]
  split
  · exact ⟨_, rfl, rfl, rfl, rfl, rfl⟩
  · obtain ⟨n, hn⟩ := setObjectInfo_of_accepted
      ⟨h, 0, 0, 0, h.mPos + h.mHeader.getSize, apBuffer, aHasData⟩ hacc
    rw [hn]
    dsimp only
    split
    · exact ⟨_, rfl, rfl, rfl, rfl, rfl⟩
    · exact ⟨_, rfl, rfl, rfl, rfl, rfl⟩

/-- The objects can be read one after the other: their sizes do not depend on their data. -/
def Steppable (aHasData : Bool) (aType : ObjectTypes) : Prop :=
  aHasData = true → (∃ n, aType = .fixed n) ∨ aType = .bitfield

/-- The next object of an accepted header whose objects can be read one after the other. -/
theorem next_of_accepted (h : it.mHeaderInfo.Accepted) (hend : it.isEnd = false)
    (hstep : Steppable it.mHasData it.mHeaderInfo.mObjectBase.getType) :
    ∃ it', it.next = .ok it' ∧ it'.mHeaderInfo = it.mHeaderInfo ∧
      it'.mCurrentObjectNum = it.mCurrentObjectNum + 1 ∧ it'.mpBuffer = it.mpBuffer ∧
      it'.mHasData = it.mHasData := by
  rw [next, hend]
  simp only [bind, Except.bind, pure, Except.pure, Bool.false_eq_true, if_false]
  split
  · exact ⟨_, rfl, rfl, rfl, rfl, rfl⟩
  split
  · next hbit =>
    -- the size is either no part of the data or the one of the class
    have hsize : ∃ n, it.calcObjSize = .ok n := by
      rw [calcObjSize]
      split
      · exact ⟨_, rfl⟩
      · next hdata =>
        rcases hstep (by simpa using hdata) with ⟨n, hn⟩ | hn
        · rw [hn]
          split <;> exact ⟨_, rfl⟩
        · exact absurd hn hbit
    obtain ⟨n, hn⟩ := hsize
    obtain ⟨m, hm⟩ := setObjectInfo_of_accepted { it with
        mCurrentObjectNum := it.mCurrentObjectNum + 1
        mpPrefixPos := it.mpPrefixPos + (it.mHeaderInfo.mPrefixSize + n) } h
    have hn' : ({ it with mCurrentObjectNum := it.mCurrentObjectNum + 1 } :
        ObjectReadIterator).calcObjSize = .ok n := hn
    rw [hn']
    exact ⟨_, hm, rfl, rfl, rfl, rfl⟩
  · obtain ⟨n, hn⟩ := setObjectInfo_of_accepted
      { it with mCurrentObjectNum := it.mCurrentObjectNum + 1 } h
    exact ⟨_, hn, rfl, rfl, rfl, rfl⟩

/-- The next object of a header whose objects cannot be read one after the other. -/
theorem next_of_not_steppable (it : ObjectReadIterator) (hnum : it.mCurrentObjectNum + 1 < it.count)
    (hq : it.mHeaderInfo.Accepted)
    (hstep : ¬Steppable it.mHasData it.mHeaderInfo.mObjectBase.getType) :
    it.next = .error (.general "Invalid object type for non-sized prefix") := by
  have hvcnt := getPrefixSizeAndValidate_vcnt hq.prefixSize
    (ObjectBase.getType_ne_variable hq.object)
  simp only [Steppable, not_forall, not_or] at hstep
  obtain ⟨hdata, hfixed, hbit⟩ := hstep
  have hend : it.isEnd = false := by simp [isEnd]; omega
  have hend' : ({ it with mCurrentObjectNum := it.mCurrentObjectNum + 1 } :
      ObjectReadIterator).isEnd = false := by
    simpa [isEnd, count] using hnum
  have hsize : it.calcObjSize = .error (.general "Invalid object type for non-sized prefix") := by
    rw [calcObjSize, hdata]
    simp only [Bool.not_true, Bool.false_eq_true, if_false]
    split
    · exact absurd ‹_› hvcnt.1
    · exact absurd ‹_› hvcnt.2.1
    · exact absurd ‹_› hvcnt.2.2
    · split
      · exact absurd ⟨_, ‹_›⟩ hfixed
      · exact absurd ‹_› hbit
      · rfl
  rw [next, hend]
  simp only [bind, Except.bind, pure, Except.pure, Bool.false_eq_true, if_false]
  rw [hend']
  simp only [Bool.false_eq_true, if_false, if_pos hbit]
  have hsize' : ({ it with mCurrentObjectNum := it.mCurrentObjectNum + 1 } :
      ObjectReadIterator).calcObjSize = _ := hsize
  rw [hsize']

/-! ## The loop over the objects of a header -/

variable {σ : Type}

/-- The loop `for(; !obj.IsEnd(); ++obj)`, with the number of objects that are left. -/
def forEachAux (body : ObjectReadIterator → EStateM Exception σ Unit) :
    ℕ → ObjectReadIterator → EStateM Exception σ Unit
  | 0, _ => pure ()
  | n + 1, it => do
    body it
    let it ← Handler.lift it.next
    forEachAux body n it

/-- The loop `for(; !obj.IsEnd(); ++obj)` over the objects of a header. -/
def forEachObject (it : ObjectReadIterator) (body : ObjectReadIterator → EStateM Exception σ Unit) :
    EStateM Exception σ Unit :=
  forEachAux body (it.count - it.mCurrentObjectNum) it

end ObjectReadIterator

end OpenDNP3
