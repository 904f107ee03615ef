import OpenDNP3.App.Octets
import OpenDNP3.Lib.Throws

/-!
# The buffer of a fragment

The write side of `APDU` once more, on the octets: a buffer of a fixed size, the number of octets
that are in use, and iterators that point into the buffer.  `OutAPDU` says which blocks a fragment
has and how many octets they take; that the buffer holds just these is shown later.

* `APDUBuffer` — the buffer with the operations that write into it.  A write outside of it is a
  fault.
* `WriteCall` — a call of the interface with the loop that follows it, on both levels:
  `APDUBuffer.perform` and `OutAPDU.perform`.
* `WriteCall.Valid` — what a caller has to see to.
-/

set_option autoImplicit false

namespace OpenDNP3

open Handler LittleEndian

/-! ## The buffer -/

/-- `AppHeaderTypes` -/
inductive AppHeaderTypes where
  | response | request
  deriving DecidableEq, Repr

/-- `IAppHeader::GetSize` -/
def AppHeaderTypes.getSize : AppHeaderTypes → ℕ
  | .response => 4
  | .request => 2

/-- The header that `SetFunction` chooses. -/
def FunctionCodes.appHeader (aCode : FunctionCodes) : AppHeaderTypes :=
  if aCode = .response ∨ aCode = .unsolicitedResponse then .response else .request

/-- `APDU`, as it is written. -/
structure APDUBuffer where
  mIsInterpreted : Bool
  mpAppHeader : Option AppHeaderTypes
  mBuffer : List Byte
  mFragmentSize : ℕ
  deriving DecidableEq, Repr

/-- `ObjectWriteIterator`, with the members that say where it points. -/
structure ObjectWritePointer extends ObjectWriteIterator where
  mpPos : ℕ := 0
  mStart : ℕ := 0
  mObjectSize : ℕ := 0
  deriving DecidableEq, Repr

/-- `IndexedWriteIterator`, with the members that say where it points; an `IndexMode` is the size of
the index. -/
structure IndexedWritePointer where
  mpPos : ℕ := 0
  mIndexMode : ℕ := 0
  mIndex : ℕ := 0
  mCount : ℕ := 0
  mObjectSize : ℕ := 0
  mIndexSet : Bool := false
  deriving DecidableEq, Repr

namespace APDUBuffer

/-- What is done to a buffer. -/
abbrev M (α : Type) : Type := EStateM Exception APDUBuffer α

/-- Octets are written to a place in the buffer; there is no memory outside of it. -/
def poke (aPos : ℕ) (bs : List Byte) : M PUnit := do
  let w ← get
  ensure (aPos + bs.length ≤ w.mBuffer.length) (.nullPointer "mBuffer")
  set { w with mBuffer := splice w.mBuffer aPos bs }

/-- `Size`, of the buffer, less `Size` -/
def remainder (w : APDUBuffer) : ℕ := w.mBuffer.length - w.mFragmentSize

/-- `mFragmentSize += aSize` -/
def grow (aSize : ℕ) : M PUnit := modify fun w ↦ { w with mFragmentSize := w.mFragmentSize + aSize }

/-! ### The application header -/

/-- `Reset` -/
def reset : M PUnit :=
    modify fun w ↦ { w with mFragmentSize := 0, mIsInterpreted := false, mpAppHeader := none }

/-- `SetFunction` -/
def setFunction (aCode : FunctionCodes) : M PUnit := do
  let w ← get
  lift (assert "mpAppHeader == NULL" (w.mpAppHeader = none))
  set { w with mpAppHeader := some aCode.appHeader, mFragmentSize := aCode.appHeader.getSize }
  poke 1 [BitVec.ofNat 8 aCode.toNat]

/-- `SetControl` -/
def setControl (arControl : AppControlField) : M PUnit := do
  let w ← get
  lift (assert "mpAppHeader != NULL" (w.mpAppHeader.isSome = true))
  poke 0 [arControl.toByte]

/-- `SetIIN` -/
def setIIN (arIIN : IINField) : M PUnit := do
  let w ← get
  lift (assert "mpAppHeader != NULL" (w.mpAppHeader.isSome = true))
  lift (assert "mpAppHeader->GetType() == AHT_RESPONSE" (w.mpAppHeader = some .response))
  poke 2 [arIIN.mLSB, arIIN.mMSB]

/-- `Set` -/
def configure (aCode : FunctionCodes) (aFIR aFIN aCON aUNS : Bool) : M PUnit := do
  reset
  setFunction aCode
  setControl ⟨aFIR, aFIN, aCON, aUNS, 0⟩

/-- `GetFunction` -/
def getFunction (w : APDUBuffer) : FunctionCodes := intToFunction (readUInt w.mBuffer 1 1)

/-- `CheckWriteState` -/
def checkWriteState : M PUnit := do
  let w ← get
  ensure (w.mpAppHeader ≠ none) (.invalidState "Header has not be configured")
  ensure (w.mIsInterpreted = false) (.invalidState "APDU is interpreted")

/-! ### Object headers -/

/-- `IObjectHeader::Set` -/
def setHeader (aPos aGrp aVar : ℕ) (aQual : QualifierCode) : M PUnit :=
  poke aPos (writeUInt 1 aGrp ++ (writeUInt 1 aVar ++ writeUInt 1 aQual.toNat))

/-- `ICountHeader::SetCount` -/
def setCount (apHdr : ObjectHeaderTypes) (aPos aCount : ℕ) : M PUnit := do
  ensure (aCount ≤ apHdr.maxField) (.argument "")
  poke (aPos + 3) (writeUInt apHdr.fieldSize aCount)

/-- `IRangeHeader::SetRange` -/
def setRange (apHdr : ObjectHeaderTypes) (aPos : ℕ) (arInfo : RangeInfo) : M PUnit := do
  ensure (arInfo.start ≤ arInfo.stop) (.argument "stop > start")
  ensure (arInfo.stop ≤ apHdr.maxField) (.argument "stop > max")
  poke (aPos + 3) (writeUInt apHdr.fieldSize arInfo.start)
  poke (aPos + 3 + apHdr.fieldSize) (writeUInt apHdr.fieldSize arInfo.stop)

/-- `WriteContiguousHeader` -/
def writeContiguousHeader (apHdr : ObjectHeaderTypes) (aPos aStart aStop : ℕ) : M PUnit :=
  if apHdr.isCount then setCount apHdr aPos (aStop - aStart + 1)
  else if apHdr = .allObjects then throw (.general "Invalid header type")
  else setRange apHdr aPos ⟨aStart, aStop⟩

/-! ### Blocks -/

/-- `WriteContiguous` of a `FixedObject` -/
def writeContiguousFixed (apObj : ObjectBase) (aObjSize aStart aStop : ℕ) (aCode : QualifierCode) :
    M ObjectWritePointer := do
  checkWriteState
  let aCode := if aCode = .undefined then OutAPDU.getContiguousQualifier aStop else aCode
  let pHdr ← lift (getObjectHeader aCode)
  let w ← get
  if pHdr.getSize > w.remainder then return {}
  let maxObjects := (w.remainder - pHdr.getSize) / aObjSize
  -- no point in writing a header if it can't hold an object
  if maxObjects = 0 then return {}
  let requested := aStop - aStart + 1
  let count := if requested < maxObjects then requested else maxObjects
  let stop := aStart + count - 1
  let pHeaderPos := w.mFragmentSize
  setHeader pHeaderPos apObj.getGroup apObj.getVariation aCode
  let pPos := pHeaderPos + pHdr.getSize
  writeContiguousHeader pHdr pHeaderPos aStart stop
  grow pHdr.getSize
  let objSize := if hasData (← get).getFunction then aObjSize else 0
  grow (count * objSize)
  return ⟨⟨aStart, stop⟩, pPos, aStart, objSize⟩

/-- `WriteContiguous` of a `BitfieldObject` -/
def writeContiguousBitfield (apObj : ObjectBase) (aStart aStop : ℕ) (aCode : QualifierCode) :
    M ObjectWritePointer := do
  checkWriteState
  let aCode := if aCode = .undefined then OutAPDU.getContiguousQualifier aStop else aCode
  let pHdr ← lift (getObjectHeader aCode)
  let w ← get
  if pHdr.getSize > w.remainder then return {}
  -- eight objects per byte
  let maxObjects := (w.remainder - pHdr.getSize) * 8
  if maxObjects = 0 then return {}
  let requested := aStop - aStart + 1
  let count := if requested < maxObjects then requested else maxObjects
  let stop := aStart + count - 1
  let pHeaderPos := w.mFragmentSize
  setHeader pHeaderPos apObj.getGroup apObj.getVariation aCode
  let pPos := pHeaderPos + pHdr.getSize
  poke pPos (List.replicate (bitfieldSize count) 0)
  writeContiguousHeader pHdr pHeaderPos aStart stop
  grow pHdr.getSize
  let dataSize := if hasData (← get).getFunction then bitfieldSize count else 0
  grow dataSize
  return ⟨⟨aStart, stop⟩, pPos, aStart, 0⟩

/-- `IndexedWriteIterator::GetIndexMode` -/
def getIndexMode : QualifierCode → Except Exception ℕ
  | .cnt1BIndex1B => .ok 1
  | .cnt2BIndex2B => .ok 2
  | .cnt4BIndex4B => .ok 4
  | .cnt1B | .cnt2B | .cnt4B => .ok 0
  | _ => .error (.general "Illegal qualifer for packed indexed")

/-- `WriteCountHeader` -/
def writeCountHeader (aObjectSize aPrefixSize aGrp aVar aCount : ℕ) (aQual : QualifierCode) :
    M IndexedWritePointer := do
  let pHdr ← lift (getCountHeader aQual)
  let w ← get
  if pHdr.getSize > w.remainder then return {}
  let maxNum := (w.remainder - pHdr.getSize) / (aObjectSize + aPrefixSize)
  if maxNum = 0 then return {}
  let count := if aCount < maxNum then aCount else maxNum
  let pHeaderPos := w.mFragmentSize
  setHeader pHeaderPos aGrp aVar aQual
  setCount pHdr pHeaderPos count
  grow pHdr.getSize
  let pObjectPos := (← get).mFragmentSize
  grow (count * (aObjectSize + aPrefixSize))
  let mode ← lift (getIndexMode aQual)
  return ⟨pObjectPos, mode, 0, count, aObjectSize, false⟩

/-- `WriteIndexed` of a `FixedObject` -/
def writeIndexed (apObj : ObjectBase) (aObjSize aCount : ℕ) (aCode : QualifierCode) :
    M IndexedWritePointer := do
  checkWriteState
  let objSize := if hasData (← get).getFunction then aObjSize else 0
  let prefixSize ← lift (getPrefixSizeAndValidate aCode (.fixed aObjSize))
  writeCountHeader objSize prefixSize apObj.getGroup apObj.getVariation aCount aCode

/-- `WriteIndexed` of a `SizeByVariationObject`; the size is converted to an octet. -/
def writeIndexedSized (apObj : ObjectBase) (aSize aIndex : ℕ) : M IndexedWritePointer := do
  let aCode := OutAPDU.getIndexedQualifier aIndex 1
  checkWriteState
  ensure (aSize ≤ 0xFF) (.general "positive_overflow")
  let objSize := if hasData (← get).getFunction then aSize else 0
  let prefixSize ← lift (getPrefixSizeAndValidate aCode .sizeByVariation)
  writeCountHeader objSize prefixSize apObj.getGroup aSize 1 aCode

/-- `DoPlaceholderWrite` -/
def doPlaceholderWrite (apObj : ObjectBase) : M Bool := do
  checkWriteState
  let w ← get
  if ObjectHeaderTypes.allObjects.getSize > w.remainder then return false
  setHeader w.mFragmentSize apObj.getGroup apObj.getVariation .allObj
  grow ObjectHeaderTypes.allObjects.getSize
  return true

end APDUBuffer

/-! ### Iterators -/

namespace ObjectWritePointer

/-- `operator*` -/
def deref (it : ObjectWritePointer) : Except Exception ℕ :=
  if it.isEnd then .error (.invalidState "End of iteration") else .ok it.mpPos

/-- `operator++` -/
def next (it : ObjectWritePointer) : Except Exception ObjectWritePointer :=
  if it.isEnd then .error (.invalidState "End of iterattion")
  else .ok { it with mIndex := it.mIndex + 1, mpPos := it.mpPos + it.mObjectSize }

end ObjectWritePointer

namespace IndexedWritePointer

/-- `IsEnd` -/
def isEnd (it : IndexedWritePointer) : Bool := it.mIndex ≥ it.mCount

/-- `SetIndex` -/
def setIndex (it : IndexedWritePointer) (aIndex : ℕ) : APDUBuffer.M IndexedWritePointer := do
  ensure (it.mIndexSet = false) (.invalidState "Index already set")
  ensure (it.isEnd = false) (.invalidState "End of iteration")
  ensure (it.mIndexMode ≠ 0 → aIndex < 256 ^ it.mIndexMode) (.argument "")
  APDUBuffer.poke it.mpPos (writeUInt it.mIndexMode aIndex)
  return { it with mIndexSet := true }

/-- `operator*` -/
def deref (it : IndexedWritePointer) : Except Exception ℕ :=
  if !it.mIndexSet then .error (.invalidState "Index has not been written") else .ok
    (it.mpPos + it.mIndexMode)

/-- `operator++` -/
def next (it : IndexedWritePointer) : Except Exception IndexedWritePointer :=
  if it.isEnd then .error (.invalidState "End of iterattion")
  else if !it.mIndexSet then .error (.invalidState "Index has not been set")
  else .ok { it with
    mIndex := it.mIndex + 1, mIndexSet := false, mpPos :=
      it.mpPos + (it.mObjectSize + it.mIndexMode) }

end IndexedWritePointer

/-! ## Calls -/

/-- A call of the write interface, with the objects that its caller has to write: octets for each,
or bits, with their indices where these are written too.  The objects of a read have no octets. -/
inductive WriteCall where
  | setControl (arControl : AppControlField)
  | setIIN (arIIN : IINField)
  | contiguous (apObj : ObjectBase) (aObjSize aStart : ℕ) (objs : List (List Byte))
      (aCode : QualifierCode)
  | bitfield (apObj : ObjectBase) (aStart : ℕ) (bits : List Bool) (aCode : QualifierCode)
  | indexed (apObj : ObjectBase) (aObjSize : ℕ) (objs : List (ℕ × List Byte))
      (aCode : QualifierCode)
  | sized (apObj : ObjectBase) (aIndex : ℕ) (obj : List Byte)
  | placeholder (apObj : ObjectBase)
  deriving DecidableEq, Repr

namespace APDUBuffer

/-- `BitfieldObject::StaticWrite` -/
def staticWrite (apPos aStartIndex aIndex : ℕ) (aValue : Bool) : M PUnit := do
  lift (assert "aIndex >= aStartIndex" (aIndex ≥ aStartIndex))
  let pos := aIndex - aStartIndex
  let w ← get
  poke (apPos + pos / 8)
    [IINField.setBit (w.mBuffer.getD (apPos + pos / 8) 0) (1 <<< (pos % 8)) aValue]

/-- The loop of a caller over its objects, until the fragment has no room for more. -/
def fill : List (List Byte) → ObjectWritePointer → M PUnit
  | [], _ => pure ⟨⟩
  | obj :: objs, it =>
    if it.isEnd then pure ⟨⟩
    else do
      let pos ← lift it.deref
      poke pos obj
      let it ← lift it.next
      fill objs it

/-- The same, over bits from an index on. -/
def fillBits (aStart : ℕ) : (aIndex : ℕ) → List Bool → ObjectWritePointer → M PUnit
  | _, [], _ => pure ⟨⟩
  | aIndex, bit :: bits, it =>
    if it.isEnd then pure ⟨⟩
    else do
      let pos ← lift it.deref
      staticWrite pos aStart aIndex bit
      let it ← lift it.next
      fillBits aStart (aIndex + 1) bits it

/-- The same, over objects with their indices. -/
def fillIndexed : List (ℕ × List Byte) → IndexedWritePointer → M PUnit
  | [], _ => pure ⟨⟩
  | obj :: objs, it =>
    if it.isEnd then pure ⟨⟩
    else do
      let it ← it.setIndex obj.1
      let pos ← lift it.deref
      poke pos obj.2
      let it ← lift it.next
      fillIndexed objs it

/-- A call, and the loop that follows it. -/
def perform : WriteCall → M PUnit
  | .setControl arControl => setControl arControl
  | .setIIN arIIN => setIIN arIIN
  | .contiguous apObj aObjSize aStart objs aCode => do
    fill objs (← writeContiguousFixed apObj aObjSize aStart (aStart + objs.length - 1) aCode)
  | .bitfield apObj aStart bits aCode => do
    fillBits aStart aStart bits
      (← writeContiguousBitfield apObj aStart (aStart + bits.length - 1) aCode)
  | .indexed apObj aObjSize objs aCode => do
    fillIndexed objs (← writeIndexed apObj aObjSize objs.length aCode)
  | .sized apObj aIndex obj =>
    do fillIndexed [(aIndex, obj)] (← writeIndexedSized apObj obj.length aIndex)
  | .placeholder apObj => do
    let _ ← doPlaceholderWrite apObj
    return ⟨⟩

/-- Calls, one after the other. -/
def run (calls : List WriteCall) : M PUnit := calls.forM perform

end APDUBuffer

namespace OutAPDU

/-- The octet that stands for a bit. -/
def bitObject (f : OutAPDU (List Byte)) (bit : Bool) : List Byte :=
    if f.hasData then [if bit then 1 else 0] else []

/-- The loop of a caller over its objects, until the fragment has no room for more. -/
def fill : List (List Byte) → ObjectWriteIterator → OutAPDU (List Byte) →
    Except Exception (OutAPDU (List Byte))
  | [], _, f => .ok f
  | obj :: objs, it, f =>
    if it.isEnd then .ok f
    else do
      it.deref
      let it' ← it.next
      fill objs it' (f.pushObject it.mIndex obj)

/-- The same, over objects with their indices. -/
def fillIndexed : List (ℕ × List Byte) → IndexedWriteIterator → OutAPDU (List Byte) →
    Except Exception (OutAPDU (List Byte))
  | [], _, f => .ok f
  | obj :: objs, it, f =>
    if it.isEnd then .ok f
    else do
      let it ← it.setIndex obj.1
      it.deref
      let it ← it.next
      fillIndexed objs it (f.pushObject obj.1 obj.2)

/-- A call, and the loop that follows it. -/
def perform (f : OutAPDU (List Byte)) : WriteCall → Except Exception (OutAPDU (List Byte))
  | .setControl arControl => .ok (f.setControl arControl)
  | .setIIN arIIN => f.setIIN arIIN
  | .contiguous apObj aObjSize aStart objs aCode => do
    let r ← f.writeContiguousFixed apObj aObjSize aStart (aStart + objs.length - 1) aCode
    fill objs r.2 r.1
  | .bitfield apObj aStart bits aCode => do
    let r ← f.writeContiguousBitfield apObj aStart (aStart + bits.length - 1) aCode
    fill (bits.map f.bitObject) r.2 r.1
  | .indexed apObj aObjSize objs aCode => do
    let r ← f.writeIndexed apObj aObjSize objs.length aCode
    fillIndexed objs r.2 r.1
  | .sized apObj aIndex obj => do
    let r ← f.writeIndexedSized apObj obj.length aIndex
    fillIndexed [(aIndex, obj)] r.2 r.1
  | .placeholder apObj => do
    let r ← f.doPlaceholderWrite apObj
    return r.1

/-- Calls, one after the other. -/
def run (f : OutAPDU (List Byte)) (calls : List WriteCall) :
    Except Exception (OutAPDU (List Byte)) :=
  calls.foldlM perform f

end OutAPDU

/-- **What a caller has to see to**: the object is a listed one of the right kind, the data has its
size, there is an object, and the qualifier is one for such objects, with indices that fit; what is
only counted needs data. -/
def WriteCall.Valid (d : Bool) : WriteCall → Prop
  | .setControl _ | .setIIN _ => True
  | .contiguous apObj aObjSize _ objs aCode =>
    apObj ∈ ObjectBase.known ∧ apObj.getType = .fixed aObjSize ∧ objs ≠ [] ∧
      (∀ obj ∈ objs, obj.length = if d then aObjSize else 0) ∧ aCode.indexSize = 0 ∧
      (aCode = .undefined ∨ aCode.Suits apObj.getType)
  | .bitfield apObj _ bits aCode =>
    apObj ∈ ObjectBase.known ∧ apObj.getType = .bitfield ∧ bits ≠ [] ∧
      (aCode = .undefined ∨ aCode.Suits apObj.getType)
  | .indexed apObj aObjSize objs aCode =>
    apObj ∈ ObjectBase.known ∧ apObj.getType = .fixed aObjSize ∧
      (∀ obj ∈ objs, obj.2.length = if d then aObjSize else 0) ∧
      (aCode.indexSize ≠ 0 → ∀ obj ∈ objs, obj.1 < 256 ^ aCode.indexSize) ∧
        (d = true ∨ aCode.indexSize ≠ 0)
  | .sized apObj aIndex obj =>
    apObj ∈ ObjectBase.knownGroups ∧ d = true ∧ obj.length ≤ 0xFF ∧ aIndex ≤ 0xFFFFFFFF
  | .placeholder apObj => apObj ∈ ObjectBase.known ∧ QualifierCode.allObj.Suits apObj.getType

end OpenDNP3
