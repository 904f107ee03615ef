import OpenDNP3.App.Apdu

/-!
# Writing a fragment

The write side of `APDU`: a fragment is configured with a function code, and object blocks are
added to it as long as they fit.  A block is written for as many of the requested objects as there
is room for, and an iterator then fills them in; an iterator that is at its end from the start says
that not even one object fits.

The octets are not spelled out: a fragment keeps its header, its blocks with the objects that were
written into them, and the number of octets that all of this takes, which is what decides how much
fits.  The type `ω` of what is written for an object is a parameter.
-/

set_option autoImplicit false

namespace OpenDNP3

/-- The objects behind one object header, with their indices; `range` has the numbers that are
written into the header if it has a range. -/
structure Block (ω : Type) where
  group : ℕ
  variation : ℕ
  qualifier : QualifierCode
  objects : List (ℕ × ω)
  range : Option RangeInfo
  deriving DecidableEq, Repr

/-- `APDU`, as it is written; `function` is `none` while `mpAppHeader` is `NULL`. -/
structure OutAPDU (ω : Type) where
  mMaxSize : ℕ
  mFragmentSize : ℕ
  function : Option FunctionCodes
  control : AppControlField
  iin : IINField
  blocks : List (Block ω)
  deriving DecidableEq, Repr

/-- `ObjectWriteIterator` -/
structure ObjectWriteIterator where
  mIndex : ℕ := 1
  mStop : ℕ := 0
  deriving DecidableEq, Repr

/-- `IndexedWriteIterator`; `mMaxIndex` is the largest index of its mode, if indices are written. -/
structure IndexedWriteIterator where
  mMaxIndex : Option ℕ := none
  mIndex : ℕ := 0
  mCount : ℕ := 0
  mIndexSet : Bool := false
  deriving DecidableEq, Repr

/-! ## The iterators -/

namespace ObjectWriteIterator

/-- `IsEnd` -/
def isEnd (it : ObjectWriteIterator) : Bool := it.mIndex > it.mStop

/-- `operator*` -/
def deref (it : ObjectWriteIterator) : Except Exception Unit :=
  if it.isEnd then .error (.invalidState "End of iteration") else .ok ()

/-- `operator++` -/
def next (it : ObjectWriteIterator) : Except Exception ObjectWriteIterator :=
  if it.isEnd then .error (.invalidState "End of iterattion")
  else .ok { it with mIndex := it.mIndex + 1 }

end ObjectWriteIterator

namespace IndexedWriteIterator

/-- `GetIndexMode`, with the largest index of the mode. -/
def getIndexMode : QualifierCode → Except Exception (Option ℕ)
  | .cnt1BIndex1B => .ok (some 0xFF)
  | .cnt2BIndex2B => .ok (some 0xFFFF)
  | .cnt4BIndex4B => .ok (some 0xFFFFFFFF)
  | .cnt1B | .cnt2B | .cnt4B => .ok none
  | _ => .error (.general "Illegal qualifer for packed indexed")

/-- `IsEnd` -/
def isEnd (it : IndexedWriteIterator) : Bool := it.mIndex ≥ it.mCount

/-- `SetIndex` -/
def setIndex (it : IndexedWriteIterator) (aIndex : ℕ) : Except Exception IndexedWriteIterator :=
  if it.mIndexSet then .error (.invalidState "Index already set")
  else if it.isEnd then .error (.invalidState "End of iteration")
  else if it.mMaxIndex.any (aIndex > ·) then .error (.argument "")
  else .ok { it with mIndexSet := true }

/-- `operator*` -/
def deref (it : IndexedWriteIterator) : Except Exception Unit :=
  if !it.mIndexSet then .error (.invalidState "Index has not been written") else .ok ()

/-- `operator++` -/
def next (it : IndexedWriteIterator) : Except Exception IndexedWriteIterator :=
  if it.isEnd then .error (.invalidState "End of iterattion")
  else if !it.mIndexSet then .error (.invalidState "Index has not been set")
  else .ok { it with mIndex := it.mIndex + 1, mIndexSet := false }

end IndexedWriteIterator

namespace OutAPDU

variable {ω : Type}

/-! ## The header -/

/-- The constructor. -/
def new (aFragSize : ℕ) : OutAPDU ω where
  mMaxSize := aFragSize
  mFragmentSize := 0
  function := none
  control := ⟨false, false, false, false, 0⟩
  iin := {}
  blocks := []

/-- `IAppHeader::GetSize` of the header that goes with a function. -/
def headerSize (aCode : FunctionCodes) : ℕ := if isResponse aCode then 4 else 2

/-- `Set` -/
def set (f : OutAPDU ω) (aCode : FunctionCodes) (aFIR aFIN aCON aUNS : Bool) : OutAPDU ω :=
  { f with
    mFragmentSize := headerSize aCode
    function := some aCode
    control := ⟨aFIR, aFIN, aCON, aUNS, 0⟩
    blocks := [] }

/-- `SetControl` -/
def setControl (f : OutAPDU ω) (arControl : AppControlField) : OutAPDU ω :=
  { f with control := arControl }

/-- `SetIIN`; the assertions are on the application header. -/
def setIIN (f : OutAPDU ω) (arIIN : IINField) : Except Exception (OutAPDU ω) := do
  assert "mpAppHeader != NULL" (f.function.isSome = true)
  assert "mpAppHeader->GetType() == AHT_RESPONSE" (f.function.any isResponse = true)
  return { f with iin := arIIN }

/-- `Remainder` -/
def remainder (f : OutAPDU ω) : ℕ := f.mMaxSize - f.mFragmentSize

/-- The objects of the fragment carry data. -/
def hasData (f : OutAPDU ω) : Bool := f.function.any OpenDNP3.hasData

/-- `CheckWriteState` -/
def checkWriteState (f : OutAPDU ω) : Except Exception Unit :=
  if f.function = none then .error (.invalidState "Header has not be configured") else .ok ()

/-! ## Writing objects -/

/-- A block is started, which takes `aSize` octets. -/
def startBlock (f : OutAPDU ω) (b : Block ω) (aSize : ℕ) : OutAPDU ω :=
  { f with mFragmentSize := f.mFragmentSize + aSize, blocks := f.blocks ++ [b] }

/-- What is written for the next object of the last block. -/
def pushObject (f : OutAPDU ω) (aIndex : ℕ) (w : ω) : OutAPDU ω :=
  { f with
    blocks := f.blocks.modify (f.blocks.length - 1) fun b ↦
      { b with objects := b.objects ++ [(aIndex, w)] } }

/-- An object goes into the last block. -/
theorem pushObject_startBlock (f : OutAPDU ω) (b : Block ω) (n aIndex : ℕ) (w : ω) :
    (f.startBlock b n).pushObject aIndex w = f.startBlock
    { b with objects := b.objects ++ [(aIndex, w)] } n := by
  have hlast (bs : List (Block ω)) (g : Block ω → Block ω) :
      (bs ++ [b]).modify ((bs ++ [b]).length - 1) g = bs ++ [g b] := by
    induction bs with
    | nil => rfl
    | cons c bs ih => simpa using ih
  rw [pushObject, startBlock, hlast]
  rfl

/-- `GetIndexedQualifier` -/
def getIndexedQualifier (aMaxIndex aCount : ℕ) : QualifierCode :=
  if aMaxIndex ≤ 0xFF ∧ aCount ≤ 0xFF then .cnt1BIndex1B
  else if aMaxIndex ≤ 0xFFFF ∧ aCount ≤ 0xFFFF then .cnt2BIndex2B
  else .cnt4BIndex4B

/-- `GetContiguousQualifier` -/
def getContiguousQualifier (aStop : ℕ) : QualifierCode :=
  if aStop ≤ 0xFF then .startStop1B
  else if aStop ≤ 0xFFFF then .startStop2B
  else .startStop4B

/-- `WriteContiguousHeader`, which rejects what does not fit the fields of the header; the range
that it writes. -/
def writeContiguousHeader (apHdr : ObjectHeaderTypes) (aStart aStop : ℕ) :
    Except Exception (Option RangeInfo) :=
  if apHdr.isCount then
    if aStop - aStart + 1 > apHdr.maxField then .error (.argument "") else .ok none
  else if apHdr = .allObjects then .error (.general "Invalid header type")
  else if aStart > aStop then .error (.argument "stop > start")
  else if aStop > apHdr.maxField then .error (.argument "stop > max")
  else .ok (some ⟨aStart, aStop⟩)

/-- `WriteContiguous` of an object, where `aRoom` is the number of objects that go into so many
octets and `aSize` the octets that so many objects take. -/
def writeContiguous (f : OutAPDU ω) (apObj : ObjectBase) (aRoom aSize : ℕ → ℕ) (aStart aStop : ℕ)
    (aCode : QualifierCode) : Except Exception (OutAPDU ω × ObjectWriteIterator) := do
  f.checkWriteState
  let aCode := if aCode = .undefined then getContiguousQualifier aStop else aCode
  let pHdr ← getObjectHeader aCode
  if pHdr.getSize > f.remainder then return (f, {})
  let maxObjects := aRoom (f.remainder - pHdr.getSize)
  -- no point in writing a header if it can't hold an object
  if maxObjects = 0 then return (f, {})
  let requested := aStop - aStart + 1
  let count := if requested < maxObjects then requested else maxObjects
  let stop := aStart + count - 1
  let range ← writeContiguousHeader pHdr aStart stop
  let dataSize := if f.hasData then aSize count else 0
  return (f.startBlock ⟨apObj.getGroup, apObj.getVariation, aCode, [], range⟩
    (pHdr.getSize + dataSize), ⟨aStart, stop⟩)

/-- `WriteContiguous` of a `FixedObject` of the given size. -/
def writeContiguousFixed (f : OutAPDU ω) (apObj : ObjectBase) (aObjSize aStart aStop : ℕ)
    (aCode : QualifierCode) : Except Exception (OutAPDU ω × ObjectWriteIterator) :=
  f.writeContiguous apObj (· / aObjSize) (· * aObjSize) aStart aStop aCode

/-- `WriteContiguous` of a `BitfieldObject`: eight objects per octet. -/
def writeContiguousBitfield (f : OutAPDU ω) (apObj : ObjectBase) (aStart aStop : ℕ)
    (aCode : QualifierCode) : Except Exception (OutAPDU ω × ObjectWriteIterator) :=
  f.writeContiguous apObj (· * 8) bitfieldSize aStart aStop aCode

/-- `WriteCountHeader` -/
def writeCountHeader (f : OutAPDU ω) (aObjectSize aPrefixSize aGrp aVar aCount : ℕ)
    (aQual : QualifierCode) : Except Exception (OutAPDU ω × IndexedWriteIterator) := do
  let pHdr ← getCountHeader aQual
  if pHdr.getSize > f.remainder then return (f, {})
  let maxNum := (f.remainder - pHdr.getSize) / (aObjectSize + aPrefixSize)
  -- no point in writing a header if it can't hold an object
  if maxNum = 0 then return (f, {})
  let count := if aCount < maxNum then aCount else maxNum
  if count > pHdr.maxField then throw (.argument "")
  let mode ← IndexedWriteIterator.getIndexMode aQual
  return (f.startBlock ⟨aGrp, aVar, aQual, [], none⟩
      (pHdr.getSize + count * (aObjectSize + aPrefixSize)),
    { mMaxIndex := mode, mCount := count })

/-- `WriteIndexed` of a `FixedObject` of the given size. -/
def writeIndexed (f : OutAPDU ω) (apObj : ObjectBase) (aObjSize aCount : ℕ)
    (aCode : QualifierCode) : Except Exception (OutAPDU ω × IndexedWriteIterator) := do
  f.checkWriteState
  let prefixSize ← getPrefixSizeAndValidate aCode (.fixed aObjSize)
  f.writeCountHeader (if f.hasData then aObjSize else 0) prefixSize apObj.getGroup
    apObj.getVariation aCount aCode

/-- `WriteIndexed` of a `SizeByVariationObject`, whose variation is the size of the data. -/
def writeIndexedSized (f : OutAPDU ω) (apObj : ObjectBase) (aSize aIndex : ℕ) :
    Except Exception (OutAPDU ω × IndexedWriteIterator) := do
  let aCode := getIndexedQualifier aIndex 1
  f.checkWriteState
  let prefixSize ← getPrefixSizeAndValidate aCode .sizeByVariation
  f.writeCountHeader (if f.hasData then aSize else 0) prefixSize apObj.getGroup aSize 1 aCode

/-- `DoPlaceholderWrite` -/
def doPlaceholderWrite (f : OutAPDU ω) (apObj : ObjectBase) :
    Except Exception (OutAPDU ω × Bool) := do
  f.checkWriteState
  if ObjectHeaderTypes.allObjects.getSize > f.remainder then return (f, false)
  return (f.startBlock ⟨apObj.getGroup, apObj.getVariation, .allObj, [], none⟩
    ObjectHeaderTypes.allObjects.getSize, true)

end OutAPDU

end OpenDNP3
