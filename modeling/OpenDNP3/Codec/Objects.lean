import Mathlib.Algebra.Order.Ring.Rat
import OpenDNP3.App.Objects
import OpenDNP3.Codec.Packing
import OpenDNP3.Slave.Command

/-!
# The octets of measurements and commands

`DNPToStream` and `DNPFromStream` have a template for each combination of flag, value and time, and
a class of `Objects.cpp` names the one that it is written with and the one that it is read with.
The classes with a field that is a floating point number are left out.

* `BoolDataPoint`, `TypedDataPoint`, `BinaryOutputRequest`, `Setpoint` — what is written.  A
  `double` is a rational number here: there is neither an infinity nor a NaN.
* `Fields` — the fields that a class declares.
* `StreamObject` — a class, with the templates that it names.
-/

set_option autoImplicit false

namespace OpenDNP3.Objects

/-! ## Measurements -/

/-- What the templates use of the type of a value. -/
class ValueType (T : Type) where
  /-- The value that an integer of an object is converted to. -/
  ofPacked : ℤ → T
  /-- `Conversion` to an integer of an object. -/
  convert : T → ℤ
  /-- `val > Max` -/
  above : T → ℤ → Bool
  /-- `val < Min` -/
  below : T → ℤ → Bool

/-- `boost::uint32_t` -/
instance : ValueType ℤ where
  ofPacked := id
  convert := id
  above v aMax := v > aMax
  below v aMin := v < aMin

/-- `double`, of which the conversion cuts off the fraction. -/
instance : ValueType ℚ where
  ofPacked z := z
  convert v := v.num.tdiv v.den
  above v aMax := v > aMax
  below v aMin := v < aMin

/-- `BoolDataPoint`: `Binary` and `ControlStatus`.  The state is a bit of the quality. -/
structure BoolDataPoint where
  mQuality : Byte
  mTime : ℤ
  deriving DecidableEq, Repr

namespace BoolDataPoint

/-- `mValueMask` -/
def mValueMask : Byte := 0x80

/-- The constructor: `BQ_RESTART` or `TQ_RESTART`. -/
def new : BoolDataPoint := ⟨0x02, 0⟩

/-- `GetValue` -/
def getValue (v : BoolDataPoint) : Bool := v.mQuality &&& mValueMask != 0

/-- `SetValue` -/
def setValue (v : BoolDataPoint) (aValue : Bool) : BoolDataPoint :=
  { v with mQuality := if aValue then v.mQuality ||| mValueMask else v.mQuality &&& ~~~mValueMask }

/-- `SetQuality` -/
def setQuality (v : BoolDataPoint) (aQuality : Byte) : BoolDataPoint :=
  { v with mQuality := v.mQuality &&& mValueMask ||| aQuality }

/-- `SetQualityValue` -/
def setQualityValue (v : BoolDataPoint) (aFlag : Byte) : BoolDataPoint :=
    { v with mQuality := aFlag }

end BoolDataPoint

/-- `TypedDataPoint` -/
structure TypedDataPoint (T : Type) where
  mQuality : Byte
  mTime : ℤ
  mValue : T

/-- The constructor: `AQ_RESTART`, `CQ_RESTART` or `PQ_RESTART`. -/
def TypedDataPoint.new (T : Type) [ValueType T] : TypedDataPoint T :=
    ⟨0x02, 0, ValueType.ofPacked 0⟩

/-- `Counter` -/
abbrev Counter : Type := TypedDataPoint ℤ

/-- `Analog` -/
abbrev Analog : Type := TypedDataPoint ℚ

/-- `SetpointStatus` -/
abbrev SetpointStatus : Type := TypedDataPoint ℚ

/-! ## Fields -/

/-- The fields that a class declares.  A template that uses another one does not compile. -/
structure Fields where
  mFlag : Option Pack := none
  mValue : Option Pack := none
  mTime : Option Pack := none
  mStatus : Option Pack := none
  /-- `OverRangeMask` of `mValue` -/
  overRangeMask : Byte := 0
  deriving DecidableEq, Repr

/-- `Set` of a field. -/
def setField (f : Option Pack) (apPos : List Byte) (aValue : ℤ) : List Byte :=
    f.elim apPos (·.set apPos aValue)

/-- `Get` of a field. -/
def getField (f : Option Pack) (apPos : List Byte) : ℤ := f.elim 0 (·.get apPos)

/-- `Get` of a field of one octet. -/
def getOctet (f : Option Pack) (apPos : List Byte) : Byte := BitVec.ofInt 8 (getField f apPos)

/-- `Max` of a field. -/
def maxField (f : Option Pack) : ℤ := f.elim 0 (·.packer.max)

/-- `Min` of a field. -/
def minField (f : Option Pack) : ℤ := f.elim 0 (·.packer.min)

/-- A `StreamObject`: the class, its fields, and how it is written and read. -/
structure StreamObject (α : Type) where
  base : ObjectBase
  getSize : ℕ
  fields : Fields
  writeAs : Fields → List Byte → α → List Byte
  readAs : Fields → List Byte → α

/-- `Write` -/
def StreamObject.write {α : Type} (o : StreamObject α) (apPos : List Byte) (v : α) : List Byte :=
  o.writeAs o.fields apPos v

/-- `Read` -/
def StreamObject.read {α : Type} (o : StreamObject α) (apPos : List Byte) : α :=
    o.readAs o.fields apPos

/-! ## `DNPToStream`

The templates that write the members of a point to the fields of an object. -/

section Write

variable {T : Type} [ValueType T] (apObj : Fields) (apPos : List Byte)

/-- `WriteQ` -/
def writeQ (arObj : BoolDataPoint) : List Byte := setField apObj.mFlag apPos arObj.mQuality.toNat

/-- `WriteQT` -/
def writeQT (arObj : BoolDataPoint) : List Byte :=
  setField apObj.mTime (setField apObj.mFlag apPos arObj.mQuality.toNat) arObj.mTime

/-- The value between `Min` and `Max`, and whether it had to be changed. -/
def checkRange (val : T) : T × Bool :=
  let r := if ValueType.above val (maxField apObj.mValue) then
    (ValueType.ofPacked (maxField apObj.mValue), true)
    else (val, false)
  if ValueType.below r.1 (minField apObj.mValue) then
    (ValueType.ofPacked (minField apObj.mValue), true) else r

/-- `WriteV` -/
def writeV (arObj : TypedDataPoint T) : List Byte :=
  setField apObj.mValue apPos (ValueType.convert (checkRange apObj arObj.mValue).1)

/-- `WriteQV` -/
def writeQV (arObj : TypedDataPoint T) : List Byte :=
  writeV apObj (setField apObj.mFlag apPos arObj.mQuality.toNat) arObj

/-- `WriteQVT` -/
def writeQVT (arObj : TypedDataPoint T) : List Byte :=
    setField apObj.mTime (writeQV apObj apPos arObj) arObj.mTime

/-- `WriteCheckRangeQV` -/
def writeCheckRangeQV (arObj : TypedDataPoint T) : List Byte :=
  let r := checkRange apObj arObj.mValue
  let qual := if r.2 then arObj.mQuality ||| apObj.overRangeMask else arObj.mQuality
  setField apObj.mValue (setField apObj.mFlag apPos qual.toNat) (ValueType.convert r.1)

/-- `WriteCheckRangeQVT` -/
def writeCheckRangeQVT (arObj : TypedDataPoint T) : List Byte :=
  setField apObj.mTime (writeCheckRangeQV apObj apPos arObj) arObj.mTime

end Write

/-! ## `DNPFromStream`

The templates that read them again. -/

section Read

variable (T : Type) [ValueType T] (apObj : Fields) (apPos : List Byte)

/-- `ReadQ` -/
def readQ : BoolDataPoint := BoolDataPoint.new.setQuality (getOctet apObj.mFlag apPos)

/-- `ReadBinaryQV` -/
def readBinaryQV : BoolDataPoint := BoolDataPoint.new.setQualityValue (getOctet apObj.mFlag apPos)

/-- `ReadBinaryQVT` -/
def readBinaryQVT : BoolDataPoint :=
  { BoolDataPoint.new.setQualityValue (getOctet apObj.mFlag apPos)
    with mTime := getField apObj.mTime apPos }

/-- `ReadV` -/
def readV : TypedDataPoint T :=
  { TypedDataPoint.new T with mValue := ValueType.ofPacked (getField apObj.mValue apPos) }

/-- `ReadQV` -/
def readQV : TypedDataPoint T :=
  { TypedDataPoint.new T with
    mQuality := getOctet apObj.mFlag apPos
    mValue := ValueType.ofPacked (getField apObj.mValue apPos) }

/-- `ReadQVT` -/
def readQVT : TypedDataPoint T where
  mQuality := getOctet apObj.mFlag apPos
  mValue := ValueType.ofPacked (getField apObj.mValue apPos)
  mTime := getField apObj.mTime apPos

end Read

/-! ## Binary points -/

/-- The fields of an object with a flag. -/
def flag : Fields := { mFlag := some ⟨.uInt8, 0⟩ }

def Group1Var2 : StreamObject BoolDataPoint := ⟨⟨1, 2, .fixed 1⟩, 1, flag, writeQ, readBinaryQV⟩
def Group2Var1 : StreamObject BoolDataPoint := ⟨⟨2, 1, .fixed 1⟩, 1, flag, writeQ, readBinaryQV⟩
def Group2Var2 : StreamObject BoolDataPoint :=
  ⟨⟨2, 2, .fixed 7⟩, 7, { flag with mTime := some ⟨.uInt48LE, 1⟩ }, writeQT, readBinaryQV⟩
def Group2Var3 : StreamObject BoolDataPoint :=
  ⟨⟨2, 3, .fixed 3⟩, 3, { flag with mTime := some ⟨.uInt16LE, 1⟩ }, writeQT, readBinaryQVT⟩
def Group10Var2 : StreamObject BoolDataPoint := ⟨⟨10, 2, .fixed 1⟩, 1, flag, writeQ, readQ⟩

/-- `UseCTO`: the time is relative to a common one. -/
def useCTO (apObj : ObjectBase) : Bool := apObj = Group2Var3.base

/-- `Group51Var1`, of which `mTime` is all. -/
def Group51Var1 : ObjectBase := ⟨51, 1, .fixed 6⟩

/-- `mTime` of `Group51Var1` and of `Group51Var2`, the common time. -/
def commonTime : Pack := ⟨.uInt48LE, 0⟩

/-! ## Counters -/

/-- The fields of an object with a value and nothing else. -/
def value (packer : Packer) : Fields := { mValue := some ⟨packer, 0⟩ }

/-- The fields of an object with a flag and a value. -/
def flagValue (packer : Packer) : Fields := { flag with mValue := some ⟨packer, 1⟩ }

/-- The fields of an object with a flag, a value and a time. -/
def flagValueTime (packer : Packer) (pos : ℕ) : Fields :=
    { flagValue packer with mTime := some ⟨.uInt48LE, pos⟩ }

def Group20Var1 : StreamObject Counter :=
    ⟨⟨20, 1, .fixed 5⟩, 5, flagValue .uInt32LE, writeQV, readQV _⟩
def Group20Var2 : StreamObject Counter :=
    ⟨⟨20, 2, .fixed 3⟩, 3, flagValue .uInt16LE, writeQV, readQV _⟩
def Group20Var3 : StreamObject Counter :=
    ⟨⟨20, 3, .fixed 5⟩, 5, flagValue .uInt32LE, writeQV, readQV _⟩
def Group20Var4 : StreamObject Counter :=
    ⟨⟨20, 4, .fixed 3⟩, 3, flagValue .uInt16LE, writeQV, readQV _⟩
def Group20Var5 : StreamObject Counter := ⟨⟨20, 5, .fixed 4⟩, 4, value .uInt32LE, writeV, readV _⟩
def Group20Var6 : StreamObject Counter := ⟨⟨20, 6, .fixed 2⟩, 2, value .uInt16LE, writeV, readV _⟩
def Group20Var7 : StreamObject Counter := ⟨⟨20, 7, .fixed 4⟩, 4, value .uInt32LE, writeV, readV _⟩
def Group20Var8 : StreamObject Counter := ⟨⟨20, 8, .fixed 2⟩, 2, value .uInt16LE, writeV, readV _⟩
def Group22Var1 : StreamObject Counter :=
    ⟨⟨22, 1, .fixed 5⟩, 5, flagValue .uInt32LE, writeQV, readQV _⟩
def Group22Var2 : StreamObject Counter :=
    ⟨⟨22, 2, .fixed 3⟩, 3, flagValue .uInt16LE, writeQV, readQV _⟩
def Group22Var3 : StreamObject Counter :=
    ⟨⟨22, 3, .fixed 5⟩, 5, flagValue .uInt32LE, writeQV, readQV _⟩
def Group22Var4 : StreamObject Counter :=
    ⟨⟨22, 4, .fixed 3⟩, 3, flagValue .uInt16LE, writeQV, readQV _⟩
def Group22Var5 : StreamObject Counter :=
    ⟨⟨22, 5, .fixed 11⟩, 11, flagValueTime .uInt32LE 5, writeQVT, readQVT _⟩
def Group22Var6 : StreamObject Counter :=
    ⟨⟨22, 6, .fixed 9⟩, 9, flagValueTime .uInt16LE 3, writeQVT, readQVT _⟩
def Group22Var7 : StreamObject Counter :=
    ⟨⟨22, 7, .fixed 11⟩, 11, flagValueTime .uInt32LE 5, writeQVT, readQVT _⟩
def Group22Var8 : StreamObject Counter :=
    ⟨⟨22, 8, .fixed 9⟩, 9, flagValueTime .uInt16LE 3, writeQVT, readQVT _⟩

/-! ## Analogs -/

/-- `AQ_OVERRANGE`, for a field that is a `PackOverRange`. -/
def overRange (apObj : Fields) : Fields := { apObj with overRangeMask := 0x20 }

def Group30Var1 : StreamObject Analog :=
  ⟨⟨30, 1, .fixed 5⟩, 5, overRange (flagValue .int32LE), writeCheckRangeQV, readQV _⟩
def Group30Var2 : StreamObject Analog :=
  ⟨⟨30, 2, .fixed 3⟩, 3, overRange (flagValue .int16LE), writeCheckRangeQV, readQV _⟩
def Group30Var3 : StreamObject Analog := ⟨⟨30, 3, .fixed 4⟩, 4, value .int32LE, writeV, readV _⟩
def Group30Var4 : StreamObject Analog := ⟨⟨30, 4, .fixed 2⟩, 2, value .int16LE, writeV, readV _⟩
def Group32Var1 : StreamObject Analog :=
  ⟨⟨32, 1, .fixed 5⟩, 5, overRange (flagValue .int32LE), writeCheckRangeQV, readQV _⟩
def Group32Var2 : StreamObject Analog :=
  ⟨⟨32, 2, .fixed 3⟩, 3, overRange (flagValue .int16LE), writeCheckRangeQV, readQV _⟩
def Group32Var3 : StreamObject Analog :=
  ⟨⟨32, 3, .fixed 11⟩, 11, overRange (flagValueTime .int32LE 5), writeCheckRangeQVT, readQVT _⟩
def Group32Var4 : StreamObject Analog :=
  ⟨⟨32, 4, .fixed 9⟩, 9, overRange (flagValueTime .int16LE 3), writeCheckRangeQVT, readQVT _⟩
def Group40Var1 : StreamObject SetpointStatus :=
    ⟨⟨40, 1, .fixed 5⟩, 5, flagValue .int32LE, writeQV, readQV _⟩
def Group40Var2 : StreamObject SetpointStatus :=
    ⟨⟨40, 2, .fixed 3⟩, 3, flagValue .int16LE, writeQV, readQV _⟩

/-! ## Commands -/

/-- `ByteToCommandStatus` -/
def byteToCommandStatus (aField : Byte) : CommandStatus :=
  match [CommandStatus.success, .timeout, .noSelect, .formatError, .notSupported, .alreadyActive,
    .hardwareError, .local, .tooManyOps, .notAuthorized].find? (·.toByte = aField) with
  | some aStatus => aStatus
  | none => .undefined

/-- `BinaryOutput`, with its status. -/
structure BinaryOutputRequest extends BinaryOutput where
  mStatus : CommandStatus
  deriving DecidableEq, Repr

/-- `Group12Var1` -/
def Group12Var1.mCode : Pack := ⟨.uInt8, 0⟩
def Group12Var1.mCount : Pack := ⟨.uInt8, 1⟩
def Group12Var1.mOnTime : Pack := ⟨.uInt32LE, 2⟩
def Group12Var1.mOffTime : Pack := ⟨.uInt32LE, 6⟩
def Group12Var1.mStatus : Pack := ⟨.uInt8, 10⟩

/-- `Group12Var1::Write` -/
def Group12Var1.write (apPos : List Byte) (arControl : BinaryOutputRequest) : List Byte :=
  let p := mCode.set apPos arControl.mRawCode
  let p := mCount.set p arControl.mCount
  let p := mOffTime.set p arControl.mOffTimeMS
  let p := mOnTime.set p arControl.mOnTimeMS
  mStatus.set p arControl.mStatus.toByte.toNat

/-- `Group12Var1::Read` -/
def Group12Var1.read (apPos : List Byte) : BinaryOutputRequest where
  mRawCode := (mCode.get apPos).toNat
  mCount := (mCount.get apPos).toNat
  mOffTimeMS := (mOffTime.get apPos).toNat
  mOnTimeMS := (mOnTime.get apPos).toNat
  mStatus := byteToCommandStatus (BitVec.ofInt 8 (mStatus.get apPos))

def Group12Var1 : StreamObject BinaryOutputRequest :=
  ⟨⟨12, 1, .fixed 11⟩, 11, {}, fun _ ↦ Group12Var1.write, fun _ ↦ Group12Var1.read⟩

/-- `SetpointEncodingType`, without `SPET_UNSET`: a setpoint that is written has a value. -/
inductive SetpointEncodingType where
  | int16 | int32 | float | double | autoInt | autoDouble
  deriving DecidableEq, Repr

/-- `Setpoint` -/
structure Setpoint where
  mValue : ℚ
  mStatus : CommandStatus
  mEncodingType : SetpointEncodingType
  deriving DecidableEq

/-- `GetIntValue` -/
def Setpoint.getIntValue (v : Setpoint) : ℤ := ValueType.convert v.mValue

/-- `Write`, of `Group41Var1` and of `Group41Var2`, which converts the value to 16 bits before; that
leaves the octets that are written as they are. -/
def writeSetpoint (apObj : Fields) (apBuff : List Byte) (arVal : Setpoint) : List Byte :=
  setField apObj.mStatus (setField apObj.mValue apBuff arVal.getIntValue) arVal.mStatus.toByte.toNat

/-- `Read`, of `Group41Var1` and of `Group41Var2`. -/
def readSetpoint (aEncodingType : SetpointEncodingType) (apObj : Fields) (apBuff : List Byte) :
    Setpoint where
  mValue := ValueType.ofPacked (getField apObj.mValue apBuff)
  mStatus := byteToCommandStatus (getOctet apObj.mStatus apBuff)
  mEncodingType := aEncodingType

def Group41Var1 : StreamObject Setpoint :=
  ⟨⟨41, 1, .fixed 5⟩, 5, { value .int32LE with mStatus := some ⟨.uInt8, 4⟩ }, writeSetpoint,
    readSetpoint .int32⟩
def Group41Var2 : StreamObject Setpoint :=
  ⟨⟨41, 2, .fixed 3⟩, 3, { value .int16LE with mStatus := some ⟨.uInt8, 2⟩ }, writeSetpoint,
    readSetpoint .int16⟩

/-! ## The classes -/

/-- `StreamObject<Binary>` and `StreamObject<ControlStatus>` -/
def binaries : List (StreamObject BoolDataPoint) :=
    [Group1Var2, Group2Var1, Group2Var2, Group2Var3, Group10Var2]

/-- `StreamObject<Counter>` -/
def counters : List (StreamObject Counter) :=
  [Group20Var1, Group20Var2, Group20Var3, Group20Var4, Group20Var5, Group20Var6, Group20Var7,
    Group20Var8,
   Group22Var1, Group22Var2, Group22Var3, Group22Var4, Group22Var5, Group22Var6, Group22Var7,
     Group22Var8]

/-- `StreamObject<Analog>` and `StreamObject<SetpointStatus>` -/
def analogs : List (StreamObject Analog) :=
  [Group30Var1, Group30Var2, Group30Var3, Group30Var4, Group32Var1, Group32Var2, Group32Var3,
    Group32Var4,
   Group40Var1, Group40Var2]

/-- `CommandObject<Setpoint>` -/
def setpoints : List (StreamObject Setpoint) := [Group41Var1, Group41Var2]

end OpenDNP3.Objects
