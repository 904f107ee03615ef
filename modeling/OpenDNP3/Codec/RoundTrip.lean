import OpenDNP3.Codec.Objects

/-!
# Reading what was written

Every class that `Objects.cpp` has for a measurement or a command reads what it has written, but for
one: `Group2Var2` is written with a time and is read without it.

* `Keeps` — what is read is what was written, as far as the class has fields for it.
* `keeps_V`, `keeps_QV`, `keeps_QVT` — the templates that go together.
* `read_write` — all classes, and which measurements the one loses.
-/

set_option autoImplicit false

namespace OpenDNP3.Objects

open Pack

/-! ## What a class can carry

A class with a flag restores the quality of a point, and one with a time restores the time. The
value is restored if its field can hold it. -/

/-- What the conversions do to an integer. -/
class LawfulValueType (T : Type) [ValueType T] : Prop where
  convert_ofPacked : ∀ z : ℤ, ValueType.convert (ValueType.ofPacked z : T) = z
  above_ofPacked : ∀ z m : ℤ, z ≤ m → ValueType.above (ValueType.ofPacked z : T) m = false
  below_ofPacked : ∀ z m : ℤ, m ≤ z → ValueType.below (ValueType.ofPacked z : T) m = false

instance : LawfulValueType ℤ where
  convert_ofPacked _ := rfl
  above_ofPacked _ _ h := decide_eq_false (Int.not_lt.mpr h)
  below_ofPacked _ _ h := decide_eq_false (Int.not_lt.mpr h)

instance : LawfulValueType ℚ where
  convert_ofPacked z := Int.tdiv_one z
  above_ofPacked _ _ h := decide_eq_false (not_lt.mpr (Rat.intCast_le_intCast.mpr h))
  below_ofPacked _ _ h := decide_eq_false (not_lt.mpr (Rat.intCast_le_intCast.mpr h))

/-- The time goes into its field, if there is one. -/
def HoldsTime (apObj : Fields) (aTime : ℤ) : Prop := ∀ f ∈ apObj.mTime, f.packer.Holds aTime

/-- The value is an integer that goes into its field. -/
def HoldsValue {T : Type} [ValueType T] (apObj : Fields) (aValue : T) : Prop :=
  ∀ f ∈ apObj.mValue, ∃ z, aValue = ValueType.ofPacked z ∧ f.packer.Holds z

/-- A measurement with a state that is read is the one that was written. -/
structure BoolDataPoint.Restored (apObj : Fields) (v r : BoolDataPoint) : Prop where
  value : r.getValue = v.getValue
  quality : apObj.mFlag.isSome = true → r.mQuality = v.mQuality
  time : apObj.mTime.isSome = true → r.mTime = v.mTime

/-- A measurement with a value that is read is the one that was written. -/
structure TypedDataPoint.Restored {T : Type} (apObj : Fields) (v r : TypedDataPoint T) : Prop where
  value : r.mValue = v.mValue
  quality : apObj.mFlag.isSome = true → r.mQuality = v.mQuality
  time : apObj.mTime.isSome = true → r.mTime = v.mTime

/-- The class keeps every measurement that it can carry, whatever the octets were before. -/
def Keeps {T : Type} [ValueType T] (o : StreamObject (TypedDataPoint T)) : Prop :=
  ∀ (p : List Byte) (v : TypedDataPoint T), o.getSize ≤ p.length → HoldsValue o.fields v.mValue →
    HoldsTime o.fields v.mTime → v.Restored o.fields (o.read (o.write p v))

/-! ## Flags and statuses -/

theorem holds_octet (b : Byte) : Packer.uInt8.Holds b.toNat :=
  ⟨Int.natCast_nonneg _, Int.ofNat_le.mpr (Nat.le_of_lt_succ b.isLt)⟩

@[simp] theorem ofInt_toNat (b : Byte) : BitVec.ofInt 8 b.toNat = b := by
  rw [BitVec.ofInt_natCast, BitVec.ofNat_toNat, BitVec.setWidth_eq]

@[simp] theorem byteToCommandStatus_toByte (s : CommandStatus) :
    byteToCommandStatus s.toByte = s := by
  cases s <;> rfl

/-! ## The templates -/

section Templates

variable {T : Type} [ValueType T] [LawfulValueType T] {apObj : Fields} {p : List Byte}
    {v : TypedDataPoint T}

/-- A value that goes into its field is not changed. -/
theorem checkRange_of_holds {f : Pack} (hvalue : apObj.mValue = some f)
    (hv : HoldsValue apObj v.mValue) :
    ∃ z, v.mValue = ValueType.ofPacked z ∧ f.packer.Holds z ∧
      checkRange apObj v.mValue = (ValueType.ofPacked z, false) := by
  obtain ⟨z, heq, hmin, hmax⟩ := hv f hvalue
  refine ⟨z, heq, ⟨hmin, hmax⟩, ?_⟩
  have habove : ValueType.above (ValueType.ofPacked z : T) (maxField apObj.mValue) = false := by
    rw [hvalue]
    exact LawfulValueType.above_ofPacked z _ hmax
  have hbelow : ValueType.below (ValueType.ofPacked z : T) (minField apObj.mValue) = false := by
    rw [hvalue]
    exact LawfulValueType.below_ofPacked z _ hmin
  rw [checkRange, heq, habove, if_neg Bool.false_ne_true, hbelow, if_neg Bool.false_ne_true]

/-- The flag is not changed either. -/
theorem writeCheckRangeQV_eq {f : Pack} (hvalue : apObj.mValue = some f)
    (hv : HoldsValue apObj v.mValue) :
    writeCheckRangeQV apObj p v = writeQV apObj p v := by
  obtain ⟨z, -, -, hrange⟩ := checkRange_of_holds hvalue hv
  rw [writeCheckRangeQV, writeQV, writeV, hrange]
  rfl

variable {base : ObjectBase} {size : ℕ} {flag value time : Pack}

/-- `WriteV` with `ReadV`. -/
theorem keeps_V (hvalue : apObj.mValue = some value) (hflag : apObj.mFlag = none)
    (htime : apObj.mTime = none)
    (hapart : Apart size [value]) : Keeps (T := T) ⟨base, size, apObj, writeV, readV T⟩ := by
  rintro p v hp hv -
  obtain ⟨z, heq, hz, hrange⟩ := checkRange_of_holds hvalue hv
  have hwrite : writeV apObj p v = setAll [(value, z)] p := by
    rw [writeV, hrange, hvalue, LawfulValueType.convert_ofPacked]
    rfl
  have hget : value.get (setAll [(value, z)] p) = z :=
    get_setAll (hapart.mono hp) List.mem_cons_self hz
  constructor
  · show ValueType.ofPacked (getField apObj.mValue (writeV apObj p v)) = v.mValue
    rw [hwrite, hvalue, heq]
    exact congrArg _ hget
  · intro h
    rw [show (StreamObject.fields ⟨base, size, apObj, writeV, readV T⟩).mFlag = none from hflag]
      at h
    cases h
  · intro h
    rw [show (StreamObject.fields ⟨base, size, apObj, writeV, readV T⟩).mTime = none from htime]
      at h
    cases h

/-- What a flag and a value are written as. -/
theorem writeQV_eq (hflag : apObj.mFlag = some flag) (hvalue : apObj.mValue = some value)
    (hv : HoldsValue apObj v.mValue) :
    ∃ z, v.mValue = ValueType.ofPacked z ∧ value.packer.Holds z ∧
      writeQV apObj p v = setAll [(flag, v.mQuality.toNat), (value, z)] p := by
  obtain ⟨z, heq, hz, hrange⟩ := checkRange_of_holds hvalue hv
  refine ⟨z, heq, hz, ?_⟩
  rw [writeQV, writeV, hrange, hflag, hvalue, LawfulValueType.convert_ofPacked]
  rfl

/-- `WriteQV`, or `WriteCheckRangeQV`, with `ReadQV`. -/
theorem keeps_QV {write : Fields → List Byte → TypedDataPoint T → List Byte}
    (hwrite : ∀ p v, HoldsValue apObj v.mValue → write apObj p v = writeQV apObj p v)
    (hflag : apObj.mFlag = some ⟨.uInt8, 0⟩) (hvalue : apObj.mValue = some value)
    (htime : apObj.mTime = none)
    (hapart : Apart size [⟨.uInt8, 0⟩, value]) : Keeps ⟨base, size, apObj, write, readQV T⟩ := by
  rintro p v hp hv -
  obtain ⟨z, heq, hz, hset⟩ := writeQV_eq (p := p) hflag hvalue hv
  have happ := hapart.mono hp
  have hgetq := get_setAll (l := [(⟨.uInt8, 0⟩, v.mQuality.toNat), (value, z)])
    happ List.mem_cons_self
    (holds_octet v.mQuality)
  have hgetv := get_setAll (l := [(⟨.uInt8, 0⟩, (v.mQuality.toNat : ℤ)), (value, z)]) happ
    (List.mem_cons_of_mem _ List.mem_cons_self) hz
  constructor
  · show ValueType.ofPacked (getField apObj.mValue (write apObj p v)) = v.mValue
    rw [hwrite p v hv, hset, hvalue, heq]
    exact congrArg _ hgetv
  · intro _
    show BitVec.ofInt 8 (getField apObj.mFlag (write apObj p v)) = v.mQuality
    rw [hwrite p v hv, hset, hflag]
    exact (congrArg _ hgetq).trans (ofInt_toNat v.mQuality)
  · intro h
    rw [show (StreamObject.fields ⟨base, size, apObj, write, readQV T⟩).mTime = none from htime]
      at h
    cases h

/-- `WriteQVT`, or `WriteCheckRangeQVT`, with `ReadQVT`. -/
theorem keeps_QVT {write : Fields → List Byte → TypedDataPoint T → List Byte}
    (hwrite : ∀ p v, HoldsValue apObj v.mValue → write apObj p v = writeQVT apObj p v)
    (hflag : apObj.mFlag = some ⟨.uInt8, 0⟩) (hvalue : apObj.mValue = some value)
    (htime : apObj.mTime = some time)
    (hapart : Apart size [⟨.uInt8, 0⟩, value, time]) :
    Keeps ⟨base, size, apObj, write, readQVT T⟩ := by
  rintro p v hp hv ht
  obtain ⟨z, heq, hz, hset⟩ := writeQV_eq (p := p) hflag hvalue hv
  have happ := hapart.mono hp
  have hset : write apObj p v =
      setAll [(⟨.uInt8, 0⟩, v.mQuality.toNat), (value, z), (time, v.mTime)] p := by
    rw [hwrite p v hv, writeQVT, hset, htime]
    rfl
  have hgetq := get_setAll
    (l := [(⟨.uInt8, 0⟩, v.mQuality.toNat), (value, z), (time, v.mTime)]) happ
    List.mem_cons_self (holds_octet v.mQuality)
  have hgetv := get_setAll
    (l := [(⟨.uInt8, 0⟩, (v.mQuality.toNat : ℤ)), (value, z), (time, v.mTime)]) happ
    (List.mem_cons_of_mem _ List.mem_cons_self) hz
  have hgett := get_setAll
    (l := [(⟨.uInt8, 0⟩, (v.mQuality.toNat : ℤ)), (value, z), (time, v.mTime)]) happ
    (List.mem_cons_of_mem _ (List.mem_cons_of_mem _ List.mem_cons_self)) (ht time htime)
  constructor
  · show ValueType.ofPacked (getField apObj.mValue (write apObj p v)) = v.mValue
    rw [hset, hvalue, heq]
    exact congrArg _ hgetv
  · intro _
    show BitVec.ofInt 8 (getField apObj.mFlag (write apObj p v)) = v.mQuality
    rw [hset, hflag]
    exact (congrArg _ hgetq).trans (ofInt_toNat v.mQuality)
  · intro _
    show getField apObj.mTime (write apObj p v) = v.mTime
    rw [hset, htime]
    exact hgett

end Templates

/-! ## The classes

The classes with their fields, by the templates that they use. -/

/-- Every class of a counter keeps what it can carry. -/
theorem keeps_counters : ∀ o ∈ counters, Keeps o := by
  have hV {base : ObjectBase} {size : ℕ} {packer : Packer} (h : Apart size [⟨packer, 0⟩]) :
      Keeps (T := ℤ) ⟨base, size, value packer, writeV, readV ℤ⟩ := keeps_V rfl rfl rfl h
  have hQV {base : ObjectBase} {size : ℕ} {packer : Packer}
    (h : Apart size [⟨.uInt8, 0⟩, ⟨packer, 1⟩]) :
      Keeps (T := ℤ) ⟨base, size, flagValue packer, writeQV, readQV ℤ⟩ :=
        keeps_QV (fun _ _ _ ↦ rfl) rfl rfl rfl h
  have hQVT {base : ObjectBase} {size pos : ℕ} {packer : Packer}
      (h : Apart size [⟨.uInt8, 0⟩, ⟨packer, 1⟩, ⟨.uInt48LE, pos⟩]) :
      Keeps (T := ℤ) ⟨base, size, flagValueTime packer pos, writeQVT, readQVT ℤ⟩ :=
    keeps_QVT (fun _ _ _ ↦ rfl) rfl rfl rfl h
  simp only [counters, List.forall_mem_cons]
  exact ⟨hQV (by decide), hQV (by decide), hQV (by decide), hQV (by decide), hV (by decide),
    hV (by decide), hV (by decide), hV (by decide), hQV (by decide), hQV (by decide),
    hQV (by decide),
      hQV (by decide),
    hQVT (by decide), hQVT (by decide), hQVT (by decide), hQVT (by decide), fun _ h ↦
      absurd h List.not_mem_nil⟩

/-- Every class of an analog or of the status of a setpoint keeps what it can carry. -/
theorem keeps_analogs : ∀ o ∈ analogs, Keeps o := by
  have hV {base : ObjectBase} {size : ℕ} {packer : Packer} (h : Apart size [⟨packer, 0⟩]) :
      Keeps (T := ℚ) ⟨base, size, value packer, writeV, readV ℚ⟩ := keeps_V rfl rfl rfl h
  have hQV {base : ObjectBase} {size : ℕ} {packer : Packer}
    (h : Apart size [⟨.uInt8, 0⟩, ⟨packer, 1⟩]) :
      Keeps (T := ℚ) ⟨base, size, flagValue packer, writeQV, readQV ℚ⟩ :=
        keeps_QV (fun _ _ _ ↦ rfl) rfl rfl rfl h
  have hcheckQV {base : ObjectBase} {size : ℕ} {packer : Packer}
    (h : Apart size [⟨.uInt8, 0⟩, ⟨packer, 1⟩]) :
      Keeps (T := ℚ) ⟨base, size, overRange (flagValue packer), writeCheckRangeQV, readQV ℚ⟩ :=
    keeps_QV (fun _ _ hv ↦ writeCheckRangeQV_eq rfl hv) rfl rfl rfl h
  have hcheckQVT {base : ObjectBase} {size pos : ℕ} {packer : Packer}
      (h : Apart size [⟨.uInt8, 0⟩, ⟨packer, 1⟩, ⟨.uInt48LE, pos⟩]) :
      Keeps (T := ℚ) ⟨base, size, overRange (flagValueTime packer pos), writeCheckRangeQVT,
        readQVT ℚ⟩ := by
    refine keeps_QVT (fun p v hv ↦ ?_) rfl rfl rfl h
    rw [writeCheckRangeQVT, writeCheckRangeQV_eq rfl hv]
    rfl
  simp only [analogs, List.forall_mem_cons]
  exact ⟨hcheckQV (by decide), hcheckQV (by decide), hV (by decide), hV (by decide), hcheckQV
    (by decide), hcheckQV (by decide), hcheckQVT (by decide), hcheckQVT (by decide),
    hQV (by decide),
      hQV (by decide),
    fun _ h ↦ absurd h List.not_mem_nil⟩

/-- A flag that is written is read. -/
theorem getOctet_writeQ (apObj : Fields) (hflag : apObj.mFlag = some ⟨.uInt8, 0⟩) {p : List Byte}
    (hp : 1 ≤ p.length)
    (v : BoolDataPoint) : getOctet apObj.mFlag (writeQ apObj p v) = v.mQuality := by
  rw [getOctet, writeQ, hflag]
  exact (congrArg _ (get_set_self (f := ⟨.uInt8, 0⟩) hp (holds_octet v.mQuality))).trans
    (ofInt_toNat v.mQuality)

/-- A flag and a time that are written are read. -/
theorem getField_writeQT (apObj : Fields) {time : Pack} (hflag : apObj.mFlag = some ⟨.uInt8, 0⟩)
    (htime : apObj.mTime = some time) {p : List Byte} (hapart : Apart p.length [⟨.uInt8, 0⟩, time])
    (v : BoolDataPoint)
    (ht : HoldsTime apObj v.mTime) : getOctet apObj.mFlag (writeQT apObj p v) = v.mQuality ∧
      getField apObj.mTime (writeQT apObj p v) = v.mTime := by
  have hset : writeQT apObj p v = setAll [(⟨.uInt8, 0⟩, v.mQuality.toNat), (time, v.mTime)] p := by
    rw [writeQT, hflag, htime]
    rfl
  have hgetq := get_setAll (l := [(⟨.uInt8, 0⟩, v.mQuality.toNat), (time, v.mTime)])
    hapart List.mem_cons_self
    (holds_octet v.mQuality)
  have hgett := get_setAll (l := [(⟨.uInt8, 0⟩, (v.mQuality.toNat : ℤ)), (time, v.mTime)]) hapart
    (List.mem_cons_of_mem _ List.mem_cons_self) (ht time htime)
  rw [getOctet, hset, hflag, htime]
  exact ⟨(congrArg _ hgetq).trans (ofInt_toNat v.mQuality), hgett⟩

/-- A point with the quality of another one is that point, but for the time. -/
theorem restored_iff {apObj : Fields} {v r : BoolDataPoint}
    (hq : r.mQuality = v.mQuality) : v.Restored apObj r ↔
    (apObj.mTime.isSome = true → r.mTime = v.mTime) :=
  ⟨BoolDataPoint.Restored.time, fun ht ↦ ⟨by rw [BoolDataPoint.getValue, hq]; rfl, fun _ ↦ hq, ht⟩⟩

/-- **The classes of binary points**: all of them keep the state and the flag, and `Group2Var2`
alone loses the time. -/
theorem restored_binaries : ∀ o ∈ binaries, ∀ (p : List Byte) (v : BoolDataPoint),
    o.getSize ≤ p.length →
    HoldsTime o.fields v.mTime →
    (v.Restored o.fields (o.read (o.write p v)) ↔ (o.base = Group2Var2.base → v.mTime = 0)) := by
  have hne {o : ObjectBase} {v : BoolDataPoint} (h : o ≠ Group2Var2.base) : o = Group2Var2.base →
      v.mTime = 0 :=
    fun heq ↦ absurd heq h
  have hQ {base : ObjectBase} (h : base ≠ Group2Var2.base) (p : List Byte) (v : BoolDataPoint)
    (hp : 1 ≤ p.length) :
      v.Restored flag (readBinaryQV flag (writeQ flag p v)) ↔
        (base = Group2Var2.base → v.mTime = 0) :=
    (restored_iff (getOctet_writeQ flag rfl hp v)).trans (iff_of_true nofun (hne h))
  simp only [binaries, List.forall_mem_cons]
  refine ⟨?_, ?_, ?_, ?_, ?_, fun _ h ↦ absurd h List.not_mem_nil⟩
  · exact fun p v hp _ ↦ hQ (by decide) p v hp
  · exact fun p v hp _ ↦ hQ (by decide) p v hp
  · intro p v hp ht
    have hflag := (getField_writeQT Group2Var2.fields rfl rfl (Apart.mono (by decide) hp) v ht).1
    refine (restored_iff hflag).trans ?_
    -- the time of a new point is 0
    exact ⟨fun h _ ↦ (h rfl).symm, fun h _ ↦ (h trivial).symm⟩
  · intro p v hp ht
    obtain ⟨hflag, htime⟩ := getField_writeQT Group2Var3.fields rfl rfl
      (Apart.mono (by decide) hp) v ht
    exact (restored_iff hflag).trans (iff_of_true (fun _ ↦ htime) (hne (by decide)))
  · intro p v hp _
    have hflag := getOctet_writeQ flag rfl hp v
    refine (restored_iff ?_).trans (iff_of_true nofun (hne (by decide)))
    show BoolDataPoint.new.mQuality &&& BoolDataPoint.mValueMask ||| getOctet flag.mFlag
      (writeQ flag p v) = v.mQuality
    rw [hflag]
    exact BitVec.zero_or

/-- The classes of setpoints keep the value and the status. -/
theorem restored_setpoints : ∀ o ∈ setpoints, ∀ (p : List Byte) (v : Setpoint),
    o.getSize ≤ p.length →
    HoldsValue o.fields v.mValue →
    (o.read (o.write p v)).mValue = v.mValue ∧ (o.read (o.write p v)).mStatus = v.mStatus := by
  have hset {apObj : Fields} {value status : Pack} (hvalue : apObj.mValue = some value)
      (hstatus : apObj.mStatus = some status) (hpacker : status.packer = .uInt8)
        (t : SetpointEncodingType) {p : List Byte}
      (hapart : Apart p.length [value, status]) {v : Setpoint} (hv : HoldsValue apObj v.mValue) :
      (readSetpoint t apObj (writeSetpoint apObj p v)).mValue = v.mValue ∧
        (readSetpoint t apObj (writeSetpoint apObj p v)).mStatus = v.mStatus := by
    obtain ⟨z, heq, hz⟩ := hv value hvalue
    have hwrite : writeSetpoint apObj p v =
        setAll [(value, z), (status, v.mStatus.toByte.toNat)] p := by
      rw [writeSetpoint, Setpoint.getIntValue, heq, LawfulValueType.convert_ofPacked, hvalue,
        hstatus]
      rfl
    rw [hwrite]
    constructor
    · show ValueType.ofPacked (getField apObj.mValue _) = v.mValue
      rw [hvalue, heq]
      exact congrArg _ (get_setAll hapart List.mem_cons_self hz)
    · show byteToCommandStatus (BitVec.ofInt 8 (getField apObj.mStatus _)) = v.mStatus
      have hget := get_setAll (l := [(value, z), (status, (v.mStatus.toByte.toNat : ℤ))]) hapart
        (List.mem_cons_of_mem _ List.mem_cons_self) (hpacker ▸ holds_octet v.mStatus.toByte)
      rw [hstatus]
      refine (congrArg (fun q ↦ byteToCommandStatus (BitVec.ofInt 8 q)) hget).trans ?_
      rw [ofInt_toNat, byteToCommandStatus_toByte]
  simp only [setpoints, List.forall_mem_cons]
  exact ⟨fun p v hp hv ↦ hset rfl rfl rfl _ (Apart.mono (by decide) hp) hv,
    fun p v hp hv ↦ hset rfl rfl rfl _ (Apart.mono (by decide) hp) hv, fun _ h ↦
      absurd h List.not_mem_nil⟩

/-- A command whose numbers are of the types that they have. -/
structure BinaryOutputRequest.Typed (v : BinaryOutputRequest) : Prop where
  code : v.mRawCode ≤ 0xFF
  count : v.mCount ≤ 0xFF
  onTime : v.mOnTimeMS ≤ 0xFFFFFFFF
  offTime : v.mOffTimeMS ≤ 0xFFFFFFFF

/-- The class of binary outputs keeps everything. -/
theorem restored_binaryOutput {p : List Byte} (hp : 11 ≤ p.length) {v : BinaryOutputRequest}
    (hv : v.Typed) :
    Group12Var1.read (Group12Var1.write p v) = v := by
  have hapart : Apart p.length [Group12Var1.mCode, Group12Var1.mCount, Group12Var1.mOffTime,
    Group12Var1.mOnTime, Group12Var1.mStatus] := Apart.mono (by decide) hp
  have hnat {n m : ℕ} (h : n ≤ m) : (0 : ℤ) ≤ n ∧ (n : ℤ) ≤ m :=
    ⟨Int.natCast_nonneg n, Int.ofNat_le.mpr h⟩
  have hget (f : Pack) (n : ℤ) :=
    @get_setAll p [(Group12Var1.mCode, (v.mRawCode : ℤ)), (Group12Var1.mCount, v.mCount),
    (Group12Var1.mOffTime, v.mOffTimeMS), (Group12Var1.mOnTime, v.mOnTimeMS),
    (Group12Var1.mStatus, v.mStatus.toByte.toNat)] hapart f n
  have hcode := hget Group12Var1.mCode v.mRawCode (by simp) (hnat hv.code)
  have hcount := hget Group12Var1.mCount v.mCount (by simp) (hnat hv.count)
  have hoff := hget Group12Var1.mOffTime v.mOffTimeMS (by simp) (hnat hv.offTime)
  have hon := hget Group12Var1.mOnTime v.mOnTimeMS (by simp) (hnat hv.onTime)
  have hstatus := hget Group12Var1.mStatus v.mStatus.toByte.toNat (by simp)
    (holds_octet v.mStatus.toByte)
  have hwrite : Group12Var1.write p v =
    setAll [(Group12Var1.mCode, (v.mRawCode : ℤ)), (Group12Var1.mCount, v.mCount),
    (Group12Var1.mOffTime, v.mOffTimeMS), (Group12Var1.mOnTime, v.mOnTimeMS),
    (Group12Var1.mStatus, v.mStatus.toByte.toNat)] p := rfl
  rw [hwrite, Group12Var1.read, hcode, hcount, hoff, hon, hstatus, ofInt_toNat,
    byteToCommandStatus_toByte]
  rfl

/-- **What the classes read of what they have written**: a measurement or a command is restored with
its value, and with the flag and the time that the class has fields for.  `Group2Var2` alone is read
without its time, and restores what has none. -/
theorem read_write_restores (p : List Byte) :
    (∀ o ∈ binaries, ∀ v : BoolDataPoint, o.getSize ≤ p.length → HoldsTime o.fields v.mTime →
      (v.Restored o.fields (o.read (o.write p v)) ↔ (o.base = Group2Var2.base → v.mTime = 0))) ∧
    (∀ o ∈ counters, ∀ v : Counter, o.getSize ≤ p.length → HoldsValue o.fields v.mValue →
      HoldsTime o.fields v.mTime → v.Restored o.fields (o.read (o.write p v))) ∧
    (∀ o ∈ analogs, ∀ v : Analog, o.getSize ≤ p.length → HoldsValue o.fields v.mValue →
      HoldsTime o.fields v.mTime → v.Restored o.fields (o.read (o.write p v))) ∧
    (∀ o ∈ setpoints, ∀ v : Setpoint, o.getSize ≤ p.length → HoldsValue o.fields v.mValue →
      (o.read (o.write p v)).mValue = v.mValue ∧ (o.read (o.write p v)).mStatus = v.mStatus) ∧
    ∀ v : BinaryOutputRequest, Group12Var1.getSize ≤ p.length → v.Typed →
      Group12Var1.read (Group12Var1.write p v) = v :=
  ⟨fun o ho v hp ht ↦ restored_binaries o ho p v hp ht, fun o ho v hp hv ht ↦
    keeps_counters o ho p v hp hv ht,
    fun o ho v hp hv ht ↦ keeps_analogs o ho p v hp hv ht, fun o ho v hp hv ↦
      restored_setpoints o ho p v hp hv,
    fun _ hp hv ↦ restored_binaryOutput hp hv⟩

/-- An event with a relative time, an analog at the end of its range, and a command. -/
theorem read_write_restores_events :
    (⟨0x81, 500⟩ : BoolDataPoint).Restored Group2Var3.fields
      (Group2Var3.read (Group2Var3.write (List.replicate 3 0) ⟨0x81, 500⟩)) ∧
    (⟨0x01, 1700000000000, ((-32768 : ℤ) : ℚ)⟩ : Analog).Restored Group32Var4.fields
      (Group32Var4.read (Group32Var4.write (List.replicate 9 0)
        ⟨0x01, 1700000000000, ((-32768 : ℤ) : ℚ)⟩)) ∧
    Group12Var1.read (Group12Var1.write (List.replicate 11 0) ⟨⟨0x41, 1, 100, 100⟩, .success⟩) =
      ⟨⟨0x41, 1, 100, 100⟩, .success⟩ := by
  refine ⟨((read_write_restores (List.replicate 3 0)).1 Group2Var3 (by simp [binaries]) ⟨0x81, 500⟩
    (by decide) ?_).mpr ?_,
    (read_write_restores (List.replicate 9 0)).2.2.1 Group32Var4 (by simp [analogs]) _
    (by decide) ?_ ?_, (read_write_restores (List.replicate 11 0)).2.2.2.2 _ (by decide)
    ⟨by decide, by decide, by decide, by decide⟩⟩
  · rintro f ⟨⟩
    decide
  · exact fun h ↦ absurd h (by decide)
  · rintro f ⟨⟩
    exact ⟨-32768, rfl, by decide⟩
  · rintro f ⟨⟩
    decide

/-- A binary event that is written with the time 1 is read with the time 0, by `Group2Var2`. -/
theorem group2Var2_loses_time :
    HoldsTime Group2Var2.fields 1 ∧
    (Group2Var2.read (Group2Var2.write (List.replicate 7 0) ⟨0x81, 1⟩)).mTime = 0 ∧
    ¬(⟨0x81, 1⟩ : BoolDataPoint).Restored Group2Var2.fields
      (Group2Var2.read (Group2Var2.write (List.replicate 7 0) ⟨0x81, 1⟩)) := by
  refine ⟨?_, rfl, fun h ↦ ?_⟩
  · rintro f ⟨⟩
    decide
  · have htime := h.time rfl
    cases htime

end OpenDNP3.Objects
