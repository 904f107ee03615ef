import OpenDNP3.App.Octets
import OpenDNP3.Codec.RoundTrip
import OpenDNP3.Response.Static

/-!
# What the master does with a response

A poll goes through the object headers of every fragment that it gets, and publishes what it finds:
a measurement with the index of its point, or the data of a virtual terminal.  A common time holds
for the header that comes next.

* `Measurement` — the types of the measurements.
* `ResponseLoader` — the state while one fragment is read, with `process` and `readData`.
* `readData_of_formed` — a fragment that says what is in it is read block by block.

The floating point fields of some classes are left to a parameter, and so are numbers that are no
fractions.
-/

set_option autoImplicit false

namespace OpenDNP3

open LittleEndian (slice)
open Objects (BoolDataPoint TypedDataPoint Counter Analog SetpointStatus getOctet getField
    commonTime useCTO)

/-! ## Measurements -/

/-- `Binary`, `Analog`, `Counter`, `ControlStatus` and `SetpointStatus` -/
abbrev Measurement : DataTypes → Type
  | .binary | .controlStatus => BoolDataPoint
  | .counter => Counter
  | .analog => Analog
  | .setpointStatus => SetpointStatus

/-- `ONLINE`, which is the same bit for all of them. -/
def online : Byte := 0x01

/-- `SetQuality` -/
def setQuality : (aType : DataTypes) → Byte → Measurement aType → Measurement aType
  | .binary, aQuality, v | .controlStatus, aQuality, v => v.setQuality aQuality
  | .counter, aQuality, v | .analog, aQuality, v | .setpointStatus, aQuality, v =>
    { v with mQuality := aQuality }

/-- `GetTime` -/
def getTime : (aType : DataTypes) → Measurement aType → ℤ
  | .binary, v | .controlStatus, v => v.mTime
  | .counter, v | .analog, v | .setpointStatus, v => v.mTime

/-- `SetTime` -/
def setTime : (aType : DataTypes) → ℤ → Measurement aType → Measurement aType
  | .binary, aTime, v | .controlStatus, aTime, v => { v with mTime := aTime }
  | .counter, aTime, v | .analog, aTime, v | .setpointStatus, aTime, v => { v with mTime := aTime }

/-- What gets to the application: `Update` of the `IDataObserver`, and of the `VtoReader`. -/
inductive Published where
  | update (aType : DataTypes) (aIndex : ℕ) (arPoint : Measurement aType)
  | vto (aChannelId : ℕ) (arData : List Byte)

/-! ## Common times -/

/-- `CTOHistory` -/
structure CTOHistory where
  mCTO : ℤ := -1
  mHeaderNum : ℕ := 0
  mTimeHeaderNum : ℕ := 0
  deriving DecidableEq, Repr

namespace CTOHistory

/-- `NextHeader` -/
def nextHeader (h : CTOHistory) : CTOHistory := { h with mHeaderNum := h.mHeaderNum + 1 }

/-- `SetCTO` -/
def setCTO (h : CTOHistory) (arTime : ℤ) : CTOHistory :=
    { h with mCTO := arTime, mTimeHeaderNum := h.mHeaderNum }

/-- `GetCTO`: the common time, if it was in the header before.  The numbers are those of a `size_t`,
where the one before the first is not a number of a header. -/
def getCTO (h : CTOHistory) : Option ℤ :=
  if h.mCTO ≥ 0 ∧ h.mTimeHeaderNum + 1 = h.mHeaderNum then some h.mCTO else none

end CTOHistory

/-! ## The objects of a header -/

namespace ObjectReadIterator

/-- What `operator*` points to. -/
def pointee (it : ObjectReadIterator) : Except Exception (List Byte) :=
    do return it.data (← it.deref)

/-- The loop over the objects that are left: the index and the data of each. -/
def pointees : ℕ → ObjectReadIterator → Except Exception (List (ℕ × List Byte))
  | 0, _ => .ok []
  | n + 1, it => do
    let obj ← it.pointee
    let it' ← it.next
    let rest ← pointees n it'
    return (it.mIndex, obj) :: rest

theorem pointees_eq_collect {it : ObjectReadIterator} (n : ℕ) (hdata : it.mHasData = true) :
    it.pointees n = it.collect n := by
  induction n generalizing it with
  | zero => rfl
  | succ n ih =>
    have hobj : it.pointee = it.octets := by rw [pointee, octets, if_pos hdata]
    rw [pointees, collect, hobj]
    congr 1
    funext obj
    cases hnext : it.next with
    | error e => rfl
    | ok it' =>
      rw [except_ok_bind, except_ok_bind, ih ((next_header hnext).2.trans hdata)]

end ObjectReadIterator

/-- A `StreamObject`, as `Read` of the loader uses it. -/
structure ReadObject (aType : DataTypes) where
  hasQuality : Bool
  useCTO : Bool
  read : List Byte → Measurement aType

/-- The cases of the `switch` of `ProcessData`. -/
inductive LoadCase where
  | read (aType : DataTypes) (apObj : ReadObject aType)
  | readBitfield
  | readCTO

/-- A class whose fields are integers. -/
def integerObject (aType : DataTypes) (o : Objects.StreamObject (Measurement aType)) : LoadCase :=
  .read aType ⟨o.fields.mFlag.isSome, useCTO o.base, o.read⟩

section Process

-- `SingleFloat::Read` and `DoubleFloat::Read`, of so many octets
variable (readFloat : (aSize : ℕ) → List Byte → ℚ)

/-- A class with a floating point field, which is behind the flag; there may be a time behind it. -/
def floatObject (aSize : ℕ) (mTime : Option Pack) : ReadObject .analog where
  hasQuality := true
  useCTO := false
  read apPos := {
    mQuality := getOctet (some ⟨.uInt8, 0⟩) apPos
    mTime := getField mTime apPos
    mValue := readFloat aSize (slice apPos 1 aSize) }

/-- The `switch` of `ProcessData`, with the group and the variation of each case. -/
def loadCases : List ((ℕ × ℕ) × LoadCase) :=
  let setpoint (o : ReadObject .analog) : LoadCase :=
    .read .setpointStatus ⟨o.hasQuality, o.useCTO, o.read⟩
  [((10, 2), integerObject .controlStatus Objects.Group10Var2), ((1, 1), .readBitfield),
   ((1, 2), integerObject .binary Objects.Group1Var2),
     ((2, 1), integerObject .binary Objects.Group2Var1),
   ((2, 2), integerObject .binary Objects.Group2Var2),
     ((2, 3), integerObject .binary Objects.Group2Var3),
   ((20, 1), integerObject .counter Objects.Group20Var1),
     ((20, 2), integerObject .counter Objects.Group20Var2),
   ((20, 3), integerObject .counter Objects.Group20Var3),
     ((20, 4), integerObject .counter Objects.Group20Var4),
   ((20, 5), integerObject .counter Objects.Group20Var5),
     ((20, 6), integerObject .counter Objects.Group20Var6),
   ((20, 7), integerObject .counter Objects.Group20Var7),
     ((20, 8), integerObject .counter Objects.Group20Var8),
   ((22, 1), integerObject .counter Objects.Group22Var1),
     ((22, 2), integerObject .counter Objects.Group22Var2),
   ((22, 3), integerObject .counter Objects.Group22Var3),
     ((22, 4), integerObject .counter Objects.Group22Var4),
   ((30, 1), integerObject .analog Objects.Group30Var1),
     ((30, 2), integerObject .analog Objects.Group30Var2),
   ((30, 3), integerObject .analog Objects.Group30Var3),
     ((30, 4), integerObject .analog Objects.Group30Var4),
   ((30, 5), .read .analog (floatObject readFloat 4 none)),
     ((30, 6), .read .analog (floatObject readFloat 8 none)),
   ((32, 1), integerObject .analog Objects.Group32Var1),
     ((32, 2), integerObject .analog Objects.Group32Var2),
   ((32, 3), integerObject .analog Objects.Group32Var3),
     ((32, 4), integerObject .analog Objects.Group32Var4),
   ((32, 5), .read .analog (floatObject readFloat 4 none)),
     ((32, 6), .read .analog (floatObject readFloat 8 none)),
   ((32, 7), .read .analog (floatObject readFloat 4 (some ⟨.uInt48LE, 5⟩))),
   ((32, 8), .read .analog (floatObject readFloat 8 (some ⟨.uInt48LE, 9⟩))),
   ((40, 1), integerObject .setpointStatus Objects.Group40Var1),
   ((40, 2), integerObject .setpointStatus Objects.Group40Var2),
   ((40, 3), setpoint (floatObject readFloat 4 none)),
     ((40, 4), setpoint (floatObject readFloat 8 none)),
   ((51, 1), .readCTO), ((51, 2), .readCTO)]

/-- The case of a radix. -/
def loadCase (aRadix : ℕ) : Option LoadCase :=
  ((loadCases readFloat).find? fun c ↦ radix c.1.1 c.1.2 = aRadix).map (·.2)

/-- `ResponseLoader` -/
structure ResponseLoader where
  mCTO : CTOHistory := {}
  deriving DecidableEq, Repr

namespace ResponseLoader

variable (aBuffer : List Byte) (aHasData : Bool)

/-- The data of every object of a header. -/
def objects (arIter : HeaderInfo) : Except Exception (List (ℕ × List Byte)) := do
  let obj ← ObjectReadIterator.beginRead arIter aBuffer aHasData
  obj.pointees arIter.mCount

/-- The measurement that is published for an object, `t` being the base time. -/
def loaded {aType : DataTypes} (apObj : ReadObject aType) (t : ℤ) (p : List Byte) :
    Measurement aType :=
  let value := apObj.read p
  -- make sure the value has time information, and quality information
  let value := if apObj.useCTO then setTime aType (t + getTime aType value) value else value
  if apObj.hasQuality then value else setQuality aType online value

/-- `Read` -/
def read (s : ResponseLoader) {aType : DataTypes} (apObj : ReadObject aType) (arIter : HeaderInfo) :
    Except Exception (List Published) :=
  if apObj.useCTO = true ∧ s.mCTO.getCTO = none then .ok []
  else do
    let objs ← objects aBuffer aHasData arIter
    return objs.map fun obj ↦ .update aType obj.1 (loaded apObj (s.mCTO.getCTO.getD 0) obj.2)

/-- `ReadBitfield`; `StaticRead` gets the bit. -/
def readBitfield (arHeader : HeaderInfo) : Except Exception (List Published) := do
  let objs ← objects aBuffer aHasData arHeader
  let b := BoolDataPoint.new.setQuality online
  return objs.map fun obj ↦ .update .binary obj.1 (b.setValue (obj.2 != [0]))

/-- `ReadCTO` -/
def readCTO (s : ResponseLoader) (arIter : HeaderInfo) : Except Exception ResponseLoader := do
  let i ← ObjectReadIterator.beginRead arIter aBuffer aHasData
  if i.count ≠ 1 then return s
  return { s with mCTO := s.mCTO.setCTO (commonTime.get (← i.pointee)) }

/-- `ReadVto` -/
def readVto (arIter : HeaderInfo) : Except Exception (List Published) := do
  let objIter ← ObjectReadIterator.beginRead arIter aBuffer aHasData
  let data ← objIter.pointee
  if objIter.mIndex > 255 then return []
  return [.vto objIter.mIndex data]

/-- `ProcessSizeByVariation`; other objects are not supported. -/
def processSizeByVariation (arIter : HeaderInfo) : Except Exception (List Published) :=
  if arIter.mGroup = 112 ∨ arIter.mGroup = 113 then readVto aBuffer aHasData arIter else .ok []

/-- `ProcessData` -/
def processData (s : ResponseLoader) (arIter : HeaderInfo) :
    Except Exception (ResponseLoader × List Published) :=
  match loadCase readFloat arIter.radix with
  | some (.read _ apObj) => do return (s, ← s.read aBuffer aHasData apObj arIter)
  | some .readBitfield => do return (s, ← readBitfield aBuffer aHasData arIter)
  | some .readCTO => do return (← s.readCTO aBuffer aHasData arIter, [])
  | none => do return (s, ← processSizeByVariation aBuffer aHasData arIter)

/-- `Process`: the loader after it, and what is published. -/
def process (s : ResponseLoader) (arIter : HeaderInfo) :
    Except Exception (ResponseLoader × List Published) := do
  let r ← s.processData readFloat aBuffer aHasData arIter
  return ({ r.1 with mCTO := r.1.mCTO.nextHeader }, r.2)

/-- The loop over the headers of a fragment. -/
def processAll (s : ResponseLoader) : List HeaderInfo → Except Exception (List Published)
  | [] => .ok []
  | hdr :: hdrs => do
    let r ← s.process readFloat aBuffer aHasData hdr
    let rest ← processAll r.1 hdrs
    return r.2 ++ rest

end ResponseLoader

/-- `DataPoll::ReadData`: what is published of a fragment, if no iterator is at fault. -/
def readData (f : APDU) : Except Exception (List Published) :=
  ({} : ResponseLoader).processAll readFloat f.mBuffer (hasData f.getFunction) f.mObjectHeaders

/-! ## A fragment that says what is in it -/

namespace ResponseLoader

/-- The loader after the objects of a common time. -/
def afterCTO (s : ResponseLoader) : List (ℕ × List Byte) → ResponseLoader
  | [obj] => { s with mCTO := s.mCTO.setCTO (commonTime.get obj.2) }
  | _ => s

/-- What is published for the objects of a header that is none of the cases. -/
def vtoObjects (aGroup : ℕ) : List (ℕ × List Byte) → List Published
  | obj :: _ => if (aGroup = 112 ∨ aGroup = 113) ∧ obj.1 ≤ 255 then [.vto obj.1 obj.2] else []
  | [] => []

/-- What is published for a block, and the loader after it. -/
def load (s : ResponseLoader) (b : Block (List Byte)) : ResponseLoader × List Published :=
  match loadCase readFloat (radix b.group b.variation) with
  | some (.read aType apObj) =>
    (s, if apObj.useCTO = true ∧ s.mCTO.getCTO = none then []
      else b.objects.map fun obj ↦ .update aType obj.1 (loaded apObj (s.mCTO.getCTO.getD 0) obj.2))
  | some .readBitfield =>
    (s, b.objects.map fun obj ↦
      .update .binary obj.1 ((BoolDataPoint.new.setQuality online).setValue (obj.2 != [0])))
  | some .readCTO => (s.afterCTO b.objects, [])
  | none => (s, vtoObjects b.group b.objects)

/-- What is published for blocks one after the other. -/
def loadAll (s : ResponseLoader) : List (Block (List Byte)) → List Published
  | [] => []
  | b :: bs => (s.load readFloat b).2 ++
      ({ (s.load readFloat b).1 with mCTO := (s.load readFloat b).1.mCTO.nextHeader } :
        ResponseLoader).loadAll bs

variable {readFloat} {b : Block (List Byte)} {t : ObjectHeaderTypes} {o : ObjectBase}
    {aBuffer : List Byte} {aPos : ℕ}

/-- The loop finds the objects of a block. -/
theorem objects_eq (h : b.Formed true t o) (hw : b.Within true aBuffer aPos) :
    objects aBuffer true (b.info t o aPos) = .ok b.seen.objects := by
  obtain ⟨it, hit, -, -, -, hdata⟩ := ObjectReadIterator.beginRead_of_accepted
    (h.accepted aPos) aBuffer true
  have hcollect := h.collect_eq hw
  rw [HeaderInfo.collect, hit, except_ok_bind] at hcollect
  rw [objects, hit, except_ok_bind, ObjectReadIterator.pointees_eq_collect _ hdata, hcollect]

/-- The first object of a block, as the iterator finds it at its start. -/
theorem pointee_beginRead (h : b.Formed true t o) (hw : b.Within true aBuffer aPos)
    {obj : ℕ × List Byte} {objs : List (ℕ × List Byte)} (hobjs : b.seen.objects = obj :: objs) :
    ∃ it, ObjectReadIterator.beginRead (b.info t o aPos) aBuffer true = .ok it ∧ it.mIndex = obj.1 ∧
      it.pointee = .ok obj.2 := by
  have hloop := objects_eq h hw
  have hlen : b.objects.length = objs.length + 1 := by
    rw [← List.length_cons, ← hobjs]
    simp [Block.seen]
  obtain ⟨it, hit, -⟩ := ObjectReadIterator.beginRead_of_accepted (h.accepted aPos) aBuffer true
  have hcount : (b.info t o aPos).mCount = objs.length + 1 := hlen
  rw [objects, hit, except_ok_bind, hcount, ObjectReadIterator.pointees, hobjs] at hloop
  obtain ⟨p, hp, hloop⟩ := except_bind_eq_ok.mp hloop
  obtain ⟨it', -, hloop⟩ := except_bind_eq_ok.mp hloop
  obtain ⟨rest, -, hloop⟩ := except_bind_eq_ok.mp hloop
  have hhead := (List.cons.inj (Except.ok.inj hloop)).1
  exact ⟨it, hit, congrArg Prod.fst hhead, hp.trans (congrArg (Except.ok ·.2) hhead)⟩

/-- The objects of a virtual terminal are one. -/
theorem length_objects_vto (h : b.Formed true t o) (hgroup : b.group = 112 ∨ b.group = 113) :
    b.objects.length = 1 := by
  have hknown : ∀ o ∈ ObjectBase.known, o.getGroup ≠ 112 ∧ o.getGroup ≠ 113 := by decide
  have hgroups : ∀ o ∈ ObjectBase.knownGroups, o.getType = .sizeByVariation := by decide
  rcases h.lists with ⟨ho, hog, -⟩ | ⟨ho, -⟩
  · have hne := hknown o ho
    omega
  · exact h.one (hgroups o ho)

/-- `ReadCTO` sets the common time if there is one. -/
theorem readCTO_eq (s : ResponseLoader) (h : b.Formed true t o) (hw : b.Within true aBuffer aPos) :
    s.readCTO aBuffer true (b.info t o aPos) = .ok (s.afterCTO b.seen.objects) := by
  have hlen : b.seen.objects.length = b.objects.length := by simp [Block.seen]
  by_cases hone : b.objects.length = 1
  · obtain ⟨obj, hobjs⟩ := List.length_eq_one_iff.mp (hlen.trans hone)
    obtain ⟨it, hit, -, hobj⟩ := pointee_beginRead h hw hobjs
    have hcount : it.count = 1 := by
      obtain ⟨it', hit', hheader, -⟩ := ObjectReadIterator.beginRead_of_accepted
        (h.accepted aPos) aBuffer true
      obtain rfl := Except.ok.inj (hit.symm.trans hit')
      rw [ObjectReadIterator.count, hheader]
      exact hone
    rw [readCTO, hit, except_ok_bind, if_neg (not_not.mpr hcount), hobj, hobjs]
    rfl
  · obtain ⟨it, hit, hheader, -⟩ := ObjectReadIterator.beginRead_of_accepted
      (h.accepted aPos) aBuffer true
    have hcount : it.count ≠ 1 := by
      rw [ObjectReadIterator.count, hheader]
      exact hone
    rw [readCTO, hit, except_ok_bind, if_pos hcount]
    rcases hobjs : b.seen.objects with - | ⟨obj, - | ⟨obj', objs⟩⟩
    · rfl
    · exact absurd (hlen.symm.trans (congrArg List.length hobjs)) hone
    · rfl

/-- `ReadVto` publishes the data, if the index is a channel. -/
theorem processSizeByVariation_eq (h : b.Formed true t o) (hw : b.Within true aBuffer aPos) :
    processSizeByVariation aBuffer true (b.info t o aPos) = .ok
      (vtoObjects b.group b.seen.objects) := by
  have hmGroup : (b.info t o aPos).mGroup = b.group := rfl
  rw [processSizeByVariation, hmGroup]
  by_cases hgroup : b.group = 112 ∨ b.group = 113
  · have hlen : b.seen.objects.length = 1 := by simpa [Block.seen] using length_objects_vto h hgroup
    obtain ⟨obj, hobjs⟩ := List.length_eq_one_iff.mp hlen
    obtain ⟨it, hit, hindex, hobj⟩ := pointee_beginRead h hw hobjs
    rw [if_pos hgroup, readVto, hit, except_ok_bind, hobj, except_ok_bind, hindex, hobjs]
    by_cases hchannel : obj.1 ≤ 255
    · rw [if_neg (Nat.not_lt.mpr hchannel), vtoObjects, if_pos ⟨hgroup, hchannel⟩]
      rfl
    · rw [if_pos (Nat.lt_of_not_le hchannel), vtoObjects, if_neg fun h ↦ hchannel h.2]
      rfl
  · rw [if_neg hgroup]
    cases b.seen.objects with
    | nil => rfl
    | cons obj objs => rw [vtoObjects, if_neg fun h ↦ hgroup h.1]

/-- **A header is processed by what its block holds.** -/
theorem process_eq (s : ResponseLoader) (h : b.Formed true t o) (hw : b.Within true aBuffer aPos) :
    s.process readFloat aBuffer true (b.info t o aPos) =
      .ok ({ (s.load readFloat b.seen).1 with mCTO := (s.load readFloat b.seen).1.mCTO.nextHeader },
        (s.load readFloat b.seen).2) := by
  have hobjects := objects_eq h hw
  have hradix : (b.info t o aPos).radix = radix b.seen.group b.seen.variation := rfl
  rw [process, processData, load, hradix]
  cases hcase : loadCase readFloat (radix b.seen.group b.seen.variation) with
  | none =>
    have hvto := processSizeByVariation_eq h hw
    simp only [hvto]
    rfl
  | some c =>
    cases c with
    | read aType apObj =>
      simp only [read, hobjects]
      by_cases hcto : apObj.useCTO = true ∧ s.mCTO.getCTO = none
      · rw [if_pos hcto, if_pos hcto]
        rfl
      · rw [if_neg hcto, if_neg hcto]
        rfl
    | readBitfield =>
      simp only [readBitfield, hobjects]
      rfl
    | readCTO =>
      have hcto := readCTO_eq s h hw
      simp only [hcto]
      rfl

/-- The headers of blocks that stand one after the other are processed by what the blocks hold. -/
theorem processAll_eq (s : ResponseLoader) {bs : List (Block (List Byte))} {hs : List HeaderInfo}
    (h : Noted true aPos bs hs) {pre : List Byte} (hpos : pre.length = aPos)
    (hbuffer : aBuffer = pre ++ bs.flatMap (Block.octets · true)) :
    s.processAll readFloat aBuffer true hs = .ok (s.loadAll readFloat (bs.map Block.seen)) := by
  induction h generalizing s pre with
  | nil => rfl
  | @cons aPos b bs t o hs hb hrest ih =>
    rw [List.flatMap_cons] at hbuffer
    have hw : b.Within true aBuffer aPos := ⟨pre, _, hpos, hbuffer⟩
    have hall := fun s ↦ @ih s (pre ++ b.octets true) (by rw [List.length_append, hpos])
      (by rw [hbuffer, List.append_assoc])
    rw [processAll, process_eq s hb hw, except_ok_bind, hall, except_ok_bind]
    rfl

end ResponseLoader

/-- **What is published of a fragment** that says what is in it. -/
theorem readData_of_formed {readFloat} {f : OutAPDU (List Byte)} {aCode : FunctionCodes}
    (hf : f.function = some aCode)
    (hdata : hasData aCode = true) (hblocks : ∀ b ∈ f.blocks, ∃ t o, b.Formed true t o) :
    ∃ apdu, APDU.interpret f.octets = .ok apdu ∧ f.ReadAs apdu ∧
      readData readFloat apdu = .ok
        (({} : ResponseLoader).loadAll readFloat (f.blocks.map Block.seen)) := by
  have hhas : f.hasData = true := by rw [OutAPDU.hasData, hf]; exact hdata
  rw [← hhas] at hblocks
  obtain ⟨apdu, hinterpret, hread⟩ := OutAPDU.readAs_of_formed hf hblocks
  obtain ⟨hs, hnoted, heq⟩ := f.interpret_octets hf hblocks
  obtain rfl := Except.ok.inj (hinterpret.symm.trans heq)
  refine ⟨_, hinterpret, hread, ?_⟩
  rw [hhas] at hnoted
  rw [readData, hdata]
  refine ResponseLoader.processAll_eq {} hnoted rfl ?_
  rw [OutAPDU.octets, hhas]

end Process

end OpenDNP3
