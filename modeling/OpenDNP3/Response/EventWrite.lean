import OpenDNP3.Response.Loader
import OpenDNP3.Response.Select

/-!
# Writing events

`LoadResponse` goes through the requests for events, type by type, and writes the events that have
been selected into the fragment; static data comes only if there is room for all of them.  The
objects of `Group2Var3` have a time of two octets, which is relative: a common time is written
before them, in an object of its own, and again wherever an event is too late for it.

* `loadEvents` — `LoadEvents`, of a type, with `iterateIndexed` and `iterateCTO`; `loadVtoEvents`.
* `ResponseContext.Full` — all members of `ResponseContext`, with `loadResponse` and `clearWritten`.
* `ResponseContext.Full.loadFragments` — the fragments of a response, if all of them are confirmed.
-/

set_option autoImplicit false

namespace OpenDNP3

open Objects (BoolDataPoint Counter Analog Group51Var1 commonTime useCTO)

/-- `MaxIndex` -/
def Database.maxIndex {M : DataTypes → Type} (db : Database M) (aType : DataTypes) :
    Except Exception ℕ :=
  if db.numType aType = 0 then .error (.argument "No points for datatype") else .ok
    (db.numType aType - 1)

/-- The classes of events that an outstation can be configured with or asked for, if all their
fields are integers. -/
def eventClasses : (aType : DataTypes) → List (Objects.StreamObject (Measurement aType))
  | .binary => [Objects.Group2Var1, Objects.Group2Var2, Objects.Group2Var3]
  | .analog => [Objects.Group32Var1, Objects.Group32Var2, Objects.Group32Var3, Objects.Group32Var4]
  | .counter => [Objects.Group22Var1, Objects.Group22Var2, Objects.Group22Var5, Objects.Group22Var6]
  | .controlStatus | .setpointStatus => []

/-- The `StreamObject` of a request. -/
def eventClass (aType : DataTypes) (apObj : ObjectBase) :
    Option (Objects.StreamObject (Measurement aType)) :=
  (eventClasses aType).find? (·.base = apObj)

/-- `Write`, into octets that are free. -/
def Objects.StreamObject.octets {α : Type} (o : Objects.StreamObject α) (v : α) : List Byte :=
  o.write (List.replicate o.getSize 0) v

/-! ## One type of events -/

section LoadEvents

variable {aType : DataTypes}

/-- The loop of `IterateIndexed` and of `IterateCTO`: so many events are written, as long as there
is room.  The number of those that have been written. -/
def writeEvents (put : Measurement aType → List Byte) :
    (num : ℕ) → List (EventInfo (Measurement aType)) → IndexedWriteIterator → OutAPDU (List Byte) →
      Except Exception (ℕ × OutAPDU (List Byte))
  | 0, _, _, arAPDU => .ok (0, arAPDU)
  | _ + 1, [], _, _ => .error (.nullPointer "EvtItr")
  | n + 1, e :: es, write, arAPDU =>
    -- that's all that goes into this fragment
    if write.isEnd then .ok (0, arAPDU)
    else do
      let write ← write.setIndex e.mIndex
      write.deref
      let write ← write.next
      let r ← writeEvents put n es write (arAPDU.pushObject e.mIndex (put e.mValue))
      return (r.1 + 1, r.2)

/-- `WriteIndexed`, and the loop that follows it. -/
def writeIndexedEvents (apObj : Objects.StreamObject (Measurement aType))
    (put : Measurement aType → List Byte)
    (max_index num : ℕ) (es : List (EventInfo (Measurement aType))) (arAPDU : OutAPDU (List Byte)) :
    Except Exception (ℕ × OutAPDU (List Byte)) := do
  let r ← arAPDU.writeIndexed apObj.base apObj.getSize num
    (OutAPDU.getIndexedQualifier max_index num)
  writeEvents put num es r.2 r.1

/-- `IterateIndexed` -/
def iterateIndexed (apObj : Objects.StreamObject (Measurement aType))
    (maxIndex : Except Exception ℕ) (aCount : ℕ)
    (es : List (EventInfo (Measurement aType))) (arAPDU : OutAPDU (List Byte)) :
    Except Exception (ℕ × OutAPDU (List Byte)) := do
  let max_index ← maxIndex
  writeIndexedEvents apObj apObj.octets max_index aCount es arAPDU

/-- The loop of `CalcPossibleCTO`, of which the difference has a sign. -/
def calcPossibleCTO (start : ℤ) : (aMax : ℕ) → List (EventInfo (Measurement aType)) → ℕ
  | 0, _ => 0
  | _ + 1, [] => 0
  | n + 1, e :: es => if getTime aType e.mValue - start > Packer.uInt16LE.max then 0
      else calcPossibleCTO start n es + 1

/-- The octets of an event with a time that is relative to `start`. -/
def relativeOctets (apObj : Objects.StreamObject (Measurement aType)) (start : ℤ)
    (v : Measurement aType) : List Byte :=
  apObj.octets (setTime aType (getTime aType v - start) v)

/-- `IterateCTO`, with a bound on its recursion; every round but the last takes at least one of the
events. -/
def iterateCTO (apObj : Objects.StreamObject (Measurement aType)) (maxIndex : Except Exception ℕ) :
    (fuel aCount : ℕ) → List (EventInfo (Measurement aType)) → OutAPDU (List Byte) →
      Except Exception (ℕ × OutAPDU (List Byte))
  | 0, _, _, arAPDU => .ok (0, arAPDU)
  | _ + 1, _, [], _ => .error (.nullPointer "EvtItr")
  | fuel + 1, aCount, e :: es, arAPDU => do
    let max_index ← maxIndex
    let start := getTime aType e.mValue
    let cto ← arAPDU.writeContiguousFixed Group51Var1 6 0 0 .cnt1B
    if cto.2.isEnd then return (0, cto.1)
    let num := calcPossibleCTO start aCount (e :: es)
    let r ← writeIndexedEvents apObj (relativeOctets apObj start) max_index num (e :: es)
      (cto.1.pushObject 0 (commonTime.set (List.replicate 6 0) start))
    if r.1 < num ∨ num = aCount then return r
    let rest ← iterateCTO apObj maxIndex fuel (aCount - num) ((e :: es).drop num) r.2
    return (num + rest.1, rest.2)

/-- `LoadEvents`, from the first of the selected events on: whether the queue has been gone through,
what is left of it, the number of events that have been written, and the fragment. -/
def loadEvents (maxIndex : Except Exception ℕ) :
    List EventRequest → List (EventInfo (Measurement aType)) → OutAPDU (List Byte) →
      Except Exception (Bool × List EventRequest × ℕ × OutAPDU (List Byte))
  | [], _, arAPDU => .ok (true, [], 0, arAPDU)
  | r :: arQueue, es, arAPDU =>
    if es.length = 0 then .ok (true, r :: arQueue, 0, arAPDU)
    else do
      let count := min r.count es.length
      let pObj ←
        match eventClass aType r.pObj with
        | some o => .ok o
        | none => .error (.nullPointer "StreamObject")
      let w ← if useCTO r.pObj then iterateCTO pObj maxIndex (count + 1) count es arAPDU
        else iterateIndexed pObj maxIndex count es arAPDU
      if w.1 = count then
        let rest ← loadEvents maxIndex arQueue (es.drop w.1) w.2
        return (rest.1, rest.2.1, w.1 + rest.2.2.1, rest.2.2.2)
      else return (false, { r with count := count - w.1 } :: arQueue, w.1, w.2)

end LoadEvents

/-! ## Virtual terminals -/

/-- `IterateIndexed`, of the data of virtual terminals: every piece has a header of its own. -/
def iterateVto (apObj : ObjectBase) :
    (count : ℕ) → List (EventInfo (List Byte)) → OutAPDU (List Byte) →
    Except Exception (ℕ × OutAPDU (List Byte))
  | 0, _, arAPDU => .ok (0, arAPDU)
  | _ + 1, [], _ => .error (.nullPointer "VtoDataEventIter")
  | n + 1, e :: es, arAPDU => do
    let r ← arAPDU.writeIndexedSized apObj e.mValue.length e.mIndex
    if r.2.isEnd then return (0, r.1)
    let itr ← r.2.setIndex e.mIndex
    itr.deref
    let rest ← iterateVto apObj n es (r.1.pushObject e.mIndex e.mValue)
    return (rest.1 + 1, rest.2)

/-- `LoadVtoEvents` -/
def loadVtoEvents :
    List EventRequest → List (EventInfo (List Byte)) → OutAPDU (List Byte) →
      Except Exception (Bool × List EventRequest × ℕ × OutAPDU (List Byte))
  | [], _, arAPDU => .ok (true, [], 0, arAPDU)
  | r :: mVtoEvents, es, arAPDU => do
    let count := min r.count es.length
    let w ← iterateVto r.pObj count es arAPDU
    if w.1 = count then
      let rest ← loadVtoEvents mVtoEvents (es.drop w.1) w.2
      return (rest.1, rest.2.1, w.1 + rest.2.2.1, rest.2.2.2)
    else return (false, { r with count := count - w.1 } :: mVtoEvents, w.1, w.2)

/-! ## The context -/

/-- Of the selected events, so many have been written. -/
def EventBuffer.flagWritten {α : Type} (s : EventBuffer α) (n : ℕ) : EventBuffer α :=
  { s with mSelectedEvents :=
      (s.mSelectedEvents.take n).map (fun e ↦ { e with mWritten := true }) ++
        s.mSelectedEvents.drop n }

namespace SlaveEventBuffer

/-- `ClearWritten` -/
def clearWritten {β α κ τ : Type} (s : SlaveEventBuffer β α κ τ) : SlaveEventBuffer β α κ τ where
  mBinaryEvents := s.mBinaryEvents.clearWrittenEvents
  mAnalogEvents := s.mAnalogEvents.clearWrittenEvents
  mCounterEvents := s.mCounterEvents.clearWrittenEvents
  mVtoEvents := s.mVtoEvents.clearWrittenEvents

/-- `Deselect`.  The events of binaries and of analogs are kept by their times, those of counters by
their indices and those of virtual terminals as they come. -/
def deselect (s : SlaveEventBuffer BoolDataPoint Analog Counter (List Byte)) :
    SlaveEventBuffer BoolDataPoint Analog Counter (List Byte) where
  mBinaryEvents := s.mBinaryEvents.deselect (.timeOrdered (getTime .binary))
  mAnalogEvents := s.mAnalogEvents.deselect (.timeOrdered (getTime .analog))
  mCounterEvents := s.mCounterEvents.deselect (.single (getTime .counter))
  mVtoEvents := s.mVtoEvents.deselect .insertionOrdered

/-- `NumSelected`, of all types. -/
def numSelected {β α κ τ : Type} (s : SlaveEventBuffer β α κ τ) : ℕ :=
  s.mBinaryEvents.numSelected + s.mAnalogEvents.numSelected + s.mCounterEvents.numSelected +
    s.mVtoEvents.numSelected

end SlaveEventBuffer

/-- `ResponseContext`: the members that have to do with events, and those that have to do with
static data. -/
structure ResponseContext.Full where
  events : Events BoolDataPoint Analog Counter (List Byte)
  static : Static
  mLoadedEventData : Bool

namespace ResponseContext.Full

/-- `Configure`: what a header asks for is selected, or noted. -/
def configure (mpDB : Database Measurement) (arRequest : APDU) (c : Full) :
    Except Exception Full := do
  -- `Reset`
  let events := { c.events with
    mBuffer := c.events.mBuffer.deselect
    mTempIIN := {}
    mBinaryEvents := []
    mAnalogEvents := []
    mCounterEvents := []
    mVtoEvents := [] }
  let events ← events.configureAll arRequest.mObjectHeaders
  return ⟨events, c.static.configure mpDB arRequest, false⟩

/-- `LoadEvents<Binary>` -/
def loadBinaryEvents (mpDB : Database Measurement) (c : Full) (arAPDU : OutAPDU (List Byte)) :
    Except Exception (Bool × Full × OutAPDU (List Byte)) := do
  let b := c.events.mBuffer.mBinaryEvents
  let r ← @loadEvents .binary (mpDB.maxIndex .binary) c.events.mBinaryEvents
    b.mSelectedEvents arAPDU
  return (r.1, { c with
    events := { c.events with
      mBuffer := { c.events.mBuffer with mBinaryEvents := b.flagWritten r.2.2.1 }
      mBinaryEvents := r.2.1 }
    mLoadedEventData := c.mLoadedEventData || r.2.2.1 > 0 }, r.2.2.2)

/-- `LoadEvents<Analog>` -/
def loadAnalogEvents (mpDB : Database Measurement) (c : Full) (arAPDU : OutAPDU (List Byte)) :
    Except Exception (Bool × Full × OutAPDU (List Byte)) := do
  let b := c.events.mBuffer.mAnalogEvents
  let r ← @loadEvents .analog (mpDB.maxIndex .analog) c.events.mAnalogEvents
    b.mSelectedEvents arAPDU
  return (r.1, { c with
    events := { c.events with
      mBuffer := { c.events.mBuffer with mAnalogEvents := b.flagWritten r.2.2.1 }
      mAnalogEvents := r.2.1 }
    mLoadedEventData := c.mLoadedEventData || r.2.2.1 > 0 }, r.2.2.2)

/-- `LoadEvents<Counter>` -/
def loadCounterEvents (mpDB : Database Measurement) (c : Full) (arAPDU : OutAPDU (List Byte)) :
    Except Exception (Bool × Full × OutAPDU (List Byte)) := do
  let b := c.events.mBuffer.mCounterEvents
  let r ← @loadEvents .counter (mpDB.maxIndex .counter) c.events.mCounterEvents
    b.mSelectedEvents arAPDU
  return (r.1, { c with
    events := { c.events with
      mBuffer := { c.events.mBuffer with mCounterEvents := b.flagWritten r.2.2.1 }
      mCounterEvents := r.2.1 }
    mLoadedEventData := c.mLoadedEventData || r.2.2.1 > 0 }, r.2.2.2)

/-- `LoadVtoEvents` -/
def loadVto (c : Full) (arAPDU : OutAPDU (List Byte)) :
    Except Exception (Bool × Full × OutAPDU (List Byte)) := do
  let b := c.events.mBuffer.mVtoEvents
  let r ← loadVtoEvents c.events.mVtoEvents b.mSelectedEvents arAPDU
  return (r.1, { c with
    events := { c.events with
      mBuffer := { c.events.mBuffer with mVtoEvents := b.flagWritten r.2.2.1 }
      mVtoEvents := r.2.1 }
    mLoadedEventData := c.mLoadedEventData || r.2.2.1 > 0 }, r.2.2.2)

/-- `LoadEventData` -/
def loadEventData (mpDB : Database Measurement) (c : Full) (arAPDU : OutAPDU (List Byte)) :
    Except Exception (Bool × Full × OutAPDU (List Byte)) := do
  let b ← c.loadBinaryEvents mpDB arAPDU
  if !b.1 then return b
  let a ← b.2.1.loadAnalogEvents mpDB b.2.2
  if !a.1 then return a
  let k ← a.2.1.loadCounterEvents mpDB a.2.2
  if !k.1 then return k
  k.2.1.loadVto k.2.2

/-- `FinalizeResponse` -/
def finalizeResponse (c : Full) (arAPDU : OutAPDU (List Byte)) (aFIN : Bool) :
    OutAPDU (List Byte) × Full :=
  (arAPDU.setControl ⟨c.static.mFIR, aFIN, !aFIN || c.mLoadedEventData, false, 0⟩,
    { c with static := { c.static with mFIN := aFIN, mFIR := false }, mLoadedEventData := false })

/-- `LoadResponse` -/
def loadResponse (write : Writer Measurement (List Byte)) (mpDB : Database Measurement)
    (arAPDU : OutAPDU (List Byte)) (c : Full) : Except Exception (OutAPDU (List Byte) × Full) := do
  let r ← c.loadEventData mpDB (arAPDU.set .response true true false false)
  if !r.1 then return r.2.1.finalizeResponse r.2.2 false
  let w ← Static.loadStaticData write mpDB r.2.1.static.mStaticWriteMap r.2.2
  return { r.2.1 with static := { r.2.1.static with mStaticWriteMap := w.2.1 } }.finalizeResponse
    w.2.2 w.1

/-- `ClearWritten`, which puts back what has not been written. -/
def clearWritten (c : Full) : Full :=
  { c with events := { c.events with mBuffer := c.events.mBuffer.clearWritten.deselect } }

/-- `IsComplete` -/
def isComplete (c : Full) : Bool := c.static.isStaticEmpty && c.events.mBuffer.numSelected = 0

/-- The fragments of a response, each from the database as it is when the fragment is loaded, and
each confirmed before the next one. -/
def loadFragments (write : Writer Measurement (List Byte)) :
    List (Database Measurement) → OutAPDU (List Byte) → Full →
      Except Exception (List (OutAPDU (List Byte)) × Full)
  | [], _, c => .ok ([], c)
  | mpDB :: dbs, arAPDU, c => do
    let r ← c.loadResponse write mpDB arAPDU
    let c := r.2.clearWritten
    if c.isComplete then return ([r.1], c)
    let rest ← loadFragments write dbs r.1 c
    return (r.1 :: rest.1, rest.2)

end ResponseContext.Full

end OpenDNP3
