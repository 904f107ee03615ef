import Mathlib.Logic.Function.Basic
import OpenDNP3.App.OutApdu

/-!
# Reading static data

A `READ` of static data names the points that the master wants: all of a type, those of a range, or
a number of them from the first on; an object of class 0 stands for all types at once.  For every
header `ResponseContext` notes what has to be written, and writes it into one fragment after the
other.  Where a fragment is full, the rest is noted anew, and the next fragment goes on with a
header of its own.

* `Database` — the points of each type.  That they are numbered in their order is a field of it.
* `StreamObject` — how a point is written, and `staticReads`, which objects a `READ` may name.
* `ResponseContext.Static` — the members of `ResponseContext` that have to do with static data, with
  `configure` and `loadResponse`.

What the measurements are is left open, and so is what is written for one: `M` has the types of the
measurements, and a `Writer` is the `Write` of each object.
-/

set_option autoImplicit false

namespace OpenDNP3

/-! ## The database -/

/-- `DataTypes` -/
inductive DataTypes where
  | binary | analog | counter | controlStatus | setpointStatus
  deriving DecidableEq, Repr

/-- `PointInfo`, as far as a read looks at it. -/
structure PointInfo (α : Type) where
  mIndex : ℕ
  mValue : α
  deriving DecidableEq, Repr

/-- `Database`: the points of each type, which have been numbered. -/
structure Database (M : DataTypes → Type) where
  vec : (aType : DataTypes) → List (PointInfo (M aType))
  numbered : ∀ aType i (p : PointInfo (M aType)), (vec aType)[i]? = some p → p.mIndex = i

namespace Database

variable {M : DataTypes → Type} {α : Type}

/-- `AssignIndices` -/
def assignIndices (arVector : List (PointInfo α)) : List (PointInfo α) :=
  arVector.mapIdx fun i p ↦ { p with mIndex := i }

/-- `std::vector::resize`, where new points have the value that a new measurement has. -/
def resize (aNew : α) (arVector : List (PointInfo α)) (aNumPoints : ℕ) : List (PointInfo α) :=
  arVector.take aNumPoints ++ List.replicate (aNumPoints - arVector.length) ⟨0, aNew⟩

theorem numbered_assignIndices (arVector : List (PointInfo α)) (i : ℕ) (p : PointInfo α)
    (h : (assignIndices arVector)[i]? = some p) : p.mIndex = i := by
  rw [assignIndices, List.getElem?_mapIdx] at h
  obtain ⟨q, -, rfl⟩ := Option.map_eq_some_iff.mp h
  rfl

/-- A database without points. -/
def new : Database M where
  vec _ := []
  numbered _ _ _ h := by simp at h

/-- The points of one type are replaced. -/
def setVec (db : Database M) (aType : DataTypes) (v : List (PointInfo (M aType)))
    (hv : ∀ i (p : PointInfo (M aType)), v[i]? = some p → p.mIndex = i) : Database M where
  vec := Function.update db.vec aType v
  numbered t i p h := by
    by_cases ht : t = aType
    · subst ht
      rw [Function.update_self] at h
      exact hv i p h
    · rw [Function.update_of_ne ht] at h
      exact db.numbered t i p h

/-- `Configure`, of one type; `SetAllOnline` is part of what a new measurement is. -/
def configure (db : Database M) (aType : DataTypes) (aNumPoints : ℕ) (aNew : M aType) :
    Database M :=
  db.setVec aType (assignIndices (resize aNew (db.vec aType) aNumPoints)) (numbered_assignIndices _)

/-- `UpdateValue`, as far as the value of the point goes. -/
def updateValue (db : Database M) (aType : DataTypes) (arValue : M aType) (aIndex : ℕ) :
    Database M :=
  db.setVec aType ((db.vec aType).modify aIndex fun p ↦ { p with mValue := arValue }) fun i p h ↦ by
    rw [List.getElem?_modify] at h
    obtain ⟨q, hq, rfl⟩ := Option.map_eq_some_iff.mp h
    have hindex := db.numbered aType i q hq
    split <;> exact hindex

/-- `NumType` -/
def numType (db : Database M) (aType : DataTypes) : ℕ := (db.vec aType).length

/-- What a `StaticIter` points to; there is nothing behind the last point. -/
def point (db : Database M) (aType : DataTypes) (aPos : ℕ) :
    Except Exception (PointInfo (M aType)) :=
  match (db.vec aType)[aPos]? with
  | some p => .ok p
  | none => .error (.nullPointer "StaticIter")

theorem point_of_lt (db : Database M) {aType : DataTypes} {i : ℕ} (h : i < db.numType aType) :
    ∃ p, db.point aType i = .ok p ∧ (db.vec aType)[i]? = some p ∧ p.mIndex = i := by
  obtain ⟨p, hget⟩ : ∃ p, (db.vec aType)[i]? = some p := ⟨_, List.getElem?_eq_getElem h⟩
  exact ⟨p, by rw [point, hget], hget, db.numbered aType i p hget⟩

@[simp] theorem numType_configure_self (db : Database M) (aType : DataTypes) (n : ℕ)
    (aNew : M aType) : (db.configure aType n aNew).numType aType = n := by
  simp [numType, configure, setVec, assignIndices, resize]
  omega

/-- An update changes no number of points. -/
@[simp] theorem numType_updateValue (db : Database M) (aType : DataTypes) (v : M aType) (i : ℕ)
    (t : DataTypes) : (db.updateValue aType v i).numType t = db.numType t := by
  by_cases ht : t = aType
  · subst ht
    simp [numType, updateValue, setVec]
  · simp [numType, updateValue, setVec, Function.update_of_ne ht]

end Database

/-! ## Objects -/

/-- `StreamObject`, of a type of measurements. -/
structure StreamObject (aType : DataTypes) where
  base : ObjectBase
  size : ℕ
  size_pos : 0 < size
  deriving DecidableEq, Repr

/-- `Write`, of every object. -/
abbrev Writer (M : DataTypes → Type) (ω : Type) : Type := (aType : DataTypes) → StreamObject aType →
    M aType → ω

def Group1Var2 : StreamObject .binary := ⟨⟨1, 2, .fixed 1⟩, 1, by decide⟩
def Group10Var2 : StreamObject .controlStatus := ⟨⟨10, 2, .fixed 1⟩, 1, by decide⟩
def Group20Var1 : StreamObject .counter := ⟨⟨20, 1, .fixed 5⟩, 5, by decide⟩
def Group20Var2 : StreamObject .counter := ⟨⟨20, 2, .fixed 3⟩, 3, by decide⟩
def Group20Var3 : StreamObject .counter := ⟨⟨20, 3, .fixed 5⟩, 5, by decide⟩
def Group20Var4 : StreamObject .counter := ⟨⟨20, 4, .fixed 3⟩, 3, by decide⟩
def Group20Var5 : StreamObject .counter := ⟨⟨20, 5, .fixed 4⟩, 4, by decide⟩
def Group20Var6 : StreamObject .counter := ⟨⟨20, 6, .fixed 2⟩, 2, by decide⟩
def Group20Var7 : StreamObject .counter := ⟨⟨20, 7, .fixed 4⟩, 4, by decide⟩
def Group20Var8 : StreamObject .counter := ⟨⟨20, 8, .fixed 2⟩, 2, by decide⟩
def Group30Var1 : StreamObject .analog := ⟨⟨30, 1, .fixed 5⟩, 5, by decide⟩
def Group30Var2 : StreamObject .analog := ⟨⟨30, 2, .fixed 3⟩, 3, by decide⟩
def Group30Var3 : StreamObject .analog := ⟨⟨30, 3, .fixed 4⟩, 4, by decide⟩
def Group30Var4 : StreamObject .analog := ⟨⟨30, 4, .fixed 2⟩, 2, by decide⟩
def Group30Var5 : StreamObject .analog := ⟨⟨30, 5, .fixed 5⟩, 5, by decide⟩
def Group30Var6 : StreamObject .analog := ⟨⟨30, 6, .fixed 9⟩, 9, by decide⟩
def Group40Var1 : StreamObject .setpointStatus := ⟨⟨40, 1, .fixed 5⟩, 5, by decide⟩
def Group40Var2 : StreamObject .setpointStatus := ⟨⟨40, 2, .fixed 3⟩, 3, by decide⟩
def Group40Var3 : StreamObject .setpointStatus := ⟨⟨40, 3, .fixed 5⟩, 5, by decide⟩
def Group40Var4 : StreamObject .setpointStatus := ⟨⟨40, 4, .fixed 9⟩, 9, by decide⟩

/-- `SlaveResponseTypes`, of static data: the objects that are written where the master leaves the
variation open. -/
structure StaticResponseTypes where
  mpStaticBinary : StreamObject .binary
  mpStaticAnalog : StreamObject .analog
  mpStaticCounter : StreamObject .counter
  mpStaticControlStatus : StreamObject .controlStatus
  mpStaticSetpointStatus : StreamObject .setpointStatus
  deriving DecidableEq, Repr

/-- The cases of the `switch` of `Configure` that read static data: the group and the variation, and
the objects that are read. -/
def staticReads : List ((ℕ × ℕ) × (StaticResponseTypes → List (Sigma StreamObject))) :=
  [((1, 0), fun t ↦ [⟨_, t.mpStaticBinary⟩]), ((1, 2), fun _ ↦ [⟨_, Group1Var2⟩]),
   ((10, 0), fun t ↦ [⟨_, t.mpStaticControlStatus⟩]), ((10, 2), fun _ ↦ [⟨_, Group10Var2⟩]),
   ((20, 0), fun t ↦ [⟨_, t.mpStaticCounter⟩]),
   ((20, 1), fun _ ↦ [⟨_, Group20Var1⟩]), ((20, 2), fun _ ↦ [⟨_, Group20Var2⟩]),
   ((20, 3), fun _ ↦ [⟨_, Group20Var3⟩]), ((20, 4), fun _ ↦ [⟨_, Group20Var4⟩]),
   ((20, 5), fun _ ↦ [⟨_, Group20Var5⟩]), ((20, 6), fun _ ↦ [⟨_, Group20Var6⟩]),
   ((20, 7), fun _ ↦ [⟨_, Group20Var7⟩]), ((20, 8), fun _ ↦ [⟨_, Group20Var8⟩]),
   ((30, 0), fun t ↦ [⟨_, t.mpStaticAnalog⟩]),
   ((30, 1), fun _ ↦ [⟨_, Group30Var1⟩]), ((30, 2), fun _ ↦ [⟨_, Group30Var2⟩]),
   ((30, 3), fun _ ↦ [⟨_, Group30Var3⟩]), ((30, 4), fun _ ↦ [⟨_, Group30Var4⟩]),
   ((30, 5), fun _ ↦ [⟨_, Group30Var5⟩]), ((30, 6), fun _ ↦ [⟨_, Group30Var6⟩]),
   ((40, 0), fun t ↦ [⟨_, t.mpStaticSetpointStatus⟩]),
   ((40, 1), fun _ ↦ [⟨_, Group40Var1⟩]), ((40, 2), fun _ ↦ [⟨_, Group40Var2⟩]),
   ((40, 3), fun _ ↦ [⟨_, Group40Var3⟩]), ((40, 4), fun _ ↦ [⟨_, Group40Var4⟩]),
   ((60, 1), fun t ↦ [⟨_, t.mpStaticBinary⟩, ⟨_, t.mpStaticAnalog⟩, ⟨_, t.mpStaticCounter⟩,
     ⟨_, t.mpStaticControlStatus⟩, ⟨_, t.mpStaticSetpointStatus⟩])]

/-- The cases that select events. -/
def eventReads : List (ℕ × ℕ) :=
  [(2, 0), (22, 0), (32, 0), (2, 1), (2, 2), (2, 3), (60, 2), (60, 3), (60, 4)]

/-! ## What has to be written -/

/-- A `WriteFunction`: `WriteStaticObjects` with its object, and the iterators to the first and to
the last of the points. -/
structure StaticWrite where
  type : DataTypes
  pObj : StreamObject type
  start : ℕ
  stop : ℕ
  deriving DecidableEq, Repr

/-- `WriteMap`, in the order of the keys.  All keys have the type `RT_STATIC`. -/
abbrev WriteMap : Type := List (ℕ × StaticWrite)

/-- `operator[]`, with an assignment. -/
def WriteMap.set (aOrder : ℕ) (w : StaticWrite) : WriteMap → WriteMap
  | [] => [(aOrder, w)]
  | e :: m =>
    if aOrder < e.1 then (aOrder, w) :: e :: m
    else if aOrder = e.1 then (aOrder, w) :: m
    else e :: WriteMap.set aOrder w m

/-- The members of `ResponseContext` that have to do with static data. -/
structure ResponseContext.Static where
  mpRspTypes : StaticResponseTypes
  mTempIIN : IINField
  mStaticWriteMap : WriteMap
  mFIR : Bool
  mFIN : Bool
  deriving DecidableEq, Repr

namespace ResponseContext.Static

variable {M : DataTypes → Type} {ω : Type}

/-! ## Configuration -/

/-- The constructor. -/
def new (apRspTypes : StaticResponseTypes) : Static := ⟨apRspTypes, {}, [], true, false⟩

/-- `Reset` -/
def reset (s : Static) : Static := { s with mTempIIN := {}, mStaticWriteMap := [], mFIR := true }

/-- `RecordStaticObjectsByRange`.  The iterators start at the first point. -/
def recordStaticObjectsByRange (s : Static) (apObject : Sigma StreamObject) (aStart aStop : ℕ) :
    Static :=
  { s with
    mStaticWriteMap := WriteMap.set s.mStaticWriteMap.length
      ⟨apObject.1, apObject.2, aStart, aStop⟩ s.mStaticWriteMap }

/-- `SetParameterError` -/
def parameterError (s : Static) : Static := { s with mTempIIN := s.mTempIIN.setParameterError true }

/-- `RecordStaticObjects`, of a header of the request. -/
def recordStaticObjects (mpDB : Database M) (arRequest : APDU) (arIter : HeaderInfo) (s : Static)
    (apObject : Sigma StreamObject) : Static :=
  let num := mpDB.numType apObject.1
  match arIter.mHeader with
  | .allObjects => if num > 0 then s.recordStaticObjectsByRange apObject 0 (num - 1) else s
  | .ranged2Octet | .ranged4Octet | .ranged8Octet =>
    if num > 0 then
      let max := num - 1
      let ri := arIter.mHeader.getRange arRequest.mBuffer arIter.mPos
      if ri.start > max ∨ ri.stop > max ∨ ri.start > ri.stop then s.parameterError
      else s.recordStaticObjectsByRange apObject ri.start ri.stop
    else s.parameterError
  | .count1Octet | .count2Octet | .count4Octet =>
    if num > 0 then
      let max := num - 1
      let count := arIter.mHeader.getCount arRequest.mBuffer arIter.mPos
      if count > 0 then
        let start := 0
        let stop := count - 1
        if start > max ∨ stop > max ∨ start > stop then s.parameterError
        else s.recordStaticObjectsByRange apObject start stop
      else s.parameterError
    else s.parameterError

/-- The objects that the `switch` of `Configure` reads for a header, if it is one of static data. -/
def staticObjects (apRspTypes : StaticResponseTypes) (aRadix : ℕ) :
    Option (List (Sigma StreamObject)) :=
  (staticReads.find? fun c ↦ radix c.1.1 c.1.2 = aRadix).map (·.2 apRspTypes)

/-- The body of the loop of `Configure`; events are selected elsewhere. -/
def configureHeader (mpDB : Database M) (arRequest : APDU) (s : Static) (hdr : HeaderInfo) :
    Static :=
  if hdr.mGroup = 113 then s
  else
    match staticObjects s.mpRspTypes hdr.radix with
    | some objs => objs.foldl (recordStaticObjects mpDB arRequest hdr) s
    | none =>
      if eventReads.any (fun c ↦ radix c.1 c.2 = hdr.radix) then s
      else { s with mTempIIN := s.mTempIIN.setFuncNotSupported true }

/-- `Configure` -/
def configure (mpDB : Database M) (arRequest : APDU) (s : Static) : Static :=
  arRequest.mObjectHeaders.foldl (configureHeader mpDB arRequest) s.reset

/-! ## Fragments -/

/-- The loop of `WriteStaticObjects` over so many points, from the one with this position on.  It
says whether it has gotten to the end, and where it has stopped.  An object gets the index that the
header gives it. -/
def writeLoop (write : Writer M ω) (mpDB : Database M) (w : StaticWrite) :
    (n aPos : ℕ) → ObjectWriteIterator → OutAPDU ω → Except Exception (Bool × ℕ × OutAPDU ω)
  | 0, aPos, _, arAPDU => .ok (true, aPos, arAPDU)
  | n + 1, aPos, owi, arAPDU =>
    -- out of space in the fragment
    if owi.isEnd then .ok (false, aPos, arAPDU)
    else do
      owi.deref
      let p ← mpDB.point w.type aPos
      let arAPDU := arAPDU.pushObject owi.mIndex (write w.type w.pObj p.mValue)
      let owi ← owi.next
      writeLoop write mpDB w n (aPos + 1) owi arAPDU

/-- `WriteStaticObjects`: whether all has been written, and what is left. -/
def writeStaticObjects (write : Writer M ω) (mpDB : Database M) (w : StaticWrite)
    (arAPDU : OutAPDU ω) :
    Except Exception (Bool × StaticWrite × OutAPDU ω) := do
  let first ← mpDB.point w.type w.start
  let last ← mpDB.point w.type w.stop
  let start := first.mIndex
  let stop := last.mIndex
  let (arAPDU, owi) ← arAPDU.writeContiguousFixed w.pObj.base w.pObj.size start stop .undefined
  let (done, pos, arAPDU) ← writeLoop write mpDB w (stop + 1 - start) w.start owi arAPDU
  return (done, { w with start := pos }, arAPDU)

/-- The loop of `LoadStaticData`.  What has been written is erased from the map, and what is left of
the last entry takes its place there. -/
def loadStaticData (write : Writer M ω) (mpDB : Database M) :
    WriteMap → OutAPDU ω → Except Exception (Bool × WriteMap × OutAPDU ω)
  | [], arAPDU => .ok (true, [], arAPDU)
  | (k, w) :: m, arAPDU => do
    let (done, w, arAPDU) ← writeStaticObjects write mpDB w arAPDU
    if done then loadStaticData write mpDB m arAPDU
    else return (false, (k, w) :: m, arAPDU)

/-- `FinalizeResponse`; no events have been loaded. -/
def finalizeResponse (s : Static) (arAPDU : OutAPDU ω) (aFIN : Bool) : OutAPDU ω × Static :=
  (arAPDU.setControl ⟨s.mFIR, aFIN, !aFIN, false, 0⟩, { s with mFIN := aFIN, mFIR := false })

/-- `LoadResponse`, where no events are selected. -/
def loadResponse (write : Writer M ω) (mpDB : Database M) (arAPDU : OutAPDU ω) (s : Static) :
    Except Exception (OutAPDU ω × Static) := do
  let (wroteAll, m, arAPDU) ← loadStaticData write mpDB s.mStaticWriteMap
    (arAPDU.set .response true true false false)
  return finalizeResponse { s with mStaticWriteMap := m } arAPDU wroteAll

/-- `IsStaticEmpty`, and `IsComplete` where no events are selected. -/
def isStaticEmpty (s : Static) : Bool := s.mStaticWriteMap.isEmpty

/-- The fragments of a response, each from the database as it is when the fragment is loaded. -/
def loadFragments (write : Writer M ω) :
    List (Database M) → OutAPDU ω → Static → Except Exception (List (OutAPDU ω) × Static)
  | [], _, s => .ok ([], s)
  | mpDB :: dbs, arAPDU, s => do
    let (f, s) ← loadResponse write mpDB arAPDU s
    if s.isStaticEmpty then return ([f], s)
    else
      let (fs, s) ← loadFragments write dbs f s
      return (f :: fs, s)

end ResponseContext.Static

end OpenDNP3
