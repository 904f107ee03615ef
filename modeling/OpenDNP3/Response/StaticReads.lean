import OpenDNP3.Response.Static

/-!
# What a read of static data is answered with

A read asks for points, header by header, and they are written into as many fragments as it takes.
A header of a fragment names a range of indices, and its objects are the points of the range, with
what the database has when the fragment is written.  Nothing is written twice or left out where one
fragment ends and the next one starts.

* `requested` — the points that a request asks for, in their order; a range that reaches outside of
  the database asks for none of them, and is an error in the parameters.
* `Carried`, `Answers` — that blocks hold so many points one after the other, and that fragments do.
* `read_answers_exactly` — every read of static data is answered so.

Two conditions are left.  `Configure` has a list of the objects that it reads, and a packed point is
not among them (`reads_fail`); and no header names an index beyond four octets.
-/

set_option autoImplicit false

namespace OpenDNP3

variable {M : DataTypes → Type} {ω : Type}

/-! ## The header of a range -/

/-- The header that `GetContiguousQualifier` stands for. -/
def contiguousHeader (aStop : ℕ) : ObjectHeaderTypes :=
  if aStop ≤ 0xFF then .ranged2Octet
  else if aStop ≤ 0xFFFF then .ranged4Octet
  else .ranged8Octet

@[simp] theorem getObjectHeader_contiguous (aStop : ℕ) :
    getObjectHeader (OutAPDU.getContiguousQualifier aStop) = .ok (contiguousHeader aStop) := by
  simp only [OutAPDU.getContiguousQualifier, contiguousHeader]
  split
  · rfl
  · split <;> rfl

@[simp] theorem isCount_contiguousHeader (aStop : ℕ) : (contiguousHeader aStop).isCount =
    false := by
  simp only [contiguousHeader]
  split
  · rfl
  · split <;> rfl

@[simp] theorem contiguousHeader_ne_allObjects (aStop : ℕ) :
    contiguousHeader aStop ≠ .allObjects := by
  simp only [contiguousHeader]
  split
  · rintro ⟨⟩
  · split <;> rintro ⟨⟩

/-- An index fits the header that has been chosen for it. -/
theorem le_maxField_contiguousHeader {aStop : ℕ} (h : aStop ≤ 0xFFFFFFFF) :
    aStop ≤ (contiguousHeader aStop).maxField := by
  simp only [contiguousHeader]
  split
  · assumption
  · split <;> assumption

namespace OutAPDU

/-- How many objects of a range there is room for. -/
def contiguousCount (f : OutAPDU ω) (aObjSize aStart aStop : ℕ) : ℕ :=
  min (aStop + 1 - aStart) ((f.remainder - (contiguousHeader aStop).getSize) / aObjSize)

/-- The objects that are counted fit. -/
theorem fits_of_contiguousCount {f : OutAPDU ω} {aObjSize aStart aStop n : ℕ} (hpos : 0 < aObjSize)
    (hn : f.contiguousCount aObjSize aStart aStop = n) (hzero : n ≠ 0) :
    f.mFragmentSize + ((contiguousHeader aStop).getSize + n * aObjSize) ≤ f.mMaxSize := by
  have hroom : n * aObjSize ≤ f.remainder - (contiguousHeader aStop).getSize := by
    rw [← hn]
    exact Nat.le_trans (Nat.mul_le_mul_right _ (Nat.min_le_right _ _)) (Nat.div_mul_le_self _ _)
  have hone : 0 < n * aObjSize := Nat.mul_pos (Nat.pos_of_ne_zero hzero) hpos
  rw [remainder] at hroom
  omega

/-- There is room for one object. -/
theorem contiguousCount_pos {f : OutAPDU ω} {aObjSize aStart aStop : ℕ} (hpos : 0 < aObjSize)
    (hle : aStart ≤ aStop) (hroom : (contiguousHeader aStop).getSize + aObjSize ≤ f.remainder) :
    0 < f.contiguousCount aObjSize aStart aStop :=
  Nat.lt_min.mpr ⟨by omega, Nat.div_pos (by omega) hpos⟩

/-- The block of so many objects, before they are written. -/
def contiguousBlock (apObj : ObjectBase) (aStart aStop n : ℕ) : Block ω :=
  ⟨apObj.getGroup, apObj.getVariation, getContiguousQualifier aStop, [],
    some ⟨aStart, aStart + n - 1⟩⟩

/-- The header of a range is written for as many objects as there is room for, and not at all where
there is room for none. -/
theorem writeContiguousFixed_eq (f : OutAPDU ω) (apObj : ObjectBase) {aObjSize aStart aStop n : ℕ}
    (hf : f.function = some .response) (hle : aStart ≤ aStop) (hmax : aStop ≤ 0xFFFFFFFF)
    (hn : f.contiguousCount aObjSize aStart aStop = n) :
    f.writeContiguousFixed apObj aObjSize aStart aStop .undefined = .ok (
      if n = 0 then (f, {})
      else (f.startBlock (contiguousBlock apObj aStart aStop n)
        ((contiguousHeader aStop).getSize + n * aObjSize), ⟨aStart, aStart + n - 1⟩)) := by
  have hcode : getContiguousQualifier aStop ≠ .undefined := by
    rw [getContiguousQualifier]
    split
    · rintro ⟨⟩
    · split <;> rintro ⟨⟩
  have hstate : f.checkWriteState = .ok () := by rw [checkWriteState, hf]; rfl
  have hdata : f.hasData = true := by rw [hasData, hf]; rfl
  rw [contiguousCount] at hn
  rw [writeContiguousFixed, writeContiguous, hstate]
  simp only [bind, Except.bind, pure, Except.pure, if_true, getObjectHeader_contiguous, hdata]
  by_cases hhdr : (contiguousHeader aStop).getSize > f.remainder
  · have hzero : f.remainder - (contiguousHeader aStop).getSize = 0 :=
      Nat.sub_eq_zero_of_le (Nat.le_of_lt hhdr)
    rw [hzero, Nat.zero_div, Nat.min_zero] at hn
    rw [if_pos hhdr, if_pos hn.symm]
  · rw [if_neg hhdr]
    by_cases hroom : (f.remainder - (contiguousHeader aStop).getSize) / aObjSize = 0
    · rw [hroom, Nat.min_zero] at hn
      rw [if_pos hroom, if_pos hn.symm]
    · have hcount : (if aStop - aStart + 1 <
          (f.remainder - (contiguousHeader aStop).getSize) / aObjSize
          then aStop - aStart + 1 else
            (f.remainder - (contiguousHeader aStop).getSize) / aObjSize) = n := by
        rw [← hn]
        split <;> omega
      have hpos : 0 < n := by omega
      have hstop : aStart + n - 1 ≤ aStop := by omega
      have hrange : writeContiguousHeader (contiguousHeader aStop) aStart (aStart + n - 1) =
          .ok (some ⟨aStart, aStart + n - 1⟩) := by
        have hfield := le_maxField_contiguousHeader hmax
        rw [writeContiguousHeader, isCount_contiguousHeader, if_neg Bool.false_ne_true,
          if_neg (contiguousHeader_ne_allObjects aStop), if_neg (by omega), if_neg (by omega)]
      rw [if_neg hroom, hcount, hrange, if_neg (Nat.ne_of_gt hpos)]
      rfl

/-- No header has an index beyond four octets. -/
theorem writeContiguousFixed_error {f : OutAPDU ω} {apObj : ObjectBase} {aObjSize aStart aStop : ℕ}
    (hf : f.function = some .response) (hpos : 0 < aObjSize) (hle : aStart ≤ aStop)
    (hmax : 0xFFFFFFFF < aStop)
    (hroom : f.mFragmentSize + 11 + (aStop + 1 - aStart) * aObjSize ≤ f.mMaxSize) :
    f.writeContiguousFixed apObj aObjSize aStart aStop .undefined = .error
      (.argument "stop > max") := by
  have hcode : getContiguousQualifier aStop = .startStop4B := by
    rw [getContiguousQualifier, if_neg (by omega), if_neg (by omega)]
  have hstate : f.checkWriteState = .ok () := by rw [checkWriteState, hf]; rfl
  have hroom : aStop + 1 - aStart ≤
      (f.remainder - ObjectHeaderTypes.ranged8Octet.getSize) / aObjSize := by
    rw [Nat.le_div_iff_mul_le hpos, remainder, show ObjectHeaderTypes.ranged8Octet.getSize =
      11 from rfl]
    omega
  have hhdr : ¬ObjectHeaderTypes.ranged8Octet.getSize > f.remainder := by
    rw [remainder, show ObjectHeaderTypes.ranged8Octet.getSize = 11 from rfl]
    omega
  have hcount : (if aStop - aStart + 1 <
    (f.remainder - ObjectHeaderTypes.ranged8Octet.getSize) / aObjSize
      then aStop - aStart + 1 else
        (f.remainder - ObjectHeaderTypes.ranged8Octet.getSize) / aObjSize) =
      aStop - aStart + 1 := by
    split <;> omega
  have hrange : writeContiguousHeader .ranged8Octet aStart (aStart + (aStop - aStart + 1) - 1) =
      .error (.argument "stop > max") := by
    have hfield : ObjectHeaderTypes.ranged8Octet.maxField = 0xFFFFFFFF := rfl
    rw [writeContiguousHeader, show ObjectHeaderTypes.ranged8Octet.isCount = false from rfl, hfield,
      if_neg Bool.false_ne_true, if_neg (by rintro ⟨⟩), if_neg (by omega), if_pos (by omega)]
  rw [writeContiguousFixed, writeContiguous, hstate]
  simp only [bind, Except.bind, pure, Except.pure, if_true, hcode, getObjectHeader, if_neg hhdr,
    hcount, hrange]
  rw [if_neg (by omega)]

end OutAPDU

/-! ## What fragments hold -/

/-- What is written for a point, with its index. -/
def Database.object (write : Writer M ω) (db : Database M) (o : Sigma StreamObject) (i : ℕ) :
    Option (ℕ × ω) :=
  ((db.vec o.1)[i]?).map fun p ↦ (i, write o.1 o.2 p.mValue)

/-- A block has the points from `start` on, so many of them, and a header that says so. -/
structure Block.Carries (write : Writer M ω) (db : Database M) (b : Block ω)
    (o : Sigma StreamObject) (start count : ℕ) : Prop where
  group : b.group = o.2.base.getGroup
  variation : b.variation = o.2.base.getVariation
  pos : 0 < count
  range : b.range = some ⟨start, start + count - 1⟩
  header : ∃ aStop, b.qualifier = OutAPDU.getContiguousQualifier aStop ∧
    start + count - 1 ≤ (contiguousHeader aStop).maxField
  objects : b.objects.map some = (List.range' start count).map (db.object write o)

/-- Blocks hold these points, one after the other. -/
inductive Carried (write : Writer M ω) (db : Database M) : List (Block ω) →
    List (Sigma StreamObject × ℕ) → Prop
  | nil : Carried write db [] []
  | cons {b : Block ω} {bs : List (Block ω)} {o : Sigma StreamObject} {start count : ℕ}
      {points : List (Sigma StreamObject × ℕ)} : b.Carries write db o start count →
        Carried write db bs points →
      Carried write db (b :: bs) ((List.range' start count).map (o, ·) ++ points)

/-- What every fragment of a response is. -/
structure OutAPDU.Answer (f : OutAPDU ω) (fir fin : Bool) : Prop where
  function : f.function = some .response
  control : f.control = ⟨fir, fin, !fin, false, 0⟩
  fits : f.mFragmentSize ≤ f.mMaxSize

/-- **Fragments that answer a read**: they hold the points one after the other, each fragment with
the values that the database has for it.  The first one is marked, and so is the last one; one that
is not the last asks to be confirmed, and has some of the points. -/
inductive Answers (write : Writer M ω) :
    List (Database M) → Bool → List (OutAPDU ω) → List (Sigma StreamObject × ℕ) → Prop
  | last {db : Database M} {dbs : List (Database M)} {fir : Bool} {f : OutAPDU ω}
      {points : List (Sigma StreamObject × ℕ)} : f.Answer fir true →
        Carried write db f.blocks points →
      Answers write (db :: dbs) fir [f] points
  | more {db : Database M} {dbs : List (Database M)} {fir : Bool} {f : OutAPDU ω}
      {fs : List (OutAPDU ω)}
      {written points : List (Sigma StreamObject × ℕ)} : f.Answer fir false →
        Carried write db f.blocks written →
      written ≠ [] → Answers write dbs false fs points →
      Answers write (db :: dbs) fir (f :: fs) (written ++ points)

theorem Carried.append {write : Writer M ω} {db : Database M} {bs bs' : List (Block ω)}
    {points points' : List (Sigma StreamObject × ℕ)} (h : Carried write db bs points)
    (h' : Carried write db bs' points') : Carried write db (bs ++ bs') (points ++ points') := by
  induction h with
  | nil => exact h'
  | cons hb _ ih =>
    rw [List.append_assoc]
    exact .cons hb ih

/-- The blocks that have been added to a fragment, where they fit. -/
structure OutAPDU.Adds (f g : OutAPDU ω) (bs : List (Block ω)) : Prop where
  function : g.function = f.function
  maxSize : g.mMaxSize = f.mMaxSize
  blocks : g.blocks = f.blocks ++ bs
  fits : f.mFragmentSize ≤ f.mMaxSize → g.mFragmentSize ≤ g.mMaxSize

theorem OutAPDU.Adds.refl (f : OutAPDU ω) : f.Adds f [] := ⟨rfl, rfl, (List.append_nil _).symm, id⟩

theorem OutAPDU.Adds.trans {f g h : OutAPDU ω} {bs bs' : List (Block ω)} (hfg : f.Adds g bs)
    (hgh : g.Adds h bs') :
    f.Adds h (bs ++ bs') where
  function := hgh.function.trans hfg.function
  maxSize := hgh.maxSize.trans hfg.maxSize
  blocks := by rw [hgh.blocks, hfg.blocks, List.append_assoc]
  fits hf := hgh.fits (hfg.fits hf)

/-! ## Writing -/

/-- The points that are left to write. -/
def StaticWrite.points (w : StaticWrite) : List (Sigma StreamObject × ℕ) :=
  (List.range' w.start (w.stop + 1 - w.start)).map (⟨w.type, w.pObj⟩, ·)

/-- The points that are left to write for a whole map. -/
def WriteMap.points (m : WriteMap) : List (Sigma StreamObject × ℕ) := m.flatMap (·.2.points)

/-- What has been noted can be written: it is about points that there are, whose indices go into a
header, and a fragment that is empty has room for one of them. -/
structure StaticWrite.Writable (num : DataTypes → ℕ) (aMaxSize : ℕ) (w : StaticWrite) : Prop where
  le : w.start ≤ w.stop
  lt : w.stop < num w.type
  max : w.stop ≤ 0xFFFFFFFF
  room : 4 + (contiguousHeader w.stop).getSize + w.pObj.size ≤ aMaxSize

namespace ResponseContext.Static

/-- The loop writes as many points as the iterator has places. -/
theorem writeLoop_eq (write : Writer M ω) (mpDB : Database M) (w : StaticWrite) (f : OutAPDU ω)
    (size last aPos : ℕ)
    {n k : ℕ} (hk : k ≤ n) (hlast : last + 1 = aPos + k) (hnum : aPos + n ≤ mpDB.numType w.type)
    (b : Block ω) :
    ∃ objs, objs.map some = (List.range' aPos k).map (mpDB.object write ⟨w.type, w.pObj⟩) ∧
      writeLoop write mpDB w n aPos ⟨aPos, last⟩ (f.startBlock b size) =
        .ok (decide (k = n), aPos + k,
          f.startBlock { b with objects := b.objects ++ objs } size) := by
  induction n generalizing k aPos b with
  | zero =>
    obtain rfl : k = 0 := Nat.le_zero.mp hk
    exact ⟨[], rfl, by simp [writeLoop]⟩
  | succ n ih =>
    cases k with
    | zero =>
      have hend : (ObjectWriteIterator.mk aPos last).isEnd = true := by
        rw [ObjectWriteIterator.isEnd]
        exact decide_eq_true (show aPos > last by omega)
      exact ⟨[], rfl, by simp [writeLoop, hend]⟩
    | succ k =>
      have hend : (ObjectWriteIterator.mk aPos last).isEnd = false := by
        rw [ObjectWriteIterator.isEnd]
        exact decide_eq_false (show ¬aPos > last by omega)
      obtain ⟨p, hpoint, hget, -⟩ := mpDB.point_of_lt (show aPos < mpDB.numType w.type by omega)
      obtain ⟨objs, hobjs, heq⟩ := ih (aPos + 1) (Nat.le_of_succ_le_succ hk) (by omega) (by omega)
        { b with objects := b.objects ++ [(aPos, write w.type w.pObj p.mValue)] }
      refine ⟨(aPos, write w.type w.pObj p.mValue) :: objs, ?_, ?_⟩
      · rw [List.map_cons, hobjs, List.range'_succ, List.map_cons, Database.object, hget]
        rfl
      · rw [writeLoop, hend, if_neg Bool.false_ne_true, ObjectWriteIterator.deref, hend, hpoint,
          ObjectWriteIterator.next, hend]
        simp only [bind, Except.bind, if_neg Bool.false_ne_true, OutAPDU.pushObject_startBlock]
        rw [heq, List.append_assoc, Nat.add_assoc, Nat.add_comm 1 k]
        simp

/-- **What one call writes**: a block with as many of the points as there is room for, and what is
left is what it has not written. -/
theorem writeStaticObjects_spec (write : Writer M ω) {mpDB : Database M} {w : StaticWrite}
    {f : OutAPDU ω}
    {num : DataTypes → ℕ} {size : ℕ} (hw : w.Writable num size)
    (hnum : mpDB.numType w.type = num w.type) (hf : f.function = some .response) :
    ∃ g bs, writeStaticObjects write mpDB w f =
        .ok (decide (f.contiguousCount w.pObj.size w.start w.stop = w.stop + 1 - w.start),
          { w with start := w.start + f.contiguousCount w.pObj.size w.start w.stop }, g) ∧
      f.Adds g bs ∧ Carried write mpDB bs
        ((List.range' w.start (f.contiguousCount w.pObj.size w.start w.stop)).map
          (⟨w.type, w.pObj⟩, ·)) := by
  have hlt : w.stop < mpDB.numType w.type := hnum ▸ hw.lt
  obtain ⟨p, hp, -, hpi⟩ := mpDB.point_of_lt (Nat.lt_of_le_of_lt hw.le hlt)
  obtain ⟨q, hq, -, hqi⟩ := mpDB.point_of_lt hlt
  obtain ⟨n, hn⟩ : ∃ n, f.contiguousCount w.pObj.size w.start w.stop = n := ⟨_, rfl⟩
  have hle : n ≤ w.stop + 1 - w.start := by
    rw [← hn]
    exact Nat.min_le_left _ _
  have hlen : w.start + (w.stop + 1 - w.start) ≤ mpDB.numType w.type := by
    have := hw.le
    have := hw.lt
    omega
  have hcall (x : OutAPDU ω × ObjectWriteIterator)
      (hx : f.writeContiguousFixed w.pObj.base w.pObj.size w.start w.stop .undefined = .ok x) :
      writeStaticObjects write mpDB w f = do
        let r ← writeLoop write mpDB w (w.stop + 1 - w.start) w.start x.2 x.1
        return (r.1, { w with start := r.2.1 }, r.2.2) := by
    rw [writeStaticObjects, hp, hq]
    simp only [bind, Except.bind, hpi, hqi, hx]
  have hheader := OutAPDU.writeContiguousFixed_eq f w.pObj.base hf hw.le hw.max hn
  rw [hn]
  by_cases hzero : n = 0
  · have hend : (({} : ObjectWriteIterator)).isEnd = true := rfl
    obtain ⟨m, hm⟩ : ∃ m, w.stop + 1 - w.start = m + 1 :=
      ⟨w.stop - w.start, by have := hw.le; omega⟩
    subst hzero
    refine ⟨f, [], ?_, .refl f, .nil⟩
    rw [hcall _ hheader, if_pos rfl, hm, writeLoop, if_pos hend]
    simp [bind, Except.bind, pure, Except.pure]
  · obtain ⟨objs, hobjs, hloop⟩ := writeLoop_eq write mpDB w f
      ((contiguousHeader w.stop).getSize + n * w.pObj.size) (w.start + n - 1) w.start hle
      (by omega) hlen (OutAPDU.contiguousBlock w.pObj.base w.start w.stop n)
    rw [hcall _ hheader, if_neg hzero, hloop]
    refine ⟨_, [{ OutAPDU.contiguousBlock w.pObj.base w.start w.stop n with objects := objs }], rfl,
      ⟨rfl, rfl, rfl, fun _ ↦ ?_⟩, ?_⟩
    · exact OutAPDU.fits_of_contiguousCount w.pObj.size_pos hn hzero
    · have hstop : w.start + n - 1 ≤ w.stop := by have := hw.le; omega
      have hcarries : Block.Carries write mpDB ⟨w.pObj.base.getGroup, w.pObj.base.getVariation,
          OutAPDU.getContiguousQualifier w.stop, objs, some ⟨w.start, w.start + n - 1⟩⟩
            ⟨w.type, w.pObj⟩ w.start n :=
        ⟨rfl, rfl, Nat.pos_of_ne_zero hzero, rfl,
          ⟨w.stop, rfl, Nat.le_trans hstop (le_maxField_contiguousHeader hw.max)⟩, hobjs⟩
      have hblock := Carried.cons hcarries .nil
      rwa [List.append_nil] at hblock

/-- **What a fragment gets of a map**: the points in their order, up to where the fragment is full;
and one at least, if the fragment is empty at first. -/
theorem loadStaticData_spec (write : Writer M ω) {mpDB : Database M} {num : DataTypes → ℕ}
    {size : ℕ} (hnum : ∀ aType, mpDB.numType aType = num aType) {m : WriteMap} {f : OutAPDU ω}
    (hm : ∀ e ∈ m, e.2.Writable num size) (hf : f.function = some .response) :
    ∃ m' g bs written, loadStaticData write mpDB m f = .ok (m'.isEmpty, m', g) ∧ f.Adds g bs ∧
      Carried write mpDB bs written ∧ m.points = written ++ m'.points ∧
        (∀ e ∈ m', e.2.Writable num size) ∧
      (m ≠ [] → f.mMaxSize = size → f.mFragmentSize = 4 → written ≠ []) := by
  induction m generalizing f with
  | nil => exact ⟨[], f, [], [], rfl, .refl f, .nil, rfl, nofun, fun h ↦ absurd rfl h⟩
  | cons e m ih =>
    obtain ⟨k, w⟩ := e
    have hw : w.Writable num size := hm _ List.mem_cons_self
    obtain ⟨g, bs, heq, hadds, hcarried⟩ := writeStaticObjects_spec write hw (hnum w.type) hf
    obtain ⟨n, hn⟩ : ∃ n, f.contiguousCount w.pObj.size w.start w.stop = n := ⟨_, rfl⟩
    have hsome : f.mMaxSize = size → f.mFragmentSize = 4 → 0 < n := by
      intro hsize hfour
      rw [← hn]
      refine OutAPDU.contiguousCount_pos w.pObj.size_pos hw.le ?_
      rw [OutAPDU.remainder, hsize, hfour]
      exact Nat.le_sub_of_add_le (by have := hw.room; omega)
    rw [hn] at heq hcarried
    have hwritten : 0 < n →
        (List.range' w.start n).map
          (fun i ↦ ((⟨w.type, w.pObj⟩ : Sigma StreamObject), i)) ≠ [] := by
      intro hpos hnil
      rw [List.map_eq_nil_iff, List.range'_eq_nil_iff] at hnil
      omega
    by_cases hall : n = w.stop + 1 - w.start
    · obtain ⟨m', g', bs', written, heq', hadds', hcarried', hpoints, hm', -⟩ :=
        ih (fun e he ↦ hm e (List.mem_cons_of_mem _ he)) (hadds.function.trans hf)
      refine ⟨m', g', bs ++ bs', _ ++ written, ?_, hadds.trans hadds', hcarried.append hcarried',
        ?_, hm', ?_⟩
      · rw [loadStaticData, heq]
        simp only [bind, Except.bind, decide_eq_true hall, if_true]
        exact heq'
      · rw [WriteMap.points, List.flatMap_cons, StaticWrite.points, ← hall, List.append_assoc]
        exact congrArg _ hpoints
      · intro _ hsize hfour hnil
        exact hwritten (hsome hsize hfour) (List.append_eq_nil_iff.mp hnil).1
    · have hle : n ≤ w.stop + 1 - w.start := by
        rw [← hn]
        exact Nat.min_le_left _ _
      refine ⟨(k, { w with start := w.start + n }) :: m, g, bs, _, ?_, hadds, hcarried, ?_, ?_, ?_⟩
      · rw [loadStaticData, heq]
        simp only [bind, Except.bind, decide_eq_false hall, if_neg Bool.false_ne_true]
        rfl
      · rw [WriteMap.points, WriteMap.points, List.flatMap_cons, List.flatMap_cons,
            ← List.append_assoc,
          StaticWrite.points, StaticWrite.points, ← List.map_append]
        have hsplit : w.stop + 1 - w.start = n + (w.stop + 1 - (w.start + n)) := by omega
        rw [hsplit, ← List.range'_append_1]
      · rintro e he
        rcases List.mem_cons.mp he with rfl | he
        · exact ⟨by have := hw.le; show w.start + n ≤ w.stop; omega, hw.lt, hw.max, hw.room⟩
        · exact hm e (List.mem_cons_of_mem _ he)
      · exact fun _ hsize hfour ↦ hwritten (hsome hsize hfour)

/-- **Fragment after fragment, what has been noted is written**, as long as there is a fragment for
every point; it may take fewer. -/
theorem loadFragments_spec (write : Writer M ω) {num : DataTypes → ℕ} {size : ℕ}
    {dbs : List (Database M)}
    (hnum : ∀ mpDB ∈ dbs, ∀ aType, mpDB.numType aType = num aType) {s : Static} {f : OutAPDU ω}
    (hm : ∀ e ∈ s.mStaticWriteMap, e.2.Writable num size) (hsize : f.mMaxSize = size)
    (hfour : 4 ≤ size) (hlen : s.mStaticWriteMap.points.length < dbs.length) :
    ∃ fs s', loadFragments write dbs f s = .ok (fs, s') ∧ s'.isStaticEmpty = true ∧
      Answers write dbs s.mFIR fs s.mStaticWriteMap.points := by
  induction dbs generalizing s f with
  | nil => exact absurd hlen (Nat.not_lt_zero _)
  | cons mpDB dbs ih =>
    obtain ⟨m', g, bs, written, heq, hadds, hcarried, hpoints, hm', hsome⟩ :=
      loadStaticData_spec write
      (hnum mpDB List.mem_cons_self) hm (f := f.set .response true true false false) rfl
    have hload : loadResponse write mpDB f s =
        .ok (finalizeResponse { s with mStaticWriteMap := m' } g m'.isEmpty) := by
      rw [loadResponse, heq]
      rfl
    have hblocks : g.blocks = bs := hadds.blocks.trans (List.nil_append _)
    have hanswer : (finalizeResponse { s with mStaticWriteMap := m' } g m'.isEmpty).1.Answer s.mFIR
        m'.isEmpty :=
      ⟨hadds.function, rfl, hadds.fits (show 4 ≤ f.mMaxSize from hsize ▸ hfour)⟩
    rw [loadFragments, hload]
    cases m' with
    | nil =>
      refine ⟨_, _, rfl, rfl, ?_⟩
      rw [hpoints]
      refine .last hanswer ?_
      show Carried write mpDB g.blocks (written ++ [])
      rwa [hblocks, List.append_nil]
    | cons e m' =>
      have hne : s.mStaticWriteMap ≠ [] := by
        intro hnil
        rw [hnil] at hpoints
        have hw := hm' e List.mem_cons_self
        have hlen := congrArg List.length hpoints
        simp only [WriteMap.points, List.flatMap_nil, List.length_nil, List.flatMap_cons,
          List.length_append, StaticWrite.points, List.length_map, List.length_range'] at hlen
        have := hw.le
        omega
      have hwritten : written ≠ [] := hsome hne hsize rfl
      rw [hpoints, List.length_append] at hlen
      have hpos : 0 < written.length := List.length_pos_iff.mpr hwritten
      obtain ⟨fs, s', hrest, hempty, hanswers⟩ :=
        ih (fun db hdb ↦ hnum db (List.mem_cons_of_mem _ hdb))
        (s := (finalizeResponse { s with mStaticWriteMap := e :: m' } g false).2)
        (f := (finalizeResponse { s with mStaticWriteMap := e :: m' } g false).1) hm'
        (hadds.maxSize.trans hsize) (by
          rw [List.length_cons] at hlen
          show (WriteMap.points (e :: m')).length < dbs.length
          omega)
      refine ⟨(finalizeResponse { s with mStaticWriteMap := e :: m' } g false).1 :: fs, s', ?_,
        hempty, ?_⟩
      · simp only [bind, Except.bind, List.isEmpty_cons]
        rw [if_neg (by rintro ⟨⟩), hrest]
        rfl
      · rw [hpoints]
        refine .more hanswer ?_ hwritten hanswers
        show Carried write mpDB g.blocks written
        rwa [hblocks]

end ResponseContext.Static

/-! ## Requests -/

/-- **The range that a header asks for**: the first index, and so many points from it on.  There is
none where the header reaches outside of the database. -/
def readRange (num : DataTypes → ℕ) (arRequest : APDU) (hdr : HeaderInfo) (aType : DataTypes) :
    Option (ℕ × ℕ) :=
  match hdr.mHeader with
  | .allObjects => some (0, num aType)
  | .ranged2Octet | .ranged4Octet | .ranged8Octet =>
    let ri := hdr.mHeader.getRange arRequest.mBuffer hdr.mPos
    if ri.start ≤ ri.stop ∧ ri.stop < num aType then some (ri.start, ri.stop + 1 - ri.start)
      else none
  | .count1Octet | .count2Octet | .count4Octet =>
    let count := hdr.mHeader.getCount arRequest.mBuffer hdr.mPos
    if 0 < count ∧ count ≤ num aType then some (0, count) else none

/-- A range is one of the database. -/
theorem readRange_le {num : DataTypes → ℕ} {arRequest : APDU} {hdr : HeaderInfo} {aType : DataTypes}
    {r : ℕ × ℕ} (h : readRange num arRequest hdr aType = some r) : r.1 + r.2 ≤ num aType := by
  have hsome {p : Prop} [Decidable p] {a : ℕ × ℕ} (hp : p → a.1 + a.2 ≤ num aType)
      (heq : (if p then some a else none) = some r) : r.1 + r.2 ≤ num aType := by
    by_cases hif : p
    · rw [if_pos hif] at heq
      obtain rfl := Option.some.inj heq
      exact hp hif
    · rw [if_neg hif] at heq
      cases heq
  rw [readRange] at h
  split at h
  · obtain rfl := Option.some.inj h
    exact Nat.le_of_eq (Nat.zero_add _)
  all_goals refine hsome (fun hif ↦ ?_) h
  all_goals have := hif.1; have := hif.2; show _ + _ ≤ num aType; omega

/-- A header reads static data. -/
def HeaderInfo.IsStaticRead (hdr : HeaderInfo) : Prop :=
    (hdr.mGroup, hdr.mVariation) ∈ staticReads.map (·.1)

/-- The objects that a header reads. -/
def HeaderInfo.objects (hdr : HeaderInfo) (t : StaticResponseTypes) : List (Sigma StreamObject) :=
  (ResponseContext.Static.staticObjects t hdr.radix).getD []

/-- The headers of a request, with the objects of each. -/
def asked (t : StaticResponseTypes) (arRequest : APDU) : List (HeaderInfo × Sigma StreamObject) :=
  arRequest.mObjectHeaders.flatMap fun hdr ↦ (hdr.objects t).map (hdr, ·)

/-- A header reaches outside of the database. -/
def outside (num : DataTypes → ℕ) (arRequest : APDU) (a : HeaderInfo × Sigma StreamObject) : Bool :=
  (readRange num arRequest a.1 a.2.1).isNone

/-- The points that a header asks for. -/
def askedPoints (num : DataTypes → ℕ) (arRequest : APDU) (a : HeaderInfo × Sigma StreamObject) :
    List (Sigma StreamObject × ℕ) :=
  ((readRange num arRequest a.1 a.2.1).map fun r ↦ List.range' r.1 r.2).getD [] |>.map (a.2, ·)

/-- **The points that a request asks for**, header by header and in the order of their indices. -/
def requested (num : DataTypes → ℕ) (t : StaticResponseTypes) (arRequest : APDU) :
    List (Sigma StreamObject × ℕ) :=
  (asked t arRequest).flatMap (askedPoints num arRequest)

namespace ResponseContext.Static

/-- What is noted of a header; nothing is, if there is no point to write. -/
def noted (num : DataTypes → ℕ) (arRequest : APDU) (a : HeaderInfo × Sigma StreamObject) :
    Option StaticWrite :=
  (readRange num arRequest a.1 a.2.1).bind fun r ↦
    if r.2 = 0 then none else some ⟨a.2.1, a.2.2, r.1, r.1 + r.2 - 1⟩

/-- A map whose keys are the numbers of its entries. -/
def WriteMap.ofList (ws : List StaticWrite) : WriteMap := ws.mapIdx Prod.mk

/-- Where the keys are the numbers of the entries, a new one goes behind them. -/
theorem WriteMap.set_ofList (ws : List StaticWrite) (w : StaticWrite) :
    WriteMap.set (WriteMap.ofList ws).length w (WriteMap.ofList ws) = WriteMap.ofList
      (ws ++ [w]) := by
  have hset (m : WriteMap) (k : ℕ) (hm : ∀ e ∈ m, e.1 < k) : m.set k w = m ++ [(k, w)] := by
    induction m with
    | nil => rfl
    | cons e m ih =>
      have he := hm e List.mem_cons_self
      rw [WriteMap.set, if_neg (by omega), if_neg (by omega), ih fun e he ↦ hm e
        (List.mem_cons_of_mem _ he)]
      rfl
  rw [hset]
  · simp [WriteMap.ofList, List.mapIdx_append]
  · rintro e he
    obtain ⟨i, hi, rfl⟩ := List.mem_mapIdx.mp he
    simpa [WriteMap.ofList] using hi

/-- What is done for a header is what its range says. -/
theorem recordStaticObjects_cases (mpDB : Database M) (arRequest : APDU) (s : Static)
    (hdr : HeaderInfo) (o : Sigma StreamObject) :
    readRange mpDB.numType arRequest hdr o.1 = none ∧
        recordStaticObjects mpDB arRequest hdr s o = s.parameterError ∨
      (∃ start, readRange mpDB.numType arRequest hdr o.1 = some (start, 0) ∧
        recordStaticObjects mpDB arRequest hdr s o = s) ∨
      ∃ start n, readRange mpDB.numType arRequest hdr o.1 = some (start, n + 1) ∧
        recordStaticObjects mpDB arRequest hdr s o = s.recordStaticObjectsByRange o start
          (start + n) := by
  obtain ⟨num, hnum⟩ : ∃ num, mpDB.numType o.1 = num := ⟨_, rfl⟩
  -- the two kinds of headers that name indices
  have hranged (ri : RangeInfo) : (if num > 0 then
        if ri.start > num - 1 ∨ ri.stop > num - 1 ∨ ri.start > ri.stop then s.parameterError
        else s.recordStaticObjectsByRange o ri.start ri.stop
      else s.parameterError) =
      if ri.start ≤ ri.stop ∧ ri.stop < num then s.recordStaticObjectsByRange o ri.start ri.stop
      else s.parameterError := by
    by_cases h : ri.start ≤ ri.stop ∧ ri.stop < num
    · rw [if_pos h, if_pos (by omega), if_neg (by omega)]
    · rw [if_neg h]
      split
      · rw [if_pos (by omega)]
      · rfl
  have hcount (count : ℕ) : (if num > 0 then
        if count > 0 then
          if 0 > num - 1 ∨ count - 1 > num - 1 ∨ 0 > count - 1 then s.parameterError
          else s.recordStaticObjectsByRange o 0 (count - 1)
        else s.parameterError
      else s.parameterError) =
      if 0 < count ∧ count ≤ num then s.recordStaticObjectsByRange o 0
        (count - 1) else s.parameterError := by
    by_cases h : 0 < count ∧ count ≤ num
    · rw [if_pos h, if_pos (by omega), if_pos h.1, if_neg (by omega)]
    · rw [if_neg h]
      split
      · split
        · rw [if_pos (by omega)]
        · rfl
      · rfl
  -- what is left is the same for both: the range is one of the database, or it is not
  have hsome {p : Prop} [Decidable p] {start stop : ℕ} (hle : p → start ≤ stop)
      (hr : readRange mpDB.numType arRequest hdr o.1 = if p then some (start, stop + 1 - start)
        else none)
      (hs : recordStaticObjects mpDB arRequest hdr s o =
        if p then s.recordStaticObjectsByRange o start stop else s.parameterError) :
      readRange mpDB.numType arRequest hdr o.1 = none ∧ recordStaticObjects mpDB arRequest hdr s o =
        s.parameterError ∨
        (∃ start, readRange mpDB.numType arRequest hdr o.1 = some (start, 0) ∧
          recordStaticObjects mpDB arRequest hdr s o = s) ∨
        ∃ start n, readRange mpDB.numType arRequest hdr o.1 = some (start, n + 1) ∧
          recordStaticObjects mpDB arRequest hdr s o = s.recordStaticObjectsByRange o start
            (start + n) := by
    by_cases h : p
    · rw [if_pos h] at hr hs
      have hle := hle h
      refine .inr (.inr ⟨start, stop - start, ?_, ?_⟩)
      · rw [hr, show stop - start + 1 = stop + 1 - start by omega]
      · rw [hs, Nat.add_sub_cancel' hle]
    · rw [if_neg h] at hr hs
      exact .inl ⟨hr, hs⟩
  cases hhdr : hdr.mHeader with
  | allObjects =>
    have hr : readRange mpDB.numType arRequest hdr o.1 = some (0, num) := by
      simp only [readRange, hhdr, hnum]
    have hs : recordStaticObjects mpDB arRequest hdr s o =
        if num > 0 then s.recordStaticObjectsByRange o 0 (num - 1) else s := by
      simp only [recordStaticObjects, hhdr, hnum]
    cases num with
    | zero => exact .inr (.inl ⟨0, hr, hs⟩)
    | succ n =>
      refine .inr (.inr ⟨0, n, hr, ?_⟩)
      rw [hs, if_pos (Nat.succ_pos n), Nat.add_sub_cancel, Nat.zero_add]
  | ranged2Octet | ranged4Octet | ranged8Octet =>
    refine hsome And.left ?_
      ((?_ : _ = _).trans (hranged (hdr.mHeader.getRange arRequest.mBuffer hdr.mPos)))
    · simp only [readRange, hhdr, hnum]
    · simp only [recordStaticObjects, hhdr, hnum]
  | count1Octet | count2Octet | count4Octet =>
    refine hsome (fun _ ↦ Nat.zero_le _) ?_
      ((?_ : _ = _).trans (hcount (hdr.mHeader.getCount arRequest.mBuffer hdr.mPos)))
    · simp only [readRange, hhdr, hnum]
      split
      · next h => rw [Nat.sub_add_cancel h.1, Nat.sub_zero]
      · rfl
    · simp only [recordStaticObjects, hhdr, hnum]

/-- What is done for a header is to note what it asks for, or that it is in error. -/
theorem recordStaticObjects_eq (mpDB : Database M) (arRequest : APDU) (s : Static)
    {ws : List StaticWrite}
    (hs : s.mStaticWriteMap = WriteMap.ofList ws) (a : HeaderInfo × Sigma StreamObject) :
    recordStaticObjects mpDB arRequest a.1 s a.2 =
      { s with
        mStaticWriteMap := WriteMap.ofList (ws ++ (noted mpDB.numType arRequest a).toList)
        mTempIIN := if outside mpDB.numType arRequest a then s.mTempIIN.setParameterError true
          else s.mTempIIN } := by
  rw [outside]
  rcases recordStaticObjects_cases mpDB arRequest s a.1 a.2 with ⟨hr, h⟩ | ⟨start, hr, h⟩ |
    ⟨start, n, hr, h⟩
  · rw [h, noted, hr, parameterError]
    simp [hs]
  · rw [h, noted, hr]
    simp [← hs]
  · rw [h, noted, hr, recordStaticObjectsByRange, hs, WriteMap.set_ofList]
    simp

/-- An error stays noted. -/
theorem setParameterError_idem (f : IINField) :
    (f.setParameterError true).setParameterError true = f.setParameterError true := by
  simp [IINField.setParameterError, IINField.setBit, BitVec.or_assoc]

/-- What is done for all headers is what is done for each. -/
theorem foldl_recordStaticObjects (mpDB : Database M) (arRequest : APDU)
    (l : List (HeaderInfo × Sigma StreamObject))
    (s : Static) (ws : List StaticWrite) (hs : s.mStaticWriteMap = WriteMap.ofList ws) :
    l.foldl (fun s a ↦ recordStaticObjects mpDB arRequest a.1 s a.2) s =
      { s with
        mStaticWriteMap := WriteMap.ofList (ws ++ l.filterMap (noted mpDB.numType arRequest))
        mTempIIN :=
          if l.any (outside mpDB.numType arRequest) then s.mTempIIN.setParameterError true
            else s.mTempIIN } := by
  induction l generalizing s ws with
  | nil => simp [← hs]
  | cons a l ih =>
    rw [List.foldl_cons, recordStaticObjects_eq mpDB arRequest s hs, ih _ _ rfl]
    congr 1
    · rw [List.any_cons]
      cases outside mpDB.numType arRequest a <;> cases l.any (outside mpDB.numType arRequest) <;>
        simp [setParameterError_idem]
    · rw [List.append_assoc, List.filterMap_cons]
      cases noted mpDB.numType arRequest a <;> rfl

/-- The `switch` of `Configure` knows the objects of a header that reads static data. -/
theorem staticObjects_of_isStaticRead {hdr : HeaderInfo} (h : hdr.IsStaticRead)
    (t : StaticResponseTypes) :
    hdr.mGroup ≠ 113 ∧ staticObjects t hdr.radix = some (hdr.objects t) := by
  have hall : ∀ gv ∈ staticReads.map (·.1), gv.1 ≠ 113 ∧
      (staticReads.find? fun c ↦ radix c.1.1 c.1.2 = radix gv.1 gv.2).isSome := by decide
  obtain ⟨hgroup, hsome⟩ := hall _ h
  refine ⟨hgroup, ?_⟩
  obtain ⟨c, hc⟩ := Option.isSome_iff_exists.mp hsome
  have hfound : staticObjects t hdr.radix = some (c.2 t) := by
    rw [staticObjects, HeaderInfo.radix, hc]
    rfl
  rw [HeaderInfo.objects, hfound]
  rfl

/-- **What `Configure` notes** for a read of static data. -/
theorem configure_eq (mpDB : Database M) {arRequest : APDU} (s : Static)
    (hstatic : ∀ hdr ∈ arRequest.mObjectHeaders, hdr.IsStaticRead) :
    configure mpDB arRequest s =
      { s.reset with
        mStaticWriteMap :=
          WriteMap.ofList ((asked s.mpRspTypes arRequest).filterMap (noted mpDB.numType arRequest))
        mTempIIN :=
          if (asked s.mpRspTypes arRequest).any (outside mpDB.numType arRequest) then
            ({} : IINField).setParameterError true
          else {} } := by
  have hfold (hdrs : List HeaderInfo) (hmem : ∀ hdr ∈ hdrs, hdr.IsStaticRead) (s' : Static)
      (hs' : s'.mpRspTypes = s.mpRspTypes) (ws : List StaticWrite)
        (hws : s'.mStaticWriteMap = WriteMap.ofList ws) :
      hdrs.foldl (configureHeader mpDB arRequest) s' =
        (hdrs.flatMap fun hdr ↦ (hdr.objects s.mpRspTypes).map (hdr, ·)).foldl
          (fun s a ↦ recordStaticObjects mpDB arRequest a.1 s a.2) s' := by
    induction hdrs generalizing s' ws with
    | nil => rfl
    | cons hdr hdrs ih =>
      obtain ⟨hgroup, hobjs⟩ := staticObjects_of_isStaticRead
        (hmem hdr List.mem_cons_self) s.mpRspTypes
      have hone : configureHeader mpDB arRequest s' hdr =
          ((hdr.objects s.mpRspTypes).map (hdr, ·)).foldl
            (fun s a ↦ recordStaticObjects mpDB arRequest a.1 s a.2) s' := by
        rw [configureHeader, if_neg hgroup, hs', hobjs, List.foldl_map]
      rw [List.foldl_cons, List.flatMap_cons, List.foldl_append, hone]
      rw [foldl_recordStaticObjects mpDB arRequest _ s' ws hws]
      exact ih (fun h hh ↦ hmem h (List.mem_cons_of_mem _ hh)) _ hs' _ rfl
  rw [configure, hfold _ hstatic s.reset rfl [] rfl]
  exact foldl_recordStaticObjects mpDB arRequest _ s.reset [] rfl

/-- The points of a map are those of its entries. -/
theorem points_ofList (ws : List StaticWrite) : (WriteMap.ofList ws).points =
    ws.flatMap StaticWrite.points := by
  have hsnd : (WriteMap.ofList ws).map Prod.snd = ws := by
    refine List.ext_getElem? fun i ↦ ?_
    rw [WriteMap.ofList, List.getElem?_map, List.getElem?_mapIdx, Option.map_map]
    exact Option.map_id_apply
  rw [WriteMap.points, ← List.flatMap_map, hsnd]

/-- What has been noted is what was asked for. -/
theorem points_noted (num : DataTypes → ℕ) (arRequest : APDU)
    (l : List (HeaderInfo × Sigma StreamObject)) :
    (l.filterMap (noted num arRequest)).flatMap StaticWrite.points = l.flatMap
    (askedPoints num arRequest) := by
  induction l with
  | nil => rfl
  | cons a l ih =>
    rw [List.flatMap_cons, ← ih, List.filterMap_cons, askedPoints, noted]
    cases hr : readRange num arRequest a.1 a.2.1 with
    | none => rfl
    | some r =>
      obtain ⟨start, count⟩ := r
      cases count with
      | zero => rfl
      | succ n =>
        have hlen : start + n + 1 - start = n + 1 := by omega
        simp [StaticWrite.points, hlen]

/-- What has been noted can be written, if the fragment has room for one object of each header. -/
theorem writable_noted {num : DataTypes → ℕ} {arRequest : APDU}
    {a : HeaderInfo × Sigma StreamObject} {size : ℕ} (hmax : num a.2.1 ≤ 2 ^ 32)
    (hroom : ∀ r ∈ readRange num arRequest a.1 a.2.1, 0 < r.2 →
      4 + (contiguousHeader (r.1 + r.2 - 1)).getSize + a.2.2.size ≤ size)
    {w : StaticWrite} (hw : noted num arRequest a = some w) : w.Writable num size := by
  obtain ⟨r, hr, hw⟩ := Option.bind_eq_some_iff.mp hw
  by_cases hzero : r.2 = 0
  · rw [if_pos hzero] at hw
    cases hw
  · rw [if_neg hzero] at hw
    obtain rfl := Option.some.inj hw
    have hle := readRange_le hr
    have hlt : r.1 + r.2 - 1 < num a.2.1 := by omega
    exact ⟨by show r.1 ≤ r.1 + r.2 - 1; omega, hlt, by show r.1 + r.2 - 1 ≤ 0xFFFFFFFF; omega,
      hroom r hr (Nat.pos_of_ne_zero hzero)⟩

/-- **Static reads are exact**: the fragments have the points that were asked for, in their order
and once each, with the values of the database and with headers that say which they are, and then
nothing is left to write.  A range that reaches outside of the database is an error in the
parameters, and no point is asked for by it. -/
theorem read_answers_exactly (write : Writer M ω) {mpDB : Database M} {dbs : List (Database M)}
    {arRequest : APDU}
    {s : Static} {f : OutAPDU ω} (hstatic : ∀ hdr ∈ arRequest.mObjectHeaders, hdr.IsStaticRead)
    (hnum : ∀ db ∈ dbs, ∀ aType, db.numType aType = mpDB.numType aType)
    (hmax : ∀ aType, mpDB.numType aType ≤ 2 ^ 32) (hfour : 4 ≤ f.mMaxSize)
    (hroom : ∀ a ∈ asked s.mpRspTypes arRequest, ∀ r ∈ readRange mpDB.numType arRequest a.1 a.2.1,
      0 < r.2 →
      4 + (contiguousHeader (r.1 + r.2 - 1)).getSize + a.2.2.size ≤ f.mMaxSize)
    (hlen : (requested mpDB.numType s.mpRspTypes arRequest).length < dbs.length) :
    ((configure mpDB arRequest s).mTempIIN.getParameterError = true ↔
      ∃ a ∈ asked s.mpRspTypes arRequest, readRange mpDB.numType arRequest a.1 a.2.1 = none) ∧
    ∃ fs s', loadFragments write dbs f (configure mpDB arRequest s) = .ok (fs, s') ∧
      s'.isStaticEmpty = true ∧
      Answers write dbs true fs (requested mpDB.numType s.mpRspTypes arRequest) := by
  have hpoints : (configure mpDB arRequest s).mStaticWriteMap.points =
      requested mpDB.numType s.mpRspTypes arRequest := by
    rw [configure_eq mpDB s hstatic, requested, ← points_noted]
    exact points_ofList _
  refine ⟨?_, ?_⟩
  · rw [configure_eq mpDB s hstatic]
    have hany : (asked s.mpRspTypes arRequest).any (outside mpDB.numType arRequest) = true ↔
        ∃ a ∈ asked s.mpRspTypes arRequest, readRange mpDB.numType arRequest a.1 a.2.1 = none := by
      simp [outside]
    rw [← hany]
    cases (asked s.mpRspTypes arRequest).any (outside mpDB.numType arRequest)
    · exact (by decide : ({} : IINField).getParameterError = true ↔ false = true)
    · exact (by decide : (({} : IINField).setParameterError true).getParameterError = true ↔
        true = true)
  · have hfir : (configure mpDB arRequest s).mFIR = true := by rw [configure_eq mpDB s hstatic]; rfl
    have hwritable : ∀ e ∈ (configure mpDB arRequest s).mStaticWriteMap,
        e.2.Writable mpDB.numType f.mMaxSize := by
      rw [configure_eq mpDB s hstatic]
      rintro e he
      obtain ⟨i, hi, rfl⟩ := List.mem_mapIdx.mp he
      obtain ⟨a, ha, hnoted⟩ := List.mem_filterMap.mp (List.getElem_mem hi)
      exact writable_noted (hmax _) (hroom a ha) hnoted
    have h := loadFragments_spec write hnum hwritable rfl hfour (hpoints ▸ hlen)
    rwa [hfir, hpoints] at h

/-- A fragment with room for an index beyond four octets is not written. -/
theorem loadFragments_error (write : Writer M ω) {mpDB : Database M} {dbs : List (Database M)}
    {s : Static}
    {f : OutAPDU ω} {k : ℕ} {w : StaticWrite} {m : WriteMap}
    (hmap : s.mStaticWriteMap = (k, w) :: m)
    (hle : w.start ≤ w.stop) (hlt : w.stop < mpDB.numType w.type) (hmax : 0xFFFFFFFF < w.stop)
    (hroom : 4 + 11 + (w.stop + 1 - w.start) * w.pObj.size ≤ f.mMaxSize) :
    loadFragments write (mpDB :: dbs) f s = .error (.argument "stop > max") := by
  obtain ⟨p, hp, -, hpi⟩ := mpDB.point_of_lt (Nat.lt_of_le_of_lt hle hlt)
  obtain ⟨q, hq, -, hqi⟩ := mpDB.point_of_lt hlt
  have herror : (f.set .response true true false false).writeContiguousFixed w.pObj.base w.pObj.size
    w.start w.stop
      .undefined = .error (.argument "stop > max") :=
    OutAPDU.writeContiguousFixed_error rfl w.pObj.size_pos hle hmax hroom
  rw [loadFragments, loadResponse, hmap, loadStaticData, writeStaticObjects, hp, hq]
  simp only [bind, Except.bind, hpi, hqi, herror]

/-- What an outstation is configured with if nothing else is said. -/
def defaultTypes : StaticResponseTypes :=
    ⟨Group1Var2, Group30Var1, Group20Var1, Group10Var2, Group40Var1⟩

/-- Six binary points and a counter, of measurements that are numbers. -/
def sampleDatabase : Database fun _ ↦ ℕ :=
    (Database.new.configure .binary 6 3).configure .counter 1 7

/-- A read of class 0, and of counters from 0 to 2. -/
def sampleRead : APDU where
  mBuffer := [0xC0, 0x01, 60, 1, 6, 20, 5, 0, 0, 2]
  getControl := ⟨true, true, false, false, 0⟩
  getFunction := .read
  mObjectHeaders := [⟨2, 60, 1, .allObj, 0, 0, .allObjects, ⟨60, 1, .placeholder⟩⟩,
    ⟨5, 20, 5, .startStop1B, 3, 0, .ranged2Octet, ⟨20, 5, .fixed 4⟩⟩]

/-- There is only one counter, and fragments of 14 octets have to be enough. -/
theorem read_answers_exactly_class0 :
    APDU.interpret sampleRead.mBuffer = .ok sampleRead ∧
    (configure sampleDatabase sampleRead (new defaultTypes)).mTempIIN.getParameterError = true ∧
    ∃ fs s', loadFragments (fun _ _ v ↦ v) (List.replicate 8 sampleDatabase) (.new 14)
        (configure sampleDatabase sampleRead (new defaultTypes)) = .ok (fs, s') ∧
          s'.isStaticEmpty = true ∧
      Answers (fun _ _ v ↦ v) (List.replicate 8 sampleDatabase) true fs
        (requested sampleDatabase.numType defaultTypes sampleRead) := by
  obtain ⟨herror, hanswers⟩ := @read_answers_exactly _ _ (fun _ _ v ↦ v) sampleDatabase
    (List.replicate 8 sampleDatabase) sampleRead (new defaultTypes) (.new 14)
    (by unfold HeaderInfo.IsStaticRead; decide)
    (fun db hdb aType ↦ by rw [List.eq_of_mem_replicate hdb])
    (fun aType ↦ by cases aType <;> decide) (by decide) (by decide) (by decide)
  exact ⟨by rfl, herror.mpr ⟨_, List.mem_of_getLast? (by rfl), by decide⟩, hanswers⟩

/-- A read of all binary points of a variation. -/
def readBinary (aVariation : ℕ) (aType : ObjectTypes) : APDU where
  mBuffer := [0xC0, 0x01, 1, BitVec.ofNat 8 aVariation, 6]
  getControl := ⟨true, true, false, false, 0⟩
  getFunction := .read
  mObjectHeaders := [⟨2, 1, aVariation, .allObj, 0, 0, .allObjects, ⟨1, aVariation, aType⟩⟩]

/-- **What is not written**: packed points are not among what `Configure` reads, and neither is
there an answer where an index does not go into the header. -/
theorem reads_fail :
    (APDU.interpret (readBinary 1 .bitfield).mBuffer = .ok (readBinary 1 .bitfield) ∧
      sampleDatabase.numType .binary = 6 ∧
      ∃ f s', loadFragments (fun _ _ v ↦ v) [sampleDatabase] (.new 2048)
        (configure sampleDatabase (readBinary 1 .bitfield) (new defaultTypes)) = .ok ([f], s') ∧
          f.blocks = []) ∧
    APDU.interpret (readBinary 0 .placeholder).mBuffer = .ok (readBinary 0 .placeholder) ∧
      ∃ db : Database fun _ ↦ ℕ, db.numType .binary = 2 ^ 32 + 1 ∧
        ∀ dbs, loadFragments (fun _ _ v ↦ v) (db :: dbs) (.new (2 ^ 33))
          (configure db (readBinary 0 .placeholder) (new defaultTypes)) = .error
            (.argument "stop > max") := by
  refine ⟨⟨by rfl, by decide, _, _, by rfl, by rfl⟩,
    by rfl, Database.new.configure .binary (2 ^ 32 + 1) 0, Database.numType_configure_self _ _ _ _,
    fun dbs ↦ ?_⟩
  obtain ⟨db, hdb⟩ : ∃ db : Database fun _ ↦ ℕ, Database.new.configure .binary (2 ^ 32 + 1) 0 =
    db := ⟨_, rfl⟩
  have hnum : db.numType .binary = 2 ^ 32 + 1 := hdb ▸ Database.numType_configure_self _ _ _ _
  rw [hdb]
  have hmap : (configure db (readBinary 0 .placeholder) (new defaultTypes)).mStaticWriteMap =
      [(0, ⟨.binary, Group1Var2, 0, 2 ^ 32⟩)] := by
    have hrange : readRange db.numType (readBinary 0 .placeholder)
        ⟨2, 1, 0, .allObj, 0, 0, .allObjects, ⟨1, 0, .placeholder⟩⟩ .binary = some
          (0, 2 ^ 32 + 1) := by
      rw [← hnum]
      rfl
    have hnoted : noted db.numType (readBinary 0 .placeholder)
        (⟨2, 1, 0, .allObj, 0, 0, .allObjects, ⟨1, 0, .placeholder⟩⟩, ⟨.binary, Group1Var2⟩) =
        some ⟨.binary, Group1Var2, 0, 2 ^ 32⟩ := by
      rw [noted, hrange]
      rfl
    have hasked : asked defaultTypes (readBinary 0 .placeholder) =
        [(⟨2, 1, 0, .allObj, 0, 0, .allObjects, ⟨1, 0, .placeholder⟩⟩, ⟨.binary, Group1Var2⟩)] :=
          by rfl
    rw [configure_eq db (new defaultTypes) (by unfold HeaderInfo.IsStaticRead; decide)]
    show WriteMap.ofList ((asked defaultTypes _).filterMap _) = _
    rw [hasked, List.filterMap_cons_some hnoted]
    rfl
  exact loadFragments_error _ hmap (Nat.zero_le _) (by rw [hnum]; decide) (by decide) (by decide)

end ResponseContext.Static

end OpenDNP3
