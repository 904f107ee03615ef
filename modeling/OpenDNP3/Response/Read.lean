import OpenDNP3.Response.EventRead

/-!
# A read, answered

Any read, whatever its headers ask for: events, which come first, and static data.  The first
fragment has as many of the selected events as there is room for; when it is confirmed these are
gone, and the other ones are put back.  Static data come behind the events if all of them could be
written, and in fragments of their own otherwise.

* `SlaveEventBuffer.dropWritten` — the buffers without the events that have been written.
* `Reported` — what the master makes of a fragment.
* `ResponseContext.Full.read_reports` — what it makes of all of them.
-/

set_option autoImplicit false

namespace OpenDNP3

open Objects (BoolDataPoint Counter Analog)

/-! ## Static data of any read -/

namespace ResponseContext.Static

variable {M : DataTypes → Type} {mpDB : Database M} {arRequest : APDU}

/-- What is noted of a header, whatever it asks for. -/
theorem configureHeader_notes {s : Static} {ws : List StaticWrite}
    (hs : s.mStaticWriteMap = WriteMap.ofList ws)
    (hdr : HeaderInfo) : (configureHeader mpDB arRequest s hdr).mStaticWriteMap =
    WriteMap.ofList (ws ++
        ((hdr.objects s.mpRspTypes).map (hdr, ·)).filterMap (noted mpDB.numType arRequest)) ∧
      (configureHeader mpDB arRequest s hdr).mpRspTypes = s.mpRspTypes ∧
      (configureHeader mpDB arRequest s hdr).mFIR = s.mFIR := by
  have hnothing (h : hdr.objects s.mpRspTypes = []) : WriteMap.ofList ws = WriteMap.ofList (ws ++
      ((hdr.objects s.mpRspTypes).map (hdr, ·)).filterMap (noted mpDB.numType arRequest)) := by
    rw [h, List.map_nil, List.filterMap_nil, List.append_nil]
  rw [configureHeader]
  by_cases hgroup : hdr.mGroup = 113
  · have hcases : ∀ c ∈ staticReads, radix c.1.1 c.1.2 < 1000 := by decide
    have hnone : staticObjects s.mpRspTypes hdr.radix = none := by
      rw [staticObjects, List.find?_eq_none.mpr]
      · rfl
      · intro c hc h
        have hlt := hcases c hc
        have heq := of_decide_eq_true h
        have hle : hdr.mGroup <<< 4 ≤ hdr.radix := Nat.left_le_or
        rw [hgroup, Nat.shiftLeft_eq] at hle
        omega
    rw [if_pos hgroup]
    exact ⟨hs.trans (hnothing (by rw [HeaderInfo.objects, hnone]; rfl)), rfl, rfl⟩
  · rw [if_neg hgroup]
    cases hobjs : staticObjects s.mpRspTypes hdr.radix with
    | none =>
      have hnil : hdr.objects s.mpRspTypes = [] := by rw [HeaderInfo.objects, hobjs]; rfl
      dsimp only
      split
      · exact ⟨hs.trans (hnothing hnil), rfl, rfl⟩
      · exact ⟨hs.trans (hnothing hnil), rfl, rfl⟩
    | some objs =>
      have hobjects : hdr.objects s.mpRspTypes = objs := by rw [HeaderInfo.objects, hobjs]; rfl
      have hfold := foldl_recordStaticObjects mpDB arRequest (objs.map (hdr, ·)) s ws hs
      rw [List.foldl_map] at hfold
      dsimp only
      rw [hfold, hobjects]
      exact ⟨rfl, rfl, rfl⟩

/-- **What is noted of a read, whatever it asks for**, can be written point by point. -/
theorem configure_notes {s : Static} {size : ℕ} (hmax : ∀ aType, mpDB.numType aType ≤ 2 ^ 32)
    (hroom : ∀ a ∈ asked s.mpRspTypes arRequest, ∀ r ∈ readRange mpDB.numType arRequest a.1 a.2.1,
      0 < r.2 →
      4 + (contiguousHeader (r.1 + r.2 - 1)).getSize + a.2.2.size ≤ size) :
    (configure mpDB arRequest s).mStaticWriteMap.points =
    requested mpDB.numType s.mpRspTypes arRequest ∧
      (configure mpDB arRequest s).mFIR = true ∧
      ∀ e ∈ (configure mpDB arRequest s).mStaticWriteMap, e.2.Writable mpDB.numType size := by
  have hfold (hdrs : List HeaderInfo) (s' : Static) (ws : List StaticWrite)
      (hs : s'.mStaticWriteMap = WriteMap.ofList ws) (ht : s'.mpRspTypes = s.mpRspTypes) :
      (hdrs.foldl (configureHeader mpDB arRequest) s').mStaticWriteMap = WriteMap.ofList (ws ++
          (hdrs.flatMap fun hdr ↦ (hdr.objects s.mpRspTypes).map (hdr, ·)).filterMap
            (noted mpDB.numType arRequest)) ∧
        (hdrs.foldl (configureHeader mpDB arRequest) s').mFIR = s'.mFIR := by
    induction hdrs generalizing s' ws with
    | nil => exact ⟨by simpa using hs, rfl⟩
    | cons hdr hdrs ih =>
      obtain ⟨hmap, htypes, hfir⟩ := @configureHeader_notes M mpDB arRequest s' ws hs hdr
      obtain ⟨hmap', hfir'⟩ := ih _ _ hmap (htypes.trans ht)
      rw [List.foldl_cons, List.flatMap_cons, List.filterMap_append, ← List.append_assoc, ← ht]
      rw [ht] at hmap' ⊢
      exact ⟨hmap', hfir'.trans hfir⟩
  obtain ⟨hmap, hfir⟩ := hfold arRequest.mObjectHeaders s.reset [] rfl rfl
  rw [List.nil_append] at hmap
  rw [configure]
  refine ⟨?_, hfir, ?_⟩
  · rw [hmap, requested, ← points_noted]
    exact points_ofList _
  · rw [hmap]
    rintro e he
    obtain ⟨i, hi, rfl⟩ := List.mem_mapIdx.mp he
    obtain ⟨a, ha, hnoted⟩ := List.mem_filterMap.mp (List.getElem_mem hi)
    exact writable_noted (hmax _) (hroom a ha) hnoted

end ResponseContext.Static

/-- There always is a fragment. -/
theorem Answers.ne_nil {M : DataTypes → Type} {ω : Type} {write : Writer M ω}
    {dbs : List (Database M)} {fir : Bool}
    {fs : List (OutAPDU ω)} {points : List (Sigma StreamObject × ℕ)}
    (h : Answers write dbs fir fs points) :
    fs ≠ [] := by
  induction h with
  | last => exact List.cons_ne_nil _ _
  | more => exact List.cons_ne_nil _ _

/-! ## What has been written is gone -/

/-- The buffer without the first of the events that are selected. -/
def EventBuffer.dropWritten {α : Type} (s : EventBuffer α) (n : ℕ) : EventBuffer α :=
  { s with mSelectedEvents := s.mSelectedEvents.drop n }

/-- The buffers without so many of the events that are selected. -/
def SlaveEventBuffer.dropWritten {β α κ τ : Type} (s : SlaveEventBuffer β α κ τ) (n : EventCounts) :
    SlaveEventBuffer β α κ τ where
  mBinaryEvents := s.mBinaryEvents.dropWritten n.binary
  mAnalogEvents := s.mAnalogEvents.dropWritten n.analog
  mCounterEvents := s.mCounterEvents.dropWritten n.counter
  mVtoEvents := s.mVtoEvents.dropWritten n.vto

/-- The events that have been written are the first ones. -/
theorem EventBuffer.clearWrittenEvents_flagWritten {α : Type} {s : EventBuffer α}
    (h : ∀ e ∈ s.mSelectedEvents, e.mWritten = false) (n : ℕ) :
    (s.flagWritten n).clearWrittenEvents = s.dropWritten n := by
  have hdrop : (s.mSelectedEvents.drop n).dropWhile (·.mWritten) = s.mSelectedEvents.drop n := by
    cases hrest : s.mSelectedEvents.drop n with
    | nil => rfl
    | cons e es =>
      have he : e ∈ s.mSelectedEvents := List.mem_of_mem_drop (hrest ▸ List.mem_cons_self)
      rw [List.dropWhile_cons, h e he, if_neg Bool.false_ne_true]
  have hall (es : List (EventInfo α)) : ∀ e ∈ es.map fun e : EventInfo α ↦
    { e with mWritten := true },
      e.mWritten = true := by
    rintro e he
    obtain ⟨x, -, rfl⟩ := List.mem_map.mp he
    rfl
  rw [clearWrittenEvents, flagWritten, dropWritten]
  simp only [List.dropWhile_append_of_pos (hall _), hdrop]

/-- **What the master makes of a fragment**: it parses the octets, and it publishes these events,
and these points with the values that they have in the database. -/
structure Reported (readFloat : ℕ → List Byte → ℚ) (db : Database Measurement) (aBytes : List Byte)
    (fir fin con : Bool)
    (events : List Published) (points : List (Sigma StreamObject × ℕ)) : Prop where
  published : ∃ apdu pubs, APDU.interpret aBytes = .ok apdu ∧ apdu.getFunction = .response ∧
    apdu.getControl = ⟨fir, fin, con, false, 0⟩ ∧ readData readFloat apdu = .ok (events ++ pubs) ∧
    pubs.map some = points.map db.published

theorem Publishes.reports {readFloat : ℕ → List Byte → ℚ} {db : Database Measurement}
    {aBytes : List Byte}
    {fir fin : Bool} {points : List (Sigma StreamObject × ℕ)}
    (h : Publishes readFloat db aBytes fir fin points) :
    Reported readFloat db aBytes fir fin (!fin) [] points :=
  ⟨h.published⟩

/-- Blocks of events, and behind them blocks of points. -/
theorem OutAPDU.Gives.reports {readFloat : ℕ → List Byte → ℚ}
    {writeFloat : Writer Measurement (List Byte)}
    {db : Database Measurement} {f g h : OutAPDU (List Byte)} {events : List Published}
    (hgives : (f.set .response true true false false).Gives readFloat g events)
    {bs : List (Block (List Byte))} (hadds : g.Adds h bs) {points : List (Sigma StreamObject × ℕ)}
    (hcarried : Carried (measurementWriter writeFloat) db bs points)
    (hpoints : ∀ a ∈ points, IsInteger a.1) (fir fin con : Bool) :
    Reported readFloat db (h.setControl ⟨fir, fin, con, false, 0⟩).octets fir fin con events
      points := by
  have hfunction : (h.setControl ⟨fir, fin, con, false, 0⟩).function = some .response :=
    hadds.function.trans hgives.function
  obtain ⟨bs', hadds', hformed, hload⟩ := hgives
  have hblocks : (h.setControl ⟨fir, fin, con, false, 0⟩).blocks = bs' ++ bs :=
    hadds.blocks.trans (congrArg (· ++ bs) hadds'.blocks)
  obtain ⟨apdu, hinterpret, hread, hdata⟩ := @readData_of_formed readFloat _ _ hfunction rfl (by
    rw [hblocks]
    exact fun b hb ↦ (List.mem_append.mp hb).elim (hformed b) (hcarried.formed hpoints b))
  rw [hblocks, List.map_append, ResponseLoader.loadAll_append, hload] at hdata
  refine ⟨apdu, _, hinterpret, ?_, hread.control, hdata, hcarried.loadAll hpoints _⟩
  exact (Option.some.inj (hfunction.symm.trans hread.function)).symm

namespace ResponseContext.Full

variable {mpDB : Database Measurement} {c : Full} {f : OutAPDU (List Byte)}

/-- What is put back is what has not been written. -/
theorem clearWritten_afterLoading {num : DataTypes → ℕ} (hready : c.events.Ready num)
    (n : EventCounts) (qb qa qc qv : List EventRequest) :
    (c.afterLoading n qb qa qc qv).clearWritten.events.mBuffer =
    (c.events.mBuffer.dropWritten n).deselect := by
  have hb := EventBuffer.clearWrittenEvents_flagWritten hready.binary.unwritten n.binary
  have ha := EventBuffer.clearWrittenEvents_flagWritten hready.analog.unwritten n.analog
  have hc := EventBuffer.clearWrittenEvents_flagWritten hready.counter.unwritten n.counter
  have hv := EventBuffer.clearWrittenEvents_flagWritten hready.vto.unwritten n.vto
  simp only [clearWritten, afterLoading, SlaveEventBuffer.clearWritten,
    SlaveEventBuffer.flagWritten, SlaveEventBuffer.dropWritten, SlaveEventBuffer.deselect, hb, ha,
    hc, hv]

/-- A context whose events have been put back has none selected. -/
theorem noneSelected_of_deselect {s : SlaveEventBuffer BoolDataPoint Analog Counter (List Byte)}
    (h : c.events.mBuffer = s.deselect) : c.NoneSelected :=
  ⟨by rw [h]; rfl, by rw [h]; rfl, by rw [h]; rfl, by rw [h]; rfl⟩

/-- The first fragment: as many events as there is room for, and static data behind them if these
are all. -/
structure FirstFragment (readFloat : ℕ → List Byte → ℚ) (mpDB : Database Measurement)
    (num : DataTypes → ℕ) (c : Full)
    (n : EventCounts) (written : List (Sigma StreamObject × ℕ)) (g : OutAPDU (List Byte))
    (c' : Full) : Prop where
  first : n.FirstOf c.events.mBuffer.selected
  some : 0 < c.events.mBuffer.selected.total → 270 ≤ g.mMaxSize → 0 < n.total
  buffer : c'.clearWritten.events.mBuffer = (c.events.mBuffer.dropWritten n).deselect
  points : c.static.mStaticWriteMap.points = written ++ c'.static.mStaticWriteMap.points
  writable : ∀ e ∈ c'.static.mStaticWriteMap, e.2.Writable num g.mMaxSize
  none_written : n ≠ c.events.mBuffer.selected → written = []
  fir : c'.static.mFIR = false
  loaded : c'.mLoadedEventData = false
  reports : (∀ a ∈ written, IsInteger a.1) → Reported readFloat mpDB g.octets c.static.mFIR
    (decide (n = c.events.mBuffer.selected) && c'.static.mStaticWriteMap.isEmpty)
    (!(decide (n = c.events.mBuffer.selected) && c'.static.mStaticWriteMap.isEmpty) ||
      decide (0 < n.total))
    (c.events.published n) written

/-- **What the first fragment is.** -/
theorem loadResponse_spec (readFloat : ℕ → List Byte → ℚ)
    (writeFloat : Writer Measurement (List Byte))
    {num : DataTypes → ℕ} (hnum : ∀ aType, mpDB.numType aType = num aType)
    (hmax : ∀ aType, num aType ≤ 2 ^ 32)
    (hready : c.events.Ready num) (hloaded : c.mLoadedEventData = false)
    (hm : ∀ e ∈ c.static.mStaticWriteMap, e.2.Writable num f.mMaxSize) :
    ∃ n written g c', c.loadResponse (measurementWriter writeFloat) mpDB f = .ok (g, c') ∧
      g.mMaxSize = f.mMaxSize ∧
      FirstFragment readFloat mpDB num c n written g c' := by
  obtain ⟨n, g, qb, qa, qc, qv, hload, hfirst, hsome, hgives⟩ :=
    @loadEventData_spec readFloat mpDB c
    (f.set .response true true false false) num hnum hmax hready rfl
  have hsize : g.mMaxSize = f.mMaxSize := hgives.maxSize
  have hcon : (c.afterLoading n qb qa qc qv).mLoadedEventData = decide (0 < n.total) := by
    obtain ⟨nb, na, nc, nv⟩ := n
    rw [Bool.eq_iff_iff]
    simp [afterLoading, hloaded, EventCounts.total]
  have hprogress (h : 0 < c.events.mBuffer.selected.total) (hroom : 270 ≤ f.mMaxSize) :
      0 < n.total := by
    refine hsome h ?_
    show 266 ≤ f.mMaxSize - 4
    omega
  rw [loadResponse, hload, except_ok_bind]
  by_cases hall : n = c.events.mBuffer.selected
  · -- there may be room for static data
    obtain ⟨m, g', bs, written, hstatic, hadds, hcarried, hpoints, hm', -⟩ :=
      Static.loadStaticData_spec
      (measurementWriter writeFloat) hnum hm (f := g) hgives.function
    rw [decide_eq_true hall]
    simp only [Bool.not_true, Bool.false_eq_true, if_false]
    rw [show (c.afterLoading n qb qa qc qv).static = c.static from rfl, hstatic, except_ok_bind]
    refine ⟨n, written, _, _, rfl, hadds.maxSize.trans hsize, ?_⟩
    refine ⟨hfirst, fun h hroom ↦ hprogress h ?_, clearWritten_afterLoading hready n qb qa qc qv,
      hpoints, ?_, fun h ↦ absurd hall h, rfl, rfl, fun hinteger ↦ ?_⟩
    · rwa [← hadds.maxSize.trans hsize]
    · show ∀ e ∈ m, e.2.Writable num g'.mMaxSize
      rw [hadds.maxSize.trans hsize]
      exact hm'
    · rw [decide_eq_true hall, Bool.true_and, ← hcon]
      exact hgives.reports hadds hcarried hinteger _ _ _
  · rw [decide_eq_false hall]
    simp only [Bool.not_false, if_true]
    refine ⟨n, [], _, _, rfl, hsize, ?_⟩
    refine ⟨hfirst, fun h hroom ↦ hprogress h ?_, clearWritten_afterLoading hready n qb qa qc qv,
      rfl, ?_, fun _ ↦ rfl, rfl, rfl, fun hinteger ↦ ?_⟩
    · rwa [← hsize]
    · show ∀ e ∈ c.static.mStaticWriteMap, e.2.Writable num g.mMaxSize
      rwa [hsize]
    · rw [decide_eq_false hall, Bool.false_and, ← hcon]
      exact @OutAPDU.Gives.reports readFloat writeFloat mpDB f g g _ hgives [] (.refl g)
        [] .nil hinteger _ _ _

/-- **What becomes of a read**: its fragments, of which the first one has the events and the others
have none. -/
theorem loadFragments_spec (readFloat : ℕ → List Byte → ℚ)
    (writeFloat : Writer Measurement (List Byte))
    {num : DataTypes → ℕ} {dbs : List (Database Measurement)}
    (hnum : ∀ mpDB ∈ dbs, ∀ aType, mpDB.numType aType = num aType)
    (hmax : ∀ aType, num aType ≤ 2 ^ 32)
    (hready : c.events.Ready num) (hloaded : c.mLoadedEventData = false)
    (hfir : c.static.mFIR = true)
    (hm : ∀ e ∈ c.static.mStaticWriteMap, e.2.Writable num f.mMaxSize) (hfour : 4 ≤ f.mMaxSize)
    (hinteger : ∀ a ∈ c.static.mStaticWriteMap.points, IsInteger a.1)
    (hlen : c.static.mStaticWriteMap.points.length + 1 < dbs.length) :
    ∃ (fs : List (OutAPDU (List Byte))) (c' : Full) (n : EventCounts)
        (parts : List (List (Sigma StreamObject × ℕ))),
      loadFragments (measurementWriter writeFloat) dbs f c = .ok (fs, c') ∧
      n.FirstOf c.events.mBuffer.selected ∧
      (0 < c.events.mBuffer.selected.total → 270 ≤ f.mMaxSize → 0 < n.total) ∧
      c'.events.mBuffer = (c.events.mBuffer.dropWritten n).deselect ∧
        c'.static.isStaticEmpty = true ∧
      parts.flatten = c.static.mStaticWriteMap.points ∧ parts.length = fs.length ∧
      (n ≠ c.events.mBuffer.selected → parts.head? = some []) ∧
      ∀ k g part db, fs[k]? = some g → parts[k]? = some part → dbs[k]? = some db →
        Reported readFloat db g.octets (k == 0)
          (k + 1 == fs.length && (k != 0 || decide (n = c.events.mBuffer.selected)))
          (!(k + 1 == fs.length && (k != 0 || decide (n = c.events.mBuffer.selected))) || k == 0 &&
            decide (0 < n.total))
          (if k = 0 then c.events.published n else []) part := by
  cases dbs with
  | nil => exact absurd hlen (Nat.not_lt_zero _)
  | cons mpDB dbs =>
    obtain ⟨n, written, g, c₁, hload, hsize, hfirst⟩ := loadResponse_spec readFloat writeFloat
      (hnum mpDB List.mem_cons_self) hmax hready hloaded hm
    have hnone : c₁.clearWritten.NoneSelected := noneSelected_of_deselect hfirst.buffer
    have hcomplete : c₁.clearWritten.isComplete = c₁.static.mStaticWriteMap.isEmpty :=
      hnone.isComplete_eq
    have hwritten : ∀ a ∈ written, IsInteger a.1 :=
      fun a ha ↦ hinteger a (hfirst.points ▸ List.mem_append_left _ ha)
    have hreports := hfirst.reports hwritten
    rw [loadFragments, hload, except_ok_bind]
    dsimp only
    rw [hcomplete]
    cases hmap : c₁.static.mStaticWriteMap with
    | nil =>
      rw [hmap] at hreports
      have hpoints : c.static.mStaticWriteMap.points = written := by
        have hsplit := hfirst.points
        rw [hmap] at hsplit
        exact hsplit.trans (List.append_nil written)
      refine ⟨[g], c₁.clearWritten, n, [written], rfl, hfirst.first, hsize ▸ hfirst.some,
        hfirst.buffer, ?_, by simp [hpoints], rfl, fun h ↦ by rw [hfirst.none_written h]; rfl, ?_⟩
      · exact congrArg List.isEmpty hmap
      · rintro (_ | k) g' part db hg hpart hdb
        · obtain rfl := Option.some.inj hg
          obtain rfl := Option.some.inj hpart
          obtain rfl := Option.some.inj hdb
          simpa [hfir] using hreports
        · cases hg
    | cons e m =>
      rw [hmap] at hreports
      have hrest : c₁.clearWritten.static.mStaticWriteMap = e :: m := hmap
      have hsplit := hfirst.points
      rw [hmap] at hsplit
      have hlen' : (WriteMap.points (e :: m)).length < dbs.length := by
        have hlen := congrArg List.length hsplit ▸ hlen
        rw [List.length_append, List.length_cons] at hlen
        omega
      obtain ⟨fs, s', hstatic, hempty, hanswers⟩ := Static.loadFragments_spec
        (measurementWriter writeFloat)
        (fun db hdb ↦ hnum db (List.mem_cons_of_mem _ hdb)) (s := c₁.clearWritten.static)
          (f := g) hfirst.writable rfl
        (hsize ▸ hfour) (by rw [hrest]; exact hlen')
      obtain ⟨c', hload', hs', hbuffer⟩ := loadFragments_none hnone hfirst.loaded hstatic
      rw [hrest, show c₁.clearWritten.static.mFIR = false from hfirst.fir] at hanswers
      obtain ⟨parts, hflat, hparts, hall⟩ := hanswers.publishes readFloat fun a ha ↦
        hinteger a (hsplit ▸ List.mem_append_right _ ha)
      have hpos : (fs.length == 0) = false := beq_eq_false_iff_ne.mpr fun h ↦
        hanswers.ne_nil (List.length_eq_zero_iff.mp h)
      refine ⟨g :: fs, c', n, written :: parts, ?_, hfirst.first, hsize ▸ hfirst.some,
        hbuffer.trans hfirst.buffer, by rw [hs', hempty], by rw [List.flatten_cons, hflat, hsplit],
        by simp [hparts], fun h ↦ by rw [hfirst.none_written h]; rfl, ?_⟩
      · rw [if_neg (by rintro ⟨⟩), hload']
        rfl
      · rintro (_ | k) g' part db hg hpart hdb
        · obtain rfl := Option.some.inj hg
          obtain rfl := Option.some.inj hpart
          obtain rfl := Option.some.inj hdb
          simpa [hfir, hpos] using hreports
        · have hreports' := (hall k g' part db hg hpart hdb).reports
          simpa using hreports'

/-- The buffers of a request that has come in: what was selected has been put back. -/
theorem ready_deselect {num : DataTypes → ℕ} {c₀ : Full}
    (hholds : SlaveEventBuffer.Holds num c₀.events.mBuffer)
    (htypes : c₀.events.mpRspTypes.Known) : ResponseContext.Events.Ready num { c₀.events with
      mBuffer := c₀.events.mBuffer.deselect
      mTempIIN := {}
      mBinaryEvents := []
      mAnalogEvents := []
      mCounterEvents := []
      mVtoEvents := [] } where
  types := htypes
  binary := .deselect trivial hholds.binary hholds.few.1
  analog := .deselect trivial hholds.analog hholds.few.2.1
  counter := .deselect hholds.counters hholds.counter hholds.few.2.2.1
  vto := .deselect hholds.terminals hholds.vto hholds.few.2.2.2

/-- **A read reports what it asks for**: the outstation answers with some fragments, the master
parses each of them, and what it publishes is, of the first one, the first of the events that have
been selected, and of all of them every point that the request names, in order and once, with the
value that the database has when the fragment is written.  The points wait for a fragment that has
all the events.  When the first fragment has been confirmed the buffers have the events that were
not in it, and no other ones. -/
theorem read_reports (readFloat : ℕ → List Byte → ℚ) (writeFloat : Writer Measurement (List Byte))
    {dbs : List (Database Measurement)} {arRequest : APDU} {c₀ : Full}
    (hconfigure : c₀.configure mpDB arRequest = .ok c)
    (hholds : SlaveEventBuffer.Holds mpDB.numType c₀.events.mBuffer)
    (htypes : c₀.events.mpRspTypes.Known)
    (hinteger : ∀ a ∈ asked c₀.static.mpRspTypes arRequest, IsInteger a.2)
    (hnum : ∀ db ∈ dbs, ∀ aType, db.numType aType = mpDB.numType aType)
    (hmax : ∀ aType, mpDB.numType aType ≤ 2 ^ 32) (hfour : 4 ≤ f.mMaxSize)
    (hroom : ∀ a ∈ asked c₀.static.mpRspTypes arRequest,
      ∀ r ∈ readRange mpDB.numType arRequest a.1 a.2.1, 0 < r.2 →
      4 + (contiguousHeader (r.1 + r.2 - 1)).getSize + a.2.2.size ≤ f.mMaxSize)
    (hlen : (requested mpDB.numType c₀.static.mpRspTypes arRequest).length + 1 < dbs.length) :
    ∃ (fs : List (OutAPDU (List Byte))) (c' : Full) (n : EventCounts)
        (parts : List (List (Sigma StreamObject × ℕ))),
      loadFragments (measurementWriter writeFloat) dbs f c = .ok (fs, c') ∧
      n.FirstOf c.events.mBuffer.selected ∧
      (0 < c.events.mBuffer.selected.total → 270 ≤ f.mMaxSize → 0 < n.total) ∧
      c'.events.mBuffer = (c.events.mBuffer.dropWritten n).deselect ∧
        c'.static.isStaticEmpty = true ∧
      parts.flatten = requested mpDB.numType c₀.static.mpRspTypes arRequest ∧
        parts.length = fs.length ∧
      (n ≠ c.events.mBuffer.selected → parts.head? = some []) ∧
      ∀ k g part db, fs[k]? = some g → parts[k]? = some part → dbs[k]? = some db →
        Reported readFloat db g.octets (k == 0)
          (k + 1 == fs.length && (k != 0 || decide (n = c.events.mBuffer.selected)))
          (!(k + 1 == fs.length && (k != 0 || decide (n = c.events.mBuffer.selected))) || k == 0 &&
            decide (0 < n.total))
          (if k = 0 then c.events.published n else []) part := by
  rw [configure] at hconfigure
  obtain ⟨events, hevents, hconfigure⟩ := except_bind_eq_ok.mp hconfigure
  obtain rfl := Except.ok.inj hconfigure
  have hready : events.Ready mpDB.numType := (ready_deselect hholds htypes).configureAll hevents
  obtain ⟨hpoints, hfir, hwritable⟩ := Static.configure_notes hmax hroom
  have hrun := @loadFragments_spec ⟨events, c₀.static.configure mpDB arRequest, false⟩ f readFloat
    writeFloat mpDB.numType
    dbs hnum hmax hready rfl hfir hwritable hfour (hpoints ▸ isInteger_requested hinteger)
      (hpoints ▸ hlen)
  rwa [hpoints] at hrun

/-- Two binary points and a counter that has more than 16 bits. -/
def readDatabase : Database Measurement :=
  (Database.new.configure .binary 2 ⟨0x81, 0⟩).configure .counter 1 ⟨0x01, 0, 70000⟩

/-- An event of each binary point, a while apart, and one of the counter. -/
def readContext : Full where
  events := {
    mBuffer := {
      mBinaryEvents := { EventBuffer.new 10 with
        mCounter := ⟨2, 0, 0⟩
        mEventSet := [⟨⟨0x81, 1000⟩, .class1, 0, 0, false⟩, ⟨⟨0x01, 1200⟩, .class1, 1, 1, false⟩] }
      mAnalogEvents := .new 10
      mCounterEvents := { EventBuffer.new 10 with
        mCounter := ⟨1, 0, 0⟩
        mEventSet := [⟨⟨0x01, 1100, 70000⟩, .class1, 0, 0, false⟩] }
      mVtoEvents := .new 10 }
    mpRspTypes := ⟨Objects.Group2Var1.base, Objects.Group32Var1.base, Objects.Group22Var1.base,
      ⟨113, 0, .sizeByVariation⟩⟩
    mTempIIN := {}
    mBinaryEvents := []
    mAnalogEvents := []
    mCounterEvents := []
    mVtoEvents := [] }
  static := .new Static.defaultTypes
  mLoadedEventData := false

/-- A read of the binary events with relative times, of the rest of class 1, and of class 0. -/
def classRead : APDU where
  mBuffer := [0xC0, 0x01, 2, 3, 6, 60, 2, 6, 60, 1, 6]
  getControl := ⟨true, true, false, false, 0⟩
  getFunction := .read
  mObjectHeaders := [⟨2, 2, 3, .allObj, 0, 0, .allObjects, Objects.Group2Var3.base⟩,
    ⟨5, 60, 2, .allObj, 0, 0, .allObjects, ⟨60, 2, .placeholder⟩⟩,
    ⟨8, 60, 1, .allObj, 0, 0, .allObjects, ⟨60, 1, .placeholder⟩⟩]

theorem numType_readDatabase (aType : DataTypes) : readDatabase.numType aType ≤ 2 := by
  cases aType <;> decide

theorem holds_readContext :
    SlaveEventBuffer.Holds readDatabase.numType readContext.events.mBuffer := by
  refine ⟨List.pairwise_singleton _ _, .nil, fun e he ↦ ?_, fun e he ↦ absurd he List.not_mem_nil,
    fun e he ↦ ?_, fun e he ↦ absurd he List.not_mem_nil, by decide⟩
  · have hall : ∀ e ∈ readContext.events.mBuffer.mBinaryEvents.held,
        e.mIndex < readDatabase.numType .binary ∧
          Packer.uInt48LE.Holds (getTime .binary e.mValue) := by decide
    exact ⟨(hall e he).1, (hall e he).2⟩
  · have hall : ∀ e ∈ readContext.events.mBuffer.mCounterEvents.held,
        e.mIndex < readDatabase.numType .counter ∧
          Packer.uInt48LE.Holds (getTime .counter e.mValue) := by decide
    exact ⟨(hall e he).1, (hall e he).2⟩

/-- What the read selects; its binary events have times that are relative to a common one. -/
theorem configure_readContext : ∃ c, readContext.configure readDatabase classRead = .ok c ∧
    ∀ r ∈ c.events.mBinaryEvents, r.pObj = Objects.Group2Var3.base := by
  have hsome : (readContext.configure readDatabase classRead).toOption.any fun c ↦
      decide (∀ r ∈ c.events.mBinaryEvents, r.pObj = Objects.Group2Var3.base) := by decide +kernel
  cases hrun : readContext.configure readDatabase classRead with
  | error e =>
    rw [hrun] at hsome
    cases hsome
  | ok c =>
    rw [hrun] at hsome
    exact ⟨c, rfl, of_decide_eq_true hsome⟩

/-- Fragments of 34 octets have room for the binary events, and not for the counter. -/
theorem read_reports_class1 :
    APDU.interpret classRead.mBuffer = .ok classRead ∧
    ∃ c, readContext.configure readDatabase classRead = .ok c ∧
    ∃ (fs : List (OutAPDU (List Byte))) (c' : Full) (n : EventCounts)
      (parts : List (List (Sigma StreamObject × ℕ))),
      loadFragments (measurementWriter fun _ _ _ ↦ []) (List.replicate 5 readDatabase) (.new 34) c =
        .ok (fs, c') ∧
      n.FirstOf c.events.mBuffer.selected ∧
      (0 < c.events.mBuffer.selected.total → 270 ≤ 34 → 0 < n.total) ∧
      c'.events.mBuffer = (c.events.mBuffer.dropWritten n).deselect ∧
        c'.static.isStaticEmpty = true ∧
      parts.flatten = requested readDatabase.numType Static.defaultTypes classRead ∧
        parts.length = fs.length ∧
      (n ≠ c.events.mBuffer.selected → parts.head? = some []) ∧
      ∀ k g part db, fs[k]? = some g → parts[k]? = some part → (List.replicate 5 readDatabase)[k]? =
        some db →
        Reported (fun _ _ ↦ 0) db g.octets (k == 0)
          (k + 1 == fs.length && (k != 0 || decide (n = c.events.mBuffer.selected)))
          (!(k + 1 == fs.length && (k != 0 || decide (n = c.events.mBuffer.selected))) || k == 0 &&
            decide (0 < n.total))
          (if k = 0 then c.events.published n else []) part := by
  refine ⟨by rfl, ?_⟩
  obtain ⟨c, hconfigure, -⟩ := configure_readContext
  refine ⟨c, hconfigure, ?_⟩
  exact @read_reports readDatabase c (.new 34) (fun _ _ ↦ 0) (fun _ _ _ ↦ [])
    (List.replicate 5 readDatabase) classRead
    readContext hconfigure holds_readContext ⟨by decide, by decide, by decide, by decide⟩
      (by decide)
    (fun db hdb aType ↦ by rw [List.eq_of_mem_replicate hdb])
    (fun aType ↦ Nat.le_trans (numType_readDatabase aType) (by decide)) (by decide) (by decide)
    (by decide)

end ResponseContext.Full

end OpenDNP3
