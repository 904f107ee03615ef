import OpenDNP3.App.Blocks
import OpenDNP3.Codec.Image
import OpenDNP3.Response.Loader
import OpenDNP3.Response.StaticReads

/-!
# From the database to the observer

The static data that a master asks for, all the way: the outstation notes what has to be written and
writes it into fragments, object by object; the octets of each fragment are parsed by the master,
and what its headers say is published.

* `integerCodecs` — the classes of static data whose fields are integers.
* `received` — what gets to the observer of a measurement that is written with a class.
* `Carried.readData` — what is published of a fragment.
* `poll_publishes` — what is published of all fragments.
-/

set_option autoImplicit false

namespace OpenDNP3

open Objects (BoolDataPoint TypedDataPoint)

/-! ## Classes -/

/-- The classes that static data is written with, if all their fields are integers. -/
def integerCodecs : (aType : DataTypes) → List (Objects.StreamObject (Measurement aType))
  | .binary => [Objects.Group1Var2]
  | .controlStatus => [Objects.Group10Var2]
  | .counter => [Objects.Group20Var1, Objects.Group20Var2, Objects.Group20Var3, Objects.Group20Var4,
      Objects.Group20Var5, Objects.Group20Var6, Objects.Group20Var7, Objects.Group20Var8]
  | .analog => [Objects.Group30Var1, Objects.Group30Var2, Objects.Group30Var3, Objects.Group30Var4]
  | .setpointStatus => [Objects.Group40Var1, Objects.Group40Var2]

/-- The class of an object. -/
def integerCodec (aType : DataTypes) (aBase : ObjectBase) :
    Option (Objects.StreamObject (Measurement aType)) :=
  (integerCodecs aType).find? (·.base = aBase)

/-- The fields of the object are integers. -/
def IsInteger (o : Sigma StreamObject) : Prop := (integerCodec o.1 o.2.base).isSome = true

instance (o : Sigma StreamObject) : Decidable (IsInteger o) :=
    inferInstanceAs (Decidable (_ = true))

/-- `Write` of each object; the classes with a floating point field have another writer. -/
def measurementWriter (writeFloat : Writer Measurement (List Byte)) :
    Writer Measurement (List Byte) :=
  fun aType o v ↦
    match integerCodec aType o.base with
    | some c => c.write (List.replicate c.getSize 0) v
    | none => writeFloat aType o v

/-- **What gets to the observer** of a measurement.  There is no time, and the quality is `ONLINE`
where the class has no flag. -/
def received : (aType : DataTypes) → Objects.StreamObject (Measurement aType) → Measurement aType →
    Measurement aType
  | .binary, _, v | .controlStatus, _, v => { v with mTime := 0 }
  | .counter, o, v | .analog, o, v | .setpointStatus, o, v =>
    if o.fields.mFlag.isSome then v.image o.fields else { v.image o.fields with mQuality := online }

/-- A class of a binary point. -/
theorem received_binary {c : Objects.StreamObject BoolDataPoint}
    (hsize : c.getSize = 1) (hflag : c.fields = Objects.flag) (hwrite : c.writeAs = Objects.writeQ)
    (hread : ∀ p, c.read p = ⟨Objects.getOctet c.fields.mFlag p, 0⟩) (v : BoolDataPoint) :
    (c.write (List.replicate c.getSize 0) v).length = c.getSize ∧
      c.read (c.write (List.replicate c.getSize 0) v) = { v with mTime := 0 } := by
  have hset : c.write (List.replicate c.getSize 0) v = Objects.writeQ Objects.flag
      (List.replicate 1 0) v := by
    rw [Objects.StreamObject.write, hwrite, hflag, hsize]
  rw [hset]
  refine ⟨?_, ?_⟩
  · rw [hsize]
    exact Pack.length_set (f := ⟨.uInt8, 0⟩) (p := List.replicate 1 0) (by decide) _
  · rw [hread, hflag, Objects.getOctet_writeQ Objects.flag rfl (by decide)]

/-- A class with a value. -/
theorem received_value {T : Type} [Objects.ValueType T]
    {c : Objects.StreamObject (TypedDataPoint T)}
    (h : Objects.Carries c) (htime : c.fields.mTime = none) (v : TypedDataPoint T) :
    (c.write (List.replicate c.getSize 0) v).length = c.getSize ∧
      c.read (c.write (List.replicate c.getSize 0) v) = v.image c.fields := by
  have hholds : Objects.HoldsTime c.fields v.mTime := by
    intro f hf
    rw [htime] at hf
    cases hf
  obtain ⟨hread, hlen⟩ := h (List.replicate c.getSize 0) v (by simp) hholds
  exact ⟨hlen.trans (by simp), hread⟩

/-- What is known of a class of static data. -/
structure IsStaticClass (readFloat : ℕ → List Byte → ℚ) {aType : DataTypes}
    (c : Objects.StreamObject (Measurement aType)) : Prop where
  known : c.base ∈ ObjectBase.known
  fixed : c.base.getType = .fixed c.getSize
  case : loadCase readFloat (radix c.base.getGroup c.base.getVariation) = some
    (integerObject aType c)
  absolute : Objects.useCTO c.base = false

theorem isStaticClass (readFloat : ℕ → List Byte → ℚ) {aType : DataTypes} :
    ∀ c ∈ integerCodecs aType, IsStaticClass readFloat c := by
  have hnil {α : Type} {p : α → Prop} : ∀ c ∈ ([] : List α), p c :=
    fun _ h ↦ absurd h List.not_mem_nil
  cases aType with
  | binary | controlStatus =>
    simp only [integerCodecs, List.forall_mem_cons]
    exact ⟨⟨by decide, rfl, rfl, by decide⟩, hnil⟩
  | counter =>
    simp only [integerCodecs, List.forall_mem_cons]
    exact ⟨⟨by decide, rfl, rfl, by decide⟩, ⟨by decide, rfl, rfl, by decide⟩,
      ⟨by decide, rfl, rfl, by decide⟩, ⟨by decide, rfl, rfl, by decide⟩,
      ⟨by decide, rfl, rfl, by decide⟩,
        ⟨by decide, rfl, rfl, by decide⟩,
      ⟨by decide, rfl, rfl, by decide⟩, ⟨by decide, rfl, rfl, by decide⟩, hnil⟩
  | analog =>
    simp only [integerCodecs, List.forall_mem_cons]
    exact ⟨⟨by decide, rfl, rfl, by decide⟩, ⟨by decide, rfl, rfl, by decide⟩,
      ⟨by decide, rfl, rfl, by decide⟩, ⟨by decide, rfl, rfl, by decide⟩, hnil⟩
  | setpointStatus =>
    have hfirst : loadCase readFloat 641 = some
        (integerObject .setpointStatus Objects.Group40Var1) := by
      simp [loadCase, loadCases, radix]
    have hsecond : loadCase readFloat 642 = some
        (integerObject .setpointStatus Objects.Group40Var2) := by
      simp [loadCase, loadCases, radix]
    simp only [integerCodecs, List.forall_mem_cons]
    exact ⟨⟨by decide, rfl, hfirst, by decide⟩, ⟨by decide, rfl, hsecond, by decide⟩, hnil⟩

/-- **What is loaded of a measurement** that has been written with a class of static data. -/
theorem loaded_write {aType : DataTypes} {c : Objects.StreamObject (Measurement aType)}
    (hc : c ∈ integerCodecs aType) (t : ℤ) (v : Measurement aType) :
    (c.write (List.replicate c.getSize 0) v).length = c.getSize ∧
      ResponseLoader.loaded ⟨c.fields.mFlag.isSome, Objects.useCTO c.base, c.read⟩ t
        (c.write (List.replicate c.getSize 0) v) = received aType c v := by
  have habsolute := (isStaticClass (fun _ _ ↦ 0) c hc).absolute
  rw [ResponseLoader.loaded, habsolute]
  cases aType with
  | binary =>
    obtain rfl := List.mem_singleton.mp hc
    exact received_binary (c := Objects.Group1Var2) rfl rfl rfl (fun _ ↦ rfl) v
  | controlStatus =>
    obtain rfl := List.mem_singleton.mp hc
    have hreadQ (p : List Byte) : Objects.readQ Objects.flag p =
        ⟨Objects.getOctet Objects.flag.mFlag p, 0⟩ := by
      simp [Objects.readQ, BoolDataPoint.setQuality, BoolDataPoint.new, BoolDataPoint.mValueMask]
    exact received_binary (c := Objects.Group10Var2) rfl rfl rfl hreadQ v
  | counter =>
    have hmem : c ∈ Objects.counters := List.mem_of_mem_take (i := 8) hc
    have htime : ∀ c ∈ integerCodecs .counter, c.fields.mTime = none := by
      simp only [integerCodecs, List.forall_mem_cons]
      exact ⟨rfl, rfl, rfl, rfl, rfl, rfl, rfl, rfl, fun _ h ↦ absurd h List.not_mem_nil⟩
    obtain ⟨hlen, hread⟩ := received_value (Objects.carries_counters c hmem) (htime c hc) v
    exact ⟨hlen, by simp only [Bool.false_eq_true, if_false, hread]; rfl⟩
  | analog =>
    have hmem : c ∈ Objects.analogs := List.mem_of_mem_take (i := 4) hc
    have htime : ∀ c ∈ integerCodecs .analog, c.fields.mTime = none := by
      simp only [integerCodecs, List.forall_mem_cons]
      exact ⟨rfl, rfl, rfl, rfl, fun _ h ↦ absurd h List.not_mem_nil⟩
    obtain ⟨hlen, hread⟩ := received_value (Objects.carries_analogs c hmem) (htime c hc) v
    exact ⟨hlen, by simp only [Bool.false_eq_true, if_false, hread]; rfl⟩
  | setpointStatus =>
    have hmem : c ∈ Objects.analogs := List.mem_of_mem_drop (i := 8) hc
    have htime : ∀ c ∈ integerCodecs .setpointStatus, c.fields.mTime = none := by
      simp only [integerCodecs, List.forall_mem_cons]
      exact ⟨rfl, rfl, fun _ h ↦ absurd h List.not_mem_nil⟩
    obtain ⟨hlen, hread⟩ := received_value (Objects.carries_analogs c hmem) (htime c hc) v
    exact ⟨hlen, by simp only [Bool.false_eq_true, if_false, hread]; rfl⟩

/-! ## Blocks -/

/-- **What is published of a point** that is written with an object. -/
def Database.published (db : Database Measurement) (a : Sigma StreamObject × ℕ) :
    Option Published :=
  (integerCodec a.1.1 a.1.2.base).bind fun c ↦
    ((db.vec a.1.1)[a.2]?).map fun p ↦ .update a.1.1 a.2 (received a.1.1 c p.mValue)

section Carries

variable {writeFloat : Writer Measurement (List Byte)} {readFloat : ℕ → List Byte → ℚ}
    {db : Database Measurement}
  {b : Block (List Byte)} {o : Sigma StreamObject} {start count : ℕ}

/-- The objects of a block are the points, with their indices. -/
theorem Block.Carries.getElem? {ω : Type} {M : DataTypes → Type} {write : Writer M ω}
    {db : Database M} {b : Block ω} (h : b.Carries write db o start count) (k : ℕ) :
    (b.objects[k]?).map some = if k < count then some (db.object write o (start + k))
    else none := by
  have hget := congrArg (·[k]?) h.objects
  simp only [List.getElem?_map] at hget
  rw [hget]
  split
  · next hk => rw [List.getElem?_range' hk]; simp
  · next hk => rw [List.getElem?_eq_none (by simpa using hk)]; rfl

theorem Block.Carries.length_objects {ω : Type} {M : DataTypes → Type} {write : Writer M ω}
    {db : Database M}
    {b : Block ω} (h : b.Carries write db o start count) : b.objects.length = count := by
  simpa using congrArg List.length h.objects

/-- What the objects of a block are. -/
theorem Block.Carries.of_mem (h : b.Carries (measurementWriter writeFloat) db o start count) {k : ℕ}
    {obj : ℕ × List Byte} (hobj : b.objects[k]? = some obj)
    {c : Objects.StreamObject (Measurement o.1)} (hc : integerCodec o.1 o.2.base = some c) :
    obj.1 = start + k ∧ ∃ p, (db.vec o.1)[start + k]? = some p ∧
      obj.2 = c.write (List.replicate c.getSize 0) p.mValue := by
  have hget := h.getElem? k
  rw [hobj] at hget
  by_cases hk : k < count
  · rw [if_pos hk] at hget
    obtain ⟨p, hp, hobject⟩ := Option.map_eq_some_iff.mp (Option.some.inj hget).symm
    obtain rfl := hobject
    refine ⟨rfl, p, hp, ?_⟩
    simp only [measurementWriter, hc]
  · rw [if_neg hk] at hget
    cases hget

/-- The class of an object is the one with its group and its variation. -/
theorem base_of_integerCodec {c : Objects.StreamObject (Measurement o.1)}
    (hc : integerCodec o.1 o.2.base = some c) :
    c ∈ integerCodecs o.1 ∧ o.2.base = c.base := by
  have hbase : c.base = o.2.base := by simpa using List.find?_some hc
  exact ⟨List.mem_of_find?_eq_some hc, hbase.symm⟩

/-- The header of a block says what is in it. -/
theorem Block.Carries.formed (h : b.Carries (measurementWriter writeFloat) db o start count)
    (ho : IsInteger o) :
    ∃ t, b.Formed true t o.2.base := by
  obtain ⟨c, hc⟩ := Option.isSome_iff_exists.mp ho
  obtain ⟨hmem, hbase⟩ := base_of_integerCodec hc
  have hclass := isStaticClass (fun _ _ ↦ 0) c hmem
  obtain ⟨hgroup, hvariation, hsized, -⟩ := ObjectBase.of_mem_known hclass.known
  obtain ⟨aStop, hqual, hstop⟩ := h.header
  have hlen := h.length_objects
  have hpos := h.pos
  have hindex : b.qualifier.indexSize = 0 := hqual ▸ OutAPDU.indexSize_getContiguousQualifier aStop
  have hmax := (contiguousHeader aStop).maxField_lt
  rw [hbase]
  have hg : b.group = c.base.getGroup := hbase ▸ h.group
  have hv : b.variation = c.base.getVariation := hbase ▸ h.variation
  refine ⟨contiguousHeader aStop, ?_⟩
  constructor
  · exact .inl ⟨hclass.known, hg.symm, hv.symm⟩
  · rwa [hg]
  · rwa [hv]
  · rw [hqual, getObjectHeader_contiguous]
  · rw [hqual]
    exact OutAPDU.getContiguousQualifier_suits aStop (.inl ⟨_, hclass.fixed⟩)
  · exact fun hall ↦ absurd hall (contiguousHeader_ne_allObjects aStop)
  · exact fun _ _ ↦ ⟨_, h.range,
      by simp only []; omega, by simp only []; omega, by simp only []; omega⟩
  · rintro (hcount | hall)
    · rw [isCount_contiguousHeader] at hcount
      cases hcount
    · exact absurd hall (contiguousHeader_ne_allObjects aStop)
  · intro hcount
    rw [isCount_contiguousHeader] at hcount
    cases hcount
  · exact fun hne ↦ absurd hindex hne
  · intro obj hobj
    obtain ⟨k, hk⟩ := List.mem_iff_getElem?.mp hobj
    obtain ⟨-, p, -, hoctets⟩ := h.of_mem hk hc
    rw [hoctets, (loaded_write hmem 0 p.mValue).1, Block.dataSize, if_pos rfl, hclass.fixed]
  · intro _ hbit
    rw [hclass.fixed] at hbit
    cases hbit
  · exact fun hsize ↦ absurd hsize hsized
  · intro _ hplace
    rw [hclass.fixed] at hplace
    cases hplace

/-- The indices are counted from the start of the range on. -/
theorem Block.Carries.seenIndex_eq (h : b.Carries (measurementWriter writeFloat) db o start count)
    (k : ℕ) :
    b.seenIndex k = start + k := by
  obtain ⟨aStop, hqual, -⟩ := h.header
  have hindex : b.qualifier.indexSize = 0 := hqual ▸ OutAPDU.indexSize_getContiguousQualifier aStop
  rw [Block.seenIndex, if_neg (not_not.mpr hindex), hqual, getObjectHeader_contiguous, h.range]
  have hne := contiguousHeader_ne_allObjects aStop
  have hcount := isCount_contiguousHeader aStop
  cases hheader : contiguousHeader aStop with
  | ranged2Octet | ranged4Octet | ranged8Octet => rfl
  | allObjects => exact absurd hheader hne
  | count1Octet | count2Octet | count4Octet =>
    rw [hheader] at hcount
    cases hcount

/-- **What is published of a block.** -/
theorem Block.Carries.load (h : b.Carries (measurementWriter writeFloat) db o start count)
    (ho : IsInteger o) (s : ResponseLoader) :
    (s.load readFloat b.seen).1 = s ∧
      (s.load readFloat b.seen).2.map some = (List.range' start count).map fun i ↦ db.published
        (o, i) := by
  obtain ⟨c, hc⟩ := Option.isSome_iff_exists.mp ho
  obtain ⟨hmem, hbase⟩ := base_of_integerCodec hc
  have hclass := isStaticClass readFloat c hmem
  have hcase : loadCase readFloat (radix b.seen.group b.seen.variation) = some
      (integerObject o.1 c) := by
    rw [show b.seen.group = _ from h.group, show b.seen.variation = _ from h.variation, hbase]
    exact hclass.case
  have hload : s.load readFloat b.seen = (s, b.seen.objects.map fun obj ↦ .update o.1 obj.1
      (ResponseLoader.loaded ⟨c.fields.mFlag.isSome, Objects.useCTO c.base, c.read⟩
        (s.mCTO.getCTO.getD 0) obj.2)) := by
    rw [ResponseLoader.load, hcase, integerObject]
    simp [hclass.absolute]
  rw [hload]
  refine ⟨rfl, List.ext_getElem? fun k ↦ ?_⟩
  simp only [Block.seen, List.getElem?_map, List.getElem?_mapIdx, Option.map_map]
  by_cases hk : k < count
  · obtain ⟨obj, hobj⟩ : ∃ obj, b.objects[k]? = some obj :=
      ⟨_, List.getElem?_eq_getElem (h.length_objects ▸ hk)⟩
    obtain ⟨-, p, hp, hoctets⟩ := h.of_mem hobj hc
    have hloaded := (loaded_write hmem (s.mCTO.getCTO.getD 0) p.mValue).2
    rw [hobj, List.getElem?_range' hk, Nat.one_mul, Option.map_some, Option.map_some,
      Database.published, hc, Option.bind_some, hp]
    simp only [Function.comp_apply, h.seenIndex_eq, hoctets, hloaded, Option.map_some]
  · rw [List.getElem?_eq_none (h.length_objects ▸ Nat.le_of_not_lt hk), List.getElem?_eq_none
      (by simpa using hk)]
    rfl

/-- **What is published of the blocks of a fragment.** -/
theorem Carried.loadAll {bs : List (Block (List Byte))} {points : List (Sigma StreamObject × ℕ)}
    (h : Carried (measurementWriter writeFloat) db bs points)
    (hpoints : ∀ a ∈ points, IsInteger a.1) (s : ResponseLoader) :
    (s.loadAll readFloat (bs.map Block.seen)).map some = points.map db.published := by
  induction h generalizing s with
  | nil => rfl
  | @cons b bs o start count points hb _ ih =>
    have ho : IsInteger o := hpoints (o, start) (List.mem_append_left _ (List.mem_map_of_mem
      (List.mem_range'.mpr ⟨0, hb.pos, by omega⟩)))
    have hrest := ih fun a ha ↦ hpoints a (List.mem_append_right _ ha)
    rw [List.map_cons, ResponseLoader.loadAll, List.map_append, hrest, (hb.load ho s).2,
      List.map_append, List.map_map]
    rfl

/-- The headers of a fragment say what is in it. -/
theorem Carried.formed {bs : List (Block (List Byte))} {points : List (Sigma StreamObject × ℕ)}
    (h : Carried (measurementWriter writeFloat) db bs points)
    (hpoints : ∀ a ∈ points, IsInteger a.1) :
    ∀ b ∈ bs, ∃ t o, b.Formed true t o := by
  induction h with
  | nil => exact fun b hb ↦ absurd hb List.not_mem_nil
  | @cons b bs o start count points hb _ ih =>
    have ho : IsInteger o := hpoints (o, start) (List.mem_append_left _ (List.mem_map_of_mem
      (List.mem_range'.mpr ⟨0, hb.pos, by omega⟩)))
    have hrest := ih fun a ha ↦ hpoints a (List.mem_append_right _ ha)
    rintro b' hb'
    rcases List.mem_cons.mp hb' with rfl | hb'
    · obtain ⟨t, ht⟩ := hb.formed ho
      exact ⟨t, _, ht⟩
    · exact hrest b' hb'

end Carries

/-! ## Fragments -/

/-- **What the master makes of a fragment**: it parses the octets, and it publishes these points
with the values that they have in the database. -/
structure Publishes (readFloat : ℕ → List Byte → ℚ) (db : Database Measurement) (aBytes : List Byte)
    (fir fin : Bool) (points : List (Sigma StreamObject × ℕ)) : Prop where
  published : ∃ apdu pubs, APDU.interpret aBytes = .ok apdu ∧ apdu.getFunction = .response ∧
    apdu.getControl = ⟨fir, fin, !fin, false, 0⟩ ∧ readData readFloat apdu = .ok pubs ∧
    pubs.map some = points.map db.published

/-- A fragment of a response is read as it was written. -/
theorem Carried.publishes {writeFloat : Writer Measurement (List Byte)} {db : Database Measurement}
    (readFloat : ℕ → List Byte → ℚ) {f : OutAPDU (List Byte)}
    {points : List (Sigma StreamObject × ℕ)}
    (h : Carried (measurementWriter writeFloat) db f.blocks points)
    (hpoints : ∀ a ∈ points, IsInteger a.1)
    {fir fin : Bool} (hf : f.Answer fir fin) : Publishes readFloat db f.octets fir fin points := by
  obtain ⟨apdu, hinterpret, hread, hdata⟩ := @readData_of_formed readFloat f _ hf.function rfl
    (h.formed hpoints)
  refine ⟨apdu, _, hinterpret, ?_, ?_, hdata, h.loadAll hpoints {}⟩
  · exact (Option.some.inj (hf.function.symm.trans hread.function)).symm
  · rw [hread.control, hf.control]
    rfl

/-- The fragments of an answer, each with the points that it has and the database that it was
written from. -/
theorem Answers.publishes {writeFloat : Writer Measurement (List Byte)}
    (readFloat : ℕ → List Byte → ℚ)
    {dbs : List (Database Measurement)} {fir : Bool} {fs : List (OutAPDU (List Byte))}
    {points : List (Sigma StreamObject × ℕ)}
    (h : Answers (measurementWriter writeFloat) dbs fir fs points)
    (hpoints : ∀ a ∈ points, IsInteger a.1) :
    ∃ parts : List (List (Sigma StreamObject × ℕ)), parts.flatten = points ∧
      parts.length = fs.length ∧
      ∀ k f part db, fs[k]? = some f → parts[k]? = some part → dbs[k]? = some db →
        Publishes readFloat db f.octets (fir && k == 0) (k + 1 == fs.length) part := by
  induction h with
  | @last db dbs fir f points hf hcarried =>
    refine ⟨[points], List.append_nil _, rfl, ?_⟩
    rintro (_ | k) f' part db' hf' hpart hdb
    · obtain rfl := Option.some.inj hf'
      obtain rfl := Option.some.inj hpart
      obtain rfl := Option.some.inj hdb
      simpa using hcarried.publishes readFloat hpoints hf
    · cases hf'
  | @more db dbs fir f fs written points hf hcarried _ hanswers ih =>
    obtain ⟨parts, hflat, hlen, hall⟩ := ih fun a ha ↦ hpoints a (List.mem_append_right _ ha)
    have hwritten : ∀ a ∈ written, IsInteger a.1 := fun a ha ↦ hpoints a (List.mem_append_left _ ha)
    refine ⟨written :: parts,
      by rw [List.flatten_cons, hflat], by rw [List.length_cons, List.length_cons, hlen], ?_⟩
    have hsome : (fs.length == 0) = false := by
      cases hanswers <;> rfl
    rintro (_ | k) f' part db' hf' hpart hdb
    · obtain rfl := Option.some.inj hf'
      obtain rfl := Option.some.inj hpart
      obtain rfl := Option.some.inj hdb
      simpa [hsome] using hcarried.publishes readFloat hwritten hf
    · simpa using hall k f' part db' hf' hpart hdb

/-- The points of a request are written with the objects that it asks for. -/
theorem isInteger_requested {num : DataTypes → ℕ} {t : StaticResponseTypes} {arRequest : APDU}
    (h : ∀ a ∈ asked t arRequest, IsInteger a.2) : ∀ a ∈ requested num t arRequest,
    IsInteger a.1 := by
  intro a ha
  obtain ⟨x, hx, ha⟩ := List.mem_flatMap.mp ha
  obtain ⟨i, -, rfl⟩ := List.mem_map.mp ha
  exact h x hx

namespace ResponseContext.Static

/-- What is noted of a request can be written, point by point. -/
theorem points_configure {M : DataTypes → Type} {mpDB : Database M} {arRequest : APDU} {s : Static}
    {size : ℕ}
    (hstatic : ∀ hdr ∈ arRequest.mObjectHeaders, hdr.IsStaticRead)
    (hmax : ∀ aType, mpDB.numType aType ≤ 2 ^ 32)
    (hroom : ∀ a ∈ asked s.mpRspTypes arRequest, ∀ r ∈ readRange mpDB.numType arRequest a.1 a.2.1,
      0 < r.2 →
      4 + (contiguousHeader (r.1 + r.2 - 1)).getSize + a.2.2.size ≤ size) :
    (configure mpDB arRequest s).mStaticWriteMap.points =
    requested mpDB.numType s.mpRspTypes arRequest ∧
      (configure mpDB arRequest s).mFIR = true ∧
      ∀ e ∈ (configure mpDB arRequest s).mStaticWriteMap, e.2.Writable mpDB.numType size := by
  rw [configure_eq mpDB s hstatic]
  refine ⟨?_, rfl, ?_⟩
  · rw [requested, ← points_noted]
    exact points_ofList _
  · rintro e he
    obtain ⟨i, hi, rfl⟩ := List.mem_mapIdx.mp he
    obtain ⟨a, ha, hnoted⟩ := List.mem_filterMap.mp (List.getElem_mem hi)
    exact writable_noted (hmax _) (hroom a ha) hnoted

/-- **A poll of static data publishes what was asked for**: the outstation answers with some
fragments, the master parses each of them, and what it publishes is every point that the request
names, in order and once, each with what its class leaves of the value that the database has when
the fragment is written. -/
theorem poll_publishes (readFloat : ℕ → List Byte → ℚ) (writeFloat : Writer Measurement (List Byte))
    {mpDB : Database Measurement} {dbs : List (Database Measurement)} {arRequest : APDU}
    {s : Static}
    {f : OutAPDU (List Byte)} (hstatic : ∀ hdr ∈ arRequest.mObjectHeaders, hdr.IsStaticRead)
    (hinteger : ∀ a ∈ asked s.mpRspTypes arRequest, IsInteger a.2)
    (hnum : ∀ db ∈ dbs, ∀ aType, db.numType aType = mpDB.numType aType)
    (hmax : ∀ aType, mpDB.numType aType ≤ 2 ^ 32) (hfour : 4 ≤ f.mMaxSize)
    (hroom : ∀ a ∈ asked s.mpRspTypes arRequest, ∀ r ∈ readRange mpDB.numType arRequest a.1 a.2.1,
      0 < r.2 →
      4 + (contiguousHeader (r.1 + r.2 - 1)).getSize + a.2.2.size ≤ f.mMaxSize)
    (hlen : (requested mpDB.numType s.mpRspTypes arRequest).length < dbs.length) :
    ∃ (fs : List (OutAPDU (List Byte))) (s' : Static)
      (parts : List (List (Sigma StreamObject × ℕ))),
      loadFragments (measurementWriter writeFloat) dbs f (configure mpDB arRequest s) = .ok
        (fs, s') ∧
      s'.isStaticEmpty = true ∧ parts.flatten = requested mpDB.numType s.mpRspTypes arRequest ∧
      parts.length = fs.length ∧
      ∀ k f part db, fs[k]? = some f → parts[k]? = some part → dbs[k]? = some db →
        Publishes readFloat db f.octets (k == 0) (k + 1 == fs.length) part := by
  obtain ⟨hpoints, hfir, hwritable⟩ := points_configure hstatic hmax hroom
  obtain ⟨fs, s', hload, hempty, hanswers⟩ :=
    loadFragments_spec (measurementWriter writeFloat) hnum hwritable rfl hfour
    (hpoints ▸ hlen)
  rw [hfir, hpoints] at hanswers
  obtain ⟨parts, hflat, hparts, hall⟩ := hanswers.publishes readFloat (isInteger_requested hinteger)
  exact ⟨fs, s', parts, hload, hempty, hflat, hparts, fun k f part db hf hpart hdb ↦ by
    simpa using hall k f part db hf hpart hdb⟩

/-- Six binary points that are on, and a counter beyond its field. -/
def polledDatabase : Database Measurement :=
  (Database.new.configure .binary 6 ⟨0x81, 0⟩).configure .counter 1 ⟨0x01, 0, 70000⟩

/-- A read of class 0, and of counters of 16 bits. -/
def polledRead : APDU where
  mBuffer := [0xC0, 0x01, 60, 1, 6, 20, 2, 0, 0, 0]
  getControl := ⟨true, true, false, false, 0⟩
  getFunction := .read
  mObjectHeaders := [⟨2, 60, 1, .allObj, 0, 0, .allObjects, ⟨60, 1, .placeholder⟩⟩,
    ⟨5, 20, 2, .startStop1B, 1, 0, .ranged2Octet, ⟨20, 2, .fixed 3⟩⟩]

/-- Fragments of 14 octets have to be enough. -/
theorem poll_publishes_class0 :
    APDU.interpret polledRead.mBuffer = .ok polledRead ∧
    ∃ (fs : List (OutAPDU (List Byte))) (s' : Static)
      (parts : List (List (Sigma StreamObject × ℕ))),
      loadFragments (measurementWriter fun _ _ _ ↦ []) (List.replicate 9 polledDatabase) (.new 14)
        (configure polledDatabase polledRead (new defaultTypes)) = .ok (fs, s') ∧
      s'.isStaticEmpty = true ∧
        parts.flatten = requested polledDatabase.numType defaultTypes polledRead ∧
      parts.length = fs.length ∧
      ∀ k f part db, fs[k]? = some f → parts[k]? = some part →
        (List.replicate 9 polledDatabase)[k]? = some db →
        Publishes (fun _ _ ↦ 0) db f.octets (k == 0) (k + 1 == fs.length) part := by
  refine ⟨by rfl, ?_⟩
  exact @poll_publishes (fun _ _ ↦ 0) (fun _ _ _ ↦ []) polledDatabase
    (List.replicate 9 polledDatabase) polledRead
    (new defaultTypes) (.new 14) (by unfold HeaderInfo.IsStaticRead; decide) (by decide)
    (fun db hdb aType ↦ by rw [List.eq_of_mem_replicate hdb])
    (fun aType ↦ by cases aType <;> decide) (by decide) (by decide) (by decide)

end ResponseContext.Static

end OpenDNP3
