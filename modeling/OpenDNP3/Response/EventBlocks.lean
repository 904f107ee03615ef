import OpenDNP3.Codec.Image
import OpenDNP3.Response.EventWrite
import OpenDNP3.Response.StaticReads
import OpenDNP3.App.Blocks

/-!
# The blocks of events

What the master makes of the events in a fragment.  Their objects carry their indices, and there are
as many of them in a block as there is room for.

* `OutAPDU.Gives` — from one fragment to another, blocks have been added of which the master
  publishes this.
* `withCommonTimes` — the events, each with the common time that it is relative to.
* `reported` — what gets to the observer of an event.
-/

set_option autoImplicit false

namespace OpenDNP3

open Objects (BoolDataPoint TypedDataPoint Group51Var1 commonTime useCTO)

/-! ## Headers with a count -/

/-- The header that `GetIndexedQualifier` stands for. -/
def indexedHeader (aMaxIndex aCount : ℕ) : ObjectHeaderTypes :=
  if aMaxIndex ≤ 0xFF ∧ aCount ≤ 0xFF then .count1Octet
  else if aMaxIndex ≤ 0xFFFF ∧ aCount ≤ 0xFFFF then .count2Octet
  else .count4Octet

/-- What is known of the qualifier of objects with indices. -/
structure QualifierCode.Indexed (q : QualifierCode) (aMaxIndex aCount : ℕ) : Prop where
  header : getCountHeader q = .ok (indexedHeader aMaxIndex aCount)
  fixed : ∀ n, getPrefixSizeAndValidate q (.fixed n) = .ok q.indexSize
  sized : getPrefixSizeAndValidate q .sizeByVariation = .ok q.indexSize
  mode : IndexedWriteIterator.getIndexMode q = .ok (some (256 ^ q.indexSize - 1))
  index : aMaxIndex < 256 ^ q.indexSize
  count : aCount ≤ (indexedHeader aMaxIndex aCount).maxField
  ne_zero : q.indexSize ≠ 0
  small : (indexedHeader aMaxIndex aCount).getSize + q.indexSize ≤ 11

/-- **The qualifier that is chosen suits.** -/
theorem OutAPDU.getIndexedQualifier_indexed {aMaxIndex aCount : ℕ} (hindex : aMaxIndex ≤ 0xFFFFFFFF)
    (hcount : aCount ≤ 0xFFFFFFFF) :
    (getIndexedQualifier aMaxIndex aCount).Indexed aMaxIndex aCount := by
  by_cases hone : aMaxIndex ≤ 0xFF ∧ aCount ≤ 0xFF
  · have hq : getIndexedQualifier aMaxIndex aCount = .cnt1BIndex1B := if_pos hone
    have ht : indexedHeader aMaxIndex aCount = .count1Octet := if_pos hone
    rw [hq]
    exact ⟨by rw [ht]; rfl, fun _ ↦ rfl, rfl, rfl, Nat.lt_succ_of_le hone.1,
      by rw [ht]; exact hone.2, by decide, by rw [ht]; decide⟩
  · by_cases htwo : aMaxIndex ≤ 0xFFFF ∧ aCount ≤ 0xFFFF
    · have hq : getIndexedQualifier aMaxIndex aCount = .cnt2BIndex2B :=
        (if_neg hone).trans (if_pos htwo)
      have ht : indexedHeader aMaxIndex aCount = .count2Octet := (if_neg hone).trans (if_pos htwo)
      rw [hq]
      exact ⟨by rw [ht]; rfl, fun _ ↦ rfl, rfl, rfl, Nat.lt_succ_of_le htwo.1,
        by rw [ht]; exact htwo.2, by decide, by rw [ht]; decide⟩
    · have hq : getIndexedQualifier aMaxIndex aCount = .cnt4BIndex4B :=
        (if_neg hone).trans (if_neg htwo)
      have ht : indexedHeader aMaxIndex aCount = .count4Octet := (if_neg hone).trans (if_neg htwo)
      rw [hq]
      exact ⟨by rw [ht]; rfl, fun _ ↦ rfl, rfl, rfl, Nat.lt_succ_of_le hindex,
        by rw [ht]; exact hcount, by decide, by rw [ht]; decide⟩

namespace OutAPDU

variable {f : OutAPDU (List Byte)}

/-- How many objects with indices there is room for. -/
def indexedCount (f : OutAPDU (List Byte)) (aSize : ℕ) (q : QualifierCode)
    (aMaxIndex aCount : ℕ) : ℕ :=
  min aCount ((f.remainder - (indexedHeader aMaxIndex aCount).getSize) / (aSize + q.indexSize))

/-- The header is written for as many objects as there is room for, and not at all where there is
room for none. -/
theorem writeCountHeader_indexed {q : QualifierCode} {aSize aGrp aVar aMaxIndex aCount n : ℕ}
    (hq : q.Indexed aMaxIndex aCount) (hpos : 0 < aCount)
    (hn : f.indexedCount aSize q aMaxIndex aCount = n) :
    f.writeCountHeader aSize q.indexSize aGrp aVar aCount q = .ok (
      if n = 0 then (f, {})
      else (f.startBlock ⟨aGrp, aVar, q, [], none⟩
          ((indexedHeader aMaxIndex aCount).getSize + n * (aSize + q.indexSize)),
        { mMaxIndex := some (256 ^ q.indexSize - 1), mCount := n })) := by
  rw [indexedCount] at hn
  rw [writeCountHeader, hq.header, except_ok_bind]
  by_cases hhdr : (indexedHeader aMaxIndex aCount).getSize > f.remainder
  · have hzero : f.remainder - (indexedHeader aMaxIndex aCount).getSize = 0 :=
      Nat.sub_eq_zero_of_le (Nat.le_of_lt hhdr)
    rw [hzero, Nat.zero_div, Nat.min_zero] at hn
    rw [if_pos hhdr, if_pos hn.symm]
    rfl
  · rw [if_neg hhdr]
    by_cases hroom : (f.remainder - (indexedHeader aMaxIndex aCount).getSize) /
      (aSize + q.indexSize) = 0
    · rw [hroom, Nat.min_zero] at hn
      simp only [hroom, if_true]
      rw [if_pos hn.symm]
      rfl
    · have hcount : (if aCount < (f.remainder - (indexedHeader aMaxIndex aCount).getSize) /
          (aSize + q.indexSize)
          then aCount else (f.remainder - (indexedHeader aMaxIndex aCount).getSize) /
            (aSize + q.indexSize)) = n := by
        rw [← hn]
        split <;> omega
      have hle := hq.count
      simp only [if_neg hroom, hcount, hq.mode]
      rw [if_neg (by omega), if_neg (by omega)]
      rfl

/-- The objects that are counted fit. -/
theorem fits_of_indexedCount {q : QualifierCode} {aSize aMaxIndex aCount n : ℕ}
    (hq : q.Indexed aMaxIndex aCount)
    (hn : f.indexedCount aSize q aMaxIndex aCount = n) (hzero : n ≠ 0) :
    f.mFragmentSize + ((indexedHeader aMaxIndex aCount).getSize + n * (aSize + q.indexSize)) ≤
      f.mMaxSize := by
  have hroom : n * (aSize + q.indexSize) ≤ f.remainder -
      (indexedHeader aMaxIndex aCount).getSize := by
    rw [← hn]
    exact Nat.le_trans (Nat.mul_le_mul_right _ (Nat.min_le_right _ _)) (Nat.div_mul_le_self _ _)
  have hone : 0 < n * (aSize + q.indexSize) :=
    Nat.mul_pos (Nat.pos_of_ne_zero hzero) (Nat.add_pos_right _ (Nat.pos_of_ne_zero hq.ne_zero))
  rw [remainder] at hroom
  omega

/-- There is room for one object. -/
theorem indexedCount_pos {q : QualifierCode} {aSize aMaxIndex aCount : ℕ}
    (hq : q.Indexed aMaxIndex aCount)
    (hpos : 0 < aCount) (hroom : 11 + aSize ≤ f.remainder) :
    0 < f.indexedCount aSize q aMaxIndex aCount := by
  have hsmall := hq.small
  exact Nat.lt_min.mpr
    ⟨hpos, Nat.div_pos (by omega) (Nat.add_pos_right _ (Nat.pos_of_ne_zero hq.ne_zero))⟩

end OutAPDU

/-! ## What the master publishes of blocks -/

namespace ResponseLoader

/-- The loader after a block. -/
def after (readFloat : ℕ → List Byte → ℚ) (s : ResponseLoader) (b : Block (List Byte)) :
    ResponseLoader :=
  { (s.load readFloat b).1 with mCTO := (s.load readFloat b).1.mCTO.nextHeader }

theorem loadAll_append (readFloat : ℕ → List Byte → ℚ) (s : ResponseLoader)
    (bs bs' : List (Block (List Byte))) :
    s.loadAll readFloat (bs ++ bs') = s.loadAll readFloat bs ++
      (bs.foldl (after readFloat) s).loadAll readFloat bs' := by
  induction bs generalizing s with
  | nil => rfl
  | cons b bs ih =>
    have hrest := ih (s.after readFloat b)
    simp only [List.cons_append, loadAll, List.foldl_cons, List.append_assoc]
    exact congrArg _ hrest

end ResponseLoader

/-- **Blocks have been added of which the master publishes this**, whatever came before them. -/
structure OutAPDU.Gives (readFloat : ℕ → List Byte → ℚ) (f g : OutAPDU (List Byte))
    (pubs : List Published) : Prop where
  blocks : ∃ bs, f.Adds g bs ∧ (∀ b ∈ bs, ∃ t o, b.Formed true t o) ∧
    ∀ s : ResponseLoader, s.loadAll readFloat (bs.map Block.seen) = pubs

namespace OutAPDU.Gives

variable {readFloat : ℕ → List Byte → ℚ} {f g h : OutAPDU (List Byte)} {pubs pubs' : List Published}

theorem refl (f : OutAPDU (List Byte)) : Gives readFloat f f [] :=
  ⟨[], .refl f, fun _ hb ↦ absurd hb List.not_mem_nil, fun _ ↦ rfl⟩

theorem trans (hfg : Gives readFloat f g pubs) (hgh : Gives readFloat g h pubs') :
    Gives readFloat f h (pubs ++ pubs') := by
  obtain ⟨bs, hadds, hformed, hload⟩ := hfg
  obtain ⟨bs', hadds', hformed', hload'⟩ := hgh
  refine ⟨bs ++ bs', hadds.trans hadds', fun b hb ↦ (List.mem_append.mp hb).elim (hformed b)
    (hformed' b), fun s ↦ ?_⟩
  rw [List.map_append, ResponseLoader.loadAll_append, hload, hload']

theorem function (hfg : Gives readFloat f g pubs) : g.function = f.function := by
  obtain ⟨bs, hadds, -⟩ := hfg
  exact hadds.function

theorem maxSize (hfg : Gives readFloat f g pubs) : g.mMaxSize = f.mMaxSize := by
  obtain ⟨bs, hadds, -⟩ := hfg
  exact hadds.maxSize

theorem fits (hfg : Gives readFloat f g pubs) (hf : f.mFragmentSize ≤ f.mMaxSize) :
    g.mFragmentSize ≤ g.mMaxSize := by
  obtain ⟨bs, hadds, -⟩ := hfg
  exact hadds.fits hf

end OutAPDU.Gives

/-! ## What is left of an event -/

section Events

variable {aType : DataTypes}

/-- An event is about a point, and its time goes into 48 bits. -/
structure EventInfo.Fits (maxIndex : ℕ) (e : EventInfo (Measurement aType)) : Prop where
  index : e.mIndex ≤ maxIndex
  time : Packer.uInt48LE.Holds (getTime aType e.mValue)

/-- **What gets to the observer** of an event with this common time.  The master reads no absolute
time of a binary point, and of a relative one it reads the last 16 bits. -/
def reported : (aType : DataTypes) → Objects.StreamObject (Measurement aType) → ℤ →
    Measurement aType → Measurement aType
  | .binary, c, start, v | .controlStatus, c, start, v =>
    { v with mTime := if useCTO c.base then start + (v.mTime - start) % 65536 else 0 }
  | .counter, c, _, v | .analog, c, _, v | .setpointStatus, c, _, v => v.image c.fields

/-- The master has a case for the class. -/
def isLoaded {α : Type} (c : Objects.StreamObject α) : Bool :=
  (loadCase (fun _ _ ↦ 0) (radix c.base.getGroup c.base.getVariation)).isSome

/-- The events with their common times, from a common time on.  An event that is too late for it
starts a new one. -/
def follow : ℤ → List (EventInfo (Measurement aType)) → List (ℤ × EventInfo (Measurement aType))
  | _, [] => []
  | start, e :: es =>
    if getTime aType e.mValue - start > Packer.uInt16LE.max then
      (getTime aType e.mValue, e) :: follow (getTime aType e.mValue) es
    else (start, e) :: follow start es

/-- **The events with their common times**, of which the first is that of the first event. -/
def withCommonTimes : List (EventInfo (Measurement aType)) →
    List (ℤ × EventInfo (Measurement aType))
  | [] => []
  | e :: es => (getTime aType e.mValue, e) :: follow (getTime aType e.mValue) es

/-- What is published of events that are written with a class. -/
def publishedAs (c : Objects.StreamObject (Measurement aType))
    (es : List (ℤ × EventInfo (Measurement aType))) :
    List Published :=
  if isLoaded c then es.map fun a ↦ .update aType a.2.mIndex
    (reported aType c a.1 a.2.mValue) else []

/-- What is known of a class of events. -/
structure IsEventClass (readFloat : ℕ → List Byte → ℚ)
    (c : Objects.StreamObject (Measurement aType)) : Prop where
  known : c.base ∈ ObjectBase.known
  fixed : c.base.getType = .fixed c.getSize
  pos : 0 < c.getSize
  le : c.getSize ≤ 11
  flag : c.fields.mFlag.isSome = true
  case : loadCase readFloat (radix c.base.getGroup c.base.getVariation) =
    if isLoaded c then some (integerObject aType c) else none
  other : c.base.getGroup ≠ 112 ∧ c.base.getGroup ≠ 113

theorem loadCase_eventClasses (readFloat : ℕ → List Byte → ℚ) : ∀ c ∈ eventClasses aType,
    loadCase readFloat (radix c.base.getGroup c.base.getVariation) =
      if isLoaded c then some (integerObject aType c) else none := by
  have hnil {α : Type} {p : α → Prop} : ∀ c ∈ ([] : List α), p c :=
    fun _ h ↦ absurd h List.not_mem_nil
  cases aType with
  | controlStatus | setpointStatus => exact hnil
  | binary | counter | analog =>
    simp only [eventClasses, List.forall_mem_cons, isLoaded]
    simp [loadCase, loadCases, radix, Objects.Group2Var1, Objects.Group2Var2, Objects.Group2Var3,
      Objects.Group22Var1, Objects.Group22Var2, Objects.Group22Var5, Objects.Group22Var6,
        Objects.Group32Var1,
      Objects.Group32Var2, Objects.Group32Var3, Objects.Group32Var4]

theorem isEventClass (readFloat : ℕ → List Byte → ℚ) : ∀ c ∈ eventClasses aType,
    IsEventClass readFloat c := by
  have hfacts : ∀ c ∈ eventClasses aType, c.base ∈ ObjectBase.known ∧
    c.base.getType = .fixed c.getSize ∧
      0 < c.getSize ∧ c.getSize ≤ 11 ∧ c.fields.mFlag.isSome = true ∧
      c.base.getGroup ≠ 112 ∧ c.base.getGroup ≠ 113 := by
    cases aType <;> decide
  intro c hc
  obtain ⟨hknown, hfixed, hpos, hle, hflag, hother⟩ := hfacts c hc
  exact ⟨hknown, hfixed, hpos, hle, hflag, loadCase_eventClasses readFloat c hc, hother⟩

end Events

/-! ## Octets of events -/

open LittleEndian in
/-- What an unsigned field of two octets holds, whatever it is set to. -/
theorem Packer.read_write_uInt16LE (v : ℤ) : Packer.uInt16LE.read (Packer.uInt16LE.write v) =
    v % 65536 := by
  show ((decode ((encode 2 v).take 2) : ℕ) : ℤ) = v % 65536
  rw [List.take_of_length_le (Nat.le_of_eq (length_encode 2 v)), decode_encode]
  rfl

/-- An octet of a flag and a time of two octets. -/
theorem Objects.read_relative (v : BoolDataPoint) :
    (Objects.Group2Var3.octets v).length = 3 ∧
      Objects.Group2Var3.read (Objects.Group2Var3.octets v) = ⟨v.mQuality, v.mTime % 65536⟩ := by
  have hflaglen : (Pack.set ⟨.uInt8, 0⟩ (List.replicate 3 (0 : Byte)) v.mQuality.toNat).length =
      3 :=
    Pack.length_set (f := ⟨.uInt8, 0⟩) (by decide) _
  have hstop : (⟨.uInt16LE, 1⟩ : Pack).stop ≤
      (Pack.set ⟨.uInt8, 0⟩ (List.replicate 3 (0 : Byte)) v.mQuality.toNat).length := by
    rw [hflaglen]
    decide
  have hlen : (Objects.Group2Var3.octets v).length = 3 :=
    (Pack.length_set hstop v.mTime).trans hflaglen
  have hflag : Pack.get ⟨.uInt8, 0⟩ (Objects.Group2Var3.octets v) = v.mQuality.toNat := by
    refine (Pack.get_set_of_disjoint hstop (by decide) v.mTime).trans ?_
    exact Pack.get_set_self (f := ⟨.uInt8, 0⟩) (by decide) (Objects.holds_octet _)
  have htime : Pack.get ⟨.uInt16LE, 1⟩ (Objects.Group2Var3.octets v) = v.mTime % 65536 := by
    have hslice : LittleEndian.slice (Objects.Group2Var3.octets v) 1
      (Packer.uInt16LE.write v.mTime).length =
        Packer.uInt16LE.write v.mTime :=
      LittleEndian.slice_splice_self (by rw [Packer.length_write]; exact hstop)
    rw [Packer.length_write] at hslice
    exact (congrArg Packer.uInt16LE.read hslice).trans (Packer.read_write_uInt16LE v.mTime)
  refine ⟨hlen, ?_⟩
  show BoolDataPoint.mk (BitVec.ofInt 8 (Pack.get ⟨.uInt8, 0⟩ _)) (Pack.get ⟨.uInt16LE, 1⟩ _) = _
  rw [hflag, htime, Objects.ofInt_toNat]

section Octets

variable {aType : DataTypes} {c : Objects.StreamObject (Measurement aType)}

/-- Every class takes so many octets. -/
theorem length_octets (hc : c ∈ eventClasses aType) {v : Measurement aType}
    (hv : Packer.uInt48LE.Holds (getTime aType v)) : (c.octets v).length = c.getSize ∧
      (useCTO c.base = false → c.read (c.octets v) = reported aType c 0 v) := by
  cases aType with
  | controlStatus | setpointStatus => exact absurd hc List.not_mem_nil
  | binary =>
    have hread {o : Objects.StreamObject BoolDataPoint} (hsize : 1 ≤ o.getSize)
        (ho : o.fields.mFlag = some ⟨.uInt8, 0⟩)
        (hlen : (o.octets v).length = o.getSize)
        (hget : Objects.getOctet o.fields.mFlag (o.octets v) = v.mQuality)
        (hread : ∀ p, o.read p = ⟨Objects.getOctet o.fields.mFlag p, 0⟩)
          (habsolute : useCTO o.base = false) :
        (o.octets v).length = o.getSize ∧
          (useCTO o.base = false → o.read (o.octets v) = reported .binary o 0 v) := by
      refine ⟨hlen, fun _ ↦ ?_⟩
      rw [hread, hget, reported, habsolute]
      rfl
    simp only [eventClasses, List.mem_cons, List.not_mem_nil, or_false] at hc
    rcases hc with rfl | rfl | rfl
    · refine hread (by decide) rfl ?_ ?_ (fun _ ↦ rfl) (by decide)
      · exact Pack.length_set (f := ⟨.uInt8, 0⟩) (p := List.replicate 1 0) (by decide) _
      · exact Objects.getOctet_writeQ Objects.flag rfl (by decide) v
    · have hholds : Objects.HoldsTime Objects.Group2Var2.fields v.mTime := by
        rintro f hf
        obtain rfl := Option.some.inj hf
        exact hv
      have hapart : Pack.Apart (List.replicate 7 (0 : Byte)).length [⟨.uInt8, 0⟩, ⟨.uInt48LE, 1⟩] :=
        by decide
      refine hread (by decide) rfl ?_ ?_ (fun _ ↦ rfl) (by decide)
      · exact Pack.length_setAll
          (l := [(⟨.uInt8, 0⟩, v.mQuality.toNat), (⟨.uInt48LE, 1⟩, v.mTime)]) hapart
      · exact (Objects.getField_writeQT Objects.Group2Var2.fields rfl rfl hapart v hholds).1
    · exact ⟨(Objects.read_relative v).1, fun h ↦ absurd h (by decide)⟩
  | counter =>
    have hsub : ∀ c ∈ eventClasses .counter, c ∈ Objects.counters ∧
        (∀ f ∈ c.fields.mTime, f.packer = .uInt48LE) := by
      simp only [eventClasses, List.forall_mem_cons]
      refine ⟨⟨?_, fun f hf ↦ absurd hf (Option.not_mem_none f)⟩,
        ⟨?_, fun f hf ↦ absurd hf (Option.not_mem_none f)⟩,
        ⟨?_, fun f hf ↦ Option.some.inj hf ▸ rfl⟩, ⟨?_, fun f hf ↦ Option.some.inj hf ▸ rfl⟩,
        fun _ h ↦ absurd h List.not_mem_nil⟩ <;> simp [Objects.counters]
    obtain ⟨hmem, htime⟩ := hsub c hc
    have hholds : Objects.HoldsTime c.fields v.mTime := fun f hf ↦ (htime f hf).symm ▸ hv
    obtain ⟨hread, hlen⟩ := Objects.carries_counters c hmem (List.replicate c.getSize 0) v
      (by simp) hholds
    exact ⟨hlen.trans (by simp), fun _ ↦ hread⟩
  | analog =>
    have hsub : ∀ c ∈ eventClasses .analog, c ∈ Objects.analogs ∧
        (∀ f ∈ c.fields.mTime, f.packer = .uInt48LE) := by
      simp only [eventClasses, List.forall_mem_cons]
      refine ⟨⟨?_, fun f hf ↦ absurd hf (Option.not_mem_none f)⟩,
        ⟨?_, fun f hf ↦ absurd hf (Option.not_mem_none f)⟩,
        ⟨?_, fun f hf ↦ Option.some.inj hf ▸ rfl⟩, ⟨?_, fun f hf ↦ Option.some.inj hf ▸ rfl⟩,
        fun _ h ↦ absurd h List.not_mem_nil⟩ <;> simp [Objects.analogs]
    obtain ⟨hmem, htime⟩ := hsub c hc
    have hholds : Objects.HoldsTime c.fields v.mTime := fun f hf ↦ (htime f hf).symm ▸ hv
    obtain ⟨hread, hlen⟩ := Objects.carries_analogs c hmem (List.replicate c.getSize 0) v
      (by simp) hholds
    exact ⟨hlen.trans (by simp), fun _ ↦ hread⟩

end Octets

/-! ## Blocks of events -/

section Blocks

variable {aType : DataTypes} {c : Objects.StreamObject (Measurement aType)}
    {readFloat : ℕ → List Byte → ℚ}

/-- A block whose objects carry their indices is read as it is. -/
theorem Block.seen_of_indexed {b : Block (List Byte)} (h : b.qualifier.indexSize ≠ 0) :
    b.seen = b := by
  have hobjects : b.objects.mapIdx (fun k obj ↦ (b.seenIndex k, obj.2)) = b.objects := by
    refine List.ext_getElem? fun k ↦ ?_
    rw [List.getElem?_mapIdx]
    cases hobj : b.objects[k]? with
    | none => rfl
    | some obj =>
      rw [Block.seenIndex, if_pos h, List.getD_eq_getElem?_getD, hobj]
      rfl
  rw [Block.seen, hobjects]

/-- The block of events, with the octets that are written of each. -/
def eventBlock (c : Objects.StreamObject (Measurement aType)) (q : QualifierCode)
    (put : Measurement aType → List Byte)
    (es : List (EventInfo (Measurement aType))) : Block (List Byte) :=
  ⟨c.base.getGroup, c.base.getVariation, q, es.map fun e ↦ (e.mIndex, put e.mValue), none⟩

/-- **What the master makes of a block of events.** -/
theorem load_eventBlock (hc : c ∈ eventClasses aType) {q : QualifierCode}
    {put : Measurement aType → List Byte}
    {es : List (EventInfo (Measurement aType))} {s : ResponseLoader} {start : ℤ}
    (hcto : useCTO c.base = true → s.mCTO.getCTO = some start)
    (hput : ∀ e ∈ es, ∀ t, (useCTO c.base = true → t = start) →
      ResponseLoader.loaded ⟨c.fields.mFlag.isSome, useCTO c.base, c.read⟩ t (put e.mValue) =
        reported aType c start e.mValue) :
    s.load readFloat (eventBlock c q put es) = (s, publishedAs c (es.map (start, ·))) := by
  have hclass := isEventClass readFloat c hc
  rw [ResponseLoader.load, show (eventBlock c q put es).group = c.base.getGroup from rfl,
    show (eventBlock c q put es).variation = c.base.getVariation from rfl, hclass.case, publishedAs]
  by_cases hloaded : isLoaded c = true
  · have hsome : ¬(useCTO c.base = true ∧ s.mCTO.getCTO = none) := by
      rintro ⟨huse, hnone⟩
      rw [hcto huse] at hnone
      cases hnone
    have ht : useCTO c.base = true → s.mCTO.getCTO.getD 0 = start :=
      fun huse ↦ by rw [hcto huse]; rfl
    rw [if_pos hloaded, if_pos hloaded]
    simp only [integerObject, if_neg hsome, eventBlock, List.map_map]
    refine congrArg (s, ·) (List.map_congr_left fun e he ↦ ?_)
    simp only [Function.comp_apply, hput e he _ ht]
  · rw [if_neg hloaded, if_neg hloaded]
    refine congrArg (s, ·) ?_
    simp only [eventBlock]
    cases es with
    | nil => rfl
    | cons e es => rw [List.map_cons, ResponseLoader.vtoObjects, if_neg
        fun h ↦ h.1.elim hclass.other.1 hclass.other.2]

/-- The loop writes as many events as the iterator has places. -/
theorem writeEvents_startBlock (put : Measurement aType → List Byte) {f : OutAPDU (List Byte)}
    {m num : ℕ}
    {es : List (EventInfo (Measurement aType))} (hnum : num ≤ es.length)
    (hindex : ∀ e ∈ es, e.mIndex ≤ m) (j count size : ℕ) (b : Block (List Byte)) :
    writeEvents put num es ⟨some m, j, count, false⟩ (f.startBlock b size) = .ok
      (min num (count - j), f.startBlock
      { b with
        objects := b.objects ++
          (es.take (min num (count - j))).map fun e ↦ (e.mIndex, put e.mValue) } size) := by
  induction num generalizing es j b with
  | zero => simp [writeEvents]
  | succ n ih =>
    obtain ⟨e, es, rfl⟩ := List.exists_cons_of_length_pos (Nat.lt_of_lt_of_le (Nat.succ_pos n) hnum)
    by_cases hend : count ≤ j
    · have hzero : count - j = 0 := Nat.sub_eq_zero_of_le hend
      simp [writeEvents, IndexedWriteIterator.isEnd, hend, hzero]
    · have hfits : ¬e.mIndex > m := Nat.not_lt.mpr (hindex e List.mem_cons_self)
      have hrest := @ih es (Nat.le_of_succ_le_succ hnum)
        (fun e he ↦ hindex e (List.mem_cons_of_mem _ he)) (j + 1)
        { b with objects := b.objects ++ [(e.mIndex, put e.mValue)] }
      have hcount : min (n + 1) (count - j) = min n (count - (j + 1)) + 1 := by omega
      rw [writeEvents]
      simp only [IndexedWriteIterator.isEnd, IndexedWriteIterator.setIndex,
        IndexedWriteIterator.deref, IndexedWriteIterator.next, hend, hfits, decide_false,
        Bool.false_eq_true, if_false,
          Option.any_some, bind,
        Except.bind, Bool.not_true, OutAPDU.pushObject_startBlock]
      rw [hrest, hcount]
      simp [pure, Except.pure]

/-- The header of events is written for as many as there is room for. -/
theorem writeIndexedEvents_eq {f : OutAPDU (List Byte)} (hf : f.function = some .response)
    {put : Measurement aType → List Byte} {max_index num n : ℕ}
    {es : List (EventInfo (Measurement aType))} (hpos : 0 < num) (hnum : num ≤ es.length)
    {q : QualifierCode} (hqual : OutAPDU.getIndexedQualifier max_index num = q)
    (hq : q.Indexed max_index num)
    (hindex : ∀ e ∈ es, e.mIndex ≤ max_index) (hn : f.indexedCount c.getSize q max_index num = n) :
    writeIndexedEvents c put max_index num es f = .ok (n, if n = 0 then f
      else f.startBlock (eventBlock c q put (es.take n))
        ((indexedHeader max_index num).getSize + n * (c.getSize + q.indexSize))) := by
  have hstate : f.checkWriteState = .ok () := by rw [OutAPDU.checkWriteState, hf]; rfl
  have hdata : f.hasData = true := by rw [OutAPDU.hasData, hf]; rfl
  have hheader : f.writeCountHeader c.getSize q.indexSize c.base.getGroup c.base.getVariation num
      q = _ :=
    OutAPDU.writeCountHeader_indexed hq hpos hn
  have hmax := hq.index
  have hle : n ≤ num := hn ▸ Nat.min_le_left _ _
  rw [writeIndexedEvents, hqual, OutAPDU.writeIndexed, hstate, except_ok_bind, hq.fixed,
    except_ok_bind, hdata, if_pos rfl, hheader, except_ok_bind]
  by_cases hzero : n = 0
  · rw [if_pos hzero, if_pos hzero, hzero]
    obtain ⟨k, rfl⟩ := Nat.exists_eq_succ_of_ne_zero (Nat.ne_of_gt hpos)
    obtain ⟨e, es, rfl⟩ := List.exists_cons_of_length_pos (Nat.lt_of_lt_of_le (Nat.succ_pos k) hnum)
    rfl
  · rw [if_neg hzero, if_neg hzero]
    have hloop := writeEvents_startBlock put (f := f) (m := 256 ^ q.indexSize - 1) hnum
      (fun e he ↦ by have := hindex e he; omega) 0 n
      ((indexedHeader max_index num).getSize + n * (c.getSize + q.indexSize))
      ⟨c.base.getGroup, c.base.getVariation, q, [], none⟩
    have hmin : min num (n - 0) = n := by omega
    rw [hmin] at hloop
    exact hloop

/-- The header of a block of events says what is in it. -/
theorem formed_eventBlock (hc : c ∈ eventClasses aType) {put : Measurement aType → List Byte}
    {q : QualifierCode}
    {max_index num : ℕ} (hq : q.Indexed max_index num) {es : List (EventInfo (Measurement aType))}
    (hlen : es.length ≤ num)
    (hes : ∀ e ∈ es, e.mIndex ≤ max_index ∧ (put e.mValue).length = c.getSize) :
    ∃ t, (eventBlock c q put es).Formed true t c.base := by
  have hclass := isEventClass (fun _ _ ↦ 0) c hc
  obtain ⟨hgroup, hvariation, hsized, -⟩ := ObjectBase.of_mem_known hclass.known
  obtain ⟨hheader, hcount⟩ := OutAPDU.getCountHeader_eq_ok hq.header
  have hfixed := hclass.fixed
  have hsuits := ((getPrefixSizeAndValidate_eq_ok (by rw [hfixed]; rintro ⟨⟩)).mp
    (hfixed ▸ hq.fixed c.getSize)).1
  have hmax := (indexedHeader max_index num).maxField_lt
  have hle := hq.count
  have hindex := hq.index
  have hall : indexedHeader max_index num ≠ .allObjects := by
    intro h
    rw [h] at hcount
    cases hcount
  have hmem {obj : ℕ × List Byte} (hobj : obj ∈ (eventBlock c q put es).objects) :
      obj.1 ≤ max_index ∧ obj.2.length = c.getSize := by
    obtain ⟨e, he, rfl⟩ := List.mem_map.mp hobj
    exact hes e he
  refine ⟨_, .inl ⟨hclass.known, rfl, rfl⟩, hgroup, hvariation, hheader, hsuits,
    fun h ↦ absurd h hall, fun h ↦ ?_,
    fun _ ↦ rfl, fun _ ↦ ?_, fun _ obj hobj ↦ ?_, fun obj hobj ↦ ?_, fun _ h ↦ ?_,
      fun h ↦ absurd h hsized, fun _ h ↦ ?_⟩
  · rw [hcount] at h
    cases h
  · simp only [eventBlock, List.length_map]
    omega
  · have := (hmem hobj).1
    show obj.1 < 256 ^ q.indexSize
    omega
  · rw [Block.dataSize, if_pos rfl, hfixed, (hmem hobj).2]
  · rw [hfixed] at h
    cases h
  · rw [hfixed] at h
    cases h

/-- The blocks of so many events. -/
def eventBlocks (c : Objects.StreamObject (Measurement aType)) (q : QualifierCode)
    (put : Measurement aType → List Byte)
    (es : List (EventInfo (Measurement aType))) : List (Block (List Byte)) :=
  if es.length = 0 then [] else [eventBlock c q put es]

/-- **What `WriteIndexed` writes of events**, with the loop that follows it. -/
theorem writeIndexedEvents_spec {f : OutAPDU (List Byte)} (hf : f.function = some .response)
    (hc : c ∈ eventClasses aType) (put : Measurement aType → List Byte) {max_index num : ℕ}
    {es : List (EventInfo (Measurement aType))} (hpos : 0 < num) (hnum : num ≤ es.length)
    (hcount : num ≤ 0xFFFFFFFF)
    (hmax : max_index ≤ 0xFFFFFFFF)
    (hes : ∀ e ∈ es, e.mIndex ≤ max_index ∧ (put e.mValue).length = c.getSize) :
    ∃ n g q, writeIndexedEvents c put max_index num es f = .ok (n, g) ∧ n ≤ num ∧
      (11 + c.getSize ≤ f.remainder → 0 < n) ∧ q.Indexed max_index num ∧
        f.Adds g (eventBlocks c q put (es.take n)) ∧
      ∀ b ∈ eventBlocks c q put (es.take n), ∃ t o, b.Formed true t o := by
  obtain ⟨q, hqual⟩ : ∃ q, OutAPDU.getIndexedQualifier max_index num = q := ⟨_, rfl⟩
  have hq : q.Indexed max_index num := hqual ▸ OutAPDU.getIndexedQualifier_indexed hmax hcount
  obtain ⟨n, hn⟩ : ∃ n, f.indexedCount c.getSize q max_index num = n := ⟨_, rfl⟩
  have hle : n ≤ num := hn ▸ Nat.min_le_left _ _
  have hlen : (es.take n).length = n := List.length_take_of_le (Nat.le_trans hle hnum)
  refine ⟨n, _, q, writeIndexedEvents_eq hf hpos hnum hqual hq (fun e he ↦ (hes e he).1) hn, hle,
    fun hroom ↦ hn ▸ OutAPDU.indexedCount_pos hq hpos hroom, hq, ?_, ?_⟩
  · rw [eventBlocks, hlen]
    by_cases hzero : n = 0
    · rw [if_pos hzero, if_pos hzero]
      exact .refl f
    · rw [if_neg hzero, if_neg hzero]
      exact ⟨rfl, rfl, rfl, fun _ ↦ OutAPDU.fits_of_indexedCount hq hn hzero⟩
  · intro b hb
    rw [eventBlocks] at hb
    split at hb
    · exact absurd hb List.not_mem_nil
    · obtain rfl := List.mem_singleton.mp hb
      obtain ⟨t, ht⟩ : ∃ t, (eventBlock c q put (es.take n)).Formed true t c.base :=
        formed_eventBlock hc hq (by omega) fun e he ↦ hes e (List.mem_of_mem_take he)
      exact ⟨t, c.base, ht⟩

end Blocks

end OpenDNP3
