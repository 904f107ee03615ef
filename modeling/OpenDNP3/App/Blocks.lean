import OpenDNP3.App.Writer

/-!
# The blocks that calls add

A call of the write interface adds a block of as many of its objects as there is room for, or none.
What a block says of itself is true, so a parser reads it back: this is shown here once for each
call, without looking at a buffer.

* `WriteCall.block` — the block that a call adds, if there is room for an object.
* `WriteCall.Valid.formed` — it is well formed.
* `OutAPDU.perform_eq` — the calls in terms of their blocks.
-/

set_option autoImplicit false

namespace OpenDNP3

open Handler LittleEndian

/-! ## The block of a call -/

/-- Objects with the numbers that a range gives them. -/
def numbered : ℕ → List (List Byte) → List (ℕ × List Byte)
  | _, [] => []
  | n, obj :: objs => (n, obj) :: numbered (n + 1) objs

namespace OutAPDU

variable (f : OutAPDU (List Byte))

/-- A block that goes into the fragment, if there is one. -/
def append : Option (Block (List Byte)) → OutAPDU (List Byte)
  | none => f
  | some b => f.startBlock b (b.octets f.hasData).length

/-- How many objects there is room for behind a header. -/
def room (pHdr : ObjectHeaderTypes) (aRoom : ℕ → ℕ) : ℕ :=
  if pHdr.getSize > f.remainder then 0 else aRoom (f.remainder - pHdr.getSize)

/-- The block of objects from a number on. -/
def rangeBlock (apObj : ObjectBase) (aRoom : ℕ → ℕ) (aStart : ℕ) (objs : List (List Byte))
    (aCode : QualifierCode) :
    Except Exception (Option (Block (List Byte))) := do
  let aCode := if aCode = .undefined then getContiguousQualifier (aStart + objs.length - 1)
    else aCode
  let pHdr ← getObjectHeader aCode
  let n := min objs.length (f.room pHdr aRoom)
  if n = 0 then return none
  let range ← writeContiguousHeader pHdr aStart (aStart + n - 1)
  return some ⟨apObj.getGroup, apObj.getVariation, aCode, numbered aStart (objs.take n), range⟩

/-- The block of objects with indices. -/
def countBlock (aSize aGrp aVar : ℕ) (aType : ObjectTypes) (objs : List (ℕ × List Byte))
    (aQual : QualifierCode) :
    Except Exception (Option (Block (List Byte))) := do
  let prefixSize ← getPrefixSizeAndValidate aQual aType
  let pHdr ← getCountHeader aQual
  let n := min objs.length (f.room pHdr (· / (aSize + prefixSize)))
  if f.room pHdr (· / (aSize + prefixSize)) = 0 then return none
  if n > pHdr.maxField then throw (.argument "")
  return some ⟨aGrp, aVar, aQual, objs.take n, none⟩

end OutAPDU

namespace WriteCall

/-- **The block that a call adds**, if there is room for an object: as many of the objects as there
is room for. -/
def block (f : OutAPDU (List Byte)) : WriteCall → Except Exception (Option (Block (List Byte)))
  | .setControl _ | .setIIN _ => .ok none
  | .contiguous apObj aObjSize aStart objs aCode =>
    f.rangeBlock apObj (· / aObjSize) aStart objs aCode
  | .bitfield apObj aStart bits aCode =>
    f.rangeBlock apObj (· * 8) aStart (bits.map f.bitObject) aCode
  | .indexed apObj aObjSize objs aCode =>
    f.countBlock (if f.hasData then aObjSize else 0) apObj.getGroup apObj.getVariation
      (.fixed aObjSize) objs aCode
  | .sized apObj aIndex obj =>
    f.countBlock (if f.hasData then obj.length else 0) apObj.getGroup obj.length .sizeByVariation
      [(aIndex, obj)]
      (OutAPDU.getIndexedQualifier aIndex 1)
  | .placeholder apObj =>
    .ok (if ObjectHeaderTypes.allObjects.getSize > f.remainder then none
      else some ⟨apObj.getGroup, apObj.getVariation, .allObj, [], none⟩)

/-- What a call does to the fragment. -/
def apply (f : OutAPDU (List Byte)) : WriteCall → Except Exception (OutAPDU (List Byte))
  | .setControl arControl => .ok (f.setControl arControl)
  | .setIIN arIIN => f.setIIN arIIN
  | c => f.append <$> c.block f

end WriteCall

/-! ## Blocks are well formed -/

theorem ObjectHeaderTypes.maxField_lt (t : ObjectHeaderTypes) : t.maxField < 256 ^ t.fieldSize := by
  cases t <;> decide

/-- The header that is written. -/
theorem OutAPDU.writeContiguousHeader_eq_ok {t : ObjectHeaderTypes} {aStart n : ℕ}
    {r : Option RangeInfo} (hn : 0 < n)
    (h : writeContiguousHeader t aStart (aStart + n - 1) = .ok r) :
    t ≠ .allObjects ∧ ((t.isCount = true ∧ n ≤ t.maxField ∧ r = none) ∨
      (t.isCount = false ∧ aStart + n - 1 ≤ t.maxField ∧ r = some ⟨aStart, aStart + n - 1⟩)) := by
  have hcount : aStart + n - 1 - aStart + 1 = n := by omega
  rw [writeContiguousHeader, hcount] at h
  by_cases hc : t.isCount = true
  · rw [if_pos hc] at h
    have hall : t ≠ .allObjects := by
      rintro rfl
      cases hc
    split at h
    · cases h
    · exact ⟨hall, .inl ⟨hc, by omega, (Except.ok.inj h).symm⟩⟩
  · rw [if_neg hc] at h
    split at h
    · cases h
    · split at h
      · cases h
      · split at h
        · cases h
        · exact ⟨‹_›, .inr ⟨by simpa using hc, by omega, (Except.ok.inj h).symm⟩⟩

@[simp] theorem length_numbered (n : ℕ) (objs : List (List Byte)) : (numbered n objs).length =
    objs.length := by
  induction objs generalizing n with
  | nil => rfl
  | cons obj objs ih => rw [numbered, List.length_cons, List.length_cons, ih]

theorem mem_of_mem_numbered {n : ℕ} {objs : List (List Byte)} {obj : ℕ × List Byte}
    (h : obj ∈ numbered n objs) :
    obj.2 ∈ objs := by
  induction objs generalizing n with
  | nil => exact absurd h List.not_mem_nil
  | cons o objs ih =>
    rw [numbered] at h
    rcases List.mem_cons.mp h with rfl | h
    · exact List.mem_cons_self
    · exact List.mem_cons_of_mem _ (ih h)

/-- The listed objects have a group and a variation of one octet, and what is fixed has a size. -/
theorem ObjectBase.of_mem_known {o : ObjectBase} (h : o ∈ known) :
    o.getGroup < 256 ∧ o.getVariation < 256 ∧ o.getType ≠ .sizeByVariation ∧
      o.getType ≠ .fixed 0 := by
  have hall : ∀ o ∈ known, o.getGroup < 256 ∧ o.getVariation < 256 ∧ o.getType ≠ .sizeByVariation ∧
      o.getType ≠ .fixed 0 := by decide
  exact hall o h

theorem ObjectBase.of_mem_knownGroups {o : ObjectBase} (h : o ∈ knownGroups) :
    o.getGroup < 256 ∧ o.getType = .sizeByVariation := by
  have hall : ∀ o ∈ knownGroups, o.getGroup < 256 ∧ o.getType = .sizeByVariation := by decide
  exact hall o h

namespace OutAPDU

variable {f : OutAPDU (List Byte)} {apObj : ObjectBase}

theorem getContiguousQualifier_suits (aStop : ℕ) {t : ObjectTypes}
    (h : (∃ n, t = .fixed n) ∨ t = .bitfield) : (getContiguousQualifier aStop).Suits t := by
  rw [getContiguousQualifier]
  split
  · exact .inr h
  · split
    · exact .inr h
    · exact .inr h

theorem indexSize_getContiguousQualifier (aStop : ℕ) :
    (getContiguousQualifier aStop).indexSize = 0 := by
  rw [getContiguousQualifier]
  split
  · rfl
  · split <;> rfl

/-- What is known of a block of objects from a number on. -/
theorem rangeBlock_eq_some {aRoom : ℕ → ℕ} {aStart : ℕ} {objs : List (List Byte)}
    {aCode : QualifierCode}
    {b : Block (List Byte)} (h : f.rangeBlock apObj aRoom aStart objs aCode = .ok (some b)) :
    ∃ q t n r, q = (if aCode = .undefined then getContiguousQualifier (aStart + objs.length - 1)
      else aCode) ∧
      getObjectHeader q = .ok t ∧ n = min objs.length (f.room t aRoom) ∧ n ≠ 0 ∧
      writeContiguousHeader t aStart (aStart + n - 1) = .ok r ∧
      b = ⟨apObj.getGroup, apObj.getVariation, q, numbered aStart (objs.take n), r⟩ := by
  obtain ⟨q, hq⟩ : ∃ q,
      (if aCode = .undefined then getContiguousQualifier (aStart + objs.length - 1) else aCode) =
        q :=
    ⟨_, rfl⟩
  simp only [rangeBlock, hq] at h
  obtain ⟨t, ht, h⟩ := except_bind_eq_ok.mp h
  obtain ⟨n, hn⟩ : ∃ n, min objs.length (f.room t aRoom) = n := ⟨_, rfl⟩
  simp only [hn] at h
  by_cases hzero : n = 0
  · rw [if_pos hzero] at h
    cases h
  · rw [if_neg hzero] at h
    obtain ⟨r, hr, h⟩ := except_bind_eq_ok.mp h
    exact ⟨q, t, n, r, hq.symm, ht, hn.symm, hzero, hr, (Option.some.inj (Except.ok.inj h)).symm⟩

/-- A block of objects from a number on is what its header says. -/
theorem formed_rangeBlock {d : Bool} {aRoom : ℕ → ℕ} {aStart : ℕ} {objs : List (List Byte)}
    {aCode : QualifierCode} {b : Block (List Byte)} (hknown : apObj ∈ ObjectBase.known)
    (htype : (∃ n, apObj.getType = .fixed n) ∨ apObj.getType = .bitfield)
    (hcode : aCode = .undefined ∨ aCode.Suits apObj.getType) (hindex : aCode.indexSize = 0)
    (hsize : ∀ obj ∈ objs, obj.length =
      (⟨apObj.getGroup, apObj.getVariation, aCode, [], none⟩ : Block _).dataSize d apObj)
    (hbits : d = true → apObj.getType = .bitfield → ∀ obj ∈ objs, obj = [0] ∨ obj = [1])
    (h : f.rangeBlock apObj aRoom aStart objs aCode = .ok (some b)) : ∃ t, b.Formed d t apObj := by
  obtain ⟨q, t, n, r, hq, ht, hn, hzero, hr, rfl⟩ := rangeBlock_eq_some h
  obtain ⟨hgroup, hvariation, hsized, -⟩ := ObjectBase.of_mem_known hknown
  have hlen : (numbered aStart (objs.take n)).length = n := by
    rw [length_numbered, List.length_take_of_le (by omega)]
  have hsuits : q.Suits apObj.getType := by
    rw [hq]
    split
    · exact getContiguousQualifier_suits _ htype
    · exact hcode.resolve_left ‹_›
  have hprefix : q.indexSize = 0 := by
    rw [hq]
    split
    · exact indexSize_getContiguousQualifier _
    · exact hindex
  have hmem (obj : ℕ × List Byte) (hobj : obj ∈ numbered aStart (objs.take n)) : obj.2 ∈ objs :=
    List.mem_of_mem_take (mem_of_mem_numbered hobj)
  obtain ⟨hall, hheader⟩ := writeContiguousHeader_eq_ok (Nat.pos_of_ne_zero hzero) hr
  have hmax := t.maxField_lt
  refine ⟨t, .inl ⟨hknown, rfl, rfl⟩, hgroup, hvariation, ht, hsuits, fun h ↦ absurd h hall,
    fun hcount _ ↦ ?_,
    fun hcount ↦ ?_, fun hcount ↦ ?_, fun h ↦ absurd hprefix h, fun obj hobj ↦ hsize _
      (hmem obj hobj),
    fun hd hbit obj hobj ↦ hbits hd hbit _ (hmem obj hobj), fun h ↦ absurd h hsized,
      fun _ hplace ↦ ?_⟩
  · rcases hheader with ⟨hc, -⟩ | ⟨-, hle, hrange⟩
    · rw [hc] at hcount
      cases hcount
    · exact ⟨_, hrange, by simp only []; omega, by simp only []; omega, by simp only [hlen]; omega⟩
  · rcases hheader with ⟨-, -, hrange⟩ | ⟨hc, -⟩
    · exact hrange
    · rcases hcount with hcount | hcount
      · rw [hc] at hcount
        cases hcount
      · exact absurd hcount hall
  · rcases hheader with ⟨-, hle, -⟩ | ⟨hc, -⟩
    · simp only [hlen]
      omega
    · rw [hc] at hcount
      cases hcount
  · rcases htype with ⟨n, hfixed⟩ | hbit
    · rw [hfixed] at hplace
      cases hplace
    · rw [hbit] at hplace
      cases hplace

theorem getCountHeader_eq_ok {q : QualifierCode} {t : ObjectHeaderTypes}
    (h : getCountHeader q = .ok t) :
    getObjectHeader q = .ok t ∧ t.isCount = true := by
  cases q <;> cases h <;> exact ⟨rfl, rfl⟩

/-- What is known of a block of objects with indices. -/
theorem countBlock_eq_some {aSize aGrp aVar : ℕ} {aType : ObjectTypes} {objs : List (ℕ × List Byte)}
    {aQual : QualifierCode} {b : Block (List Byte)}
    (h : f.countBlock aSize aGrp aVar aType objs aQual = .ok (some b)) :
    ∃ k t n, getPrefixSizeAndValidate aQual aType = .ok k ∧ getCountHeader aQual = .ok t ∧
      f.room t (· / (aSize + k)) ≠ 0 ∧ n = min objs.length (f.room t (· / (aSize + k))) ∧
        n ≤ t.maxField ∧
      b = ⟨aGrp, aVar, aQual, objs.take n, none⟩ := by
  obtain ⟨k, hk, h⟩ := except_bind_eq_ok.mp h
  obtain ⟨t, ht, h⟩ := except_bind_eq_ok.mp h
  obtain ⟨n, hn⟩ : ∃ n, min objs.length (f.room t (· / (aSize + k))) = n := ⟨_, rfl⟩
  simp only [hn] at h
  by_cases hzero : f.room t (· / (aSize + k)) = 0
  · rw [if_pos hzero] at h
    cases h
  · rw [if_neg hzero] at h
    by_cases hmax : n > t.maxField
    · rw [if_pos hmax] at h
      cases h
    · rw [if_neg hmax] at h
      exact ⟨k, t, n, hk, ht, hzero, hn.symm, Nat.le_of_not_gt hmax,
        (Option.some.inj (Except.ok.inj h)).symm⟩

/-- A block of objects with indices is what its header says. -/
theorem formed_countBlock {d : Bool} {aSize aGrp aVar : ℕ} {objs : List (ℕ × List Byte)}
    {aQual : QualifierCode}
    {b : Block (List Byte)} (hlists : Lists aGrp aVar apObj) (hgroup : aGrp < 256)
    (hvariation : aVar < 256) (htype : apObj.getType ≠ .bitfield ∧ apObj.getType ≠ .placeholder)
    (hindex : aQual.indexSize ≠ 0 → ∀ obj ∈ objs, obj.1 < 256 ^ aQual.indexSize)
    (hsize : ∀ obj ∈ objs, obj.2.length = (⟨aGrp, aVar, aQual, [], none⟩ : Block _).dataSize
      d apObj)
    (hone : apObj.getType = .sizeByVariation → objs.length = 1)
    (h : f.countBlock aSize aGrp aVar apObj.getType objs aQual = .ok (some b)) :
    ∃ t, b.Formed d t apObj := by
  obtain ⟨k, t, n, hk, ht, hroom, hn, hmax, rfl⟩ := countBlock_eq_some h
  obtain ⟨hheader, hcount⟩ := getCountHeader_eq_ok ht
  have hsuits := ((getPrefixSizeAndValidate_eq_ok (ObjectBase.getType_ne_variable hlists.get)).mp
    hk).1
  have hlt := t.maxField_lt
  have hlen : (objs.take n).length = n := List.length_take_of_le (by omega)
  have hall : t ≠ .allObjects := by
    rintro rfl
    cases hcount
  refine ⟨t, hlists, hgroup, hvariation, hheader, hsuits, fun h ↦ absurd h hall, fun h ↦ ?_,
    fun _ ↦ rfl, fun _ ↦ ?_, fun h obj hobj ↦ hindex h obj (List.mem_of_mem_take hobj),
    fun obj hobj ↦ hsize obj (List.mem_of_mem_take hobj), fun _ h ↦ absurd h htype.1, fun h ↦ ?_,
    fun _ h ↦ absurd h htype.2⟩
  · rw [hcount] at h
    cases h
  · simp only [hlen]
    omega
  · have hobjs := hone h
    simp only [hlen]
    omega

end OutAPDU

/-- The index of a sized object fits. -/
theorem WriteCall.Valid.sized_lt {d : Bool} {apObj : ObjectBase} {aIndex : ℕ} {obj : List Byte}
    (h : (WriteCall.sized apObj aIndex obj).Valid d) :
    aIndex < 256 ^ (OutAPDU.getIndexedQualifier aIndex 1).indexSize := by
  have hindex := h.2.2.2
  rw [OutAPDU.getIndexedQualifier]
  split
  · simp only [QualifierCode.indexSize]
    omega
  · split
    · simp only [QualifierCode.indexSize]
      omega
    · simp only [QualifierCode.indexSize]
      omega

/-- **The block that a valid call adds is what its header says.** -/
theorem WriteCall.Valid.formed {f : OutAPDU (List Byte)} {c : WriteCall} (hc : c.Valid f.hasData)
    {b : Block (List Byte)} (h : c.block f = .ok (some b)) : ∃ t o, b.Formed f.hasData t o := by
  cases c with
  | setControl | setIIN => cases h
  | contiguous apObj aObjSize aStart objs aCode =>
    obtain ⟨hknown, htype, -, hsize, hindex, hcode⟩ := hc
    obtain ⟨t, ht⟩ := OutAPDU.formed_rangeBlock (d := f.hasData) hknown
      (.inl ⟨_, htype⟩) hcode hindex
      (fun obj hobj ↦ by rw [Block.dataSize, htype, hsize obj hobj])
        (fun _ hbit ↦ by rw [htype] at hbit; cases hbit) h
    exact ⟨t, apObj, ht⟩
  | bitfield apObj aStart bits aCode =>
    obtain ⟨hknown, htype, -, hcode⟩ := hc
    have hindex : aCode.indexSize = 0 := by
      rcases hcode with rfl | hsuits
      · rfl
      · rw [htype] at hsuits
        revert hsuits
        cases aCode <;> simp [QualifierCode.Suits, QualifierCode.indexSize]
    have hsize : ∀ obj ∈ bits.map f.bitObject, obj.length =
        (⟨apObj.getGroup, apObj.getVariation, aCode, [], none⟩ : Block _).dataSize f.hasData
          apObj := by
      rintro obj hobj
      obtain ⟨bit, -, rfl⟩ := List.mem_map.mp hobj
      rw [Block.dataSize, htype, OutAPDU.bitObject]
      split <;> rfl
    have hbits : f.hasData = true → apObj.getType = .bitfield → ∀ obj ∈ bits.map f.bitObject,
        obj = [0] ∨ obj = [1] := by
      rintro hd - obj hobj
      obtain ⟨bit, -, rfl⟩ := List.mem_map.mp hobj
      rw [OutAPDU.bitObject, if_pos hd]
      cases bit with
      | true => exact .inr rfl
      | false => exact .inl rfl
    obtain ⟨t, ht⟩ := OutAPDU.formed_rangeBlock (d := f.hasData) hknown
      (.inr htype) hcode hindex hsize hbits h
    exact ⟨t, apObj, ht⟩
  | indexed apObj aObjSize objs aCode =>
    obtain ⟨hknown, htype, hsize, hindex, -⟩ := hc
    obtain ⟨hgroup, hvariation, -, -⟩ := ObjectBase.of_mem_known hknown
    have hblock : f.countBlock (if f.hasData then aObjSize else 0) apObj.getGroup
      apObj.getVariation apObj.getType
        objs aCode = .ok (some b) := by rwa [htype]
    obtain ⟨t, ht⟩ := OutAPDU.formed_countBlock (d := f.hasData)
      (.inl ⟨hknown, rfl, rfl⟩) hgroup hvariation
      (by simp [htype]) hindex (fun obj hobj ↦ by rw [Block.dataSize, htype, hsize obj hobj])
      (fun h ↦ by rw [htype] at h; cases h) hblock
    exact ⟨t, apObj, ht⟩
  | sized apObj aIndex obj =>
    have hvalid := hc
    obtain ⟨hknown, hd, hlen, hindex⟩ := hc
    obtain ⟨hgroup, htype⟩ := ObjectBase.of_mem_knownGroups hknown
    have hblock : f.countBlock (if f.hasData then obj.length else 0) apObj.getGroup
      obj.length apObj.getType
        [(aIndex, obj)] (OutAPDU.getIndexedQualifier aIndex 1) = .ok (some b) := by rwa [htype]
    have hfits := WriteCall.Valid.sized_lt hvalid
    obtain ⟨t, ht⟩ := OutAPDU.formed_countBlock (d := f.hasData) (.inr ⟨hknown, rfl⟩) hgroup
      (by omega)
      (by simp [htype]) (fun _ x hx ↦ by rwa [List.mem_singleton.mp hx])
      (fun x hx ↦ by rw [List.mem_singleton.mp hx, Block.dataSize, htype, hd]; rfl)
        (fun _ ↦ rfl) hblock
    exact ⟨t, apObj, ht⟩
  | placeholder apObj =>
    obtain ⟨hknown, hsuits⟩ := hc
    obtain ⟨hgroup, hvariation, hsized, -⟩ := ObjectBase.of_mem_known hknown
    rw [block] at h
    split at h
    · cases h
    · cases h
      exact ⟨.allObjects, apObj, .inl ⟨hknown, rfl, rfl⟩, hgroup, hvariation, rfl, hsuits,
        fun _ ↦ rfl,
        fun _ h ↦ absurd rfl h, fun _ ↦ rfl, fun h ↦ Bool.noConfusion h, fun h ↦ absurd rfl h,
        fun _ h ↦ absurd h List.not_mem_nil, fun _ _ _ h ↦ absurd h List.not_mem_nil,
          fun h ↦ absurd h hsized,
        fun _ _ ↦ Nat.zero_le _⟩

/-! ## The blocks of a fragment -/


namespace Block

variable {b : Block (List Byte)} {d : Bool} {t : ObjectHeaderTypes} {o : ObjectBase}

/-- The octets of a block are its header and its objects. -/
theorem Formed.length_octets (h : b.Formed d t o) :
    (b.octets d).length = t.getSize + (b.dataOctets d o).length := by
  rw [h.octets_eq, List.length_append, h.length_headerOctets]

theorem Formed.length_dataOctets_fixed (h : b.Formed d t o) {n : ℕ} (ho : o.getType = .fixed n) :
    (b.dataOctets d o).length = b.objects.length *
    (b.qualifier.indexSize + if d then n else 0) := by
  rw [dataOctets, if_neg (by rw [ho]; rintro ⟨⟩), length_flatMap_objectOctets h.size, dataSize, ho]

theorem length_dataOctets_bitfield (ho : o.getType = .bitfield) :
    (b.dataOctets d o).length = if d then bitfieldSize b.objects.length else 0 := by
  rw [dataOctets, if_pos ho]
  split
  · rw [length_bitOctets, List.length_map]
  · rfl

theorem Formed.length_dataOctets_sized (h : b.Formed d t o) (ho : o.getType = .sizeByVariation) :
    (b.dataOctets d o).length = b.objects.length *
    (b.qualifier.indexSize + if d then b.variation else 0) := by
  rw [dataOctets, if_neg (by rw [ho]; rintro ⟨⟩), length_flatMap_objectOctets h.size, dataSize, ho]

theorem dataOctets_nil (h : b.objects = []) : b.dataOctets d o = [] := by
  rw [dataOctets, h]
  split
  · split
    · rw [List.map_nil, bitOctets]
      rfl
    · rfl
  · rfl

/-- The object of a block is the one that it names. -/
theorem Formed.object_eq (h : b.Formed d t o) {apObj : ObjectBase}
    (hl : Lists b.group b.variation apObj) : o = apObj :=
  Option.some.inj (h.lists.get.symm.trans hl.get)

end Block

namespace OutAPDU

variable {f : OutAPDU (List Byte)} {apObj : ObjectBase}

/-- A loop over objects from a number on writes as many as the iterator has room for. -/
theorem fill_startBlock (objs : List (List Byte)) (i stop n : ℕ) (b : Block (List Byte)) :
    fill objs ⟨i, stop⟩ (f.startBlock b n) = .ok (f.startBlock
      { b with objects := b.objects ++ numbered i (objs.take (stop + 1 - i)) } n) := by
  induction objs generalizing i b with
  | nil => simp [fill, numbered]
  | cons obj objs ih =>
    by_cases hend : stop < i
    · have hzero : stop + 1 - i = 0 := by omega
      simp [fill, ObjectWriteIterator.isEnd, hend, hzero, numbered]
    · have hmore : stop + 1 - i = stop + 1 - (i + 1) + 1 := by omega
      rw [fill, hmore, List.take_succ_cons, numbered]
      simp only [ObjectWriteIterator.isEnd, ObjectWriteIterator.deref,
        ObjectWriteIterator.next, hend, decide_false, Bool.false_eq_true, if_false, bind,
        Except.bind]
      rw [pushObject_startBlock, ih]
      simp

/-- A loop over objects with their indices. -/
theorem fillIndexed_startBlock (objs : List (ℕ × List Byte)) (m : Option ℕ) (j count n : ℕ)
    (b : Block (List Byte)) (hindex : ∀ obj ∈ objs, m.any (obj.1 > ·) = false) :
    fillIndexed objs ⟨m, j, count, false⟩ (f.startBlock b n) = .ok (f.startBlock
      { b with objects := b.objects ++ objs.take (count - j) } n) := by
  induction objs generalizing j b with
  | nil => simp [fillIndexed]
  | cons obj objs ih =>
    by_cases hend : count ≤ j
    · have hzero : count - j = 0 := by omega
      simp [fillIndexed, IndexedWriteIterator.isEnd, hend, hzero]
    · have hmore : count - j = count - (j + 1) + 1 := by omega
      have hfits := hindex obj List.mem_cons_self
      rw [fillIndexed, hmore, List.take_succ_cons]
      simp only [IndexedWriteIterator.isEnd, IndexedWriteIterator.deref, IndexedWriteIterator.next,
        IndexedWriteIterator.setIndex, hend, hfits, decide_false, Bool.false_eq_true,
          if_false, bind,
        Except.bind, Bool.not_true]
      rw [pushObject_startBlock, ih _ _ fun x hx ↦ hindex x (List.mem_cons_of_mem _ hx)]
      simp

theorem fill_nil_room (objs : List (List Byte)) : fill objs {} f = .ok f := by
  cases objs <;> rfl

theorem fillIndexed_nil_room (objs : List (ℕ × List Byte)) : fillIndexed objs {} f = .ok f := by
  cases objs <;> rfl

/-- `WriteContiguous` with its loop adds the block of the objects that there is room for. -/
theorem writeContiguous_fill {aRoom aSize : ℕ → ℕ} {aStart : ℕ} {objs : List (List Byte)}
    {aCode : QualifierCode} (hf : f.function ≠ none) (hne : objs ≠ [])
    (hlen : ∀ b, f.rangeBlock apObj aRoom aStart objs aCode = .ok (some b) →
      ∃ t, getObjectHeader b.qualifier = .ok t ∧
      (b.octets f.hasData).length = t.getSize + if f.hasData then aSize b.objects.length else 0) :
    (do let r ← f.writeContiguous apObj aRoom aSize aStart (aStart + objs.length - 1) aCode
        fill objs r.2 r.1) = f.append <$> f.rangeBlock apObj aRoom aStart objs aCode := by
  obtain ⟨q, hq⟩ : ∃ q,
      (if aCode = .undefined then getContiguousQualifier (aStart + objs.length - 1) else aCode) =
        q :=
    ⟨_, rfl⟩
  have hpos : 0 < objs.length := List.length_pos_of_ne_nil hne
  have hstate : f.checkWriteState = .ok () := by rw [checkWriteState, if_neg hf]
  rw [rangeBlock] at hlen ⊢
  rw [writeContiguous, hstate, except_ok_bind]
  simp only [hq] at hlen ⊢
  cases ht : getObjectHeader q with
  | error e => rfl
  | ok t =>
    rw [ht] at hlen
    simp only [except_ok_bind] at hlen ⊢
    rw [room] at hlen ⊢
    by_cases hhdr : t.getSize > f.remainder
    · simp only [if_pos hhdr, Nat.min_zero, if_true]
      exact fill_nil_room objs
    · rw [if_neg hhdr] at hlen
      rw [if_neg hhdr, if_neg hhdr]
      by_cases hroom : aRoom (f.remainder - t.getSize) = 0
      · simp only [hroom, if_true, Nat.min_zero]
        exact fill_nil_room objs
      · obtain ⟨n, hn⟩ : ∃ n, min objs.length (aRoom (f.remainder - t.getSize)) = n := ⟨_, rfl⟩
        have hcount : (if aStart + objs.length - 1 - aStart + 1 < aRoom
          (f.remainder - t.getSize) then
            aStart + objs.length - 1 - aStart + 1 else aRoom (f.remainder - t.getSize)) = n := by
          rw [← hn]
          split <;> omega
        have hzero : n ≠ 0 := by omega
        simp only [hn, if_neg hzero] at hlen
        simp only [if_neg hroom, hcount, hn, if_neg hzero]
        cases hr : writeContiguousHeader t aStart (aStart + n - 1) with
        | error e => rfl
        | ok r =>
          rw [hr] at hlen
          obtain ⟨t', ht', hsize⟩ := hlen _ rfl
          simp only [except_ok_bind, pure, Except.pure]
          rw [fill_startBlock]
          have htt : t' = t := Except.ok.inj (ht'.symm.trans ht)
          have htake : aStart + n - 1 + 1 - aStart = n := by omega
          have hmin : min n objs.length = n := by omega
          simp only [length_numbered, List.length_take, hmin, htt] at hsize
          simp only [htake, Functor.map, Except.map, append, hsize, List.nil_append]

/-- The largest index of a mode. -/
theorem getIndexMode_eq_ok {q : QualifierCode} {t : ObjectTypes} {k : ℕ} (ht : t ≠ .variable)
    (h : getPrefixSizeAndValidate q t = .ok k) {hdr : ObjectHeaderTypes}
    (hhdr : getCountHeader q = .ok hdr) :
    k = q.indexSize ∧ APDUBuffer.getIndexMode q = .ok k ∧
      ∃ m, IndexedWriteIterator.getIndexMode q = .ok m ∧
      ∀ i, m.any (i > ·) = true → q.indexSize ≠ 0 ∧ ¬i < 256 ^ q.indexSize := by
  obtain ⟨-, hk⟩ := (getPrefixSizeAndValidate_eq_ok ht).mp h
  have hvcnt := getPrefixSizeAndValidate_vcnt h ht
  subst hk
  refine ⟨rfl, ?_⟩
  cases q with
  | vcnt1BSize1B => exact absurd rfl hvcnt.1
  | vcnt1BSize2B => exact absurd rfl hvcnt.2.1
  | vcnt1BSize4B => exact absurd rfl hvcnt.2.2
  | cnt1B | cnt2B | cnt4B => exact ⟨rfl, none, rfl, fun i h ↦ Bool.noConfusion h⟩
  | cnt1BIndex1B | cnt2BIndex2B | cnt4BIndex4B =>
    refine ⟨rfl, _, rfl, fun i h ↦ ⟨Nat.succ_ne_zero _, ?_⟩⟩
    simp only [Option.any_some, decide_eq_true_eq] at h
    simp only [QualifierCode.indexSize]
    omega
  | _ => cases hhdr

/-- `WriteCountHeader` with its loop adds the block of the objects that there is room for. -/
theorem writeCountHeader_fill {aSize aGrp aVar k : ℕ} {aType : ObjectTypes}
    {objs : List (ℕ × List Byte)}
    {q : QualifierCode} (htype : aType ≠ .variable) (hk : getPrefixSizeAndValidate q aType = .ok k)
    (hindex : q.indexSize ≠ 0 → ∀ obj ∈ objs, obj.1 < 256 ^ q.indexSize)
    (hlen : ∀ b, f.countBlock aSize aGrp aVar aType objs q = .ok (some b) →
      ∃ t, getObjectHeader q = .ok t ∧
      (b.octets f.hasData).length = t.getSize + b.objects.length * (aSize + k)) :
    (do let r ← f.writeCountHeader aSize k aGrp aVar objs.length q
        fillIndexed objs r.2 r.1) = f.append <$> f.countBlock aSize aGrp aVar aType objs q := by
  rw [countBlock, hk, except_ok_bind] at hlen ⊢
  rw [writeCountHeader]
  cases ht : getCountHeader q with
  | error e => rfl
  | ok t =>
    obtain ⟨-, -, m, hm, hmax⟩ := getIndexMode_eq_ok htype hk ht
    rw [ht] at hlen
    simp only [except_ok_bind] at hlen ⊢
    rw [room] at hlen ⊢
    by_cases hhdr : t.getSize > f.remainder
    · simp only [if_pos hhdr, if_true]
      exact fillIndexed_nil_room objs
    · rw [if_neg hhdr] at hlen
      rw [if_neg hhdr, if_neg hhdr]
      by_cases hroom : (f.remainder - t.getSize) / (aSize + k) = 0
      · simp only [hroom, if_true]
        exact fillIndexed_nil_room objs
      · obtain ⟨n, hn⟩ : ∃ n, min objs.length ((f.remainder - t.getSize) / (aSize + k)) = n :=
          ⟨_, rfl⟩
        have hcount : (if objs.length < (f.remainder - t.getSize) / (aSize + k) then objs.length
            else (f.remainder - t.getSize) / (aSize + k)) = n := by
          rw [← hn]
          split <;> omega
        simp only [if_neg hroom, hn] at hlen
        simp only [if_neg hroom, hcount, hn, hm]
        by_cases hle : n > t.maxField
        · simp only [if_pos hle]
          rfl
        · simp only [if_neg hle] at hlen
          obtain ⟨t', ht', hsize⟩ := hlen _ rfl
          have htt : t' = t := Except.ok.inj (ht'.symm.trans (getCountHeader_eq_ok ht).1)
          have hmin : min n objs.length = n := by omega
          have hfits : ∀ obj ∈ objs, m.any (obj.1 > ·) = false := by
            intro obj hobj
            by_contra hany
            obtain ⟨hne, hnlt⟩ := hmax obj.1 (by simpa using hany)
            exact hnlt (hindex hne obj hobj)
          simp only [if_neg hle, except_ok_bind, pure, Except.pure]
          rw [fillIndexed_startBlock objs m 0 n _ _ hfits]
          simp only [List.length_take, hmin, htt] at hsize
          simp only [Functor.map, Except.map, append, hsize, List.nil_append, Nat.sub_zero]

/-- The qualifier of a range has no index. -/
theorem indexSize_rangeBlock {aRoom : ℕ → ℕ} {aStart : ℕ} {objs : List (List Byte)}
    {aCode : QualifierCode} {b : Block (List Byte)} (hindex : aCode.indexSize = 0)
    (h : f.rangeBlock apObj aRoom aStart objs aCode = .ok (some b)) :
    b.qualifier.indexSize = 0 := by
  obtain ⟨q, t, n, r, hq, -, -, -, -, rfl⟩ := rangeBlock_eq_some h
  show q.indexSize = 0
  rw [hq]
  split
  · exact indexSize_getContiguousQualifier _
  · exact hindex

/-- The group and the variation of a block of objects from a number on. -/
theorem lists_rangeBlock {aRoom : ℕ → ℕ} {aStart : ℕ} {objs : List (List Byte)}
    {aCode : QualifierCode} {b : Block (List Byte)} (hknown : apObj ∈ ObjectBase.known)
    (h : f.rangeBlock apObj aRoom aStart objs aCode = .ok (some b)) :
    Lists b.group b.variation apObj := by
  obtain ⟨q, t, n, r, -, -, -, -, -, rfl⟩ := rangeBlock_eq_some h
  exact .inl ⟨hknown, rfl, rfl⟩

/-- **A call adds its block.** -/
theorem perform_eq {c : WriteCall} (hf : f.function ≠ none) (hc : c.Valid f.hasData) :
    f.perform c = c.apply f := by
  have hstate : f.checkWriteState = .ok () := by rw [checkWriteState, if_neg hf]
  cases c with
  | setControl | setIIN => rfl
  | contiguous apObj aObjSize aStart objs aCode =>
    have hvalid := hc
    obtain ⟨hknown, htype, hne, -, hindex, -⟩ := hc
    refine writeContiguous_fill hf hne fun b hb ↦ ?_
    obtain ⟨t, o, hformed⟩ := @WriteCall.Valid.formed f
      (.contiguous apObj aObjSize aStart objs aCode) hvalid b hb
    obtain rfl := hformed.object_eq (lists_rangeBlock hknown hb)
    refine ⟨t, hformed.header, ?_⟩
    rw [hformed.length_octets, hformed.length_dataOctets_fixed htype,
      indexSize_rangeBlock hindex hb, Nat.zero_add]
    split <;> rfl
  | bitfield apObj aStart bits aCode =>
    have hvalid := hc
    obtain ⟨hknown, htype, hne, -⟩ := hc
    have hlen : (bits.map f.bitObject).length = bits.length := List.length_map _
    rw [perform, writeContiguousBitfield, ← hlen]
    refine writeContiguous_fill hf (fun h ↦ hne (List.map_eq_nil_iff.mp h)) fun b hb ↦ ?_
    obtain ⟨t, o, hformed⟩ := @WriteCall.Valid.formed f
      (.bitfield apObj aStart bits aCode) hvalid b hb
    obtain rfl := hformed.object_eq (lists_rangeBlock hknown hb)
    exact ⟨t, hformed.header, by rw [hformed.length_octets, Block.length_dataOctets_bitfield htype]⟩
  | indexed apObj aObjSize objs aCode =>
    have hvalid := hc
    obtain ⟨hknown, htype, -, hindex, -⟩ := hc
    rw [perform, writeIndexed, hstate, except_ok_bind]
    show _ = f.append <$> f.countBlock _ _ _ (.fixed aObjSize) objs aCode
    cases hk : getPrefixSizeAndValidate aCode (.fixed aObjSize) with
    | error e =>
      rw [countBlock, hk]
      rfl
    | ok k =>
      refine writeCountHeader_fill (by rintro ⟨⟩) hk hindex fun b hb ↦ ?_
      obtain ⟨t, o, hformed⟩ := @WriteCall.Valid.formed f
        (.indexed apObj aObjSize objs aCode) hvalid b hb
      obtain ⟨k', t', n, hk', ht', -, -, -, rfl⟩ := countBlock_eq_some hb
      obtain rfl := hformed.object_eq (.inl ⟨hknown, rfl, rfl⟩)
      obtain rfl := (getIndexMode_eq_ok (by rintro ⟨⟩) hk ht').1
      refine ⟨t, hformed.header, ?_⟩
      rw [hformed.length_octets, hformed.length_dataOctets_fixed htype,
        Nat.add_comm aCode.indexSize]
  | sized apObj aIndex obj =>
    have hvalid := hc
    obtain ⟨hknown, hd, -⟩ := hc
    obtain ⟨-, htype⟩ := ObjectBase.of_mem_knownGroups hknown
    have hindex := WriteCall.Valid.sized_lt hvalid
    rw [perform, writeIndexedSized, hstate, except_ok_bind]
    show _ = f.append <$> f.countBlock _ _ _ .sizeByVariation [(aIndex, obj)]
      (getIndexedQualifier aIndex 1)
    cases hk : getPrefixSizeAndValidate (getIndexedQualifier aIndex 1) .sizeByVariation with
    | error e =>
      rw [countBlock, hk]
      rfl
    | ok k =>
      refine @writeCountHeader_fill f _ _ _ k _ [(aIndex, obj)] _ (by rintro ⟨⟩) hk
        (fun _ x hx ↦ ?_) fun b hb ↦ ?_
      · rwa [List.mem_singleton.mp hx]
      · obtain ⟨t, o, hformed⟩ := @WriteCall.Valid.formed f (.sized apObj aIndex obj) hvalid b hb
        obtain ⟨k', t', n, hk', ht', -, -, -, rfl⟩ := countBlock_eq_some hb
        obtain rfl := hformed.object_eq (.inr ⟨hknown, rfl⟩)
        obtain rfl := (getIndexMode_eq_ok (by rintro ⟨⟩) hk ht').1
        refine ⟨t, hformed.header, ?_⟩
        rw [hformed.length_octets, hformed.length_dataOctets_sized htype, Nat.add_comm
          (QualifierCode.indexSize _)]
  | placeholder apObj =>
    have hblock : (WriteCall.placeholder apObj).block f =
        .ok (if ObjectHeaderTypes.allObjects.getSize > f.remainder then none
          else some ⟨apObj.getGroup, apObj.getVariation, .allObj, [], none⟩) := rfl
    rw [perform, doPlaceholderWrite, hstate, except_ok_bind]
    show _ = f.append <$> (WriteCall.placeholder apObj).block f
    by_cases hroom : ObjectHeaderTypes.allObjects.getSize > f.remainder
    · rw [if_pos hroom] at hblock ⊢
      rw [hblock]
      rfl
    · rw [if_neg hroom] at hblock ⊢
      obtain ⟨t, o, hformed⟩ := hc.formed hblock
      obtain rfl := hformed.object_eq (.inl ⟨hc.1, rfl, rfl⟩)
      obtain rfl : .allObjects = t := Except.ok.inj hformed.header
      have hlen := hformed.length_octets
      rw [Block.dataOctets_nil rfl] at hlen
      rw [hblock]
      show _ = Except.ok (f.startBlock _ _)
      rw [hlen]
      rfl

end OutAPDU
end OpenDNP3
