import OpenDNP3.App.Apdu

/-!
# The language of the parser

What a fragment should look like, and what `APDU::Interpret` accepts, as two readings of the same
octets.

* `Cut` — the octets from a position on are object headers with their objects, one after the other.
  It leaves open how a group and a variation name an object, and how many octets the objects of a
  header take.
* `Grammar` — each header names its object by its own group and variation, and the objects take
  what their number and their kind require.
* `Accepts` — objects are looked up by the packed number of group and variation, and the objects of
  the groups 110 to 113 take what one of them does.
* `interpret_eq_ok` — `Accepts` is what `Interpret` does.
* `parsesGrammar_iff` — `Interpret` accepts the grammar, and finds the headers that the octets name,
  exactly on the fragments that show neither of the two differences.
-/

set_option autoImplicit false

namespace OpenDNP3

/-! ## Headers -/

/-- The octets of the index in front of each object. -/
def QualifierCode.indexSize : QualifierCode → ℕ
  | .cnt1BIndex1B => 1
  | .cnt2BIndex2B => 2
  | .cnt4BIndex4B => 4
  | _ => 0

/-- The qualifier is allowed for objects of the kind. -/
def QualifierCode.Suits : QualifierCode → ObjectTypes → Prop
  | .cnt1BIndex1B, t | .cnt2BIndex2B, t | .cnt4BIndex4B, t =>
    (∃ n, t = .fixed n) ∨ t = .sizeByVariation
  | .vcnt1BSize1B, t | .vcnt1BSize2B, t | .vcnt1BSize4B, t => t = .variable
  | .undefined, _ => False
  | _, t => t = .placeholder ∨ (∃ n, t = .fixed n) ∨ t = .bitfield

/-- The group and the variation are those of an object that `ObjectBase::Get` lists; in the groups
110 to 113 the variation is a length. -/
def Lists (aGroup aVariation : ℕ) (o : ObjectBase) : Prop :=
  (o ∈ ObjectBase.known ∧ o.getGroup = aGroup ∧ o.getVariation = aVariation) ∨
    (o ∈ ObjectBase.knownGroups ∧ o.getGroup = aGroup)

/-- The number of objects of a header, where the numbers of a range are in order. -/
def ObjectHeaderTypes.Counts (t : ObjectHeaderTypes) (aBuffer : List Byte) (aPos n : ℕ) : Prop :=
  match t with
  | .allObjects => n = 0
  | .ranged2Octet | .ranged4Octet | .ranged8Octet =>
    (t.getRange aBuffer aPos).start ≤ (t.getRange aBuffer aPos).stop ∧
      n = (t.getRange aBuffer aPos).stop + 1 - (t.getRange aBuffer aPos).start
  | .count1Octet | .count2Octet | .count4Octet => n = t.getCount aBuffer aPos

/-- **The octets at the position are the header**, which names its object. -/
structure HeaderAt (named : ℕ → ℕ → ObjectBase → Prop) (aBuffer : List Byte) (aPos : ℕ)
    (h : HeaderInfo) : Prop where
  pos : h.mPos = aPos
  group : h.mGroup = readUInt aBuffer 1 aPos
  variation : h.mVariation = readUInt aBuffer 1 (aPos + 1)
  qualifier : h.mQualifier = byteToQualifierCode (readUInt aBuffer 1 (aPos + 2))
  object : named h.mGroup h.mVariation h.mObjectBase
  header : getObjectHeader h.mQualifier = .ok h.mHeader
  suits : h.mQualifier.Suits h.mObjectBase.getType
  prefixSize : h.mPrefixSize = h.mQualifier.indexSize
  count : h.mHeader.Counts aBuffer aPos h.mCount

namespace HeaderInfo

/-- The octets of one object without its index; those of a bit field are shared by its objects. -/
def objectSize (aHasData : Bool) (h : HeaderInfo) : ℕ :=
  if aHasData then
    match h.mObjectBase.getType with
    | .placeholder | .variable => 0
    | .fixed size => size
    | .bitfield => (h.mCount + 7) / 8
    | .sizeByVariation => h.mVariation
  else 0

/-- The octets that the objects of the header require. -/
def requiredSize (aHasData : Bool) (h : HeaderInfo) : ℕ :=
  match h.mObjectBase.getType with
  | .bitfield => h.objectSize aHasData
  | _ => (h.mPrefixSize + h.objectSize aHasData) * h.mCount

/-- The octets that the parser counts for the objects of the header. -/
def countedSize (aHasData : Bool) (h : HeaderInfo) : ℕ :=
  match h.mObjectBase.getType with
  | .sizeByVariation => h.mPrefixSize + h.objectSize aHasData
  | _ => h.requiredSize aHasData

end HeaderInfo

/-! ## Fragments

The grammar says what a fragment is without saying how it is read: a header, and object headers
with the octets of their objects, one after the other. -/

/-- **The octets from a position on are object headers with their objects.** -/
inductive Cut (named : ℕ → ℕ → ObjectBase → Prop) (size : HeaderInfo → ℕ) (aBuffer : List Byte) :
    ℕ → List HeaderInfo → Prop
  | nil : Cut named size aBuffer aBuffer.length []
  | cons {aPos : ℕ} {h : HeaderInfo} {hs : List HeaderInfo} (hh : HeaderAt named aBuffer aPos h)
      (hrest : Cut named size aBuffer (aPos + (h.mHeader.getSize + size h)) hs) :
      Cut named size aBuffer aPos (h :: hs)

/-- The function code of a fragment. -/
def functionOf (apData : List Byte) : FunctionCodes := intToFunction (readUInt apData 1 1)

/-- The octets of the application header. -/
def appHeaderSize (aFunction : FunctionCodes) : ℕ := if isResponse aFunction then 4 else 2

/-- The fragment is an application header and object headers with their objects. -/
structure IsFragment (named : ℕ → ℕ → ObjectBase → Prop) (size : Bool → HeaderInfo → ℕ)
    (apData : List Byte) (hs : List HeaderInfo) : Prop where
  header : 2 ≤ apData.length ∧ appHeaderSize (functionOf apData) ≤ apData.length
  objects : Cut named (size (hasData (functionOf apData))) apData
    (appHeaderSize (functionOf apData)) hs

/-- **The grammar of fragments.** -/
abbrev Grammar : List Byte → List HeaderInfo → Prop := IsFragment Lists HeaderInfo.requiredSize

/-- **What the parser accepts.** -/
abbrev Accepts : List Byte → List HeaderInfo → Prop :=
  IsFragment (fun g v o ↦ ObjectBase.get g v = some o) HeaderInfo.countedSize

/-! ## One header -/

theorem getPrefixSizeAndValidate_eq_ok {q : QualifierCode} {t : ObjectTypes} {n : ℕ}
    (ht : t ≠ .variable) :
    getPrefixSizeAndValidate q t = .ok n ↔ q.Suits t ∧ n = q.indexSize := by
  cases q <;> cases t <;>
    simp_all [getPrefixSizeAndValidate, QualifierCode.Suits, QualifierCode.indexSize, eq_comm]

theorem getNumObjects_eq_ok {t : ObjectHeaderTypes} {aBuffer : List Byte} {aPos n : ℕ} :
    getNumObjects t aBuffer aPos = .ok n ↔ t.Counts aBuffer aPos n := by
  have hrange (i : RangeInfo) : (if i.start > i.stop then
      (.error (.general "ALERR_START_STOP_MISMATCH") : Except Exception ℕ)
      else .ok (i.stop - i.start + 1)) = .ok n ↔ i.start ≤ i.stop ∧ n = i.stop + 1 - i.start := by
    split
    · next h =>
      refine ⟨fun hn ↦ ?_, fun hn ↦ absurd hn.1 (Nat.not_le.mpr h)⟩
      contradiction
    · next h => simp only [Except.ok.injEq]; omega
  cases t with
  | allObjects | count1Octet | count2Octet | count4Octet =>
    simp [getNumObjects, ObjectHeaderTypes.Counts, eq_comm]
  | ranged2Octet | ranged4Octet | ranged8Octet => exact hrange _

/-- The octets that the parser counts, as it computes them. -/
theorem objectDataSize_eq {h : HeaderInfo} {d : Bool} (ht : h.mObjectBase.getType ≠ .variable)
    (hs : h.mQualifier.Suits h.mObjectBase.getType)
    (hp : h.mPrefixSize = h.mQualifier.indexSize) :
    objectDataSize d h.mObjectBase.getType h.mVariation h.mPrefixSize h.mCount =
      .ok (h.countedSize d) := by
  unfold objectDataSize HeaderInfo.countedSize HeaderInfo.requiredSize HeaderInfo.objectSize
  cases ho : h.mObjectBase.getType with
  | placeholder =>
    -- no index stands in front of what has no data
    have hzero : h.mPrefixSize = 0 := by
      rw [hp]
      rw [ho] at hs
      revert hs
      cases h.mQualifier <;> simp [QualifierCode.Suits, QualifierCode.indexSize]
    cases d <;> simp [hzero]
  | fixed size => rfl
  | bitfield =>
    have hsize : bitfieldSize h.mCount = (h.mCount + 7) / 8 := by
      rw [bitfieldSize]
      split <;> omega
    rw [hsize]
  | sizeByVariation => rfl
  | _ => exact absurd ho ht

/-- **What `ReadObjectHeader` returns.** -/
theorem readObjectHeader_eq_ok {f : FunctionCodes} {aBuffer : List Byte} {aPos aRemainder n : ℕ}
    {h : HeaderInfo} :
    readObjectHeader f aBuffer aPos aRemainder = .ok (h, n) ↔
      HeaderAt (fun g v o ↦ ObjectBase.get g v = some o) aBuffer aPos h ∧
        n = h.mHeader.getSize + h.countedSize (hasData f) ∧ n ≤ aRemainder := by
  constructor
  · intro heq
    obtain ⟨hacc, -⟩ := accepted_of_readObjectHeader heq
    have ht := ObjectBase.getType_ne_variable hacc.object
    rw [readObjectHeader] at heq
    simp only [bind, Except.bind, throw, throwThe, MonadExceptOf.throw, pure, Except.pure] at heq
    repeat' split at heq
    all_goals try contradiction
    rename_i hdr hhdr _ o ho hfits _ pre hpre _ count hcount _ size hsize hrem
    obtain ⟨rfl, rfl⟩ := Prod.mk.inj (Except.ok.inj heq)
    obtain ⟨hsuits, hprefix⟩ := (getPrefixSizeAndValidate_eq_ok ht).mp hacc.prefixSize
    have hdata := objectDataSize_eq (d := hasData f) ht hsuits hprefix
    obtain rfl := Except.ok.inj (hsize.symm.trans hdata)
    refine ⟨⟨rfl, rfl, rfl, rfl, ho, hhdr, hsuits, hprefix, getNumObjects_eq_ok.mp hcount⟩, rfl, ?_⟩
    dsimp only at *
    omega
  · rintro ⟨hat, rfl, hrem⟩
    have ht := ObjectBase.getType_ne_variable hat.object
    have hpre := (getPrefixSizeAndValidate_eq_ok ht).mpr ⟨hat.suits, hat.prefixSize⟩
    have hdata := objectDataSize_eq (d := hasData f) ht hat.suits hat.prefixSize
    have hcount := getNumObjects_eq_ok.mpr hat.count
    have hthree := h.mHeader.three_le_getSize
    have hq : h.mQualifier ≠ .undefined := by
      intro hq
      have hhdr := hat.header
      rw [hq] at hhdr
      contradiction
    have hobj := hat.object
    have hhdr := hat.header
    rw [hat.group, hat.variation] at hobj
    rw [hat.qualifier] at hhdr hpre hq
    rw [hat.variation] at hdata
    rw [readObjectHeader, if_neg (by simp only [ObjectHeaderTypes.getSize]; omega)]
    simp only [bind, Except.bind, pure, Except.pure, if_neg hq, hhdr, hobj]
    rw [if_neg (by omega), hpre]
    simp only [hcount, hdata]
    rw [if_neg (by omega)]
    rw [← hat.group, ← hat.variation, ← hat.qualifier, ← hat.pos]

/-! ## All headers -/

variable {named : ℕ → ℕ → ObjectBase → Prop} {size : HeaderInfo → ℕ} {aBuffer : List Byte}
  {aPos : ℕ} {hs : List HeaderInfo}

theorem Cut.le (h : Cut named size aBuffer aPos hs) : aPos ≤ aBuffer.length := by
  induction h with
  | nil => exact Nat.le_refl _
  | cons _ _ ih => omega

/-- No header is left at the end only. -/
theorem Cut.eq_length (h : Cut named size aBuffer aPos []) : aPos = aBuffer.length := by
  cases h with
  | nil => rfl

/-- The first header stands at the position. -/
theorem Cut.head {i : HeaderInfo} (h : Cut named size aBuffer aPos (i :: hs)) :
    HeaderAt named aBuffer aPos i := by
  cases h with
  | cons hh _ => exact hh

/-- Nothing but the end is left at the end. -/
theorem cut_length : Cut named size aBuffer aBuffer.length hs ↔ hs = [] := by
  constructor
  · intro h
    cases h with
    | nil => rfl
    | @cons _ info infos _ hrest =>
      have hle := hrest.le
      have hthree := info.mHeader.three_le_getSize
      omega
  · rintro rfl
    exact .nil

/-- The loop over the object headers, with as many rounds as there are octets left. -/
theorem readObjectHeaders_eq_ok {f : FunctionCodes} {fuel : ℕ} (hpos : aPos ≤ aBuffer.length)
    (hfuel : aBuffer.length - aPos ≤ fuel) :
    readObjectHeaders f aBuffer fuel aPos (aBuffer.length - aPos) = .ok hs ↔
      Cut (fun g v o ↦ ObjectBase.get g v = some o) (HeaderInfo.countedSize (hasData f)) aBuffer
        aPos hs := by
  induction fuel generalizing aPos hs with
  | zero =>
    have hend : aPos = aBuffer.length := by omega
    rw [readObjectHeaders, hend, cut_length, Except.ok.injEq, eq_comm]
  | succ fuel ih =>
    rw [readObjectHeaders]
    split
    · next hzero =>
      have hend : aPos = aBuffer.length := by omega
      rw [hend, cut_length, Except.ok.injEq, eq_comm]
    · next hmore =>
      constructor
      · intro heq
        obtain ⟨⟨info, n⟩, hinfo, hrest⟩ := except_bind_eq_ok.mp heq
        obtain ⟨hat, rfl, hn⟩ := readObjectHeader_eq_ok.mp hinfo
        obtain ⟨infos, hinfos, hcons⟩ := except_bind_eq_ok.mp hrest
        have hthree := info.mHeader.three_le_getSize
        rw [Nat.sub_sub] at hinfos
        rw [← Except.ok.inj hcons]
        exact .cons hat ((ih (by omega) (by omega)).mp hinfos)
      · intro hcut
        cases hcut with
        | nil => exact absurd (Nat.sub_self _) hmore
        | @cons _ info infos hh hrest =>
          have hle := hrest.le
          have hthree := info.mHeader.three_le_getSize
          have hinfo : readObjectHeader f aBuffer aPos (aBuffer.length - aPos) = .ok (info, _) :=
            readObjectHeader_eq_ok.mpr ⟨hh, rfl, by omega⟩
          have hinfos := (ih hle (by omega)).mpr hrest
          rw [hinfo, except_ok_bind]
          dsimp only
          rw [Nat.sub_sub, hinfos]
          rfl

theorem APDU.interpretHeader_eq_ok {apData : List Byte} {c : AppControlField} {f : FunctionCodes}
    {n : ℕ} : APDU.interpretHeader apData = .ok (c, f, n) ↔
      (2 ≤ apData.length ∧ appHeaderSize (functionOf apData) ≤ apData.length) ∧
        c = AppControlField.ofByte (apData.getD 0 0) ∧ f = functionOf apData ∧
        n = appHeaderSize (functionOf apData) := by
  have hfunction : intToFunction (readUInt apData 1 1) = functionOf apData := rfl
  simp only [interpretHeader, bind, Except.bind, throw, throwThe, MonadExceptOf.throw, pure,
    Except.pure, hfunction, appHeaderSize]
  split
  · next h =>
    refine ⟨fun heq ↦ ?_, fun heq ↦ absurd heq.1.1 (by omega)⟩
    contradiction
  · next h =>
    split
    · split
      · refine ⟨fun heq ↦ ?_, fun heq ↦ absurd heq.1.2 (by omega)⟩
        contradiction
      · simp only [Except.ok.injEq, Prod.mk.injEq]
        constructor
        · rintro ⟨hc, hf, hn⟩
          exact ⟨⟨by omega, by omega⟩, hc.symm, hf.symm, hn.symm⟩
        · rintro ⟨-, hc, hf, hn⟩
          exact ⟨hc.symm, hf.symm, hn.symm⟩
    · simp only [Except.ok.injEq, Prod.mk.injEq]
      constructor
      · rintro ⟨hc, hf, hn⟩
        exact ⟨⟨by omega, by omega⟩, hc.symm, hf.symm, hn.symm⟩
      · rintro ⟨-, hc, hf, hn⟩
        exact ⟨hc.symm, hf.symm, hn.symm⟩

/-- **What `Interpret` accepts, and what it finds.** -/
theorem APDU.interpret_eq_ok {apData : List Byte} {apdu : APDU} :
    APDU.interpret apData = .ok apdu ↔
      apdu = ⟨apData, .ofByte (apData.getD 0 0), functionOf apData, apdu.mObjectHeaders⟩ ∧
        Accepts apData apdu.mObjectHeaders := by
  rw [interpret]
  constructor
  · intro heq
    obtain ⟨⟨c, f, n⟩, hhdr, hrest⟩ := except_bind_eq_ok.mp heq
    obtain ⟨hsize, rfl, rfl, rfl⟩ := interpretHeader_eq_ok.mp hhdr
    obtain ⟨infos, hinfos, hapdu⟩ := except_bind_eq_ok.mp hrest
    obtain rfl := Except.ok.inj hapdu
    exact ⟨rfl, hsize, (readObjectHeaders_eq_ok hsize.2 (Nat.le_refl _)).mp hinfos⟩
  · rintro ⟨happ, hsize, hobjects⟩
    have hhdr := interpretHeader_eq_ok.mpr ⟨hsize, rfl, rfl, rfl⟩
    have hinfos := (readObjectHeaders_eq_ok hsize.2 (Nat.le_refl _)).mpr hobjects
    rw [hhdr, except_ok_bind]
    dsimp only
    rw [hinfos, happ]
    rfl

/-! ## The grammar and the parser

They differ in two kinds of headers: an object that is found under the key of another one, and
objects that are sized by their variation with another count than one. -/

/-- The header does not show where the parser differs from the grammar: it names its object by its
own group and variation, and a header of the groups 110 to 113 has one object. -/
structure HeaderInfo.Regular (h : HeaderInfo) : Prop where
  lists : Lists h.mGroup h.mVariation h.mObjectBase
  one : h.mObjectBase.getType = .sizeByVariation → h.mCount = 1

/-- An object that is listed is found. -/
theorem Lists.get {g v : ℕ} {o : ObjectBase} (h : Lists g v o) : ObjectBase.get g v = some o := by
  rcases h with ⟨ho, rfl, rfl⟩ | ⟨ho, rfl⟩
  · have hall : ∀ o ∈ ObjectBase.known, ObjectBase.get o.getGroup o.getVariation = some o := by
      decide +kernel
    exact hall o ho
  · -- the packed numbers of these groups are above those of all objects that are listed
    have hall : ∀ o ∈ ObjectBase.known, radix o.getGroup o.getVariation < 110 <<< 4 := by decide
    have hgroups : ∀ o ∈ ObjectBase.knownGroups, 110 <<< 4 ≤ o.getGroup <<< 4 ∧
        ObjectBase.knownGroups.find? (fun p ↦ p.getGroup = o.getGroup) = some o := by decide
    obtain ⟨hle, hfind⟩ := hgroups o ho
    rw [ObjectBase.get]
    split
    · next o' hfound =>
      have hradix := List.find?_some hfound
      have hlt := hall o' (List.mem_of_find?_eq_some hfound)
      have hge : o.getGroup <<< 4 ≤ radix o.getGroup v := Nat.left_le_or
      simp only [decide_eq_true_eq] at hradix
      omega
    · exact hfind

theorem HeaderAt.get {h : HeaderInfo} (hh : HeaderAt Lists aBuffer aPos h) :
    HeaderAt (fun g v o ↦ ObjectBase.get g v = some o) aBuffer aPos h :=
  { hh with object := hh.object.get }

theorem HeaderAt.lists {h : HeaderInfo} (hh : HeaderAt named aBuffer aPos h)
    (hl : Lists h.mGroup h.mVariation h.mObjectBase) : HeaderAt Lists aBuffer aPos h :=
  { hh with object := hl }

/-- With one object in front of each index, the objects take what the parser counts. -/
theorem HeaderInfo.countedSize_eq {h : HeaderInfo} {d : Bool}
    (hone : h.mObjectBase.getType = .sizeByVariation → h.mCount = 1) :
    h.countedSize d = h.requiredSize d := by
  unfold HeaderInfo.countedSize
  split
  · next ho => simp [requiredSize, ho, hone ho]
  · rfl

/-- The objects that are sized by their variation have an index in front of them. -/
theorem HeaderAt.prefixSize_pos {h : HeaderInfo} (hh : HeaderAt named aBuffer aPos h)
    (ho : h.mObjectBase.getType = .sizeByVariation) : 0 < h.mPrefixSize := by
  have hs := hh.suits
  rw [ho] at hs
  rw [hh.prefixSize]
  revert hs
  cases h.mQualifier <;> simp [QualifierCode.Suits, QualifierCode.indexSize]

/-- What the parser counts is required only if there is one object. -/
theorem HeaderAt.one_of_countedSize {h : HeaderInfo} (hh : HeaderAt named aBuffer aPos h) {d : Bool}
    (heq : h.countedSize d = h.requiredSize d)
    (ho : h.mObjectBase.getType = .sizeByVariation) : h.mCount = 1 := by
  have hpos := hh.prefixSize_pos ho
  simp only [HeaderInfo.countedSize, HeaderInfo.requiredSize, ho] at heq
  exact (Nat.eq_of_mul_eq_mul_left (by omega) ((Nat.mul_one _).trans heq)).symm

/-- Headers that are read alike and take the same octets are cut alike. -/
theorem Cut.congr {named' : ℕ → ℕ → ObjectBase → Prop} {size' : HeaderInfo → ℕ}
    (h : Cut named size aBuffer aPos hs)
    (hat : ∀ i ∈ hs, ∀ p, HeaderAt named aBuffer p i → HeaderAt named' aBuffer p i)
    (hsize : ∀ i ∈ hs, size i = size' i) : Cut named' size' aBuffer aPos hs := by
  induction h with
  | nil => exact .nil
  | @cons p i is hh _ ih =>
    refine .cons (hat i List.mem_cons_self p hh) ?_
    rw [← hsize i List.mem_cons_self]
    exact ih (fun j hj ↦ hat j (List.mem_cons_of_mem _ hj))
      fun j hj ↦ hsize j (List.mem_cons_of_mem _ hj)

/-- The headers tell where they start. -/
theorem Cut.start_unique {named' : ℕ → ℕ → ObjectBase → Prop} {size' : HeaderInfo → ℕ} {p : ℕ}
    (h : Cut named size aBuffer aPos hs) (h' : Cut named' size' aBuffer p hs) : aPos = p := by
  cases h with
  | nil =>
    cases h' with
    | nil => rfl
  | cons hh _ =>
    cases h' with
    | cons hh' _ => exact hh.pos.symm.trans hh'.pos

/-- Headers that are cut in two ways take the same octets in both. -/
theorem Cut.size_eq {named' : ℕ → ℕ → ObjectBase → Prop} {size' : HeaderInfo → ℕ}
    (h : Cut named size aBuffer aPos hs) (h' : Cut named' size' aBuffer aPos hs) :
    ∀ i ∈ hs, (∃ p, HeaderAt named aBuffer p i) ∧ size i = size' i := by
  induction h with
  | nil => exact fun i hi ↦ absurd hi List.not_mem_nil
  | @cons p i is hh hrest ih =>
    cases h' with
    | cons hh' hrest' =>
      have hstart := hrest.start_unique hrest'
      intro j hj
      rcases List.mem_cons.mp hj with rfl | hj
      · exact ⟨⟨p, hh⟩, by omega⟩
      · exact ih (hstart ▸ hrest') j hj

/-- The octets at a position are one header at most. -/
theorem HeaderAt.unique {h h' : HeaderInfo}
    (hh : HeaderAt (fun g v o ↦ ObjectBase.get g v = some o) aBuffer aPos h)
    (hh' : HeaderAt (fun g v o ↦ ObjectBase.get g v = some o) aBuffer aPos h') : h = h' := by
  have hgroup := hh.group.trans hh'.group.symm
  have hvariation := hh.variation.trans hh'.variation.symm
  have hqualifier := hh.qualifier.trans hh'.qualifier.symm
  have hobject := hh.object
  rw [hgroup, hvariation, hh'.object] at hobject
  have hheader := hh.header
  rw [hqualifier, hh'.header] at hheader
  have hcount := getNumObjects_eq_ok.mpr hh.count
  rw [← Except.ok.inj hheader, getNumObjects_eq_ok.mpr hh'.count] at hcount
  have hprefix := hh.prefixSize.trans ((congrArg _ hqualifier).trans hh'.prefixSize.symm)
  calc h = ⟨h.mPos, h.mGroup, h.mVariation, h.mQualifier, h.mCount, h.mPrefixSize, h.mHeader,
        h.mObjectBase⟩ := rfl
    _ = ⟨h'.mPos, h'.mGroup, h'.mVariation, h'.mQualifier, h'.mCount, h'.mPrefixSize, h'.mHeader,
        h'.mObjectBase⟩ := by
      rw [hh.pos, hh'.pos, hgroup, hvariation, hqualifier, ← Except.ok.inj hcount, hprefix,
        ← Except.ok.inj hheader, Option.some.inj hobject]
    _ = h' := rfl

/-- The octets are cut in one way at most. -/
theorem Cut.unique {hs' : List HeaderInfo}
    (h : Cut (fun g v o ↦ ObjectBase.get g v = some o) size aBuffer aPos hs)
    (h' : Cut (fun g v o ↦ ObjectBase.get g v = some o) size aBuffer aPos hs') : hs = hs' := by
  induction h generalizing hs' with
  | nil => exact (cut_length.mp h').symm
  | @cons p i is hh hrest ih =>
    cases h' with
    | nil => exact absurd (cut_length.mp (.cons hh hrest)) (by simp)
    | cons hh' hrest' =>
      obtain rfl := hh.unique hh'
      rw [ih hrest']

variable {apData : List Byte}

/-- What the parser accepts without a difference is in the grammar. -/
theorem grammar_of_accepts (h : Accepts apData hs) (hreg : ∀ i ∈ hs, i.Regular) :
    Grammar apData hs :=
  ⟨h.header, h.objects.congr (fun i hi _ hh ↦ hh.lists (hreg i hi).lists) fun i hi ↦
    i.countedSize_eq (hreg i hi).one⟩

/-- What is in the grammar without a difference is accepted. -/
theorem accepts_of_grammar (h : Grammar apData hs) (hreg : ∀ i ∈ hs, i.Regular) :
    Accepts apData hs :=
  ⟨h.header, h.objects.congr (fun _ _ _ hh ↦ hh.get) fun i hi ↦
    (i.countedSize_eq (hreg i hi).one).symm⟩

/-- **The grammar is unambiguous.** -/
theorem Grammar.unique {hs' : List HeaderInfo} (h : Grammar apData hs) (h' : Grammar apData hs') :
    hs = hs' :=
  (h.objects.congr (fun _ _ _ hh ↦ hh.get) fun _ _ ↦ rfl).unique
    (h'.objects.congr (fun _ _ _ hh ↦ hh.get) fun _ _ ↦ rfl)

/-- Headers that the parser accepts and that are in the grammar show no difference. -/
theorem regular_of_grammar (h : Accepts apData hs) (hg : Grammar apData hs) :
    ∀ i ∈ hs, i.Regular := by
  intro i hi
  obtain ⟨⟨p, hh⟩, hsize⟩ := hg.objects.size_eq h.objects i hi
  exact ⟨hh.object, fun ho ↦ hh.one_of_countedSize hsize.symm ho⟩

/-- The parser accepts the fragment if and only if it is in the grammar, and then it finds the
headers that the octets name. -/
def ParsesGrammar (apData : List Byte) : Prop :=
  ((∃ apdu, APDU.interpret apData = .ok apdu) ↔ ∃ hs, Grammar apData hs) ∧
    ∀ apdu, APDU.interpret apData = .ok apdu → Grammar apData apdu.mObjectHeaders

/-- **The parser accepts exactly the grammar on the fragments in which no header shows a
difference**, whichever of the two reads the header. -/
theorem parsesGrammar_iff (apData : List Byte) :
    ParsesGrammar apData ↔
      ∀ hs, Accepts apData hs ∨ Grammar apData hs → ∀ h ∈ hs, h.Regular := by
  constructor
  · rintro ⟨hiff, hfinds⟩
    have haccepts (hs : List HeaderInfo) (h : Accepts apData hs) : Grammar apData hs :=
      hfinds ⟨apData, .ofByte (apData.getD 0 0), functionOf apData, hs⟩
        (APDU.interpret_eq_ok.mpr ⟨rfl, h⟩)
    rintro hs (h | h)
    · exact regular_of_grammar h (haccepts hs h)
    · -- the parser accepts the fragment as well, and finds the same headers
      obtain ⟨apdu, hapdu⟩ := hiff.mpr ⟨hs, h⟩
      have hacc := (APDU.interpret_eq_ok.mp hapdu).2
      rw [Grammar.unique h (hfinds apdu hapdu)]
      exact regular_of_grammar hacc (hfinds apdu hapdu)
  · intro hreg
    have hfinds (apdu : APDU) (h : APDU.interpret apData = .ok apdu) :
        Grammar apData apdu.mObjectHeaders := by
      have hacc := (APDU.interpret_eq_ok.mp h).2
      exact grammar_of_accepts hacc (hreg _ (.inl hacc))
    refine ⟨⟨fun ⟨apdu, h⟩ ↦ ⟨_, hfinds apdu h⟩, fun ⟨hs, h⟩ ↦ ?_⟩, hfinds⟩
    have hacc := accepts_of_grammar h (hreg hs (.inr h))
    exact ⟨⟨apData, .ofByte (apData.getD 0 0), functionOf apData, hs⟩,
      APDU.interpret_eq_ok.mpr ⟨rfl, hacc⟩⟩

/-- A read of group 0 variation 193 is taken for one of group 12 variation 1, and a virtual terminal
write of two objects is rejected. -/
theorem not_parsesGrammar :
    ¬ParsesGrammar [0xC0, 0x01, 0x00, 0xC1, 0x06] ∧
      ¬ParsesGrammar [0xC0, 0x02, 0x70, 0x01, 0x17, 0x02, 0x00, 0x41, 0x01, 0x42] := by
  constructor
  · rintro ⟨-, hfinds⟩
    obtain ⟨apdu, hapdu⟩ :
      ∃ apdu, APDU.interpret [0xC0, 0x01, 0x00, 0xC1, 0x06] = .ok apdu := ⟨_, rfl⟩
    have hgrammar := hfinds apdu hapdu
    have hacc := (APDU.interpret_eq_ok.mp hapdu).2
    have hreg := regular_of_grammar hacc hgrammar
    obtain rfl := Except.ok.inj hapdu
    have hlists := (hreg _ List.mem_cons_self).lists
    rcases hlists with ⟨-, hgroup, -⟩ | ⟨-, hgroup⟩
    · exact absurd hgroup (by decide)
    · exact absurd hgroup (by decide)
  · rintro ⟨hiff, -⟩
    let i : HeaderInfo :=
      ⟨2, 112, 1, .cnt1BIndex1B, 2, 1, .count1Octet, ⟨112, 0, .sizeByVariation⟩⟩
    have hgrammar : Grammar [0xC0, 0x02, 0x70, 0x01, 0x17, 0x02, 0x00, 0x41, 0x01, 0x42] [i] := by
      refine ⟨by decide,
        .cons ⟨rfl, rfl, rfl, rfl, .inr ⟨by decide, rfl⟩, rfl, .inr rfl, rfl, rfl⟩ ?_⟩
      exact Cut.nil
    obtain ⟨apdu, hapdu⟩ := hiff.mpr ⟨_, hgrammar⟩
    have herr : APDU.interpret [0xC0, 0x02, 0x70, 0x01, 0x17, 0x02, 0x00, 0x41, 0x01, 0x42] =
        .error (insufficientData 2) := rfl
    exact absurd (herr.symm.trans hapdu) (by simp)

end OpenDNP3
