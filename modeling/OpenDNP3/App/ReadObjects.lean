import OpenDNP3.Lib.Tiling
import OpenDNP3.App.Grammar

/-!
# Reading all objects of a fragment

`APDU::Interpret` and `ObjectReadIterator` find the sizes of objects in two separate pieces of code.
This file compares them: where the headers of an accepted fragment start and stop, and where the
iterator finds the prefix and the data of each object.

* `Loop` and `Visits` — the two loops, with no bound on their rounds.
* `Sound` — the loops end, and the application header, the object headers, the prefixes and the data
  that the iterators visit tile the fragment.
* `sound_iff` — this is so exactly on the fragments in which no header has more than one object that
  the iterator cannot size, and every header of the groups 110 to 113 has one.
-/

set_option autoImplicit false

namespace OpenDNP3

/-! ## The loops -/

/-- The loop of `Interpret`, and how it ends. -/
inductive Loop (f : FunctionCodes) (aBuffer : List Byte) :
    (consumed remainder : ℕ) → Except Exception (List HeaderInfo) → Prop
  | done (consumed : ℕ) : Loop f aBuffer consumed 0 (.ok [])
  | error {consumed remainder : ℕ} {e : Exception} (hmore : remainder ≠ 0)
      (hread : readObjectHeader f aBuffer consumed remainder = .error e) :
      Loop f aBuffer consumed remainder (.error e)
  | next {consumed remainder n : ℕ} {h : HeaderInfo} {r : Except Exception (List HeaderInfo)}
      (hmore : remainder ≠ 0)
      (hread : readObjectHeader f aBuffer consumed remainder = .ok (h, n))
      (hrest : Loop f aBuffer (consumed + n) (remainder - n) r) :
      Loop f aBuffer consumed remainder (r.map (h :: ·))

/-- **`Interpret` terminates**: its loop ends, with what `readObjectHeaders` returns. -/
theorem loop_readObjectHeaders (f : FunctionCodes) (aBuffer : List Byte) {fuel remainder : ℕ}
    (hfuel : remainder ≤ fuel) (consumed : ℕ) :
    Loop f aBuffer consumed remainder (readObjectHeaders f aBuffer fuel consumed remainder) := by
  induction fuel generalizing consumed remainder with
  | zero =>
    obtain rfl := Nat.le_zero.mp hfuel
    exact .done consumed
  | succ fuel ih =>
    rw [readObjectHeaders]
    split
    · next hzero => exact hzero ▸ .done consumed
    · next hmore =>
      cases hread : readObjectHeader f aBuffer consumed remainder with
      | error e => exact .error hmore hread
      | ok p =>
        obtain ⟨h, n⟩ := p
        have hn := (accepted_of_readObjectHeader hread).2
        have hfuel' : remainder - n ≤ fuel := by omega
        have hrest := ih hfuel' (consumed + n)
        have hnext := Loop.next hmore hread hrest
        rw [except_ok_bind]
        dsimp only
        cases hinfos : readObjectHeaders f aBuffer fuel (consumed + n) (remainder - n) with
        | error e => exact hinfos ▸ hnext
        | ok infos =>
          rw [hinfos] at hnext
          exact hnext

namespace ObjectReadIterator

/-- The loop `for(; !obj.IsEnd(); ++obj)`, and the objects that it visits. -/
inductive Visits : ObjectReadIterator → List ObjectReadIterator → Prop
  | done {it : ObjectReadIterator} (hend : it.isEnd = true) : Visits it []
  | next {it it' : ObjectReadIterator} {its : List ObjectReadIterator} (hend : it.isEnd = false)
      (hnext : it.next = .ok it') (hrest : Visits it' its) : Visits it (it :: its)

/-! ## What the iterator visits

The readers of a header ask for its objects one by one. They are right to do so if the octets of
each object are in the fragment, before the next header. -/

/-- The octets of the prefix and of the data of the current object. -/
def spans (it : ObjectReadIterator) : List Span :=
  [⟨it.mpPrefixPos, it.mHeaderInfo.mPrefixSize⟩,
   ⟨it.mpPrefixPos + it.mHeaderInfo.mPrefixSize, it.mHeaderInfo.objectSize it.mHasData⟩]

end ObjectReadIterator

/-- The octets of a header, and of its objects where the iterator visits them; a bit field is one
piece of data. -/
def HeaderInfo.spans (h : HeaderInfo) (aHasData : Bool) (its : List ObjectReadIterator) :
    List Span :=
  ⟨h.mPos, h.mHeader.getSize⟩ ::
    if h.mObjectBase.getType = .bitfield then
      [⟨h.mPos + h.mHeader.getSize, h.objectSize aHasData⟩]
    else its.flatMap ObjectReadIterator.spans

/-- The headers, each with the place where the next one starts. -/
def withStops : List HeaderInfo → ℕ → List (HeaderInfo × ℕ)
  | [], _ => []
  | [h], stop => [(h, stop)]
  | h :: h' :: hs, stop => (h, h'.mPos) :: withStops (h' :: hs) stop

/-- **What the objects of a header are to its readers**: the iterator visits as many as the header
has, and finds each within the octets of the header. -/
structure Readable (apData : List Byte) (aHasData : Bool) (h : HeaderInfo) (stop : ℕ)
    (its : List ObjectReadIterator) : Prop where
  visits : ∃ it, ObjectReadIterator.beginRead h apData aHasData = .ok it ∧ it.Visits its
  count : its.length = h.mCount
  data : aHasData = true → ∀ it ∈ its, it.deref = .ok (it.mpPrefixPos + h.mPrefixSize)
  within : ∀ it ∈ its, ∀ s ∈ it.spans, s.Within (h.mPos + h.mHeader.getSize) stop
  disjoint : h.mObjectBase.getType ≠ .bitfield →
    (its.flatMap ObjectReadIterator.spans).Pairwise Span.Disjoint

/-- **The parser is sound for its readers** on the octets. -/
structure Sound (apData : List Byte) : Prop where
  terminates : ∀ c f n, APDU.interpretHeader apData = .ok (c, f, n) →
    ∃ r, Loop f apData n (apData.length - n) r ∧
      APDU.interpret apData = r.map fun hs ↦ ⟨apData, c, f, hs⟩
  readable : ∀ apdu, APDU.interpret apData = .ok apdu →
    ∃ read : HeaderInfo → List ObjectReadIterator,
      Span.Tiles 0 apData.length (⟨0, appHeaderSize apdu.getFunction⟩ ::
        apdu.mObjectHeaders.flatMap fun h ↦ h.spans (hasData apdu.getFunction) (read h)) ∧
      ∀ p ∈ withStops apdu.mObjectHeaders apData.length,
        Readable apData (hasData apdu.getFunction) p.1 p.2 (read p.1)

/-- The objects of the header can be read: the iterator needs no size that it does not know, and the
parser has counted all of them. -/
structure HeaderInfo.Sized (aHasData : Bool) (h : HeaderInfo) : Prop where
  one : h.mObjectBase.getType = .sizeByVariation → h.mCount = 1
  few : aHasData = true → h.mObjectBase.getType = .placeholder → h.mCount ≤ 1

/-! ## One step of the iterator -/

namespace ObjectReadIterator

variable {it it' : ObjectReadIterator} {its : List ObjectReadIterator} {h : HeaderInfo} {d : Bool}
  {p : ℕ}

/-- After the last object the iterator is at its end. -/
theorem next_last (it : ObjectReadIterator) (hnum : it.mCurrentObjectNum + 1 = it.count) :
    it.next = .ok { it with mCurrentObjectNum := it.mCurrentObjectNum + 1 } := by
  have hend : it.isEnd = false := by simp [isEnd]; omega
  have hend' : ({ it with mCurrentObjectNum := it.mCurrentObjectNum + 1 } :
      ObjectReadIterator).isEnd = true := by
    simpa [isEnd, count] using Nat.le_of_eq hnum.symm
  rw [next, hend]
  simp only [bind, Except.bind, pure, Except.pure, Bool.false_eq_true, if_false]
  rw [hend', if_pos rfl]

/-- The iterator stays at its header. -/
theorem next_header (hnext : it.next = .ok it') :
    it'.mHeaderInfo = it.mHeaderInfo ∧ it'.mHasData = it.mHasData := by
  rw [next] at hnext
  simp only [bind, Except.bind, throw, throwThe, MonadExceptOf.throw, pure, Except.pure,
    setObjectInfo] at hnext
  repeat' split at hnext
  all_goals try contradiction
  all_goals
    obtain rfl := Except.ok.inj hnext
    exact ⟨rfl, rfl⟩

/-- Where the next object is, in a header whose objects can be read one after the other. -/
theorem next_more (it : ObjectReadIterator) (hacc : it.mHeaderInfo.Accepted)
    (hnum : it.mCurrentObjectNum + 1 < it.count)
    (hstep : Steppable it.mHasData it.mHeaderInfo.mObjectBase.getType) :
    ∃ it', it.next = .ok it' ∧ it'.mHeaderInfo = it.mHeaderInfo ∧ it'.mHasData = it.mHasData ∧
      it'.mCurrentObjectNum = it.mCurrentObjectNum + 1 ∧
      it'.mpPrefixPos = if it.mHeaderInfo.mObjectBase.getType = .bitfield then it.mpPrefixPos
        else it.mpPrefixPos +
          (it.mHeaderInfo.mPrefixSize + it.mHeaderInfo.objectSize it.mHasData) := by
  have hend : it.isEnd = false := by simp [isEnd]; omega
  have hend' : ({ it with mCurrentObjectNum := it.mCurrentObjectNum + 1 } :
      ObjectReadIterator).isEnd = false := by
    simpa [isEnd, count] using hnum
  rw [next, hend]
  simp only [bind, Except.bind, pure, Except.pure, Bool.false_eq_true, if_false]
  rw [hend']
  simp only [Bool.false_eq_true, if_false]
  split
  · next hbit =>
    have hsize : it.calcObjSize = .ok (it.mHeaderInfo.objectSize it.mHasData) := by
      have hvcnt := getPrefixSizeAndValidate_vcnt hacc.prefixSize
        (ObjectBase.getType_ne_variable hacc.object)
      rw [calcObjSize, HeaderInfo.objectSize]
      cases hd : it.mHasData with
      | false => rfl
      | true =>
        obtain ⟨n, hn⟩ := (hstep hd).resolve_right hbit
        simp only [Bool.not_true, Bool.false_eq_true, if_false, if_true, hn]
        split
        · exact absurd ‹_› hvcnt.1
        · exact absurd ‹_› hvcnt.2.1
        · exact absurd ‹_› hvcnt.2.2
        · rfl
    obtain ⟨m, hm⟩ := setObjectInfo_of_accepted { it with
        mCurrentObjectNum := it.mCurrentObjectNum + 1
        mpPrefixPos := it.mpPrefixPos +
          (it.mHeaderInfo.mPrefixSize + it.mHeaderInfo.objectSize it.mHasData) } hacc
    have hsize' : ({ it with mCurrentObjectNum := it.mCurrentObjectNum + 1 } :
        ObjectReadIterator).calcObjSize = _ := hsize
    rw [hsize']
    exact ⟨_, hm, rfl, rfl, rfl, rfl⟩
  · next hbit =>
    obtain ⟨m, hm⟩ := setObjectInfo_of_accepted
      { it with mCurrentObjectNum := it.mCurrentObjectNum + 1 } hacc
    refine ⟨_, hm, rfl, rfl, rfl, ?_⟩
    rw [if_pos (not_not.mp hbit)]

/-! ## The whole loop -/

/-- The objects that the iterator finds from a position on. -/
structure Found (h : HeaderInfo) (d : Bool) (p : ℕ) (its : List ObjectReadIterator) : Prop where
  header : ∀ j ∈ its, j.mHeaderInfo = h ∧ j.mHasData = d ∧ j.isEnd = false
  tiles : h.mObjectBase.getType ≠ .bitfield →
    Span.Tiles p (p + (h.mPrefixSize + h.objectSize d) * its.length) (its.flatMap spans)
  bitfield : h.mObjectBase.getType = .bitfield → ∀ j ∈ its, j.mpPrefixPos = p

theorem found_nil : Found h d p [] :=
  ⟨fun _ hj ↦ absurd hj List.not_mem_nil, fun _ ↦ rfl, fun _ _ hj ↦ absurd hj List.not_mem_nil⟩

/-- One object in front of the others. -/
theorem Found.cons {q : ℕ} (hf : Found h d q its) (hh : it.mHeaderInfo = h) (hd : it.mHasData = d)
    (hend : it.isEnd = false) (hp : it.mpPrefixPos = p)
    (hq : q = if h.mObjectBase.getType = .bitfield then p
      else p + (h.mPrefixSize + h.objectSize d)) : Found h d p (it :: its) where
  header j hj := by
    rcases List.mem_cons.mp hj with rfl | hj
    · exact ⟨hh, hd, hend⟩
    · exact hf.header j hj
  tiles hbit := by
    have htiles := hf.tiles hbit
    rw [hq, if_neg hbit] at htiles
    have hfirst : Span.Tiles p (p + (h.mPrefixSize + h.objectSize d)) it.spans := by
      refine ⟨hp, rfl, ?_⟩
      simp only [Span.Tiles, Span.stop, hp, hh, hd, Nat.add_assoc]
    rw [List.flatMap_cons, List.length_cons, Nat.mul_add, Nat.mul_one, Nat.add_comm (_ * _),
      ← Nat.add_assoc]
    exact hfirst.append htiles
  bitfield hbit j hj := by
    rcases List.mem_cons.mp hj with rfl | hj
    · exact hp
    · exact (hf.bitfield hbit j hj).trans (hq.trans (if_pos hbit))

/-- **The loop visits all objects** that are left, one after the other. -/
theorem exists_visits (hacc : h.Accepted) {n : ℕ}
    (hstep : Steppable d h.mObjectBase.getType ∨ n ≤ 1) (hh : it.mHeaderInfo = h)
    (hd : it.mHasData = d) (hn : it.mCurrentObjectNum + n = it.count)
    (hp : 0 < n → it.mpPrefixPos = p) :
    ∃ its, it.Visits its ∧ its.length = n ∧ Found h d p its := by
  induction n generalizing it p with
  | zero =>
    have hend : it.isEnd = true := by simp [isEnd]; omega
    exact ⟨[], .done hend, rfl, found_nil⟩
  | succ n ih =>
    have hend : it.isEnd = false := by simp [isEnd]; omega
    cases n with
    | zero =>
      have hlast := next_last it (by omega)
      have hend' : ({ it with mCurrentObjectNum := it.mCurrentObjectNum + 1 } :
          ObjectReadIterator).isEnd = true := by
        simpa [isEnd, count] using Nat.le_of_eq hn.symm
      exact ⟨[it], .next hend hlast (.done hend'), rfl,
        found_nil.cons hh hd hend (hp (by omega)) rfl⟩
    | succ n =>
      have hstep := hstep.resolve_right (by omega)
      obtain ⟨it', hnext, hh', hd', hnum, hpos⟩ :=
        next_more it (by rw [hh]; exact hacc) (by omega) (by rw [hh, hd]; exact hstep)
      rw [hh] at hh'
      rw [hd] at hd'
      have hcount : it'.count = it.count := by rw [count, count, hh', hh]
      obtain ⟨its, hvisits, hlen, hf⟩ := ih (.inl hstep) hh' hd' (by omega) (fun _ ↦ rfl)
      refine ⟨it :: its, .next hend hnext hvisits, by rw [List.length_cons, hlen], ?_⟩
      refine hf.cons hh hd hend (hp (by omega)) ?_
      rw [hpos, hh, hd, hp (by omega)]

/-- Whatever the loop visits belongs to the header. -/
theorem Visits.header (hv : it.Visits its) : ∀ j ∈ its,
    j.mHeaderInfo = it.mHeaderInfo ∧ j.mHasData = it.mHasData := by
  induction hv with
  | done => exact fun j hj ↦ absurd hj List.not_mem_nil
  | @next it it' its _ hnext _ ih =>
    obtain ⟨hh, hd⟩ := next_header hnext
    intro j hj
    rcases List.mem_cons.mp hj with rfl | hj
    · exact ⟨rfl, rfl⟩
    · exact ⟨(ih j hj).1.trans hh, (ih j hj).2.trans hd⟩

/-- The octets of all objects together. -/
theorem sum_spans (hits : ∀ j ∈ its, j.mHeaderInfo = h ∧ j.mHasData = d) :
    ((its.flatMap spans).map Span.size).sum = (h.mPrefixSize + h.objectSize d) * its.length := by
  induction its with
  | nil => rfl
  | cons j its ih =>
    obtain ⟨hh, hd⟩ := hits j List.mem_cons_self
    rw [List.flatMap_cons, List.map_append, List.sum_append,
      ih fun i hi ↦ hits i (List.mem_cons_of_mem _ hi), List.length_cons, Nat.mul_add, Nat.mul_one,
      Nat.add_comm]
    simp only [spans, List.map_cons, List.map_nil, List.sum_cons, List.sum_nil, hh, hd,
      Nat.add_zero]

/-- Where the iterator starts. -/
theorem beginRead_pos {apBuffer : List Byte} (hacc : h.Accepted)
    (hbegin : beginRead h apBuffer d = .ok it) (hcount : 0 < h.mCount) :
    it.mpPrefixPos = h.mPos + h.mHeader.getSize := by
  have hend : (⟨h, 0, 0, 0, 0, apBuffer, d⟩ : ObjectReadIterator).isEnd = false := by
    simp [isEnd, count]
    omega
  obtain ⟨n, hn⟩ := setObjectInfo_of_accepted
    ⟨h, 0, 0, 0, h.mPos + h.mHeader.getSize, apBuffer, d⟩ hacc
  rw [beginRead, hend] at hbegin
  simp only [bind, Except.bind, pure, Except.pure, Bool.false_eq_true, if_false] at hbegin
  rw [hn] at hbegin
  dsimp only at hbegin
  split at hbegin
  · obtain rfl := Except.ok.inj hbegin
    rfl
  · obtain rfl := Except.ok.inj hbegin
    rfl

/-- The loop over the objects of a placeholder with data stops at the second one. -/
theorem Visits.le_one_of_not_steppable (hacc : h.Accepted)
    (hstep : ¬Steppable d h.mObjectBase.getType) (hh : it.mHeaderInfo = h) (hd : it.mHasData = d)
    (hnum : it.mCurrentObjectNum = 0) (hv : it.Visits its) : h.mCount ≤ 1 := by
  by_contra hmany
  have hcount : it.count = h.mCount := by rw [count, hh]
  cases hv with
  | done hend =>
    have : it.mCurrentObjectNum ≥ it.count := by simpa [isEnd] using hend
    omega
  | next _ hnext _ =>
    have herr := next_of_not_steppable it (by omega) (by rw [hh]; exact hacc)
      (by rw [hh, hd]; exact hstep)
    exact absurd (herr.symm.trans hnext) (by simp)

end ObjectReadIterator

/-! ## One header -/

open ObjectReadIterator

variable {named : ℕ → ℕ → ObjectBase → Prop} {size : HeaderInfo → ℕ} {apData : List Byte}
  {aPos stop : ℕ} {h : HeaderInfo} {hs : List HeaderInfo} {d : Bool}
  {its : List ObjectReadIterator}

theorem HeaderInfo.Sized.steppable (hacc : h.Accepted) (hsized : h.Sized d) :
    Steppable d h.mObjectBase.getType ∨ h.mCount ≤ 1 := by
  have ht := ObjectBase.getType_ne_variable hacc.object
  have hone := hsized.one
  have hfew := hsized.few
  revert ht hone hfew
  cases h.mObjectBase.getType with
  | fixed n => exact fun _ _ _ ↦ .inl fun _ ↦ .inl ⟨n, rfl⟩
  | bitfield => exact fun _ _ _ ↦ .inl fun _ ↦ .inr rfl
  | sizeByVariation => exact fun _ hone _ ↦ .inr (Nat.le_of_eq (hone rfl))
  | placeholder =>
    intro _ _ hfew
    cases d with
    | false => exact .inl fun hd ↦ Bool.noConfusion hd
    | true => exact .inr (hfew rfl rfl)
  | _ => exact fun ht _ _ ↦ absurd rfl ht

theorem HeaderInfo.requiredSize_of_ne (hbit : h.mObjectBase.getType ≠ .bitfield) :
    h.requiredSize d = (h.mPrefixSize + h.objectSize d) * h.mCount := by
  unfold HeaderInfo.requiredSize
  split
  · exact absurd ‹_› hbit
  · rfl

/-- Nothing stands in front of a bit field. -/
theorem HeaderAt.prefixSize_bitfield (hh : HeaderAt named apData aPos h)
    (hbit : h.mObjectBase.getType = .bitfield) : h.mPrefixSize = 0 := by
  have hs := hh.suits
  rw [hbit] at hs
  rw [hh.prefixSize]
  revert hs
  cases h.mQualifier <;> simp [QualifierCode.Suits, QualifierCode.indexSize]

/-- **The objects of a header can be read**, and the header and they are the octets up to the next
header. -/
theorem exists_readable (hacc : h.Accepted) (hh : HeaderAt named apData aPos h)
    (hsized : h.Sized d) (hstop : stop = h.mPos + (h.mHeader.getSize + h.countedSize d)) :
    ∃ its, Readable apData d h stop its ∧ Span.Tiles h.mPos stop (h.spans d its) := by
  obtain ⟨it, hbegin, hhdr, hnum, -, hd⟩ := beginRead_of_accepted hacc apData d
  have hcount : it.count = h.mCount := by rw [count, hhdr]
  obtain ⟨its, hvisits, hlen, hf⟩ := exists_visits hacc (hsized.steppable hacc) hhdr hd
    (by omega) (fun hpos ↦ beginRead_pos hacc hbegin hpos)
  rw [h.countedSize_eq hsized.one, ← Nat.add_assoc] at hstop
  have hdata (hd' : d = true) (j : ObjectReadIterator) (hj : j ∈ its) :
      j.deref = .ok (j.mpPrefixPos + h.mPrefixSize) := by
    obtain ⟨hjh, hjd, hjend⟩ := hf.header j hj
    rw [deref, hjend, hjd, hd', hjh]
    rfl
  refine ⟨its, ⟨⟨it, hbegin, hvisits⟩, hlen, hdata, ?_, ?_⟩, rfl, ?_⟩
  · intro j hj s hs
    by_cases hbit : h.mObjectBase.getType = .bitfield
    · obtain ⟨hjh, hjd, -⟩ := hf.header j hj
      have hpos := hf.bitfield hbit j hj
      have hpre := hh.prefixSize_bitfield hbit
      have hreq : h.requiredSize d = h.objectSize d := by rw [HeaderInfo.requiredSize, hbit]
      rw [ObjectReadIterator.spans, hjh, hjd, hpos, hpre] at hs
      rw [hstop, hreq]
      rcases List.mem_cons.mp hs with rfl | hs
      · exact ⟨Nat.le_refl _, Nat.le_add_right _ _⟩
      · rw [List.mem_singleton.mp hs]
        exact ⟨Nat.le_refl _, Nat.le_refl _⟩
    · have htiles := hf.tiles hbit
      rw [hlen, ← HeaderInfo.requiredSize_of_ne hbit, ← hstop] at htiles
      exact htiles.within (List.mem_flatMap.mpr ⟨j, hj, hs⟩)
  · exact fun hbit ↦ (hf.tiles hbit).pairwise_disjoint
  · change Span.Tiles (h.mPos + h.mHeader.getSize) stop _
    split
    · next hbit =>
      have hreq : h.requiredSize d = h.objectSize d := by rw [HeaderInfo.requiredSize, hbit]
      exact ⟨rfl, by rw [hstop, hreq]; rfl⟩
    · next hbit =>
      have htiles := hf.tiles hbit
      rwa [hlen, ← HeaderInfo.requiredSize_of_ne hbit, ← hstop] at htiles

/-- Objects that can be read, and that fill the octets up to the next header, are sized. -/
theorem Readable.sized (hacc : h.Accepted) (hh : HeaderAt named apData aPos h)
    (hstop : stop = h.mPos + (h.mHeader.getSize + h.countedSize d))
    (hr : Readable apData d h stop its) (htiles : Span.Tiles h.mPos stop (h.spans d its)) :
    h.Sized d := by
  obtain ⟨it, hbegin, hvisits⟩ := hr.visits
  obtain ⟨it', hbegin', hhdr, hnum, -, hd⟩ := beginRead_of_accepted hacc apData d
  obtain rfl := Except.ok.inj (hbegin.symm.trans hbegin')
  constructor
  · intro ho
    have hpre := hh.prefixSize_pos ho
    have hits (j : ObjectReadIterator) (hj : j ∈ its) : j.mHeaderInfo = h ∧ j.mHasData = d :=
      ⟨(hvisits.header j hj).1.trans hhdr, (hvisits.header j hj).2.trans hd⟩
    have hsum := htiles.sum
    rw [HeaderInfo.spans, List.map_cons, List.sum_cons, ho, if_neg (by simp), sum_spans hits,
      hr.count, hstop, HeaderInfo.countedSize, ho] at hsum
    have heq : (h.mPrefixSize + h.objectSize d) * h.mCount = h.mPrefixSize + h.objectSize d := by
      simp only at hsum
      omega
    exact Nat.eq_of_mul_eq_mul_left (by omega) (heq.trans (Nat.mul_one _).symm)
  · intro hd' ho
    refine hvisits.le_one_of_not_steppable hacc (fun hstep ↦ ?_) hhdr hd hnum
    rcases hstep hd' with ⟨n, hn⟩ | hn
    · exact absurd (ho.symm.trans hn) (by simp)
    · exact absurd (ho.symm.trans hn) (by simp)

/-! ## All headers -/

theorem mem_of_mem_withStops {p : HeaderInfo × ℕ} {n : ℕ} (hp : p ∈ withStops hs n) : p.1 ∈ hs := by
  fun_induction withStops hs n with
  | case1 => exact absurd hp List.not_mem_nil
  | case2 h stop => exact List.mem_singleton.mp hp ▸ List.mem_cons_self
  | case3 h h' hs stop ih =>
    rcases List.mem_cons.mp hp with rfl | hp
    · exact List.mem_cons_self
    · exact List.mem_cons_of_mem _ (ih hp)

theorem exists_mem_withStops (hh : h ∈ hs) (n : ℕ) : ∃ stop, (h, stop) ∈ withStops hs n := by
  fun_induction withStops hs n with
  | case1 => exact absurd hh List.not_mem_nil
  | case2 i stop => exact ⟨stop, List.mem_singleton.mp hh ▸ List.mem_cons_self⟩
  | case3 i i' is stop ih =>
    rcases List.mem_cons.mp hh with rfl | hh
    · exact ⟨_, List.mem_cons_self⟩
    · obtain ⟨t, ht⟩ := ih hh
      exact ⟨t, List.mem_cons_of_mem _ ht⟩

/-- Each header, with its objects, reaches to the next one. -/
theorem Cut.stop_eq (hcut : Cut named size apData aPos hs) {p : HeaderInfo × ℕ}
    (hp : p ∈ withStops hs apData.length) : p.2 = p.1.mPos + (p.1.mHeader.getSize + size p.1) := by
  induction hcut with
  | nil => exact absurd hp List.not_mem_nil
  | @cons aPos h hs hh hrest ih =>
    cases hs with
    | nil =>
      obtain rfl := List.mem_singleton.mp hp
      rw [hh.pos, ← hrest.eq_length]
    | cons h' hs' =>
      rcases List.mem_cons.mp hp with rfl | hp
      · rw [hrest.head.pos, hh.pos]
      · exact ih hp

/-- The spans of all headers tile the octets if those of each one reach to the next one. -/
theorem Cut.tiles_iff (hcut : Cut named size apData aPos hs)
    (read : HeaderInfo → List ObjectReadIterator) :
    Span.Tiles aPos apData.length (hs.flatMap fun h ↦ h.spans d (read h)) ↔
      ∀ p ∈ withStops hs apData.length, Span.Tiles p.1.mPos p.2 (p.1.spans d (read p.1)) := by
  induction hcut with
  | nil => exact ⟨fun _ p hp ↦ absurd hp List.not_mem_nil, fun _ ↦ rfl⟩
  | @cons aPos h hs hh hrest ih =>
    rw [List.flatMap_cons, Span.tiles_append]
    cases hs with
    | nil =>
      rw [withStops, ← hh.pos]
      constructor
      · rintro ⟨mid, hfirst, hmid⟩ p hp
        obtain rfl := List.mem_singleton.mp hp
        exact (show mid = _ from hmid) ▸ hfirst
      · intro hall
        exact ⟨_, hall (h, _) List.mem_cons_self, rfl⟩
    | cons h' hs' =>
      have hpos := hrest.head.pos
      rw [← hpos] at ih
      rw [withStops, ← hh.pos]
      constructor
      · rintro ⟨mid, hfirst, hmid⟩ p hp
        -- the next header starts where the objects of this one end
        have hstart : mid = h'.mPos := hmid.1.symm
        rcases List.mem_cons.mp hp with rfl | hp
        · exact hstart ▸ hfirst
        · exact ih.mp (hstart ▸ hmid) p hp
      · intro hall
        exact ⟨_, hall (h, _) List.mem_cons_self,
          ih.mpr fun p hp ↦ hall p (List.mem_cons_of_mem _ hp)⟩

/-! ## The fragment -/

/-- `Interpret` terminates on all octets. -/
theorem interpret_terminates {c : AppControlField} {f : FunctionCodes} {n : ℕ}
    (hhdr : APDU.interpretHeader apData = .ok (c, f, n)) :
    ∃ r, Loop f apData n (apData.length - n) r ∧
      APDU.interpret apData = r.map fun hs ↦ ⟨apData, c, f, hs⟩ := by
  refine ⟨_, loop_readObjectHeaders f apData (Nat.le_refl _) n, ?_⟩
  rw [APDU.interpret, hhdr, except_ok_bind]
  dsimp only
  cases readObjectHeaders f apData (apData.length - n) n (apData.length - n) with
  | error e => rfl
  | ok hs => rfl

/-- **The parser is sound for its readers exactly on the fragments that it cuts into headers whose
objects are sized.** -/
theorem sound_iff (apData : List Byte) :
    Sound apData ↔
      ∀ hs, Accepts apData hs → ∀ h ∈ hs, h.Sized (hasData (functionOf apData)) := by
  constructor
  · intro hsound hs hacc h hh
    have hok : APDU.interpret apData =
        .ok ⟨apData, .ofByte (apData.getD 0 0), functionOf apData, hs⟩ :=
      APDU.interpret_eq_ok.mpr ⟨rfl, hacc⟩
    obtain ⟨read, ⟨-, htiles⟩, hread⟩ := hsound.readable _ hok
    obtain ⟨stop, hstop⟩ := exists_mem_withStops hh apData.length
    rw [Span.stop, Nat.zero_add] at htiles
    have hspans := (hacc.objects.tiles_iff read).mp htiles _ hstop
    obtain ⟨⟨p, hat⟩, -⟩ := hacc.objects.size_eq hacc.objects h hh
    exact (hread _ hstop).sized (APDU.accepted_of_interpret hok hh) hat
      (hacc.objects.stop_eq hstop) hspans
  · intro hsized
    refine ⟨fun c f n hhdr ↦ interpret_terminates hhdr, fun apdu hok ↦ ?_⟩
    obtain ⟨happ, hacc⟩ := APDU.interpret_eq_ok.mp hok
    have hfunction : apdu.getFunction = functionOf apData := by rw [happ]
    have hone (p : HeaderInfo × ℕ) (hp : p ∈ withStops apdu.mObjectHeaders apData.length) :
        ∃ its, Readable apData (hasData apdu.getFunction) p.1 p.2 its ∧
          Span.Tiles p.1.mPos p.2 (p.1.spans (hasData apdu.getFunction) its) := by
      have hmem := mem_of_mem_withStops hp
      obtain ⟨⟨q, hat⟩, -⟩ := hacc.objects.size_eq hacc.objects p.1 hmem
      rw [hfunction]
      exact exists_readable (APDU.accepted_of_interpret hok hmem) hat (hsized _ hacc _ hmem)
        (hacc.objects.stop_eq hp)
    classical
    -- no two headers start at the same place, so each has one stop
    have hchoose (h : HeaderInfo) : ∃ its, ∀ stop,
        (h, stop) ∈ withStops apdu.mObjectHeaders apData.length →
          Readable apData (hasData apdu.getFunction) h stop its ∧
            Span.Tiles h.mPos stop (h.spans (hasData apdu.getFunction) its) := by
      by_cases hh : h ∈ apdu.mObjectHeaders
      · obtain ⟨stop, hstop⟩ := exists_mem_withStops hh apData.length
        obtain ⟨its, hits⟩ := hone _ hstop
        refine ⟨its, fun stop' hstop' ↦ ?_⟩
        rwa [show stop' = stop from
          (hacc.objects.stop_eq hstop').trans (hacc.objects.stop_eq hstop).symm]
      · exact ⟨[], fun stop hstop ↦ absurd (mem_of_mem_withStops hstop) hh⟩
    choose read hread using hchoose
    refine ⟨read, ⟨rfl, ?_⟩, fun p hp ↦ (hread p.1 p.2 hp).1⟩
    rw [Span.stop, Nat.zero_add, hfunction]
    exact (hacc.objects.tiles_iff read).mpr fun p hp ↦ hfunction ▸ (hread p.1 p.2 hp).2

/-- A virtual terminal fragment that names two objects and holds one is accepted, and its second
object cannot be read. -/
theorem not_sound : ¬Sound [0xC0, 0x64, 0x70, 0x01, 0x17, 0x02, 0x00, 0x41] := by
  intro hsound
  obtain ⟨apdu, hok⟩ :
    ∃ apdu, APDU.interpret [0xC0, 0x64, 0x70, 0x01, 0x17, 0x02, 0x00, 0x41] = .ok apdu := ⟨_, rfl⟩
  obtain ⟨read, -, hread⟩ := hsound.readable apdu hok
  have hacc (h : HeaderInfo) (hh : h ∈ apdu.mObjectHeaders) := APDU.accepted_of_interpret hok hh
  obtain rfl := Except.ok.inj hok
  have hr := hread _ List.mem_cons_self
  obtain ⟨it, hbegin, hvisits⟩ := hr.visits
  obtain ⟨it', hbegin', hhdr, hnum, -, hd⟩ :=
    beginRead_of_accepted (hacc _ List.mem_cons_self)
      [0xC0, 0x64, 0x70, 0x01, 0x17, 0x02, 0x00, 0x41] true
  obtain rfl := Except.ok.inj (hbegin'.symm.trans hbegin)
  have hle := hvisits.le_one_of_not_steppable (hacc _ List.mem_cons_self) (fun hstep ↦ ?_)
    hhdr hd hnum
  · exact absurd hle (by decide)
  · rcases hstep rfl with ⟨n, hn⟩ | hn
    · exact absurd hn (by simp)
    · exact absurd hn (by simp)

end OpenDNP3
