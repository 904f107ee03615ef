import OpenDNP3.App.Blocks

/-!
# The buffer holds the fragment

Every call of the write interface does to the buffer what it does to the fragment: the octets in use
are those of its blocks.  A call writes into the room behind the octets in use, and only there, so
what an earlier call has written stays, also where a later call fails.

* `APDUBuffer.wp_poke` and the lemmas after it — what each operation of the interface does to the
  octets.
* `APDUBuffer.wp_fill`, `wp_fillBits` and `wp_fillIndexed` — the loops over the objects.
* `Holds` — the buffer holds the fragment.
-/

set_option autoImplicit false

namespace OpenDNP3

open Handler LittleEndian

/-! ## Octets in a buffer -/

/-- Octets that are written behind others replace as many of what follows. -/
theorem splice_append {pre rest bs : List Byte} {pos : ℕ} (hpos : pre.length = pos) :
    splice (pre ++ rest) pos bs = pre ++ (bs ++ rest.drop bs.length) := by
  rw [splice, List.take_left' hpos, ← hpos, List.drop_append, List.append_assoc]
  simp

/-- One octet of some in the middle. -/
theorem splice_set {pre bs post : List Byte} {j : ℕ} (hj : j < bs.length) (x : Byte) :
    splice (pre ++ (bs ++ post)) (pre.length + j) [x] = pre ++ (bs.set j x ++ post) := by
  have hsplit : pre ++ (bs ++ post) = (pre ++ bs.take j) ++ (bs.drop j ++ post) := by
    rw [List.append_assoc, ← List.append_assoc (bs.take j), List.take_append_drop]
  have hset : bs.set j x = bs.take j ++ x :: bs.drop (j + 1) :=
    List.set_eq_take_append_cons_drop .. |>.trans (if_pos hj)
  rw [hsplit, splice_append (by simp; omega), hset]
  have hone : 1 - (bs.length - j) = 0 := by omega
  simp [List.drop_append, hone]

/-- A bit of an octet is written. -/
theorem setWidth_ofBoolListLE_set {l : List Bool} {k : ℕ} (hk : k < l.length) (v : Bool) :
    (BitVec.ofBoolListLE (l.set k v)).setWidth 8 =
      IINField.setBit ((BitVec.ofBoolListLE l).setWidth 8) (1 <<< k) v := by
  refine BitVec.eq_of_getLsbD_eq fun i hi ↦ ?_
  have hmask : (BitVec.ofNat 8 (1 <<< k))[i] = decide (k = i) := by
    rw [← BitVec.getLsbD_eq_getElem, BitVec.getLsbD_ofNat, Nat.one_shiftLeft, Nat.testBit_two_pow]
    simp [hi]
  by_cases hik : k = i
  · subst hik
    rw [decide_eq_true rfl] at hmask
    have hget : (BitVec.ofBoolListLE (l.set k v)).getLsbD k = v := by
      rw [BitVec.getLsbD_ofBoolListLE]
      simp [hk]
    rw [BitVec.getLsbD_setWidth, hget]
    cases v <;> simp [IINField.setBit, hi, hmask]
  · rw [decide_eq_false hik] at hmask
    cases v <;> simp [IINField.setBit, hi, hmask, hik]

/-- **A bit of a bit field is written** without changing the others. -/
theorem bitOctets_set (bits : List Bool) {k : ℕ} (hk : k < bits.length) (v : Bool) :
    bitOctets (bits.set k v) =
      (bitOctets bits).set (k / 8)
        (IINField.setBit ((bitOctets bits).getD (k / 8) 0) (1 <<< (k % 8)) v) := by
  fun_induction bitOctets bits generalizing k with
  | case1 bits h => omega
  | case2 bits h ih =>
    have hne : (bits.set k v).length ≠ 0 := by rwa [List.length_set]
    rw [bitOctets, if_neg hne, List.take_set, List.drop_set]
    by_cases hlow : k < 8
    · have hdiv : k / 8 = 0 := by omega
      have hmod : k % 8 = k := Nat.mod_eq_of_lt hlow
      rw [if_pos hlow, hdiv, hmod, List.set_cons_zero, List.getD_cons_zero,
        setWidth_ofBoolListLE_set (by rw [List.length_take]; omega)]
    · have hdiv : k / 8 = (k - 8) / 8 + 1 := by omega
      have hmod : k % 8 = (k - 8) % 8 := by omega
      rw [if_neg hlow, hdiv, hmod, List.set_cons_succ, List.getD_cons_succ,
        ih (by rw [List.length_drop]; omega),
        List.set_eq_of_length_le (by rw [List.length_take]; omega)]

/-! ## What the operations do to the octets -/

namespace APDUBuffer

variable {w : APDUBuffer} {pre rest : List Byte} {aPos : ℕ} {E : Exception → APDUBuffer → Prop}

/-- Octets are written behind others. -/
theorem wp_poke {Q : PUnit → APDUBuffer → Prop} {bs : List Byte} (hw : w.mBuffer = pre ++ rest)
    (hpos : pre.length = aPos) (hlen : bs.length ≤ rest.length) :
    wp (poke aPos bs) Q E w = Q ⟨⟩ { w with mBuffer := pre ++ (bs ++ rest.drop bs.length) } := by
  have hroom : aPos + bs.length ≤ w.mBuffer.length := by
    rw [hw, List.length_append]
    omega
  rw [poke, wp_bind, wp_get, wp_bind, wp_ensure_of hroom, wp_set, hw, splice_append hpos]

/-- The octets of the group, the variation and the qualifier. -/
def headOctets (aGrp aVar : ℕ) (aQual : QualifierCode) : List Byte :=
  writeUInt 1 aGrp ++ (writeUInt 1 aVar ++ writeUInt 1 aQual.toNat)

@[simp] theorem length_headOctets (aGrp aVar : ℕ) (aQual : QualifierCode) :
    (headOctets aGrp aVar aQual).length = 3 := by
  simp [headOctets]

theorem wp_setHeader {Q : PUnit → APDUBuffer → Prop} {aGrp aVar : ℕ} {aQual : QualifierCode}
    (hw : w.mBuffer = pre ++ rest) (hpos : pre.length = aPos) (hlen : 3 ≤ rest.length) :
    wp (setHeader aPos aGrp aVar aQual) Q E w =
      Q ⟨⟩ { w with mBuffer := (pre ++ headOctets aGrp aVar aQual) ++ rest.drop 3 } := by
  have hpoke := @wp_poke w pre rest aPos E Q (headOctets aGrp aVar aQual) hw hpos
    (by simpa using hlen)
  rw [length_headOctets, ← List.append_assoc] at hpoke
  exact hpoke

/-- A count is written if it fits its field. -/
theorem wp_setCount {Q : PUnit → APDUBuffer → Prop} {t : ObjectHeaderTypes} {aCount : ℕ}
    (hw : w.mBuffer = pre ++ rest) (hpos : pre.length = aPos + 3)
    (hlen : t.fieldSize ≤ rest.length) :
    wp (setCount t aPos aCount) Q E w =
      if aCount ≤ t.maxField then
        Q ⟨⟩ { w with mBuffer := pre ++ (writeUInt t.fieldSize aCount ++ rest.drop t.fieldSize) }
      else E (.argument "") w := by
  rw [setCount, wp_bind, wp_ensure]
  split
  · rw [wp_poke hw hpos (by rwa [length_writeUInt]), length_writeUInt]
  · rfl

/-- A range is written if its end fits its field. -/
theorem wp_setRange {Q : PUnit → APDUBuffer → Prop} {t : ObjectHeaderTypes} {r : RangeInfo}
    (hw : w.mBuffer = pre ++ rest) (hpos : pre.length = aPos + 3)
    (hlen : t.fieldSize + t.fieldSize ≤ rest.length)
    (hle : r.start ≤ r.stop) (hmax : r.stop ≤ t.maxField) :
    wp (setRange t aPos r) Q E w = Q ⟨⟩ { w with mBuffer := pre ++
      (writeUInt t.fieldSize r.start ++ writeUInt t.fieldSize r.stop ++ rest.drop
        (t.fieldSize + t.fieldSize)) } := by
  rw [setRange, wp_bind, wp_ensure_of hle, wp_bind, wp_ensure_of hmax, wp_bind,
    wp_poke hw hpos (by rw [length_writeUInt]; omega), wp_poke (List.append_assoc pre _ _).symm
      (by simp [hpos])
      (by simp; omega)]
  simp only [length_writeUInt, List.drop_drop, List.append_assoc]

/-- The numbers of the header of a range of objects. -/
def rangeFields (t : ObjectHeaderTypes) (aStart n : ℕ) : List Byte :=
  if t.isCount then writeUInt t.fieldSize n
  else writeUInt t.fieldSize aStart ++ writeUInt t.fieldSize (aStart + n - 1)

theorem length_rangeFields {t : ObjectHeaderTypes} (h : t ≠ .allObjects) (aStart n : ℕ) :
    (rangeFields t aStart n).length = t.getSize - 3 := by
  cases t with
  | allObjects => exact absurd rfl h
  | _ => simp [rangeFields, ObjectHeaderTypes.isCount, ObjectHeaderTypes.fieldSize,
      ObjectHeaderTypes.getSize]

/-- The numbers of a header are written where `OutAPDU` writes them. -/
theorem wp_writeContiguousHeader {Q : PUnit → APDUBuffer → Prop} {t : ObjectHeaderTypes}
    {aStart n : ℕ}
    {r : Option RangeInfo} (hn : 0 < n) (hw : w.mBuffer = pre ++ rest)
    (hpos : pre.length = aPos + 3) (hlen : t.getSize - 3 ≤ rest.length)
    (hr : OutAPDU.writeContiguousHeader t aStart (aStart + n - 1) = .ok r) :
    wp (writeContiguousHeader t aPos aStart (aStart + n - 1)) Q E w =
      Q ⟨⟩ { w with mBuffer := pre ++ (rangeFields t aStart n ++ rest.drop (t.getSize - 3)) } := by
  obtain ⟨hall, hheader⟩ := OutAPDU.writeContiguousHeader_eq_ok hn hr
  have hcount : aStart + n - 1 - aStart + 1 = n := by omega
  have hfields := length_rangeFields hall aStart n
  rw [rangeFields] at hfields ⊢
  rw [writeContiguousHeader]
  rcases hheader with ⟨hc, hmax, -⟩ | ⟨hc, hmax, -⟩
  · rw [if_pos hc, length_writeUInt] at hfields
    rw [if_pos hc, if_pos hc, hcount, wp_setCount hw hpos (by omega), if_pos hmax, hfields]
  · rw [hc, if_neg Bool.false_ne_true, List.length_append, length_writeUInt, length_writeUInt]
      at hfields
    rw [hc, if_neg Bool.false_ne_true, if_neg Bool.false_ne_true, if_neg hall,
      wp_setRange hw hpos (by omega) (by simp only []; omega) hmax, hfields]

/-- Where `OutAPDU` rejects the numbers, they are not written. -/
theorem wp_writeContiguousHeader_error {Q : PUnit → APDUBuffer → Prop} {t : ObjectHeaderTypes}
    {aStart n : ℕ}
    {e : Exception} (hn : 0 < n)
    (hr : OutAPDU.writeContiguousHeader t aStart (aStart + n - 1) = .error e) :
    wp (writeContiguousHeader t aPos aStart (aStart + n - 1)) Q E w = E e w := by
  have hcount : aStart + n - 1 - aStart + 1 = n := by omega
  have hle : aStart ≤ aStart + n - 1 := by omega
  rw [OutAPDU.writeContiguousHeader, hcount] at hr
  rw [writeContiguousHeader, hcount]
  by_cases hc : t.isCount = true
  · rw [if_pos hc] at hr ⊢
    split at hr
    · cases hr
      rw [setCount, wp_bind, wp_ensure, if_neg (by omega)]
    · cases hr
  · rw [if_neg hc] at hr ⊢
    split at hr
    · cases hr
      rw [if_pos ‹_›]
      rfl
    · rw [if_neg ‹_›]
      split at hr
      · omega
      · split at hr
        · cases hr
          rw [setRange, wp_bind, wp_ensure_of hle, wp_bind, wp_ensure,
            if_neg (by simp only []; omega)]
        · cases hr

/-! ### Loops -/

/-- A loop over objects of one size writes as many as the iterator has room for, one behind the
other. -/
theorem wp_fill {Q : PUnit → APDUBuffer → Prop} (objs : List (List Byte)) (it : ObjectWritePointer)
    (hw : w.mBuffer = pre ++ rest) (hpos : pre.length = it.mpPos)
    (hsize : ∀ obj ∈ objs, obj.length = it.mObjectSize)
    (hroom : min objs.length (it.mStop + 1 - it.mIndex) * it.mObjectSize ≤ rest.length)
    (hQ : ∀ rest', (objs.take (it.mStop + 1 - it.mIndex)).flatten.length + rest'.length =
      rest.length →
      Q ⟨⟩ { w with mBuffer := pre ++ ((objs.take (it.mStop + 1 - it.mIndex)).flatten ++ rest') }) :
    wp (fill objs it) Q E w := by
  induction objs generalizing it w pre rest with
  | nil =>
    rw [fill, wp_pure]
    have hsame := hQ rest (by simp)
    rw [List.take_nil, List.flatten_nil, List.nil_append, ← hw] at hsame
    exact hsame
  | cons obj objs ih =>
    by_cases hend : it.mIndex > it.mStop
    · have hzero : it.mStop + 1 - it.mIndex = 0 := by omega
      have hsame := hQ rest (by simp [hzero])
      rw [hzero, List.take_zero, List.flatten_nil, List.nil_append, ← hw] at hsame
      rw [fill, if_pos (by simpa [ObjectWriteIterator.isEnd] using hend)]
      exact hsame
    · have hisEnd : it.isEnd = false := by simpa [ObjectWriteIterator.isEnd] using hend
      have hmore : it.mStop + 1 - it.mIndex = it.mStop + 1 - (it.mIndex + 1) + 1 := by omega
      have hobj := hsize obj List.mem_cons_self
      rw [hmore, List.length_cons, Nat.add_min_add_right, Nat.succ_mul] at hroom
      have hstep := fun rest' ↦ hQ rest'
      rw [hmore] at hstep
      rw [fill, hisEnd, if_neg Bool.false_ne_true, ObjectWritePointer.deref, hisEnd,
        if_neg Bool.false_ne_true, wp_bind, wp_lift_ok, wp_bind, wp_poke hw hpos (by omega),
        ObjectWritePointer.next, hisEnd,
          if_neg Bool.false_ne_true,
        wp_bind, wp_lift_ok]
      refine ih _ (List.append_assoc pre _ _).symm (by simp [hpos, hobj])
        (fun x hx ↦ hsize x (List.mem_cons_of_mem _ hx)) ?_ fun rest' hrest' ↦ ?_
      · rw [List.length_drop]
        simp only
        omega
      · have hlast := hstep rest' (by
          rw [List.length_drop] at hrest'
          simp only [List.take_succ_cons, List.flatten_cons, List.length_append] at hrest' ⊢
          omega)
        simpa only [List.take_succ_cons, List.flatten_cons, List.append_assoc] using hlast

/-- A loop over bits writes as many as the iterator has room for, into a bit field that is there
already. -/
theorem wp_fillBits {Q : PUnit → APDUBuffer → Prop} (bits : List Bool) {cur : List Bool}
    {aStart k : ℕ}
    {it : ObjectWritePointer} (hw : w.mBuffer = pre ++ (bitOctets cur ++ rest))
    (hpos : pre.length = it.mpPos)
    (hsize : it.mObjectSize = 0) (hindex : it.mIndex = aStart + k)
    (hstop : it.mStop + 1 = aStart + cur.length)
    (hk : k ≤ cur.length) (hbits : cur.length ≤ k + bits.length)
    (hQ : Q ⟨⟩ { w with mBuffer := pre ++
      (bitOctets (cur.take k ++ bits.take (cur.length - k)) ++ rest) }) :
    wp (fillBits aStart (aStart + k) bits it) Q E w := by
  induction bits generalizing it w cur k with
  | nil =>
    have hlen : k = cur.length := by simpa using Nat.le_antisymm hk hbits
    rw [hlen, List.take_nil, List.append_nil, List.take_length, ← hw] at hQ
    exact hQ
  | cons bit bits ih =>
    by_cases hend : it.mIndex > it.mStop
    · have hlen : k = cur.length := by omega
      rw [hlen, Nat.sub_self, List.take_zero, List.append_nil, List.take_length, ← hw] at hQ
      rw [fillBits, if_pos (by simpa [ObjectWriteIterator.isEnd] using hend)]
      exact hQ
    · have hisEnd : it.isEnd = false := by simpa [ObjectWriteIterator.isEnd] using hend
      have hlt : k < cur.length := by omega
      have hsub : aStart + k - aStart = k := by omega
      have hj : k / 8 < (bitOctets cur).length := by
        rw [length_bitOctets, bitfieldSize]
        split <;> omega
      have hget : w.mBuffer.getD (it.mpPos + k / 8) 0 = (bitOctets cur).getD (k / 8) 0 := by
        rw [hw, ← hpos, List.getD_eq_getElem?_getD, List.getElem?_append_right
          (Nat.le_add_right _ _), Nat.add_sub_cancel_left, List.getElem?_append_left hj,
          ← List.getD_eq_getElem?_getD]
      have hwrite : wp (staticWrite it.mpPos aStart (aStart + k) bit) (fun _ t ↦ wp (do
            let it ← lift it.next
            fillBits aStart (aStart + k + 1) bits it) Q E t) E w =
          wp (do
            let it ← lift it.next
            fillBits aStart (aStart + k + 1) bits it) Q E
            { w with mBuffer := pre ++ (bitOctets (cur.set k bit) ++ rest) } := by
        have hassert : assert "aIndex >= aStartIndex" (aStart + k ≥ aStart) = .ok () :=
          assert_of _ (Nat.le_add_right _ _)
        have hroom : it.mpPos + k / 8 + 1 ≤ w.mBuffer.length := by
          rw [hw, List.length_append, List.length_append, hpos]
          omega
        rw [staticWrite, wp_bind, hassert, wp_lift_ok, wp_bind, wp_get, poke, wp_bind, wp_get,
          wp_bind, wp_ensure_of (by rwa [hsub, List.length_singleton]), wp_set, hsub, hget, hw,
          ← hpos,
            splice_set hj,
          bitOctets_set cur hlt]
      rw [fillBits, hisEnd, if_neg Bool.false_ne_true, ObjectWritePointer.deref, hisEnd,
        if_neg Bool.false_ne_true, wp_bind, wp_lift_ok, wp_bind, hwrite, ObjectWritePointer.next,
        hisEnd, if_neg Bool.false_ne_true,
          wp_bind, wp_lift_ok,
        Nat.add_assoc]
      have htake : (cur.set k bit).take (k + 1) = cur.take k ++ [bit] := by
        rw [List.take_add_one, List.take_set_of_le (Nat.le_refl k), List.getElem?_set_self hlt]
        rfl
      have hmore : cur.length - k = cur.length - (k + 1) + 1 := by omega
      refine ih rfl (by simp [hpos, hsize]) hsize (by simp only; omega) (by rwa [List.length_set])
        (by rw [List.length_set]; omega) (by rw [List.length_set]; simp at hbits; omega) ?_
      rw [htake, List.length_set, List.append_assoc, List.singleton_append, ← List.take_succ_cons,
        ← hmore]
      exact hQ

/-- A loop over objects with indices writes as many as the iterator has room for, one behind the
other. -/
theorem wp_fillIndexed {Q : PUnit → APDUBuffer → Prop} {q : QualifierCode}
    (objs : List (ℕ × List Byte))
    (it : IndexedWritePointer) (hw : w.mBuffer = pre ++ rest) (hpos : pre.length = it.mpPos)
    (hmode : it.mIndexMode = q.indexSize) (hset : it.mIndexSet = false)
    (hindex : q.indexSize ≠ 0 → ∀ obj ∈ objs, obj.1 < 256 ^ q.indexSize)
    (hsize : ∀ obj ∈ objs, obj.2.length = it.mObjectSize)
    (hroom : min objs.length (it.mCount - it.mIndex) * (it.mObjectSize + it.mIndexMode) ≤
      rest.length)
    (hQ : ∀ rest', ((objs.take (it.mCount - it.mIndex)).flatMap (Block.objectOctets q)).length +
      rest'.length =
      rest.length → Q ⟨⟩ { w with
        mBuffer := pre ++ ((objs.take (it.mCount - it.mIndex)).flatMap (Block.objectOctets q) ++
          rest') }) :
    wp (fillIndexed objs it) Q E w := by
  induction objs generalizing it w pre rest with
  | nil =>
    rw [fillIndexed, wp_pure]
    have hsame := hQ rest (by simp)
    rw [List.take_nil, List.flatMap_nil, List.nil_append, ← hw] at hsame
    exact hsame
  | cons obj objs ih =>
    by_cases hend : it.mCount ≤ it.mIndex
    · have hzero : it.mCount - it.mIndex = 0 := by omega
      have hsame := hQ rest (by simp [hzero])
      rw [hzero, List.take_zero, List.flatMap_nil, List.nil_append, ← hw] at hsame
      rw [fillIndexed, if_pos (by simpa [IndexedWritePointer.isEnd] using hend)]
      exact hsame
    · have hisEnd : it.isEnd = false := by simpa [IndexedWritePointer.isEnd] using hend
      have hmore : it.mCount - it.mIndex = it.mCount - (it.mIndex + 1) + 1 := by omega
      have hobj := hsize obj List.mem_cons_self
      have hfits : it.mIndexMode ≠ 0 → obj.1 < 256 ^ it.mIndexMode := by
        rw [hmode]
        exact fun h ↦ hindex h obj List.mem_cons_self
      rw [hmore, List.length_cons, Nat.add_min_add_right, Nat.succ_mul] at hroom
      rw [hmore] at hQ
      have hisEnd' : { it with mIndexSet := true }.isEnd = false := hisEnd
      rw [fillIndexed, hisEnd, if_neg Bool.false_ne_true, wp_bind, IndexedWritePointer.setIndex,
        wp_bind, wp_ensure_of hset, wp_bind, wp_ensure_of hisEnd, wp_bind, wp_ensure_of hfits,
        wp_bind, wp_poke hw hpos (by rw [length_writeUInt]; omega), wp_pure,
        IndexedWritePointer.deref,
          wp_bind]
      simp only [Bool.not_true, Bool.false_eq_true, if_false, wp_lift_ok]
      rw [wp_bind, wp_poke (List.append_assoc pre _ _).symm (by simp [hpos]) (by simp; omega),
        IndexedWritePointer.next, hisEnd', if_neg Bool.false_ne_true, Bool.not_true,
          if_neg Bool.false_ne_true, wp_bind,
        wp_lift_ok]
      refine ih _ (List.append_assoc _ _ _).symm (by simp [hpos, hobj]; omega) hmode rfl
        (fun h x hx ↦ hindex h x (List.mem_cons_of_mem _ hx))
          (fun x hx ↦ hsize x (List.mem_cons_of_mem _ hx)) ?_
        fun rest' hrest' ↦ ?_
      · rw [List.length_drop, List.length_drop, length_writeUInt]
        simp only
        omega
      · have hlast := hQ rest' (by
          rw [List.length_drop, List.length_drop, length_writeUInt] at hrest'
          simp only [List.take_succ_cons, List.flatMap_cons, List.length_append, Block.objectOctets,
            length_writeUInt] at hrest' ⊢
          omega)
        rw [List.take_succ_cons, List.flatMap_cons, Block.objectOctets, ← hmode] at hlast
        simpa only [List.append_assoc] using hlast

end APDUBuffer

/-! ## The fragment in the buffer -/

/-- **The buffer holds the fragment**: its octets are those in use, and its blocks are what their
headers say. -/
structure Holds (w : APDUBuffer) (f : OutAPDU (List Byte)) : Prop where
  interpreted : w.mIsInterpreted = false
  function : ∃ aCode, f.function = some aCode ∧ w.mpAppHeader = some aCode.appHeader
  max : w.mBuffer.length = f.mMaxSize
  size : w.mFragmentSize = f.mFragmentSize
  octets : ∃ rest, w.mBuffer = f.octets ++ rest
  length : f.octets.length = f.mFragmentSize
  formed : ∀ b ∈ f.blocks, ∃ t o, b.Formed f.hasData t o

/-- A handler does to the buffer what is done to the fragment; where it throws, the fragment
stays. -/
def Follows (x : APDUBuffer.M PUnit) (y : Except Exception (OutAPDU (List Byte)))
    (f : OutAPDU (List Byte)) (w : APDUBuffer) : Prop :=
  wp x (fun _ t ↦ ∃ g, y = .ok g ∧ Holds t g) (fun e t ↦ y = .error e ∧ Holds t f) w

namespace OutAPDU

variable {f : OutAPDU (List Byte)}

theorem octets_startBlock (f : OutAPDU (List Byte)) (b : Block (List Byte)) (n : ℕ) :
    (f.startBlock b n).octets = f.octets ++ b.octets f.hasData := by
  have hheader : (f.startBlock b n).headerOctets = f.headerOctets := rfl
  have hdata : (f.startBlock b n).hasData = f.hasData := rfl
  rw [octets, octets, hheader, hdata, startBlock, List.flatMap_append, List.flatMap_singleton,
    List.append_assoc]

/-- The block of objects from a number on, where there is a header. -/
theorem rangeBlock_eq {apObj : ObjectBase} {aRoom : ℕ → ℕ} {aStart n : ℕ} {objs : List (List Byte)}
    {aCode q : QualifierCode} {t : ObjectHeaderTypes}
    (hq : (if aCode = .undefined then getContiguousQualifier (aStart + objs.length - 1)
      else aCode) = q)
    (ht : getObjectHeader q = .ok t) (hn : min objs.length (f.room t aRoom) = n) :
    f.rangeBlock apObj aRoom aStart objs aCode =
      if n = 0 then .ok none
      else (fun r ↦ some
        ⟨apObj.getGroup, apObj.getVariation, q, numbered aStart (objs.take n), r⟩) <$>
        writeContiguousHeader t aStart (aStart + n - 1) := by
  simp only [rangeBlock, hq, ht, except_ok_bind, hn]
  rfl

end OutAPDU

namespace Holds

open APDUBuffer

variable {w : APDUBuffer} {f : OutAPDU (List Byte)} {E : Exception → APDUBuffer → Prop}

theorem remainder_eq (h : Holds w f) : w.remainder = f.remainder := by
  rw [APDUBuffer.remainder, OutAPDU.remainder, h.max, h.size]

theorem two_le (h : Holds w f) : 2 ≤ f.octets.length := by
  obtain ⟨aCode, hf, -⟩ := h.function
  rw [OutAPDU.octets, List.length_append, f.length_headerOctets hf, appHeaderSize]
  split <;> omega

/-- The function code is in the buffer. -/
theorem hasData_eq (h : Holds w f) (rest : List Byte) {t : APDUBuffer}
    (ht : t.mBuffer = f.octets ++ rest) :
    hasData t.getFunction = f.hasData := by
  obtain ⟨aCode, hf, -⟩ := h.function
  have hlen := h.two_le
  have hread : readUInt (f.octets ++ rest) 1 1 = readUInt f.octets 1 1 := by
    simp only [readUInt, List.getD_eq_getElem?_getD]
    rw [List.getElem?_append_left (by omega)]
  have hfunction := f.functionOf_octets hf
  rw [functionOf] at hfunction
  rw [getFunction, ht, hread, hfunction, OutAPDU.hasData, hf]
  rfl

/-- The state is one for writing. -/
theorem wp_checkWriteState (h : Holds w f) {Q : PUnit → APDUBuffer → Prop} :
    wp checkWriteState Q E w = Q ⟨⟩ w := by
  obtain ⟨aCode, -, hheader⟩ := h.function
  rw [checkWriteState, wp_bind, wp_get, wp_bind, wp_ensure_of (by rw [hheader]; rintro ⟨⟩),
    wp_ensure_of h.interpreted]

/-- What is written behind the octets in use does not matter. -/
theorem scratch (h : Holds w f) {bs : List Byte}
    (hlen : (f.octets ++ bs).length = w.mBuffer.length) :
    Holds { w with mBuffer := f.octets ++ bs } f where
  interpreted := h.interpreted
  function := h.function
  max := hlen.trans h.max
  size := h.size
  octets := ⟨bs, rfl⟩
  length := h.length
  formed := h.formed

/-- A block has been written behind the octets in use. -/
theorem append (h : Holds w f) {b : Block (List Byte)} {t : ObjectHeaderTypes} {o : ObjectBase}
    (hb : b.Formed f.hasData t o) {rest : List Byte} {n : ℕ}
    (hn : n = w.mFragmentSize + (b.octets f.hasData).length)
    (hlen : (f.octets ++ (b.octets f.hasData ++ rest)).length = w.mBuffer.length) :
    Holds { w with mBuffer := f.octets ++ (b.octets f.hasData ++ rest), mFragmentSize := n }
      (f.append (some b)) where
  interpreted := h.interpreted
  function := h.function
  max := hlen.trans h.max
  size := by rw [OutAPDU.append, OutAPDU.startBlock, hn, h.size]
  octets := ⟨rest, by rw [OutAPDU.append, OutAPDU.octets_startBlock, List.append_assoc]⟩
  length := by
    rw [OutAPDU.append, OutAPDU.octets_startBlock, List.length_append, h.length]
    rfl
  formed c hc := by
    rcases List.mem_append.mp hc with hc | hc
    · exact h.formed c hc
    · rw [List.mem_singleton.mp hc]
      exact ⟨t, o, hb⟩

theorem follows_nil (h : Holds w f) : Follows (pure ⟨⟩) (.ok f) f w := ⟨f, rfl, h⟩

/-- No loop writes without room. -/
theorem fill_default (objs : List (List Byte)) : fill objs {} = pure ⟨⟩ := by
  cases objs <;> rfl

theorem fillBits_default (aStart aIndex : ℕ) (bits : List Bool) : fillBits aStart aIndex bits {} =
    pure ⟨⟩ := by
  cases bits <;> rfl

theorem fillIndexed_default (objs : List (ℕ × List Byte)) : fillIndexed objs {} = pure ⟨⟩ := by
  cases objs <;> rfl

end Holds

/-- Numbered objects without an index in front are their octets. -/
theorem flatMap_numbered {q : QualifierCode} (hq : q.indexSize = 0) (n : ℕ)
    (objs : List (List Byte)) :
    (numbered n objs).flatMap (Block.objectOctets q) = objs.flatten := by
  induction objs generalizing n with
  | nil => rfl
  | cons obj objs ih =>
    rw [numbered, List.flatMap_cons, ih, List.flatten_cons, Block.objectOctets, hq]
    rfl

/-- The header of a block of objects from a number on. -/
theorem Block.headerOctets_range {t : ObjectHeaderTypes} {aStart n g v : ℕ} {q : QualifierCode}
    {r : Option RangeInfo} {objs : List (ℕ × List Byte)} (hn : 0 < n) (hlen : objs.length = n)
    (hr : OutAPDU.writeContiguousHeader t aStart (aStart + n - 1) = .ok r) :
    (⟨g, v, q, objs, r⟩ : Block (List Byte)).headerOctets t =
      APDUBuffer.headOctets g v q ++ APDUBuffer.rangeFields t aStart n := by
  obtain ⟨hall, hheader⟩ := OutAPDU.writeContiguousHeader_eq_ok hn hr
  have hfields : (⟨g, v, q, objs, r⟩ : Block (List Byte)).fields t =
      APDUBuffer.rangeFields t aStart n := by
    rcases hheader with ⟨hc, -, rfl⟩ | ⟨hc, -, rfl⟩
    · rw [APDUBuffer.rangeFields, if_pos hc, ← hlen]
      cases t with
      | count1Octet | count2Octet | count4Octet => rfl
      | _ => cases hc
    · rw [APDUBuffer.rangeFields, hc, if_neg Bool.false_ne_true]
      cases t with
      | allObjects => exact absurd rfl hall
      | ranged2Octet | ranged4Octet | ranged8Octet => rfl
      | _ => cases hc
  rw [headerOctets, hfields, APDUBuffer.headOctets, List.append_assoc, List.append_assoc]

/-- The bits of objects that stand for bits. -/
theorem map_numbered_bitObject {f : OutAPDU (List Byte)} (hd : f.hasData = true) (n : ℕ)
    (bits : List Bool) : (numbered n (bits.map f.bitObject)).map (·.2 != [0]) = bits := by
  induction bits generalizing n with
  | nil => rfl
  | cons bit bits ih =>
    rw [List.map_cons, numbered, List.map_cons, ih, OutAPDU.bitObject, if_pos hd]
    cases bit <;> rfl

/-- A bit field without a bit that is set. -/
theorem bitOctets_replicate (n : ℕ) : bitOctets (List.replicate n false) = List.replicate
    (bitfieldSize n) 0 := by
  induction n using Nat.strongRecOn with
  | ind n ih =>
    rw [bitOctets, List.length_replicate, List.take_replicate, List.drop_replicate]
    split
    · subst n
      rfl
    · have hhead : (BitVec.ofBoolListLE (List.replicate (min 8 n) false)).setWidth 8 = 0#8 := by
        refine BitVec.eq_of_getLsbD_eq fun i hi ↦ ?_
        rw [BitVec.getLsbD_setWidth, BitVec.getLsbD_ofBoolListLE, List.getD_eq_getElem?_getD,
          List.getElem?_replicate]
        split <;> simp
      have hsize : bitfieldSize n = bitfieldSize (n - 8) + 1 := by
        rw [bitfieldSize, bitfieldSize]
        split <;> split <;> omega
      rw [ih (n - 8) (by omega), hhead, hsize, List.replicate_succ]
      rfl

end OpenDNP3
