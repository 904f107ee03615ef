import OpenDNP3.App.Buffer

/-!
# The calls of the write interface

One lemma for each call: it does to the buffer what it does to the fragment (`Follows`), where it
returns and where it throws.  The calls that start a block of objects begin alike, and `Holds.room`
is the rule for this beginning: they look for the header of the qualifier, and give up without
having written anything if the header does not fit, or no object fits behind it.

* `Holds.contiguous`, `Holds.bitfield`, `Holds.indexed`, `Holds.sized` and `Holds.placeholder` — the
  calls that add a block.
* `Holds.setControl` and `Holds.setIIN` — the calls that change the header of the fragment.
* `Holds.perform` — any call.
-/

set_option autoImplicit false

namespace OpenDNP3

open Handler LittleEndian

namespace Holds

open APDUBuffer

variable {w : APDUBuffer} {f : OutAPDU (List Byte)} {E : Exception → APDUBuffer → Prop}

/-! ### How a block begins

The number of objects is known before anything is written, so a call that has no room for an object
leaves the octets alone, and its iterator is at its end. -/

/-- The octets that are not in use. -/
theorem exists_rest (h : Holds w f) :
    ∃ rest, w.mBuffer = f.octets ++ rest ∧ f.octets.length = w.mFragmentSize ∧
      rest.length = f.remainder := by
  obtain ⟨rest, hrest⟩ := h.octets
  have hat : f.octets.length = w.mFragmentSize := h.length.trans h.size.symm
  refine ⟨rest, hrest, hat, ?_⟩
  rw [← h.remainder_eq, APDUBuffer.remainder, hrest, List.length_append]
  omega

/-- **The rule for the beginning of a block**: the qualifier has a header, the header fits, and
there is room for an object behind it. -/
theorem room {ι : Type} {nothing : ι} {body : ObjectHeaderTypes → APDUBuffer → M ι}
    {fill : ι → M PUnit} {header : Except Exception ObjectHeaderTypes}
    {y : Except Exception (OutAPDU (List Byte))} (h : Holds w f) (aRoom : ℕ → ℕ)
    (hfill : fill nothing = pure ⟨⟩) (herror : ∀ e, header = .error e → y = .error e)
    (hnone : ∀ t, header = .ok t → f.room t aRoom = 0 → y = .ok f)
    (hbody : ∀ t, header = .ok t → t.getSize ≤ f.remainder →
      f.room t aRoom = aRoom (f.remainder - t.getSize) → 0 < f.room t aRoom →
      wp (body t w) (fun it u ↦ Follows (fill it) y f u)
        (fun e u ↦ y = .error e ∧ Holds u f) w) :
    wp (do
        let t ← lift header
        let v ← get
        if t.getSize > v.remainder then return nothing
        if aRoom (v.remainder - t.getSize) = 0 then return nothing
        body t v)
      (fun it u ↦ Follows (fill it) y f u) (fun e u ↦ y = .error e ∧ Holds u f) w := by
  have hnothing (hy : y = .ok f) : Follows (fill nothing) y f w := by
    rw [hfill, hy]
    exact h.follows_nil
  rw [wp_bind]
  cases ht : header with
  | error e =>
    rw [wp_lift_error]
    exact ⟨herror e ht, h⟩
  | ok t =>
    rw [wp_lift_ok, wp_bind, wp_get, h.remainder_eq]
    by_cases hhdr : t.getSize > f.remainder
    · rw [if_pos hhdr, wp_pure]
      exact hnothing (hnone t ht (if_pos hhdr))
    · have heq : f.room t aRoom = aRoom (f.remainder - t.getSize) := if_neg hhdr
      rw [if_neg hhdr]
      by_cases hroom : aRoom (f.remainder - t.getSize) = 0
      · rw [if_pos hroom, wp_pure]
        exact hnothing (hnone t ht (heq.trans hroom))
      · rw [if_neg hroom]
        exact hbody t ht (by omega) heq (by omega)

omit w f in
theorem append_rangeBlock_error {f : OutAPDU (List Byte)} {apObj : ObjectBase} {aRoom : ℕ → ℕ}
    {aStart : ℕ} {objs : List (List Byte)} {aCode q : QualifierCode}
    (hq : (if aCode = .undefined then OutAPDU.getContiguousQualifier (aStart + objs.length - 1)
      else aCode) = q) {e : Exception} (ht : getObjectHeader q = .error e) :
    f.append <$> f.rangeBlock apObj aRoom aStart objs aCode = .error e := by
  simp only [OutAPDU.rangeBlock, hq, ht]
  rfl

omit w f in
theorem append_rangeBlock_none {f : OutAPDU (List Byte)} {apObj : ObjectBase} {aRoom : ℕ → ℕ}
    {aStart : ℕ} {objs : List (List Byte)} {aCode q : QualifierCode}
    (hq : (if aCode = .undefined then OutAPDU.getContiguousQualifier (aStart + objs.length - 1)
      else aCode) = q) {t : ObjectHeaderTypes} (ht : getObjectHeader q = .ok t)
    (hroom : f.room t aRoom = 0) :
    f.append <$> f.rangeBlock apObj aRoom aStart objs aCode = .ok f := by
  rw [OutAPDU.rangeBlock_eq hq ht rfl, hroom, Nat.min_zero, if_pos rfl]
  rfl

/-! ### Calls that add a block

After the beginning the header is written, then the count or the range, and at last the objects
by the loop of the caller. -/

/-- Objects of a fixed size, from a number on. -/
theorem contiguous (h : Holds w f) {apObj : ObjectBase} {aObjSize aStart : ℕ}
    {objs : List (List Byte)} {aCode : QualifierCode}
    (hc : (WriteCall.contiguous apObj aObjSize aStart objs aCode).Valid f.hasData) :
    Follows (APDUBuffer.perform (.contiguous apObj aObjSize aStart objs aCode))
      ((WriteCall.contiguous apObj aObjSize aStart objs aCode).apply f) f w := by
  have hvalid := hc
  obtain ⟨hknown, htype, hne, hsize, hindex, -⟩ := hc
  have hposobj := List.length_pos_of_ne_nil hne
  have hobjsize : 0 < aObjSize := by
    rcases Nat.eq_zero_or_pos aObjSize with hzero | hpos
    · exact absurd (hzero ▸ htype) (ObjectBase.of_mem_known hknown).2.2.2
    · exact hpos
  show Follows _ (f.append <$> f.rangeBlock apObj (· / aObjSize) aStart objs aCode) f w
  obtain ⟨q, hq⟩ : ∃ q,
    (if aCode = .undefined then OutAPDU.getContiguousQualifier (aStart + objs.length - 1)
      else aCode) = q := ⟨_, rfl⟩
  rw [Follows, APDUBuffer.perform, wp_bind, writeContiguousFixed, wp_bind, h.wp_checkWriteState]
  simp only [hq]
  refine h.room (· / aObjSize) (fill_default objs) (fun e ht ↦ append_rangeBlock_error hq ht)
    (fun t ht hroom ↦ append_rangeBlock_none hq ht hroom) fun t ht hhdr hroom hsome ↦ ?_
  obtain ⟨n, hn⟩ : ∃ n, min objs.length (f.room t (· / aObjSize)) = n := ⟨_, rfl⟩
  have hblock := @OutAPDU.rangeBlock_eq f apObj _ aStart n objs aCode q t hq ht hn
  rw [hroom] at hn hsome
  have hcount : (if aStart + objs.length - 1 - aStart + 1 < (f.remainder - t.getSize) / aObjSize
      then aStart + objs.length - 1 - aStart + 1
      else (f.remainder - t.getSize) / aObjSize) = n := by
    rw [← hn]
    split <;> omega
  have hzero : n ≠ 0 := by omega
  have hpos : 0 < n := Nat.pos_of_ne_zero hzero
  have hfits : n * aObjSize ≤ f.remainder - t.getSize :=
    Nat.le_trans (Nat.mul_le_mul_right _ (by omega)) (Nat.div_mul_le_self _ _)
  have hthree := t.three_le_getSize
  obtain ⟨rest, hrest, hat, hrestlen⟩ := h.exists_rest
  rw [hblock, if_neg hzero]
  simp only [h.remainder_eq, hcount]
  rw [wp_bind, wp_setHeader hrest hat (by omega), wp_bind]
  cases hr : OutAPDU.writeContiguousHeader t aStart (aStart + n - 1) with
  | error e =>
    rw [wp_writeContiguousHeader_error hpos hr]
    refine ⟨rfl, ?_⟩
    rw [List.append_assoc]
    refine h.scratch ?_
    rw [hrest]
    simp
    omega
  | ok r =>
    rw [hr] at hblock
    obtain ⟨t', o, hformed⟩ := @WriteCall.Valid.formed f
      (.contiguous apObj aObjSize aStart objs aCode) hvalid _
      (hblock.trans (if_neg hzero))
    obtain rfl : t' = t := Except.ok.inj (hformed.header.symm.trans ht)
    obtain rfl := hformed.object_eq (.inl ⟨hknown, rfl, rfl⟩)
    have hprefix : q.indexSize = 0 := OutAPDU.indexSize_rangeBlock hindex
      (hblock.trans (if_neg hzero))
    obtain ⟨b, hb⟩ : ∃ b,
        (⟨o.getGroup, o.getVariation, q, numbered aStart (objs.take n), r⟩ : Block _) = b :=
      ⟨_, rfl⟩
    have htake : aStart + n - 1 + 1 - aStart = n := by omega
    have hfields := length_rangeFields (OutAPDU.writeContiguousHeader_eq_ok hpos hr).1
      aStart n
    have hoctets : b.octets f.hasData = headOctets o.getGroup o.getVariation q ++
        (rangeFields t' aStart n ++ (objs.take n).flatten) := by
      rw [hb] at hformed
      rw [hformed.octets_eq, ← hb, Block.headerOctets_range hpos (by simp; omega) hr,
        Block.dataOctets, if_neg (by rw [htype]; rintro ⟨⟩), flatMap_numbered hprefix,
        List.append_assoc]
    have hflat : (objs.take n).flatten.length = n * if f.hasData then aObjSize else 0 := by
      have hdata := hformed.length_dataOctets_fixed htype
      rw [Block.dataOctets, if_neg (by rw [htype]; rintro ⟨⟩), flatMap_numbered hprefix,
        length_numbered, hprefix, Nat.zero_add, List.length_take_of_le (by omega)] at hdata
      exact hdata
    have hflat_le : (objs.take n).flatten.length ≤ n * aObjSize := by
      rw [hflat]
      split
      · exact Nat.le_refl _
      · exact Nat.zero_le _
    rw [wp_writeContiguousHeader hpos rfl (by simp [hat]) (by simp; omega) hr, grow, wp_bind,
      wp_modify, wp_bind, wp_get, grow, wp_bind, wp_modify, wp_pure]
    dsimp only
    rw [h.hasData_eq (headOctets o.getGroup o.getVariation q ++
      (rangeFields t' aStart n ++ List.drop (t'.getSize - 3) (List.drop 3 rest))) (by simp)]
    refine wp_fill objs _ (List.append_assoc _ _ _).symm
      (by simp [hat, hfields]; omega) hsize ?_ fun rest' hrest' ↦ ?_
    · simp only [htake, List.length_drop]
      rw [Nat.min_eq_right (by omega), ← hflat]
      omega
    · simp only [htake, List.length_drop] at hrest' ⊢
      have hbuffer : f.octets ++ headOctets o.getGroup o.getVariation q ++
        rangeFields t' aStart n ++
          ((objs.take n).flatten ++ rest') = f.octets ++ (b.octets f.hasData ++ rest') := by
        rw [hoctets]
        simp only [List.append_assoc]
      rw [hbuffer]
      refine ⟨f.append (some b), by rw [← hb]; rfl, h.append (hb ▸ hformed) ?_ ?_⟩
      · rw [hoctets]
        simp only [List.length_append, length_headOctets, hfields, hflat]
        omega
      · rw [hoctets, hrest]
        simp only [List.length_append, length_headOctets, hfields]
        omega

/-- Bits, from a number on. -/
theorem bitfield (h : Holds w f) {apObj : ObjectBase} {aStart : ℕ} {bits : List Bool}
    {aCode : QualifierCode} (hc : (WriteCall.bitfield apObj aStart bits aCode).Valid f.hasData) :
    Follows (APDUBuffer.perform (.bitfield apObj aStart bits aCode))
      ((WriteCall.bitfield apObj aStart bits aCode).apply f) f w := by
  have hvalid := hc
  obtain ⟨hknown, htype, hne, -⟩ := hc
  have hposobj := List.length_pos_of_ne_nil hne
  have hmap : (bits.map f.bitObject).length = bits.length := List.length_map _
  show Follows _ (f.append <$> f.rangeBlock apObj (· * 8) aStart (bits.map f.bitObject) aCode) f w
  obtain ⟨q, hq⟩ : ∃ q,
    (if aCode = .undefined then OutAPDU.getContiguousQualifier (aStart + bits.length - 1)
      else aCode) = q := ⟨_, rfl⟩
  rw [Follows, APDUBuffer.perform, wp_bind, writeContiguousBitfield, wp_bind, h.wp_checkWriteState]
  simp only [hq]
  rw [← hmap] at hq
  refine h.room (· * 8) (fillBits_default aStart aStart bits)
    (fun e ht ↦ append_rangeBlock_error hq ht) (fun t ht hroom ↦ append_rangeBlock_none hq ht hroom)
    fun t ht hhdr hroom hsome ↦ ?_
  obtain ⟨n, hn⟩ : ∃ n, min (bits.map f.bitObject).length (f.room t (· * 8)) = n := ⟨_, rfl⟩
  have hblock := @OutAPDU.rangeBlock_eq f apObj _ aStart n (bits.map f.bitObject) aCode q t hq ht hn
  rw [hroom, hmap] at hn
  rw [hroom] at hsome
  have hcount : (if aStart + bits.length - 1 - aStart + 1 < (f.remainder - t.getSize) * 8
      then aStart + bits.length - 1 - aStart + 1 else (f.remainder - t.getSize) * 8) = n := by
    rw [← hn]
    split <;> omega
  have hzero : n ≠ 0 := by omega
  have hpos : 0 < n := Nat.pos_of_ne_zero hzero
  have hfits : bitfieldSize n ≤ f.remainder - t.getSize := by
    rw [bitfieldSize]
    split <;> omega
  have hthree := t.three_le_getSize
  obtain ⟨rest, hrest, hat, hrestlen⟩ := h.exists_rest
  rw [hblock, if_neg hzero]
  simp only [h.remainder_eq, hcount]
  obtain ⟨gap, rest', hsplit, hgap⟩ : ∃ gap rest', rest.drop 3 = gap ++ rest' ∧
      gap.length = t.getSize - 3 :=
    ⟨(rest.drop 3).take (t.getSize - 3), (rest.drop 3).drop (t.getSize - 3),
      (List.take_append_drop _ _).symm, List.length_take_of_le (by simp; omega)⟩
  have hrest'len : rest'.length + t.getSize = f.remainder := by
    have hlen := congrArg List.length hsplit
    rw [List.length_drop, List.length_append] at hlen
    omega
  rw [wp_bind, wp_setHeader hrest hat (by omega), wp_bind, hsplit,
    wp_poke (List.append_assoc _ gap rest').symm (by simp [hat, hgap]; omega)
      (by simp; omega), List.length_replicate,
    wp_bind]
  dsimp only
  have hbuffer : f.octets ++ headOctets apObj.getGroup apObj.getVariation q ++ gap ++
      (List.replicate (bitfieldSize n) 0 ++ rest'.drop (bitfieldSize n)) =
    (f.octets ++ headOctets apObj.getGroup apObj.getVariation q) ++
      (gap ++ (bitOctets (List.replicate n false) ++ rest'.drop (bitfieldSize n))) := by
    rw [bitOctets_replicate]
    simp only [List.append_assoc]
  rw [hbuffer]
  cases hr : OutAPDU.writeContiguousHeader t aStart (aStart + n - 1) with
  | error e =>
    rw [wp_writeContiguousHeader_error hpos hr]
    refine ⟨rfl, ?_⟩
    rw [List.append_assoc]
    refine h.scratch ?_
    rw [hrest]
    simp [length_bitOctets]
    omega
  | ok r =>
    rw [hr] at hblock
    obtain ⟨t', o, hformed⟩ := @WriteCall.Valid.formed f
      (.bitfield apObj aStart bits aCode) hvalid _
      (hblock.trans (if_neg hzero))
    obtain rfl : t' = t := Except.ok.inj (hformed.header.symm.trans ht)
    obtain rfl := hformed.object_eq (.inl ⟨hknown, rfl, rfl⟩)
    obtain ⟨b, hb⟩ : ∃ b, (⟨o.getGroup, o.getVariation, q,
      numbered aStart ((bits.map f.bitObject).take n), r⟩ : Block _) = b := ⟨_, rfl⟩
    have hfields := length_rangeFields (OutAPDU.writeContiguousHeader_eq_ok hpos hr).1
      aStart n
    have hoctets : b.octets f.hasData = headOctets o.getGroup o.getVariation q ++
        (rangeFields t' aStart n ++ if f.hasData then bitOctets (bits.take n) else []) := by
      rw [hb] at hformed
      rw [hformed.octets_eq, ← hb, Block.headerOctets_range hpos (by simp; omega) hr,
        Block.dataOctets, if_pos htype, List.append_assoc]
      cases hd : f.hasData with
      | false => rfl
      | true =>
        rw [if_pos rfl, if_pos rfl, ← List.map_take, map_numbered_bitObject hd]
    rw [wp_writeContiguousHeader hpos rfl (by simp [hat]) (by simp; omega) hr, grow, wp_bind,
      wp_modify, wp_bind, wp_get, grow, wp_bind, wp_modify, wp_pure]
    dsimp only
    rw [h.hasData_eq (headOctets o.getGroup o.getVariation q ++ (rangeFields t' aStart n ++
      List.drop (t'.getSize - 3)
        (gap ++ (bitOctets (List.replicate n false) ++ rest'.drop (bitfieldSize n)))))
      (by simp), List.drop_left' hgap]
    obtain ⟨pre, hpre⟩ : ∃ pre, f.octets ++ headOctets o.getGroup o.getVariation q ++
        rangeFields t' aStart n = pre :=
      ⟨_, rfl⟩
    have hprelen : pre.length = w.mFragmentSize + t'.getSize := by
      rw [← hpre, List.length_append, List.length_append, length_headOctets, hat, hfields]
      omega
    rw [← List.append_assoc, hpre]
    refine wp_fillBits (k := 0) bits rfl hprelen rfl rfl
      (by rw [List.length_replicate]; simp only; omega)
      (Nat.zero_le _) (by rw [List.length_replicate]; omega) ?_
    rw [List.length_replicate, List.take_zero, List.nil_append, Nat.sub_zero]
    have hbits : (bitOctets (bits.take n)).length = bitfieldSize n := by
      rw [length_bitOctets, List.length_take_of_le (by omega)]
    have hfinal : pre ++ (bitOctets (bits.take n) ++ rest'.drop (bitfieldSize n)) =
      f.octets ++
        (b.octets f.hasData ++ ((if f.hasData then [] else bitOctets (bits.take n)) ++
          rest'.drop (bitfieldSize n))) := by
      rw [hoctets, ← hpre]
      cases f.hasData <;> simp
    rw [hfinal]
    refine ⟨f.append (some b), by rw [← hb]; rfl, h.append (hb ▸ hformed) ?_ ?_⟩
    · rw [hoctets]
      simp only [List.length_append, length_headOctets, hfields]
      split
      · rw [hbits]
        omega
      · simp
        omega
    · rw [← hfinal, hrest]
      simp only [List.length_append, hprelen, hbits, List.length_drop]
      omega

/-- `WriteCountHeader` with the loop that follows it. -/
theorem countHeader (h : Holds w f) {aSize aGrp aVar k : ℕ} {apObj : ObjectBase}
    {objs : List (ℕ × List Byte)} {q : QualifierCode} (hlists : Lists aGrp aVar apObj)
    (htype : apObj.getType ≠ .bitfield)
    (hk : getPrefixSizeAndValidate q apObj.getType = .ok k)
    (hindex : q.indexSize ≠ 0 → ∀ obj ∈ objs, obj.1 < 256 ^ q.indexSize)
    (hsize : ∀ obj ∈ objs, obj.2.length = aSize) (hpos : 0 < aSize + k)
    (hformed : ∀ b, f.countBlock aSize aGrp aVar apObj.getType objs q = .ok (some b) →
      ∃ t o, b.Formed f.hasData t o) :
    wp (writeCountHeader aSize k aGrp aVar objs.length q)
      (fun it t ↦ Follows (fillIndexed objs it)
        (f.append <$> f.countBlock aSize aGrp aVar apObj.getType objs q) f t)
      (fun e t ↦ f.append <$> f.countBlock aSize aGrp aVar apObj.getType objs q = .error e ∧
        Holds t f) w := by
  have hvariable := ObjectBase.getType_ne_variable hlists.get
  rw [OutAPDU.countBlock, hk, except_ok_bind] at hformed ⊢
  rw [writeCountHeader]
  refine h.room (· / (aSize + k)) (fillIndexed_default objs) (fun e ht ↦ by rw [ht]; rfl)
    (fun t ht hroom ↦ ?_) fun t ht hhdr hroom hsome ↦ ?_
  · rw [ht, except_ok_bind]
    simp only [if_pos hroom]
    rfl
  obtain ⟨rfl, hmode, -⟩ := OutAPDU.getIndexMode_eq_ok hvariable hk ht
  obtain ⟨hheader, hcount⟩ := OutAPDU.getCountHeader_eq_ok ht
  rw [ht] at hformed ⊢
  simp only [except_ok_bind, if_neg (Nat.ne_of_gt hsome)] at hformed ⊢
  rw [hroom] at hformed hsome ⊢
  obtain ⟨n, hn⟩ : ∃ n, min objs.length ((f.remainder - t.getSize) / (aSize + q.indexSize)) = n :=
    ⟨_, rfl⟩
  have hnum : (if objs.length < (f.remainder - t.getSize) / (aSize + q.indexSize) then objs.length
      else (f.remainder - t.getSize) / (aSize + q.indexSize)) = n := by
    rw [← hn]
    split <;> omega
  have hfits : n * (aSize + q.indexSize) ≤ f.remainder - t.getSize :=
    Nat.le_trans (Nat.mul_le_mul_right _ (by omega)) (Nat.div_mul_le_self _ _)
  have hfield : t.getSize = 3 + t.fieldSize := by
    cases t with
    | count1Octet | count2Octet | count4Octet => rfl
    | _ => cases hcount
  obtain ⟨rest, hrest, hat, hrestlen⟩ := h.exists_rest
  simp only [hn] at hformed
  simp only [h.remainder_eq, hnum, hn]
  rw [wp_bind, wp_setHeader hrest hat (by omega), wp_bind, wp_setCount rfl (by simp [hat])
    (by simp; omega)]
  by_cases hmax : n ≤ t.maxField
  · simp only [if_neg (Nat.not_lt.mpr hmax)] at hformed ⊢
    obtain ⟨t', o, hblock⟩ := hformed _ rfl
    obtain rfl : t' = t := Except.ok.inj (hblock.header.symm.trans hheader)
    obtain rfl := hblock.object_eq hlists
    obtain ⟨b, hb⟩ : ∃ b, (⟨aGrp, aVar, q, objs.take n, none⟩ : Block (List Byte)) = b :=
      ⟨_, rfl⟩
    rw [hb] at hblock
    have htake : (objs.take n).length = n := List.length_take_of_le (by omega)
    have hdata : ((objs.take n).flatMap (Block.objectOctets q)).length = n *
        (aSize + q.indexSize) := by
      rw [Block.length_flatMap_objectOctets fun x hx ↦ hsize x (List.mem_of_mem_take hx),
        htake, Nat.add_comm]
    have hoctets : b.octets f.hasData = headOctets aGrp aVar q ++
        (writeUInt t'.fieldSize n ++ (objs.take n).flatMap (Block.objectOctets q)) := by
      have hfields : b.fields t' = writeUInt t'.fieldSize n := by
        rw [← hb]
        cases t' with
        | count1Octet | count2Octet | count4Octet => simp only [Block.fields, htake]
        | _ => cases hcount
      rw [hblock.octets_eq, Block.dataOctets, if_neg htype, Block.headerOctets, hfields, ← hb,
        headOctets]
      simp only [List.append_assoc]
    rw [if_pos hmax, grow, wp_bind, wp_modify, wp_bind, wp_get, grow, wp_bind, wp_modify,
      hmode, wp_bind, wp_lift_ok, wp_pure, ← List.append_assoc]
    obtain ⟨pre, hpre⟩ : ∃ pre, f.octets ++ headOctets aGrp aVar q ++
      writeUInt t'.fieldSize n = pre := ⟨_, rfl⟩
    have hprelen : pre.length = w.mFragmentSize + t'.getSize := by
      rw [← hpre, List.length_append, List.length_append, length_headOctets, hat,
        length_writeUInt]
      omega
    dsimp only
    rw [hpre]
    refine wp_fillIndexed objs _ rfl hprelen rfl rfl hindex hsize ?_ fun rest' hrest' ↦ ?_
    · simp only [Nat.sub_zero, List.length_drop]
      rw [Nat.min_eq_right (by omega)]
      omega
    · simp only [Nat.sub_zero, List.length_drop] at hrest' ⊢
      have hfinal : pre ++ ((objs.take n).flatMap (Block.objectOctets q) ++ rest') =
          f.octets ++ (b.octets f.hasData ++ rest') := by
        rw [hoctets, ← hpre]
        simp only [List.append_assoc]
      rw [hfinal]
      refine ⟨f.append (some b), by rw [← hb]; rfl, h.append hblock ?_ ?_⟩
      · rw [hoctets]
        simp only [List.length_append, length_headOctets, length_writeUInt, hdata]
        omega
      · rw [← hfinal, hrest]
        simp only [List.length_append, hprelen]
        omega
  · rw [if_neg hmax, if_pos (by omega)]
    refine ⟨rfl, ?_⟩
    rw [List.append_assoc]
    refine h.scratch ?_
    rw [hrest]
    simp
    omega

/-- Objects of a fixed size, with their indices. -/
theorem indexed (h : Holds w f) {apObj : ObjectBase} {aObjSize : ℕ} {objs : List (ℕ × List Byte)}
    {aCode : QualifierCode} (hc : (WriteCall.indexed apObj aObjSize objs aCode).Valid f.hasData) :
    Follows (APDUBuffer.perform (.indexed apObj aObjSize objs aCode))
      ((WriteCall.indexed apObj aObjSize objs aCode).apply f) f w := by
  have hvalid := hc
  obtain ⟨hknown, htype, hsize, hindex, hsome⟩ := hc
  have hobjsize : 0 < aObjSize := by
    rcases Nat.eq_zero_or_pos aObjSize with hzero | hpos
    · exact absurd (hzero ▸ htype) (ObjectBase.of_mem_known hknown).2.2.2
    · exact hpos
  obtain ⟨rest, hrest⟩ := h.octets
  show Follows _ (f.append <$> f.countBlock
    (if f.hasData then aObjSize else 0) apObj.getGroup apObj.getVariation
    (.fixed aObjSize) objs aCode) f w
  rw [Follows, APDUBuffer.perform, wp_bind, writeIndexed, wp_bind, h.wp_checkWriteState,
    wp_bind, wp_get, h.hasData_eq rest hrest, wp_bind]
  cases hk : getPrefixSizeAndValidate aCode (.fixed aObjSize) with
  | error e =>
    rw [wp_lift_error, OutAPDU.countBlock, hk]
    exact ⟨rfl, h⟩
  | ok k =>
    have hprefix := ((getPrefixSizeAndValidate_eq_ok (by rintro ⟨⟩)).mp hk).2
    rw [wp_lift_ok]
    rw [← htype] at hk ⊢
    refine h.countHeader (.inl ⟨hknown, rfl, rfl⟩) (by rw [htype]; rintro ⟨⟩) hk hindex hsize ?_
      fun b hb ↦ ?_
    · rcases hsome with hd | hne
      · rw [hd, if_pos rfl]
        omega
      · omega
    · rw [htype] at hb
      exact hvalid.formed hb

/-- An object whose variation is its size. -/
theorem sized (h : Holds w f) {apObj : ObjectBase} {aIndex : ℕ} {obj : List Byte}
    (hc : (WriteCall.sized apObj aIndex obj).Valid f.hasData) :
    Follows (APDUBuffer.perform (.sized apObj aIndex obj))
      ((WriteCall.sized apObj aIndex obj).apply f) f w := by
  have hvalid := hc
  obtain ⟨hknown, hd, hlen, -⟩ := hc
  obtain ⟨-, htype⟩ := ObjectBase.of_mem_knownGroups hknown
  have hindex := WriteCall.Valid.sized_lt hvalid
  obtain ⟨rest, hrest⟩ := h.octets
  show Follows _ (f.append <$> f.countBlock
    (if f.hasData then obj.length else 0) apObj.getGroup obj.length
    .sizeByVariation [(aIndex, obj)] (OutAPDU.getIndexedQualifier aIndex 1)) f w
  rw [Follows, APDUBuffer.perform, wp_bind, writeIndexedSized]
  obtain ⟨q, hq⟩ : ∃ q, OutAPDU.getIndexedQualifier aIndex 1 = q := ⟨_, rfl⟩
  rw [hq] at hindex ⊢
  dsimp only
  rw [wp_bind, h.wp_checkWriteState, wp_bind, wp_ensure_of hlen, wp_bind, wp_get,
    h.hasData_eq rest hrest, wp_bind]
  cases hk : getPrefixSizeAndValidate q .sizeByVariation with
  | error e =>
    rw [wp_lift_error, OutAPDU.countBlock, hk]
    exact ⟨rfl, h⟩
  | ok k =>
    have hprefix := ((getPrefixSizeAndValidate_eq_ok (by rintro ⟨⟩)).mp hk).2
    have hsome : q.indexSize ≠ 0 := by
      rw [← hq, OutAPDU.getIndexedQualifier]
      split
      · exact Nat.succ_ne_zero _
      · split <;> exact Nat.succ_ne_zero _
    rw [wp_lift_ok]
    rw [← htype] at hk ⊢
    refine @countHeader w f h _ _ _ k apObj [(aIndex, obj)] q (.inr ⟨hknown, rfl⟩)
      (by rw [htype]; rintro ⟨⟩) hk
      (fun _ x hx ↦ ?_) (fun x hx ↦ ?_) (by omega) fun b hb ↦ ?_
    · rwa [List.mem_singleton.mp hx]
    · rw [List.mem_singleton.mp hx, hd, if_pos rfl]
    · rw [htype, ← hq] at hb
      exact hvalid.formed hb

/-- A header without objects. -/
theorem placeholder (h : Holds w f) {apObj : ObjectBase}
    (hc : (WriteCall.placeholder apObj).Valid f.hasData) :
    Follows (APDUBuffer.perform (.placeholder apObj))
      ((WriteCall.placeholder apObj).apply f) f w := by
  have hblock : (WriteCall.placeholder apObj).block f =
      .ok (if ObjectHeaderTypes.allObjects.getSize > f.remainder then none
        else some ⟨apObj.getGroup, apObj.getVariation, .allObj, [], none⟩) := rfl
  obtain ⟨rest, hrest, hat, hrestlen⟩ := h.exists_rest
  show Follows _ (f.append <$> (WriteCall.placeholder apObj).block f) f w
  rw [Follows, APDUBuffer.perform, wp_bind, doPlaceholderWrite, wp_bind, h.wp_checkWriteState,
    wp_bind, wp_get, h.remainder_eq]
  by_cases hroom : ObjectHeaderTypes.allObjects.getSize > f.remainder
  · rw [if_pos hroom] at hblock ⊢
    rw [hblock, wp_pure]
    exact h.follows_nil
  · have hthree : ObjectHeaderTypes.allObjects.getSize = 3 := rfl
    rw [if_neg hroom] at hblock ⊢
    obtain ⟨t, o, hformed⟩ := hc.formed hblock
    obtain rfl := hformed.object_eq (.inl ⟨hc.1, rfl, rfl⟩)
    obtain rfl : .allObjects = t := Except.ok.inj hformed.header
    have hoctets : (⟨o.getGroup, o.getVariation, .allObj, [], none⟩ : Block (List Byte)).octets
      f.hasData =
        headOctets o.getGroup o.getVariation .allObj := by
      rw [hformed.octets_eq, Block.dataOctets_nil rfl, List.append_nil]
      rfl
    rw [hblock, wp_bind, wp_setHeader hrest hat (by omega), grow, wp_bind, wp_modify, wp_pure,
      List.append_assoc]
    refine ⟨_, rfl, ?_⟩
    rw [← hoctets]
    refine h.append hformed ?_ ?_
    · rw [hoctets, length_headOctets, hthree]
    · rw [hoctets, hrest]
      simp
      omega

/-- The control octet is the first one. -/
theorem setControl (h : Holds w f) (arControl : AppControlField) :
    Follows (APDUBuffer.setControl arControl) (.ok (f.setControl arControl)) f w := by
  obtain ⟨aCode, hf, hheader⟩ := h.function
  obtain ⟨rest, hrest⟩ := h.octets
  have hassert : assert "mpAppHeader != NULL" (w.mpAppHeader.isSome = true) = .ok () :=
    assert_of _ (by rw [hheader]; rfl)
  have hold : f.octets = [f.control.toByte] ++ f.octets.tail := by
    rw [OutAPDU.octets, f.headerOctets_eq hf]
    rfl
  have hnew : (f.setControl arControl).octets = [arControl.toByte] ++ f.octets.tail := by
    rw [OutAPDU.octets, OutAPDU.octets, f.headerOctets_eq hf,
      (f.setControl arControl).headerOctets_eq hf]
    rfl
  have hbuffer : w.mBuffer = [] ++ ([f.control.toByte] ++ (f.octets.tail ++ rest)) := by
    rw [hrest]
    conv_lhs => rw [hold]
    rw [List.nil_append, List.append_assoc]
  have hnewbuffer : [] ++
    ([arControl.toByte] ++ List.drop 1 ([f.control.toByte] ++ (f.octets.tail ++ rest))) =
      (f.setControl arControl).octets ++ rest := by
    rw [hnew, List.append_assoc]
    rfl
  have hlen : (f.setControl arControl).octets.length = f.octets.length := by
    rw [hnew]
    conv_rhs => rw [hold]
    rfl
  rw [Follows, APDUBuffer.setControl, wp_bind, wp_get, wp_bind, hassert, wp_lift_ok,
    wp_poke hbuffer (show ([] : List Byte).length = 0 from rfl) (by simp), List.length_singleton,
      hnewbuffer]
  refine ⟨_, rfl, h.interpreted, ⟨aCode, hf, hheader⟩, ?_, h.size, ⟨rest, rfl⟩, hlen.trans h.length,
    h.formed⟩
  rw [List.length_append, hlen, ← List.length_append, ← hrest]
  exact h.max

/-- The indications are the third and the fourth octet of a response. -/
theorem setIIN (h : Holds w f) (arIIN : IINField) : Follows (APDUBuffer.setIIN arIIN)
    (f.setIIN arIIN) f w := by
  obtain ⟨aCode, hf, hheader⟩ := h.function
  obtain ⟨rest, hrest⟩ := h.octets
  have hassert : assert "mpAppHeader != NULL" (w.mpAppHeader.isSome = true) = .ok () :=
    assert_of _ (by rw [hheader]; rfl)
  have hassert' : assert "mpAppHeader != NULL" (f.function.isSome = true) = .ok () :=
    assert_of _ (by rw [hf]; rfl)
  rw [Follows, APDUBuffer.setIIN, OutAPDU.setIIN, wp_bind, wp_get, wp_bind, hassert, wp_lift_ok,
    wp_bind, hassert', except_ok_bind, hheader]
  by_cases hresponse : isResponse aCode = true
  · have happ : some aCode.appHeader = some AppHeaderTypes.response := by
      cases aCode <;> first | rfl | cases hresponse
    have hany : f.function.any isResponse = true := by rw [hf]; exact hresponse
    rw [assert_of _ happ, assert_of _ hany, wp_lift_ok, except_ok_bind]
    have hold : f.octets = [f.control.toByte, BitVec.ofNat 8 aCode.toNat] ++
        ([f.iin.mLSB, f.iin.mMSB] ++ f.octets.drop 4) := by
      rw [OutAPDU.octets, f.headerOctets_eq hf, if_pos hresponse]
      rfl
    have hnew : { f with iin := arIIN }.octets = [f.control.toByte, BitVec.ofNat 8 aCode.toNat] ++
        ([arIIN.mLSB, arIIN.mMSB] ++ f.octets.drop 4) := by
      rw [OutAPDU.octets, OutAPDU.octets, f.headerOctets_eq hf, @OutAPDU.headerOctets_eq
        { f with iin := arIIN } aCode hf, if_pos hresponse, if_pos hresponse]
      rfl
    have hbuffer : w.mBuffer = [f.control.toByte, BitVec.ofNat 8 aCode.toNat] ++
        ([f.iin.mLSB, f.iin.mMSB] ++ (f.octets.drop 4 ++ rest)) := by
      rw [hrest]
      conv_lhs => rw [hold]
      simp only [List.append_assoc]
    have hnewbuffer : [f.control.toByte, BitVec.ofNat 8 aCode.toNat] ++ ([arIIN.mLSB, arIIN.mMSB] ++
        List.drop 2 ([f.iin.mLSB, f.iin.mMSB] ++ (f.octets.drop 4 ++ rest))) =
          { f with iin := arIIN }.octets ++ rest := by
      rw [hnew]
      simp only [List.append_assoc]
      rfl
    have hlen : { f with iin := arIIN }.octets.length = f.octets.length := by
      rw [hnew]
      conv_rhs => rw [hold]
      rfl
    rw [wp_poke hbuffer (show [f.control.toByte, BitVec.ofNat 8 aCode.toNat].length = 2 from rfl)
      (by simp), show [arIIN.mLSB, arIIN.mMSB].length = 2 from rfl, hnewbuffer]
    refine ⟨_, rfl, h.interpreted, ⟨aCode, hf, hheader⟩, ?_, h.size, ⟨rest, rfl⟩,
      hlen.trans h.length, h.formed⟩
    rw [List.length_append, hlen, ← List.length_append, ← hrest]
    exact h.max
  · have happ : some aCode.appHeader ≠ some AppHeaderTypes.response := by
      cases aCode <;> first | exact absurd rfl hresponse | rintro ⟨⟩
    have hany : ¬f.function.any isResponse = true := by rw [hf]; exact hresponse
    rw [assert, if_neg happ, wp_lift_error, assert, if_neg hany]
    exact ⟨rfl, h⟩

/-- **A call does to the buffer what it does to the fragment.** -/
theorem perform (h : Holds w f) {c : WriteCall} (hc : c.Valid f.hasData) :
    Follows (APDUBuffer.perform c) (f.perform c) f w := by
  obtain ⟨aCode, hf, -⟩ := h.function
  rw [OutAPDU.perform_eq (by rw [hf]; rintro ⟨⟩) hc]
  cases c with
  | setControl arControl => exact h.setControl arControl
  | setIIN arIIN => exact h.setIIN arIIN
  | contiguous => exact h.contiguous hc
  | bitfield => exact h.bitfield hc
  | indexed => exact h.indexed hc
  | sized => exact h.sized hc
  | placeholder => exact h.placeholder hc

end Holds

end OpenDNP3
