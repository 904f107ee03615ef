import OpenDNP3.Response.EventBlocks

/-!
# The three loops over events

Events are written with the times that they have, or with times relative to a common one, or they
carry the octets of a virtual terminal.  There is a loop for each, and what it writes is published.
An object with a relative time is read with the common time in the header before it, so the second
loop starts a new header when an event is too late for the common time.

* `iterateIndexed_spec`, `iterateCTO_spec`, `iterateVto_spec` — what the loops write is published.
-/

set_option autoImplicit false

namespace OpenDNP3

open Objects (BoolDataPoint TypedDataPoint Group51Var1 commonTime useCTO)

/-! ## Absolute times -/

section Absolute

variable {aType : DataTypes} {c : Objects.StreamObject (Measurement aType)}
    {readFloat : ℕ → List Byte → ℚ}

@[simp] theorem map_snd_follow (start : ℤ) (es : List (EventInfo (Measurement aType))) :
    (follow start es).map (·.2) = es := by
  induction es generalizing start with
  | nil => rfl
  | cons e es ih =>
    rw [follow]
    split
    · rw [List.map_cons, ih]
    · rw [List.map_cons, ih]

@[simp] theorem map_snd_withCommonTimes (es : List (EventInfo (Measurement aType))) :
    (withCommonTimes es).map (·.2) = es := by
  cases es with
  | nil => rfl
  | cons e es => rw [withCommonTimes, List.map_cons, map_snd_follow]

/-- A common time makes no difference to a class that does not use it. -/
theorem reported_absolute (hc : useCTO c.base = false) (start start' : ℤ) (v : Measurement aType) :
    reported aType c start v = reported aType c start' v := by
  cases aType <;> simp [reported, hc]

theorem publishedAs_absolute (hc : useCTO c.base = false) (start : ℤ)
    (es : List (EventInfo (Measurement aType))) :
    publishedAs c (withCommonTimes es) = publishedAs c (es.map (start, ·)) := by
  have hmap {l l' : List (ℤ × EventInfo (Measurement aType))} (h : l.map (·.2) = l'.map (·.2)) :
      publishedAs c l = publishedAs c l' := by
    have hfactor (l : List (ℤ × EventInfo (Measurement aType))) :
        publishedAs c l = if isLoaded c then
          (l.map (·.2)).map fun e ↦ .update aType e.mIndex (reported aType c 0 e.mValue)
            else [] := by
      rw [publishedAs, List.map_map]
      congr 1
      refine List.map_congr_left fun a _ ↦ ?_
      rw [Function.comp_apply, reported_absolute hc a.1 0]
    rw [hfactor, hfactor l', h]
  refine hmap ?_
  simp [Function.comp_def]

variable (readFloat) in
/-- **What `IterateIndexed` writes is published.** -/
theorem iterateIndexed_spec {f : OutAPDU (List Byte)} (hf : f.function = some .response)
    (hc : c ∈ eventClasses aType)
    (habsolute : useCTO c.base = false) {max_index num : ℕ}
    {es : List (EventInfo (Measurement aType))} (hpos : 0 < num)
    (hnum : num ≤ es.length) (hcount : num ≤ 0xFFFFFFFF) (hmax : max_index ≤ 0xFFFFFFFF)
    (hes : ∀ e ∈ es, e.Fits max_index) :
    ∃ n g, iterateIndexed c (.ok max_index) num es f = .ok (n, g) ∧ n ≤ num ∧
      (22 ≤ f.remainder → 0 < n) ∧
      f.Gives readFloat g (publishedAs c (withCommonTimes (es.take n))) := by
  have hclass := isEventClass readFloat c hc
  obtain ⟨n, g, q, hwrite, hle, hroom, hq, hadds, hformed⟩ :=
    writeIndexedEvents_spec hf hc c.octets hpos hnum
    hcount hmax fun e he ↦ ⟨(hes e he).index, (length_octets hc (hes e he).time).1⟩
  refine ⟨n, g, hwrite, hle, fun h ↦ hroom (by have := hclass.le; omega),
    ⟨_, hadds, hformed, fun s ↦ ?_⟩⟩
  rw [publishedAs_absolute habsolute 0, eventBlocks]
  split
  · next hzero =>
    rw [List.length_eq_zero_iff.mp hzero]
    simp [publishedAs, ResponseLoader.loadAll]
  · have hload : s.load readFloat (eventBlock c q c.octets (es.take n)) =
        (s, publishedAs c ((es.take n).map (0, ·))) := by
      refine load_eventBlock hc (fun h ↦ absurd h (by rw [habsolute]; decide)) fun e he t _ ↦ ?_
      have hread := (length_octets hc (hes e (List.mem_of_mem_take he)).time).2 habsolute
      rw [ResponseLoader.loaded, habsolute, hclass.flag]
      exact hread
    rw [List.map_singleton, Block.seen_of_indexed hq.ne_zero, ResponseLoader.loadAll, hload]
    exact List.append_nil _

end Absolute

/-! ## Relative times -/

section Relative

variable {aType : DataTypes} {readFloat : ℕ → List Byte → ℚ}

/-- The events are not too late for a common time. -/
def NotLate (start : ℤ) (es : List (EventInfo (Measurement aType))) : Prop :=
  ∀ e ∈ es, getTime aType e.mValue - start ≤ Packer.uInt16LE.max

/-- Events that are not too late keep the common time. -/
theorem follow_append {start : ℤ} {es : List (EventInfo (Measurement aType))} (h : NotLate start es)
    (es' : List (EventInfo (Measurement aType))) : follow start (es ++ es') = es.map (start, ·) ++
    follow start es' := by
  induction es with
  | nil => rfl
  | cons e es ih =>
    rw [List.cons_append, follow, if_neg (Int.not_lt.mpr (h e List.mem_cons_self)),
      ih fun e he ↦ h e (List.mem_cons_of_mem _ he)]
    rfl

/-- An event that is too late starts a new common time. -/
theorem follow_late {start : ℤ} {e : EventInfo (Measurement aType)}
    {es : List (EventInfo (Measurement aType))}
    (h : getTime aType e.mValue - start > Packer.uInt16LE.max) :
    follow start (e :: es) = withCommonTimes (e :: es) :=
  if_pos h

/-- The first event has its own time as the common one. -/
theorem withCommonTimes_eq_follow (e : EventInfo (Measurement aType))
    (es : List (EventInfo (Measurement aType))) :
    withCommonTimes (e :: es) = follow (getTime aType e.mValue) (e :: es) := by
  rw [follow, if_neg (by rw [Int.sub_self]; decide)]
  rfl

theorem calcPossibleCTO_le (start : ℤ) (aMax : ℕ) (es : List (EventInfo (Measurement aType))) :
    calcPossibleCTO start aMax es ≤ aMax := by
  induction aMax generalizing es with
  | zero => exact Nat.le_of_eq (by cases es <;> rfl)
  | succ n ih =>
    cases es with
    | nil => exact Nat.zero_le _
    | cons e es =>
      rw [calcPossibleCTO]
      split
      · exact Nat.zero_le _
      · exact Nat.succ_le_succ (ih es)

/-- **What `CalcPossibleCTO` counts**: events that are not too late, and the next one is. -/
theorem calcPossibleCTO_spec (start : ℤ) {aMax : ℕ} {es : List (EventInfo (Measurement aType))}
    (h : aMax ≤ es.length) :
    NotLate start (es.take (calcPossibleCTO start aMax es)) ∧
      (calcPossibleCTO start aMax es < aMax → ∃ e rest, es.drop (calcPossibleCTO start aMax es) =
        e :: rest ∧
        getTime aType e.mValue - start > Packer.uInt16LE.max) := by
  induction aMax generalizing es with
  | zero =>
    have hzero : calcPossibleCTO start 0 es = 0 := by cases es <;> rfl
    rw [hzero]
    exact ⟨fun _ h ↦ absurd h List.not_mem_nil, fun h ↦ absurd h (Nat.lt_irrefl 0)⟩
  | succ n ih =>
    obtain ⟨e, es, rfl⟩ := List.exists_cons_of_length_pos (Nat.lt_of_lt_of_le (Nat.succ_pos n) h)
    rw [calcPossibleCTO]
    by_cases hlate : getTime aType e.mValue - start > Packer.uInt16LE.max
    · rw [if_pos hlate]
      exact ⟨fun _ h ↦ absurd h List.not_mem_nil, fun _ ↦ ⟨e, es, rfl, hlate⟩⟩
    · obtain ⟨hwithin, hnext⟩ := ih (Nat.le_of_succ_le_succ h)
      rw [if_neg hlate]
      refine ⟨?_, fun hlt ↦ hnext (Nat.lt_of_succ_lt_succ hlt)⟩
      rw [NotLate, List.take_succ_cons]
      exact List.forall_mem_cons.mpr ⟨Int.not_lt.mp hlate, hwithin⟩

/-- The block of a common time. -/
def commonBlock (start : ℤ) : Block (List Byte) :=
  ⟨51, 1, .cnt1B, [(0, commonTime.set (List.replicate 6 0) start)], none⟩

theorem formed_commonBlock (start : ℤ) :
    (commonBlock start).Formed true .count1Octet Group51Var1 := by
  have hlen : (commonTime.set (List.replicate 6 (0 : Byte)) start).length = 6 :=
    Pack.length_set (f := commonTime) (by decide) _
  have hsmall : 51 < 256 ∧ 1 < 256 ∧ 1 < 256 ^ 1 := by decide
  refine ⟨.inl ⟨by decide, rfl, rfl⟩, hsmall.1, hsmall.2.1, rfl, ?_, nofun, nofun, fun _ ↦ rfl,
    fun _ ↦ hsmall.2.2, fun h ↦ absurd rfl h, fun obj hobj ↦ ?_, nofun, nofun, nofun⟩
  · exact .inr (.inl ⟨_, rfl⟩)
  · obtain rfl := List.mem_singleton.mp hobj
    exact hlen

variable (readFloat) in
/-- **A common time holds for the block behind it.** -/
theorem loadAll_commonBlock (s : ResponseLoader) {start : ℤ} (hstart : Packer.uInt48LE.Holds start)
    (bs : List (Block (List Byte))) : ∃ s' : ResponseLoader, s'.mCTO.getCTO = some start ∧
      s.loadAll readFloat ((commonBlock start).seen :: bs) = s'.loadAll readFloat bs := by
  have hget : commonTime.get (commonTime.set (List.replicate 6 0) start) = start :=
    Pack.get_set_self (f := commonTime) (by decide) hstart
  have hcase : loadCase readFloat (radix 51 1) = some .readCTO := by
    simp [loadCase, loadCases, radix]
  have hload : s.load readFloat (commonBlock start).seen =
      ({ s with mCTO := s.mCTO.setCTO start }, []) := by
    rw [ResponseLoader.load, show (commonBlock start).seen.group = 51 from rfl,
      show (commonBlock start).seen.variation = 1 from rfl, hcase]
    show (({ s with
      mCTO := s.mCTO.setCTO (commonTime.get (commonTime.set (List.replicate 6 0) start)) } :
      ResponseLoader), ([] : List Published)) = _
    rw [hget]
  refine ⟨_, ?_, by rw [ResponseLoader.loadAll, hload, List.nil_append]⟩
  rw [CTOHistory.getCTO, if_pos ⟨hstart.1, rfl⟩]
  rfl

/-- The header of a common time is written if there is room for it. -/
theorem writeContiguousFixed_common {f : OutAPDU (List Byte)} (hf : f.function = some .response) :
    f.writeContiguousFixed Group51Var1 6 0 0 .cnt1B =
      .ok (if 10 ≤ f.remainder then (f.startBlock ⟨51, 1, .cnt1B, [], none⟩ 10, ⟨0, 0⟩) else
        (f, {})) := by
  have hstate : f.checkWriteState = .ok () := by rw [OutAPDU.checkWriteState, hf]; rfl
  have hdata : f.hasData = true := by rw [OutAPDU.hasData, hf]; rfl
  have hsize : ObjectHeaderTypes.count1Octet.getSize = 4 := rfl
  have hheader : getObjectHeader .cnt1B = .ok .count1Octet := rfl
  rw [OutAPDU.writeContiguousFixed, OutAPDU.writeContiguous, hstate, except_ok_bind,
    if_neg (by decide)]
  dsimp only
  rw [hheader, except_ok_bind, hsize, hdata]
  by_cases hroom : 10 ≤ f.remainder
  · have hcount : 0 - 0 + 1 < (f.remainder - 4) / 6 ∨ (f.remainder - 4) / 6 = 1 := by omega
    have hone : (if 0 - 0 + 1 < (f.remainder - 4) / 6 then 0 - 0 + 1 else (f.remainder - 4) / 6) =
        1 := by
      split <;> omega
    have hrange : OutAPDU.writeContiguousHeader .count1Octet 0 (0 + 1 - 1) = .ok none := rfl
    rw [if_neg (by omega), if_pos hroom]
    simp only [hone]
    rw [if_neg (by omega), hrange]
    rfl
  · rw [if_neg hroom]
    by_cases hhdr : 4 > f.remainder
    · rw [if_pos hhdr]
      rfl
    · rw [if_neg hhdr]
      exact if_pos (by omega)

theorem publishedAs_append (c : Objects.StreamObject (Measurement aType))
    (l l' : List (ℤ × EventInfo (Measurement aType))) :
    publishedAs c (l ++ l') = publishedAs c l ++ publishedAs c l' := by
  rw [publishedAs, publishedAs, publishedAs, List.map_append]
  split <;> rfl

/-- Events that are not too late have the time of the first one in common, and the rest have their
own. -/
theorem withCommonTimes_take_add {e : EventInfo (Measurement aType)}
    {es : List (EventInfo (Measurement aType))}
    {num : ℕ} (hpos : 0 < num) (hwithin : NotLate (getTime aType e.mValue) ((e :: es).take num))
    (hnext : ∃ e' rest, (e :: es).drop num = e' :: rest ∧
      getTime aType e'.mValue - getTime aType e.mValue > Packer.uInt16LE.max) (m : ℕ) :
    withCommonTimes ((e :: es).take (num + m)) = withCommonTimes ((e :: es).take num) ++
      withCommonTimes (((e :: es).drop num).take m) := by
  obtain ⟨k, rfl⟩ := Nat.exists_eq_succ_of_ne_zero (Nat.ne_of_gt hpos)
  obtain ⟨e', rest, hdrop, hlate⟩ := hnext
  have hfirst (l : List (EventInfo (Measurement aType))) :
    withCommonTimes ((e :: es).take (k + 1) ++ l) =
      ((e :: es).take (k + 1)).map (getTime aType e.mValue, ·) ++ follow
        (getTime aType e.mValue) l := by
    rw [← follow_append hwithin, List.take_succ_cons, List.cons_append, withCommonTimes_eq_follow]
  have hnil := hfirst []
  rw [List.append_nil, follow, List.append_nil] at hnil
  rw [List.take_add, hfirst, hnil, hdrop]
  cases m with
  | zero => rfl
  | succ m => exact congrArg _ (follow_late hlate)

/-- An event with a relative time is read with the common one. -/
theorem loaded_relativeOctets {c : Objects.StreamObject (Measurement aType)}
    (hc : c ∈ eventClasses aType)
    (huse : useCTO c.base = true) (start : ℤ) (v : Measurement aType) :
    (relativeOctets c start v).length = c.getSize ∧
      ResponseLoader.loaded ⟨c.fields.mFlag.isSome, useCTO c.base, c.read⟩ start
        (relativeOctets c start v) =
        reported aType c start v := by
  have hall : ∀ c ∈ eventClasses aType, useCTO c.base = true → aType = .binary := by
    cases aType with
    | binary => exact fun _ _ _ ↦ rfl
    | counter | analog => decide
    | controlStatus | setpointStatus => exact fun _ h ↦ absurd h List.not_mem_nil
  obtain rfl := hall c hc huse
  simp only [eventClasses, List.mem_cons, List.not_mem_nil, or_false] at hc
  rcases hc with rfl | rfl | rfl
  · exact absurd huse (by decide)
  · exact absurd huse (by decide)
  · obtain ⟨hlen, hread⟩ := Objects.read_relative (setTime .binary (getTime .binary v - start) v)
    refine ⟨hlen, ?_⟩
    exact congrArg (fun r : BoolDataPoint ↦ { r with mTime := start + r.mTime }) hread

/-- What the master makes of a common time with the events behind it. -/
theorem loadAll_relative {c : Objects.StreamObject (Measurement aType)}
    (hc : c ∈ eventClasses aType)
    (huse : useCTO c.base = true) {start : ℤ} (hstart : Packer.uInt48LE.Holds start)
    {q : QualifierCode}
    (hq : q.indexSize ≠ 0) (es : List (EventInfo (Measurement aType))) (s : ResponseLoader) :
    s.loadAll readFloat
      ((commonBlock start :: eventBlocks c q (relativeOctets c start) es).map Block.seen) =
      publishedAs c (es.map (start, ·)) := by
  obtain ⟨s', hcto, hload⟩ := loadAll_commonBlock readFloat s hstart
    ((eventBlocks c q (relativeOctets c start) es).map Block.seen)
  rw [List.map_cons, hload, eventBlocks]
  split
  · next hzero =>
    rw [List.length_eq_zero_iff.mp hzero]
    simp [publishedAs, ResponseLoader.loadAll]
  · have hblock : s'.load readFloat (eventBlock c q (relativeOctets c start) es) =
        (s', publishedAs c (es.map (start, ·))) := by
      refine load_eventBlock hc (fun _ ↦ hcto) fun e _ t ht ↦ ?_
      rw [ht huse]
      exact (loaded_relativeOctets hc huse start e.mValue).2
    rw [List.map_singleton, Block.seen_of_indexed hq, ResponseLoader.loadAll, hblock]
    exact List.append_nil _

/-- The first events have the time of the first of them in common, if they are not too late. -/
theorem withCommonTimes_take {e : EventInfo (Measurement aType)}
    {es : List (EventInfo (Measurement aType))} {n : ℕ}
    (h : NotLate (getTime aType e.mValue) ((e :: es).take n)) :
    withCommonTimes ((e :: es).take n) = ((e :: es).take n).map (getTime aType e.mValue, ·) := by
  cases n with
  | zero => rfl
  | succ n =>
    rw [List.take_succ_cons] at h ⊢
    have hfollow := follow_append h []
    rw [List.append_nil, follow, List.append_nil] at hfollow
    rw [withCommonTimes_eq_follow, hfollow]

variable (readFloat) in
/-- **A common time with the events that are not too late for it**: as many as there is room for are
published. -/
theorem writeRelative_spec {c : Objects.StreamObject (Measurement aType)}
    (hc : c ∈ eventClasses aType)
    (huse : useCTO c.base = true) {max_index : ℕ} (hmax : max_index ≤ 0xFFFFFFFF)
    {f : OutAPDU (List Byte)}
    (hf : f.function = some .response) (hroom : 10 ≤ f.remainder)
    {e : EventInfo (Measurement aType)}
    {es : List (EventInfo (Measurement aType))} {k : ℕ} (hpos : 0 < k) (hk : k ≤ (e :: es).length)
    (hcount : k ≤ 0xFFFFFFFF) (hes : ∀ x ∈ e :: es, x.Fits max_index)
    (hwithin : NotLate (getTime aType e.mValue) ((e :: es).take k)) :
    ∃ n g, writeIndexedEvents c (relativeOctets c (getTime aType e.mValue)) max_index k (e :: es)
        (f.startBlock (commonBlock (getTime aType e.mValue)) 10) = .ok (n, g) ∧ n ≤ k ∧
          (32 ≤ f.remainder → 0 < n) ∧
      f.Gives readFloat g (publishedAs c (withCommonTimes ((e :: es).take n))) := by
  have hadds : f.Adds (f.startBlock (commonBlock (getTime aType e.mValue)) 10)
      [commonBlock (getTime aType e.mValue)] := by
    refine ⟨rfl, rfl, rfl, fun _ ↦ ?_⟩
    rw [OutAPDU.remainder] at hroom
    show f.mFragmentSize + 10 ≤ f.mMaxSize
    omega
  have hremainder : (f.startBlock (commonBlock (getTime aType e.mValue)) 10).remainder =
      f.remainder - 10 :=
    Nat.sub_add_eq _ _ _
  obtain ⟨n, g, q, hwrite, hn, hsome, hq, hadds', hformed⟩ := writeIndexedEvents_spec
    (hadds.function.trans hf) hc (relativeOctets c (getTime aType e.mValue)) hpos hk hcount hmax
    fun x hx ↦ ⟨(hes x hx).index, (loaded_relativeOctets hc huse _ x.mValue).1⟩
  refine ⟨n, g, hwrite, hn, fun h ↦ hsome ?_, ⟨_, hadds.trans hadds', fun b hb ↦ ?_, fun s ↦ ?_⟩⟩
  · have hle := (isEventClass (fun _ _ ↦ 0) c hc).le
    rw [hremainder]
    omega
  · rcases List.mem_cons.mp hb with rfl | hb
    · exact ⟨_, _, formed_commonBlock _⟩
    · exact hformed b hb
  · rw [withCommonTimes_take fun x hx ↦ hwithin x (List.take_subset_take_left _ hn hx)]
    exact loadAll_relative hc huse (hes e List.mem_cons_self).time hq.ne_zero _ s

variable (readFloat) in
/-- **What `IterateCTO` writes is published.** -/
theorem iterateCTO_spec {c : Objects.StreamObject (Measurement aType)} (hc : c ∈ eventClasses aType)
    (huse : useCTO c.base = true) {max_index : ℕ} (hmax : max_index ≤ 0xFFFFFFFF) {fuel num : ℕ}
    {es : List (EventInfo (Measurement aType))} {f : OutAPDU (List Byte)}
    (hf : f.function = some .response)
    (hfuel : num < fuel) (hpos : 0 < num) (hnum : num ≤ es.length) (hcount : num ≤ 0xFFFFFFFF)
    (hes : ∀ e ∈ es, e.Fits max_index) :
    ∃ n g, iterateCTO c (.ok max_index) fuel num es f = .ok (n, g) ∧ n ≤ num ∧
      (32 ≤ f.remainder → 0 < n) ∧
      f.Gives readFloat g (publishedAs c (withCommonTimes (es.take n))) := by
  induction fuel generalizing num es f with
  | zero => exact absurd hfuel (Nat.not_lt_zero num)
  | succ fuel ih =>
    obtain ⟨e, es, rfl⟩ := List.exists_cons_of_length_pos (Nat.lt_of_lt_of_le hpos hnum)
    rw [iterateCTO, except_ok_bind, writeContiguousFixed_common hf, except_ok_bind]
    by_cases hroom : 10 ≤ f.remainder
    · have hend : ({ mIndex := 0, mStop := 0 } : ObjectWriteIterator).isEnd = false := rfl
      rw [if_pos hroom, hend, if_neg Bool.false_ne_true, OutAPDU.pushObject_startBlock]
      obtain ⟨hwithin, hnext⟩ := calcPossibleCTO_spec (getTime aType e.mValue) hnum
      have hkpos : 0 < calcPossibleCTO (getTime aType e.mValue) num (e :: es) := by
        obtain ⟨m, rfl⟩ := Nat.exists_eq_succ_of_ne_zero (Nat.ne_of_gt hpos)
        rw [calcPossibleCTO, if_neg (by rw [Int.sub_self]; decide)]
        exact Nat.succ_pos _
      have hkle := calcPossibleCTO_le (getTime aType e.mValue) num (e :: es)
      generalize calcPossibleCTO (getTime aType e.mValue) num (e :: es) =
        k at hwithin hnext hkpos hkle ⊢
      obtain ⟨n, g, hwrite, hn, hsome, hgives⟩ :=
        writeRelative_spec readFloat hc huse hmax hf hroom hkpos
        (Nat.le_trans hkle hnum) (Nat.le_trans hkle hcount) hes hwithin
      have hblock : (⟨51, 1, .cnt1B,
        [] ++ [(0, commonTime.set (List.replicate 6 0) (getTime aType e.mValue))], none⟩ :
          Block (List Byte)) = commonBlock (getTime aType e.mValue) := rfl
      rw [hblock]
      dsimp only
      rw [hwrite, except_ok_bind]
      by_cases hstop : n < k ∨ k = num
      · exact ⟨n, g, by rw [if_pos hstop]; rfl, Nat.le_trans hn hkle, hsome, hgives⟩
      · -- all of them have been written, and the next one needs another common time
        obtain rfl : n = k := by omega
        obtain ⟨n', g', hrest, hn', -, hgives'⟩ := @ih (num - n) ((e :: es).drop n) g
          (hgives.function.trans hf) (by omega) (by omega) (by rw [List.length_drop]; omega)
            (by omega)
          fun x hx ↦ hes x (List.mem_of_mem_drop hx)
        refine ⟨n + n', g', ?_, by omega, fun _ ↦ by omega, ?_⟩
        · rw [if_neg hstop, hrest]
          rfl
        · rw [withCommonTimes_take_add hkpos hwithin (hnext (by omega)), publishedAs_append]
          exact hgives.trans hgives'
    · rw [if_neg hroom]
      refine ⟨0, f, rfl, Nat.zero_le _, fun h ↦ by omega, ?_⟩
      have hnil : publishedAs c (withCommonTimes ((e :: es).take 0)) = [] := by
        rw [publishedAs]
        split <;> rfl
      rw [hnil]
      exact .refl f

end Relative

/-! ## Virtual terminals -/

section Terminals

variable {readFloat : ℕ → List Byte → ℚ}

/-- What is published of the data of virtual terminals: an index beyond the last channel is
dropped. -/
def publishedVto (es : List (EventInfo (List Byte))) : List Published :=
  es.flatMap fun e ↦ if e.mIndex ≤ 255 then [.vto e.mIndex e.mValue] else []

/-- The data of a virtual terminal has a size of one octet. -/
structure EventInfo.FitsVto (e : EventInfo (List Byte)) : Prop where
  index : e.mIndex ≤ 0xFFFFFFFF
  size : e.mValue.length ≤ 0xFF

/-- The block of a piece of data. -/
def vtoBlock (apObj : ObjectBase) (e : EventInfo (List Byte)) : Block (List Byte) :=
  ⟨apObj.getGroup, e.mValue.length, OutAPDU.getIndexedQualifier e.mIndex 1,
    [(e.mIndex, e.mValue)], none⟩

variable {apObj : ObjectBase} (hobj : apObj ∈ ObjectBase.knownGroups)

include hobj

theorem formed_vtoBlock {e : EventInfo (List Byte)} (he : e.FitsVto) :
    (vtoBlock apObj e).Formed true (indexedHeader e.mIndex 1) apObj := by
  obtain ⟨hgroup, htype⟩ := ObjectBase.of_mem_knownGroups hobj
  have hq : (OutAPDU.getIndexedQualifier e.mIndex 1).Indexed e.mIndex 1 :=
    OutAPDU.getIndexedQualifier_indexed he.index (by decide)
  obtain ⟨hheader, hcount⟩ := OutAPDU.getCountHeader_eq_ok hq.header
  have hsuits := ((getPrefixSizeAndValidate_eq_ok (by rw [htype]; rintro ⟨⟩)).mp
    (htype ▸ hq.sized)).1
  have hmax := (indexedHeader e.mIndex 1).maxField_lt
  have hle := hq.count
  have hindex := hq.index
  have hall : indexedHeader e.mIndex 1 ≠ .allObjects := by
    intro h
    rw [h] at hcount
    cases hcount
  refine ⟨.inr ⟨hobj, rfl⟩, hgroup, Nat.lt_succ_of_le he.size, hheader, hsuits,
    fun h ↦ absurd h hall, fun h ↦ ?_,
    fun _ ↦ rfl, fun _ ↦ Nat.lt_of_le_of_lt hle hmax, fun _ obj h ↦ ?_, fun obj h ↦ ?_, fun _ h ↦
      ?_, fun _ ↦ rfl,
    fun _ h ↦ ?_⟩
  · rw [hcount] at h
    cases h
  · obtain rfl := List.mem_singleton.mp h
    exact hindex
  · obtain rfl := List.mem_singleton.mp h
    rw [Block.dataSize, if_pos rfl, htype]
    rfl
  · rw [htype] at h
    cases h
  · rw [htype] at h
    cases h

omit hobj in
/-- What the master makes of a piece of data. -/
theorem load_vtoBlock (hgroup : apObj.getGroup = 112 ∨ apObj.getGroup = 113)
    (e : EventInfo (List Byte))
    (s : ResponseLoader) : s.load readFloat (vtoBlock apObj e) = (s, publishedVto [e]) := by
  have hcases : ∀ c ∈ loadCases readFloat, radix c.1.1 c.1.2 < 1000 := by
    simp [loadCases, radix]
  have hnone : loadCase readFloat (radix apObj.getGroup e.mValue.length) = none := by
    rw [loadCase, List.find?_eq_none.mpr]
    · rfl
    · intro c hc h
      have hlt := hcases c hc
      have heq := of_decide_eq_true h
      have hle : apObj.getGroup <<< 4 ≤ radix apObj.getGroup e.mValue.length := Nat.left_le_or
      rw [Nat.shiftLeft_eq] at hle
      omega
  rw [ResponseLoader.load, show (vtoBlock apObj e).group = apObj.getGroup from rfl,
    show (vtoBlock apObj e).variation = e.mValue.length from rfl, hnone]
  refine congrArg (s, ·) ?_
  show (if (apObj.getGroup = 112 ∨ apObj.getGroup = 113) ∧
    e.mIndex ≤ 255 then [Published.vto e.mIndex e.mValue]
    else []) = publishedVto [e]
  simp only [hgroup, true_and, publishedVto, List.flatMap_cons, List.flatMap_nil, List.append_nil]

variable (readFloat) in
/-- **What is written of virtual terminals is published.** -/
theorem iterateVto_spec (hgroup : apObj.getGroup = 112 ∨ apObj.getGroup = 113) {count : ℕ}
    {es : List (EventInfo (List Byte))} {f : OutAPDU (List Byte)} (hf : f.function = some .response)
    (hcount : count ≤ es.length) (hes : ∀ e ∈ es, e.FitsVto) :
    ∃ n g, iterateVto apObj count es f = .ok (n, g) ∧ n ≤ count ∧
      (0 < count → 266 ≤ f.remainder → 0 < n) ∧
      f.Gives readFloat g (publishedVto (es.take n)) := by
  induction count generalizing es f with
  | zero =>
    exact ⟨0, f, by rw [iterateVto], Nat.le_refl 0, fun h ↦ absurd h (Nat.lt_irrefl 0), .refl f⟩
  | succ count ih =>
    obtain ⟨e, es, rfl⟩ := List.exists_cons_of_length_pos
      (Nat.lt_of_lt_of_le (Nat.succ_pos count) hcount)
    have he := hes e List.mem_cons_self
    have hsize := he.size
    have hq : (OutAPDU.getIndexedQualifier e.mIndex 1).Indexed e.mIndex 1 :=
      OutAPDU.getIndexedQualifier_indexed he.index (by decide)
    obtain ⟨n, hn⟩ : ∃ n, f.indexedCount e.mValue.length
      (OutAPDU.getIndexedQualifier e.mIndex 1) e.mIndex 1 = n := ⟨_, rfl⟩
    have hle : n ≤ 1 := hn ▸ Nat.min_le_left _ _
    have hstate : f.checkWriteState = .ok () := by rw [OutAPDU.checkWriteState, hf]; rfl
    have hdata : f.hasData = true := by rw [OutAPDU.hasData, hf]; rfl
    have hheader : f.writeCountHeader e.mValue.length _ apObj.getGroup e.mValue.length 1 _ = _ :=
      OutAPDU.writeCountHeader_indexed hq Nat.one_pos hn
    rw [iterateVto, OutAPDU.writeIndexedSized, hstate, except_ok_bind, hq.sized, except_ok_bind,
      hdata, if_pos rfl, hheader, except_ok_bind]
    by_cases hzero : n = 0
    · rw [if_pos hzero]
      refine ⟨0, f, rfl, Nat.zero_le _, fun _ hroom ↦ ?_, .refl f⟩
      have hpos : 0 < f.indexedCount e.mValue.length _ e.mIndex 1 :=
        OutAPDU.indexedCount_pos hq Nat.one_pos (by omega)
      omega
    · obtain rfl : n = 1 := by omega
      have hfits := OutAPDU.fits_of_indexedCount hq hn hzero
      generalize (indexedHeader e.mIndex 1).getSize +
        1 * (e.mValue.length + (OutAPDU.getIndexedQualifier e.mIndex 1).indexSize) = size at hfits ⊢
      have hgives : f.Gives readFloat (f.startBlock (vtoBlock apObj e) size)
          (publishedVto [e]) := by
        refine ⟨[vtoBlock apObj e], ⟨rfl, rfl, rfl, fun _ ↦ hfits⟩, fun b hb ↦ ?_, fun s ↦ ?_⟩
        · obtain rfl := List.mem_singleton.mp hb
          exact ⟨_, _, formed_vtoBlock hobj he⟩
        · rw [List.map_singleton, Block.seen_of_indexed hq.ne_zero, ResponseLoader.loadAll,
            load_vtoBlock hgroup]
          exact List.append_nil _
      obtain ⟨n', g', hrest, hn', -, hgives'⟩ := ih (hgives.function.trans hf)
        (Nat.le_of_succ_le_succ hcount)
        fun x hx ↦ hes x (List.mem_cons_of_mem _ hx)
      have hindex : ¬e.mIndex > 256 ^ (OutAPDU.getIndexedQualifier e.mIndex 1).indexSize - 1 := by
        have := hq.index
        omega
      refine ⟨n' + 1, g', ?_, Nat.succ_le_succ hn', fun _ _ ↦ Nat.succ_pos _, ?_⟩
      · rw [if_neg hzero]
        simp only [IndexedWriteIterator.isEnd, IndexedWriteIterator.setIndex,
          IndexedWriteIterator.deref, Option.any_some, hindex, decide_false, Bool.false_eq_true,
          if_false,
            OutAPDU.pushObject_startBlock,
          List.nil_append]
        exact congrArg (· >>= fun rest ↦ pure (rest.1 + 1, rest.2)) hrest
      · rw [List.take_succ_cons, show publishedVto (e :: es.take n') = publishedVto [e] ++
            publishedVto (es.take n') by
          simp [publishedVto]]
        exact hgives.trans hgives'

end Terminals

end OpenDNP3
