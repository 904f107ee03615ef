import OpenDNP3.Response.EventKinds
import OpenDNP3.Response.Poll

/-!
# Reading events

A read of events, all the way from the event buffers of the outstation to the observer of the
master.  The first fragment has as many of the selected events as there is room for, and what has
not been written is put back into the buffers when that fragment is confirmed.

* `Requested` — what `Configure` makes of a buffer and of the requests for its events.
* `loadEvents_spec`, `loadVtoEvents_spec` — what is loaded of one type of events.
* `ResponseContext.Full.loadEventData_spec` — of all types.
* `ResponseContext.Full.read_reports` — the whole response.
-/

set_option autoImplicit false

namespace OpenDNP3

open Objects (BoolDataPoint Counter Analog useCTO)

/-! ## Requests for events -/

/-- The objects that are requested are written with their classes, and they are enough for all
events. -/
structure Covers (known : ObjectBase → Prop) (q : List EventRequest) (n : ℕ) : Prop where
  count : n ≤ (q.map (·.count)).sum
  pos : ∀ r ∈ q, 0 < r.count
  known : ∀ r ∈ q, known r.pObj

/-- Once the first request has been met, the others are enough for what is left. -/
theorem Covers.met {known : ObjectBase → Prop} {r : EventRequest} {q : List EventRequest} {n k : ℕ}
    (h : Covers known (r :: q) n) (hk : k = min r.count n) : Covers known q (n - k) := by
  have hcount := h.count
  rw [List.map_cons, List.sum_cons] at hcount
  exact ⟨by omega, fun r hr ↦ h.pos r (List.mem_cons_of_mem _ hr), fun r hr ↦ h.known r
    (List.mem_cons_of_mem _ hr)⟩

section OneType

variable {aType : DataTypes} {readFloat : ℕ → List Byte → ℚ}

/-- What is published of events, request by request. -/
def publishedEvents : List EventRequest → List (EventInfo (Measurement aType)) → List Published
  | [], _ => []
  | r :: q, es =>
    ((eventClass aType r.pObj).map fun c ↦ publishedAs c
      (withCommonTimes (es.take r.count))).getD [] ++
      publishedEvents q (es.drop r.count)

theorem publishedAs_nil (c : Objects.StreamObject (Measurement aType)) :
    publishedAs c (withCommonTimes []) = [] := by
  rw [publishedAs]
  split <;> rfl

@[simp] theorem publishedEvents_nil (q : List EventRequest) : @publishedEvents aType q [] = [] := by
  induction q with
  | nil => rfl
  | cons r q ih =>
    rw [publishedEvents, List.take_nil, List.drop_nil, ih]
    cases eventClass aType r.pObj with
    | none => rfl
    | some c => simp [publishedAs_nil]

variable (readFloat) in
/-- **What is loaded of one type of events**: the first ones, as many as there is room for. -/
theorem loadEvents_spec {m : ℕ} (hm : m ≤ 0xFFFFFFFF) {maxIndex : Except Exception ℕ}
    {q : List EventRequest}
    {es : List (EventInfo (Measurement aType))} {f : OutAPDU (List Byte)}
    (hf : f.function = some .response)
    (hmax : es ≠ [] → maxIndex = .ok m) (hes : ∀ e ∈ es, e.Fits m) (hfew : es.length ≤ 0xFFFFFFFF)
    (hq : Covers (fun o ↦ (eventClass aType o).isSome = true) q es.length) :
    ∃ n q' g, loadEvents maxIndex q es f = .ok (decide (n = es.length), q', n, g) ∧ n ≤ es.length ∧
      (es = [] → g = f) ∧ (es ≠ [] → 32 ≤ f.remainder → 0 < n) ∧
      f.Gives readFloat g (publishedEvents q (es.take n)) := by
  induction q generalizing es f with
  | nil =>
    have hnil : es = [] := List.length_eq_zero_iff.mp (Nat.le_zero.mp hq.count)
    subst hnil
    exact ⟨0, [], f, by simp [loadEvents], Nat.le_refl 0, fun _ ↦ rfl, fun h ↦ absurd rfl h,
      .refl f⟩
  | cons r q ih =>
    by_cases hnil : es = []
    · subst hnil
      exact ⟨0, r :: q, f, by simp [loadEvents], Nat.le_refl 0, fun _ ↦ rfl, fun h ↦ absurd rfl h,
        by simpa using .refl f⟩
    · have hpos : 0 < es.length := List.length_pos_of_ne_nil hnil
      have hrpos := hq.pos r List.mem_cons_self
      obtain ⟨c, hc⟩ := Option.isSome_iff_exists.mp (hq.known r List.mem_cons_self)
      obtain ⟨hmem, hbase⟩ : c ∈ eventClasses aType ∧ c.base = r.pObj :=
        ⟨List.mem_of_find?_eq_some hc, by simpa using List.find?_some hc⟩
      obtain ⟨count, hcount⟩ : ∃ count, min r.count es.length = count := ⟨_, rfl⟩
      -- the loop of the class
      obtain ⟨n, g, hwrite, hn, hsome, hgives⟩ :
        ∃ n g, (if useCTO r.pObj then iterateCTO c maxIndex (count + 1) count es f
          else iterateIndexed c maxIndex count es f) = .ok (n, g) ∧ n ≤ count ∧
            (32 ≤ f.remainder → 0 < n) ∧
          f.Gives readFloat g (publishedAs c (withCommonTimes (es.take n))) := by
        rw [hmax hnil, ← hbase]
        by_cases huse : useCTO c.base = true
        · rw [if_pos huse]
          exact iterateCTO_spec readFloat hmem huse hm hf (Nat.lt_succ_self count) (by omega)
            (by omega) (by omega) hes
        · rw [if_neg huse]
          obtain ⟨n, g, hwrite, hn, hsome, hgives⟩ := iterateIndexed_spec readFloat hf hmem
            (by simpa using huse)
            (by omega : 0 < count) (by omega : count ≤ es.length) (by omega) hm hes
          exact ⟨n, g, hwrite, hn, fun h ↦ hsome (by omega), hgives⟩
      have hload : loadEvents maxIndex (r :: q) es f =
          if n = count then do
            let rest ← loadEvents maxIndex q (es.drop n) g
            return (rest.1, rest.2.1, n + rest.2.2.1, rest.2.2.2)
          else .ok (false, { r with count := count - n } :: q, n, g) := by
        rw [loadEvents, if_neg (Nat.ne_of_gt hpos)]
        by_cases huse : useCTO r.pObj = true
        · rw [if_pos huse] at hwrite
          simp only [hc, hcount, except_ok_bind, if_pos huse, hwrite]
          rfl
        · rw [if_neg huse] at hwrite
          simp only [hc, hcount, except_ok_bind, if_neg huse, hwrite]
          rfl
      have hpublished (k : ℕ) : publishedEvents (r :: q) (es.take k) =
          publishedAs c (withCommonTimes ((es.take k).take r.count)) ++ publishedEvents q
            ((es.take k).drop r.count) := by
        rw [publishedEvents, hc]
        rfl
      rw [hload]
      by_cases hall : n = count
      · -- the request has been met
        obtain ⟨n', q', g', hrest, hn', -, -, hgives'⟩ :=
          @ih (es.drop n) g (hgives.function.trans hf)
          (fun _ ↦ hmax hnil) (fun e he ↦ hes e (List.mem_of_mem_drop he))
            (by rw [List.length_drop]; omega)
          (by rw [List.length_drop]; exact hq.met (hall.trans hcount.symm))
        rw [List.length_drop] at hrest hn'
        refine ⟨n + n', q', g', ?_,
          by omega, fun h ↦ absurd h hnil, fun _ h ↦ Nat.add_pos_left (hsome h) _, ?_⟩
        · rw [if_pos hall, hrest, decide_eq_decide.mpr
            (show n' = es.length - n ↔ n + n' = es.length by omega)]
          rfl
        · rw [hpublished]
          rcases Nat.le_total r.count es.length with hle | hle
          · obtain rfl : n = r.count := by omega
            rw [List.take_take, Nat.min_eq_left (Nat.le_add_right _ _), List.drop_take,
              Nat.add_sub_cancel_left]
            exact hgives.trans hgives'
          · obtain rfl : n' = 0 := by omega
            rw [Nat.add_zero, List.take_take, Nat.min_eq_right (by omega),
              List.drop_eq_nil_of_le (by rw [List.length_take]; omega)]
            have hgives'' := hgives.trans hgives'
            rwa [List.take_zero] at hgives''
      · refine ⟨n, { r with count := count - n } :: q, g, ?_,
          by omega, fun h ↦ absurd h hnil, fun _ h ↦ hsome h, ?_⟩
        · rw [if_neg hall, decide_eq_false (by omega)]
        · rw [hpublished, List.take_take, Nat.min_eq_right (by omega),
            List.drop_eq_nil_of_le (by rw [List.length_take]; omega), publishedEvents_nil,
              List.append_nil]
          exact hgives

end OneType

/-- The object of virtual terminals is one that the master looks for. -/
def IsVto (o : ObjectBase) : Prop := o ∈ ObjectBase.knownGroups ∧
    (o.getGroup = 112 ∨ o.getGroup = 113)

instance (o : ObjectBase) : Decidable (IsVto o) := inferInstanceAs (Decidable (_ ∧ _))

/-- **What is loaded of virtual terminals.** -/
theorem loadVtoEvents_spec (readFloat : ℕ → List Byte → ℚ) {q : List EventRequest}
    {es : List (EventInfo (List Byte))}
    {f : OutAPDU (List Byte)} (hf : f.function = some .response) (hes : ∀ e ∈ es, e.FitsVto)
    (hq : Covers IsVto q es.length) :
    ∃ n q' g, loadVtoEvents q es f = .ok (decide (n = es.length), q', n, g) ∧ n ≤ es.length ∧
      (es ≠ [] → 266 ≤ f.remainder → 0 < n) ∧ f.Gives readFloat g (publishedVto (es.take n)) := by
  induction q generalizing es f with
  | nil =>
    have hnil : es = [] := List.length_eq_zero_iff.mp (Nat.le_zero.mp hq.count)
    subst hnil
    exact ⟨0, [], f, by simp [loadVtoEvents], Nat.le_refl 0, fun h ↦ absurd rfl h, .refl f⟩
  | cons r q ih =>
    obtain ⟨hknown, hgroup⟩ := hq.known r List.mem_cons_self
    have hrpos := hq.pos r List.mem_cons_self
    obtain ⟨count, hcount⟩ : ∃ count, min r.count es.length = count := ⟨_, rfl⟩
    obtain ⟨n, g, hwrite, hn, hsome, hgives⟩ := iterateVto_spec readFloat hknown hgroup hf
      (by omega : count ≤ es.length) hes
    have hpos : es ≠ [] → 0 < count := fun h ↦ by have := List.length_pos_of_ne_nil h; omega
    have hload : loadVtoEvents (r :: q) es f =
        if n = count then do
          let rest ← loadVtoEvents q (es.drop n) g
          return (rest.1, rest.2.1, n + rest.2.2.1, rest.2.2.2)
        else .ok (false, { r with count := count - n } :: q, n, g) := by
      rw [loadVtoEvents]
      simp only [hcount, hwrite, except_ok_bind]
      rfl
    have happend (k k' : ℕ) : publishedVto (es.take (k + k')) =
        publishedVto (es.take k) ++ publishedVto ((es.drop k).take k') := by
      rw [List.take_add, publishedVto, List.flatMap_append]
      rfl
    rw [hload]
    by_cases hall : n = count
    · obtain ⟨n', q', g', hrest, hn', -, hgives'⟩ := @ih (es.drop n) g (hgives.function.trans hf)
        (fun e he ↦ hes e (List.mem_of_mem_drop he))
        (by rw [List.length_drop]; exact hq.met (hall.trans hcount.symm))
      rw [List.length_drop] at hrest hn'
      refine ⟨n + n', q', g', ?_, by omega, fun hne h ↦ Nat.add_pos_left (hsome (hpos hne) h) _, ?_⟩
      · rw [if_pos hall, hrest, decide_eq_decide.mpr
          (show n' = es.length - n ↔ n + n' = es.length by omega)]
        rfl
      · rw [happend]
        exact hgives.trans hgives'
    · refine ⟨n, { r with count := count - n } :: q, g, ?_,
        by omega, fun hne h ↦ hsome (hpos hne) h, hgives⟩
      rw [if_neg hall, decide_eq_false (by omega)]

/-! ## What `Configure` selects -/

/-- **What `Configure` makes of a buffer**: the requests for its events are enough for those that it
has selected, and none of these has been written.  `P` is what is known of the events. -/
structure Requested {α : Type} (P : EventInfo α → Prop) (known : ObjectBase → Prop)
    (q : List EventRequest) (b : EventBuffer α) : Prop where
  covers : Covers known q b.numSelected
  unwritten : ∀ e ∈ b.mSelectedEvents, e.mWritten = false
  all : ∀ e ∈ b.held, P e
  few : b.size ≤ 0xFFFFFFFF

namespace Requested

variable {α : Type} {P : EventInfo α → Prop} {known : ObjectBase → Prop} {q : List EventRequest}
    {b t : EventBuffer α}

/-- Events are selected, and requested. -/
theorem select (h : Requested P known q b) {c : PointClass} {n n' num : ℕ}
    (hP : ∀ e, P e → P (EventBuffer.unwritten e))
    (hsel : b.selectNum c n = .ok (num, t)) (hn : n ≤ n') {o : ObjectBase} (ho : known o) :
    Requested P known (ResponseContext.Events.request q o n' num) t := by
  obtain ⟨hnum, hselected⟩ := EventBuffer.selectNum_eq_ok hsel
  obtain ⟨u, hu, hsel⟩ := except_bind_eq_ok.mp hsel
  obtain ⟨-, rfl⟩ := Prod.mk.inj (Except.ok.inj hsel)
  obtain ⟨⟨m, selected, kept⟩, hloop, hu⟩ := except_bind_eq_ok.mp hu
  obtain ⟨picked, -, hperm, rfl, -, -, -, -, -⟩ := EventBuffer.selectLoop_spec hloop
  obtain rfl := Except.ok.inj hu
  have hheld := h.all
  simp only [EventBuffer.held, List.forall_mem_append] at hheld
  have hset : ∀ e ∈ picked ++ kept, P e := fun e he ↦ hheld.2 e (hperm.mem_iff.mpr he)
  rw [List.forall_mem_append] at hset
  refine ⟨?_, ?_, ?_, ?_⟩
  · have hcovers := h.covers.count
    rw [hselected, ResponseContext.Events.request]
    split
    · refine ⟨?_, ?_, ?_⟩
      · rw [List.map_append, List.sum_append, List.map_singleton, List.sum_singleton]
        show _ ≤ _ + n'
        omega
      · rw [List.forall_mem_append]
        exact ⟨h.covers.pos, fun r hr ↦ by rw [List.mem_singleton.mp hr]; show 0 < n'; omega⟩
      · rw [List.forall_mem_append]
        exact ⟨h.covers.known, fun r hr ↦ by rwa [List.mem_singleton.mp hr]⟩
    · exact ⟨by omega, h.covers.pos, h.covers.known⟩
  · rw [List.forall_mem_append]
    refine ⟨h.unwritten, fun e he ↦ ?_⟩
    obtain ⟨x, -, rfl⟩ := List.mem_map.mp he
    rfl
  · simp only [EventBuffer.held, List.forall_mem_append]
    refine ⟨⟨hheld.1, fun e he ↦ ?_⟩, hset.2⟩
    obtain ⟨x, hx, rfl⟩ := List.mem_map.mp he
    exact hP x (hset.1 x hx)
  · have hfew := h.few
    have hlen := hperm.length_eq
    simp only [EventBuffer.size, List.length_append, List.length_map] at hfew hlen ⊢
    omega

/-- An overflow is indicated, or no longer. -/
theorem isOverflown (h : Requested P known q b) : Requested P known q b.isOverflown.2 := by
  obtain ⟨hset, hsel, -⟩ := b.isOverflown_same
  obtain ⟨hcovers, hunwritten, hall, hfew⟩ := h
  exact ⟨by rwa [EventBuffer.numSelected, hsel],
    by rwa [hsel], by rwa [EventBuffer.held, hsel, hset], by rwa [EventBuffer.size, hsel, hset]⟩

/-- Nothing is selected, and nothing is requested. -/
theorem deselect {kind : BufferKind α} (hvalid : kind.Valid b.mEventSet) (hall : ∀ e ∈ b.held, P e)
    (hfew : b.size ≤ 0xFFFFFFFF) : Requested P known [] (b.deselect kind) := by
  simp only [EventBuffer.held, List.forall_mem_append] at hall
  have hrule : (∀ e ∈ ([] : List (EventInfo α)), P e) ∧ kind.Valid (b.deselect kind).mEventSet ∧
      (∀ e ∈ (b.deselect kind).mEventSet, P e) ∧ ([] : List (EventInfo α)).length +
        (b.deselect kind).mEventSet.length ≤ 0xFFFFFFFF := by
    refine EventBuffer.foldl_updateOld (s := b) (l := b.mSelectedEvents)
      (P := fun l s ↦ (∀ e ∈ l, P e) ∧ kind.Valid s.mEventSet ∧ (∀ e ∈ s.mEventSet, P e) ∧
        l.length + s.mEventSet.length ≤ 0xFFFFFFFF) ?_ ⟨hall.1, hvalid, hall.2, hfew⟩
    rintro e l s ⟨hl, hs, hset, hlen⟩
    rw [List.forall_mem_cons] at hl
    rw [List.length_cons] at hlen
    have hvalid' : kind.Valid { s with mSequence := s.nextSequence }.mEventSet := hs
    have hupdates := EventBuffer.kindUpdate_updates hvalid' e
    refine ⟨hl.2, EventBuffer.valid_kindUpdate hvalid' e, ?_⟩
    show (∀ x ∈ ((EventBuffer.kindUpdate kind { s with mSequence := s.nextSequence } e)).mEventSet,
      P x) ∧ _ + List.length
      ((EventBuffer.kindUpdate kind { s with mSequence := s.nextSequence } e)).mEventSet ≤
        0xFFFFFFFF
    generalize EventBuffer.kindUpdate kind { s with mSequence := s.nextSequence } e =
      u at hupdates ⊢
    cases hupdates with
    | adds hp _ =>
      have hlen' := hp.length_eq
      rw [List.length_cons] at hlen'
      exact ⟨fun x hx ↦ (List.mem_cons.mp (hp.mem_iff.mp hx)).elim (fun h ↦ h ▸ hl.1) (hset x),
        by dsimp only at hlen' ⊢; omega⟩
    | swallows => exact ⟨hset, by dsimp only; omega⟩
    | @replaces _ x set rest _ _ _ hold hnew =>
      have hold' := hold.length_eq
      have hnew' := hnew.length_eq
      rw [List.length_cons] at hold' hnew'
      refine ⟨fun y hy ↦ (List.mem_cons.mp (hnew.mem_iff.mp hy)).elim (fun h ↦ h ▸ hl.1)
        fun hy ↦ ?_, by dsimp only at hold' hnew' ⊢; omega⟩
      exact hset y (hold.mem_iff.mpr (List.mem_cons_of_mem _ hy))
    | keeps => exact ⟨hset, by dsimp only; omega⟩
  obtain ⟨-, -, hset, hlen⟩ := hrule
  refine ⟨⟨Nat.zero_le _, fun _ h ↦ absurd h List.not_mem_nil, fun _ h ↦ absurd h List.not_mem_nil⟩,
    fun _ h ↦ absurd h List.not_mem_nil, hset, ?_⟩
  simpa [EventBuffer.size, EventBuffer.deselect] using hlen

end Requested

/-- An event is about a point of the database, and its time goes into 48 bits. -/
structure PointEvent (num : DataTypes → ℕ) (aType : DataTypes) (e : EventInfo (Measurement aType)) :
    Prop where
  index : e.mIndex < num aType
  time : Packer.uInt48LE.Holds (getTime aType e.mValue)

/-- The fields of the events are integers. -/
def IsEvent (aType : DataTypes) (o : ObjectBase) : Prop := (eventClass aType o).isSome = true

instance (aType : DataTypes) (o : ObjectBase) : Decidable (IsEvent aType o) :=
    inferInstanceAs (Decidable (_ = true))

/-- The objects that events are written with where the master leaves the variation open. -/
structure SlaveResponseTypes.Known (t : SlaveResponseTypes) : Prop where
  binary : IsEvent .binary t.mpEventBinary
  analog : IsEvent .analog t.mpEventAnalog
  counter : IsEvent .counter t.mpEventCounter
  vto : IsVto t.mpEventVto

namespace ResponseContext.Events

/-- **What `Configure` makes of the buffers.** -/
structure Ready (num : DataTypes → ℕ) (s : Events BoolDataPoint Analog Counter (List Byte)) :
    Prop where
  types : s.mpRspTypes.Known
  binary : Requested (PointEvent num .binary)
    (IsEvent .binary) s.mBinaryEvents s.mBuffer.mBinaryEvents
  analog : Requested (PointEvent num .analog)
    (IsEvent .analog) s.mAnalogEvents s.mBuffer.mAnalogEvents
  counter : Requested (PointEvent num .counter)
    (IsEvent .counter) s.mCounterEvents s.mBuffer.mCounterEvents
  vto : Requested EventInfo.FitsVto IsVto s.mVtoEvents s.mBuffer.mVtoEvents

namespace Ready

variable {num : DataTypes → ℕ} {s t : Events BoolDataPoint Analog Counter (List Byte)}
    {c : PointClass} {n : ℕ}
  {o : ObjectBase} {r : ℕ × Events BoolDataPoint Analog Counter (List Byte)}

theorem selectBinary (h : s.Ready num) (hsel : s.selectBinary c o n = .ok r)
    (ho : IsEvent .binary o) :
    r.2.Ready num := by
  obtain ⟨⟨k, b⟩, hb, hsel⟩ := except_bind_eq_ok.mp hsel
  obtain rfl := Except.ok.inj hsel
  exact ⟨h.types, h.binary.select (fun _ he ↦ ⟨he.index, he.time⟩) hb (Nat.le_refl n) ho, h.analog,
    h.counter, h.vto⟩

theorem selectAnalog (h : s.Ready num) (hsel : s.selectAnalog c o n = .ok r)
    (ho : IsEvent .analog o) :
    r.2.Ready num := by
  obtain ⟨⟨k, b⟩, hb, hsel⟩ := except_bind_eq_ok.mp hsel
  obtain rfl := Except.ok.inj hsel
  exact ⟨h.types, h.binary, h.analog.select (fun _ he ↦ ⟨he.index, he.time⟩) hb (Nat.le_refl n) ho,
    h.counter, h.vto⟩

theorem selectCounter (h : s.Ready num) (hsel : s.selectCounter c o n = .ok r)
    (ho : IsEvent .counter o) :
    r.2.Ready num := by
  obtain ⟨⟨k, b⟩, hb, hsel⟩ := except_bind_eq_ok.mp hsel
  obtain rfl := Except.ok.inj hsel
  exact ⟨h.types, h.binary, h.analog, h.counter.select (fun _ he ↦ ⟨he.index, he.time⟩) hb
    (Nat.le_refl n) ho, h.vto⟩

theorem selectVtoEvents (h : s.Ready num) (hsel : s.selectVtoEvents c o n = .ok r) (ho : IsVto o) :
    r.2.Ready num := by
  obtain ⟨⟨k, b⟩, hb, hsel⟩ := except_bind_eq_ok.mp hsel
  obtain rfl := Except.ok.inj hsel
  exact ⟨h.types, h.binary, h.analog, h.counter,
    h.vto.select (fun _ he ↦ ⟨he.index, he.size⟩) hb (Nat.min_le_left n maxVtoEvents) ho⟩

theorem checkOverflow (h : s.Ready num) : s.checkOverflow.Ready num := by
  have hb := h.binary.isOverflown
  have ha := h.analog.isOverflown
  have hc := h.counter.isOverflown
  have hv := h.vto.isOverflown
  rw [Events.checkOverflow, SlaveEventBuffer.isOverflow]
  dsimp only
  split
  · exact ⟨h.types, hb, h.analog, h.counter, h.vto⟩
  split
  · exact ⟨h.types, hb, ha, h.counter, h.vto⟩
  split
  · exact ⟨h.types, hb, ha, hc, h.vto⟩
  · exact ⟨h.types, hb, ha, hc, hv⟩

theorem selectEvents (h : s.Ready num) (hsel : s.selectEvents c n = .ok t) : t.Ready num := by
  obtain ⟨⟨nb, s₁⟩, h₁, hsel⟩ := except_bind_eq_ok.mp hsel
  obtain ⟨⟨na, s₂⟩, h₂, hsel⟩ := except_bind_eq_ok.mp hsel
  obtain ⟨⟨nc, s₃⟩, h₃, hsel⟩ := except_bind_eq_ok.mp hsel
  obtain ⟨⟨nv, s₄⟩, h₄, hsel⟩ := except_bind_eq_ok.mp hsel
  obtain rfl := Except.ok.inj hsel
  have hready₁ : s₁.Ready num := h.checkOverflow.selectBinary h₁ h.checkOverflow.types.binary
  have hready₂ : s₂.Ready num := hready₁.selectAnalog h₂ hready₁.types.analog
  have hready₃ : s₃.Ready num := hready₂.selectCounter h₃ hready₂.types.counter
  exact hready₃.selectVtoEvents h₄ hready₃.types.vto

/-- A header selects events, or it does not. -/
theorem configure (h : s.Ready num) {hdr : HeaderInfo} (hconfigure : s.configure hdr = .ok t) :
    t.Ready num := by
  have hsnd {x : Except Exception (ℕ × Events BoolDataPoint Analog Counter (List Byte))}
      (hx : (do return (← x).2) = Except.ok t) : ∃ r, x = .ok r ∧ r.2 = t := by
    obtain ⟨r, hr, hx⟩ := except_bind_eq_ok.mp hx
    exact ⟨r, hr, Except.ok.inj hx⟩
  rw [Events.configure] at hconfigure
  split at hconfigure
  · obtain ⟨r, hr, rfl⟩ := hsnd hconfigure
    exact h.selectVtoEvents hr (by decide)
  split at hconfigure
  · obtain ⟨r, hr, rfl⟩ := hsnd hconfigure
    exact h.selectBinary hr h.types.binary
  split at hconfigure
  · obtain ⟨r, hr, rfl⟩ := hsnd hconfigure
    exact h.selectCounter hr h.types.counter
  split at hconfigure
  · obtain ⟨r, hr, rfl⟩ := hsnd hconfigure
    exact h.selectAnalog hr h.types.analog
  split at hconfigure
  · obtain ⟨r, hr, rfl⟩ := hsnd hconfigure
    exact h.selectBinary hr (by decide)
  split at hconfigure
  · obtain ⟨r, hr, rfl⟩ := hsnd hconfigure
    exact h.selectBinary hr (by decide)
  split at hconfigure
  · obtain ⟨r, hr, rfl⟩ := hsnd hconfigure
    exact h.selectBinary hr (by decide)
  split at hconfigure
  · exact h.selectEvents hconfigure
  · exact Except.ok.inj hconfigure ▸ h

theorem configureAll (h : s.Ready num) {hdrs : List HeaderInfo}
    (hconfigure : s.configureAll hdrs = .ok t) :
    t.Ready num := by
  induction hdrs generalizing s with
  | nil => exact Except.ok.inj hconfigure ▸ h
  | cons hdr hdrs ih =>
    rw [Events.configureAll, List.foldlM_cons] at hconfigure
    obtain ⟨u, hu, hconfigure⟩ := except_bind_eq_ok.mp hconfigure
    exact ih (h.configure hu) hconfigure

end Ready

end ResponseContext.Events

/-- **What is known of the buffers** whenever a request comes in: the sets are sets, the events are
about points of the database, and there are not too many. -/
structure SlaveEventBuffer.Holds (num : DataTypes → ℕ)
    (s : SlaveEventBuffer BoolDataPoint Analog Counter (List Byte)) : Prop where
  counters : (BufferKind.single (getTime .counter)).Valid s.mCounterEvents.mEventSet
  terminals : BufferKind.insertionOrdered.Valid s.mVtoEvents.mEventSet
  binary : ∀ e ∈ s.mBinaryEvents.held, PointEvent num .binary e
  analog : ∀ e ∈ s.mAnalogEvents.held, PointEvent num .analog e
  counter : ∀ e ∈ s.mCounterEvents.held, PointEvent num .counter e
  vto : ∀ e ∈ s.mVtoEvents.held, e.FitsVto
  few : s.mBinaryEvents.size ≤ 0xFFFFFFFF ∧ s.mAnalogEvents.size ≤ 0xFFFFFFFF ∧
    s.mCounterEvents.size ≤ 0xFFFFFFFF ∧ s.mVtoEvents.size ≤ 0xFFFFFFFF

/-! ## Loading the events -/

/-- These are the first events, type by type. -/
structure EventCounts.FirstOf (n m : EventCounts) : Prop where
  binary : n.binary ≤ m.binary
  analog : n.analog ≤ m.analog
  counter : n.counter ≤ m.counter
  vto : n.vto ≤ m.vto
  after_binary : n.binary < m.binary → n.analog = 0
  after_analog : n.analog < m.analog ∨ n.binary < m.binary → n.counter = 0
  after_counter : n.counter < m.counter ∨ n.analog < m.analog ∨ n.binary < m.binary → n.vto = 0

@[simp] theorem EventBuffer.flagWritten_zero {α : Type} (s : EventBuffer α) :
    s.flagWritten 0 = s := by
  simp [EventBuffer.flagWritten]

/-- So many events of each type have been written. -/
def SlaveEventBuffer.flagWritten {β α κ τ : Type} (s : SlaveEventBuffer β α κ τ) (n : EventCounts) :
    SlaveEventBuffer β α κ τ where
  mBinaryEvents := s.mBinaryEvents.flagWritten n.binary
  mAnalogEvents := s.mAnalogEvents.flagWritten n.analog
  mCounterEvents := s.mCounterEvents.flagWritten n.counter
  mVtoEvents := s.mVtoEvents.flagWritten n.vto

/-- What is published of so many events. -/
def ResponseContext.Events.published (s : Events BoolDataPoint Analog Counter (List Byte))
    (n : EventCounts) :
    List Published :=
  @publishedEvents .binary s.mBinaryEvents
    (s.mBuffer.mBinaryEvents.mSelectedEvents.take n.binary) ++
    (@publishedEvents .analog s.mAnalogEvents
      (s.mBuffer.mAnalogEvents.mSelectedEvents.take n.analog) ++
      (@publishedEvents .counter s.mCounterEvents
        (s.mBuffer.mCounterEvents.mSelectedEvents.take n.counter) ++
        publishedVto (s.mBuffer.mVtoEvents.mSelectedEvents.take n.vto)))

/-- `MaxIndex` of a type that has events. -/
theorem Database.maxIndex_of_events {mpDB : Database Measurement} {num : DataTypes → ℕ}
    (hnum : ∀ aType, mpDB.numType aType = num aType) {aType : DataTypes}
    {es : List (EventInfo (Measurement aType))}
    (hes : ∀ e ∈ es, PointEvent num aType e) (hne : es ≠ []) : mpDB.maxIndex aType = .ok
    (num aType - 1) := by
  obtain ⟨e, he⟩ := List.exists_mem_of_ne_nil es hne
  have hindex := (hes e he).index
  rw [Database.maxIndex, hnum, if_neg (by omega)]

namespace ResponseContext.Full

variable {readFloat : ℕ → List Byte → ℚ} {mpDB : Database Measurement} {c : Full}
    {f : OutAPDU (List Byte)}

/-- The context after events have been written. -/
def afterLoading (c : Full) (n : EventCounts) (qb qa qc qv : List EventRequest) : Full :=
  { c with
    events := { c.events with
      mBuffer := c.events.mBuffer.flagWritten n
      mBinaryEvents := qb
      mAnalogEvents := qa
      mCounterEvents := qc
      mVtoEvents := qv }
    mLoadedEventData := c.mLoadedEventData || n.binary > 0 || n.analog > 0 || n.counter > 0 ||
      n.vto > 0 }

theorem none_loaded : decide (0 > 0) = false := rfl

section Loading

variable {n nb na nc : ℕ} {q qb qa qc qv : List EventRequest} {done : Bool}
    {g : OutAPDU (List Byte)}

theorem loadBinaryEvents_eq (h : @loadEvents .binary (mpDB.maxIndex .binary) c.events.mBinaryEvents
      c.events.mBuffer.mBinaryEvents.mSelectedEvents f = .ok (done, q, n, g)) :
    c.loadBinaryEvents mpDB f = .ok
      (done, c.afterLoading ⟨n, 0, 0, 0⟩ q c.events.mAnalogEvents c.events.mCounterEvents
      c.events.mVtoEvents, g) := by
  simp only [loadBinaryEvents, h, except_ok_bind, afterLoading, SlaveEventBuffer.flagWritten,
    EventBuffer.flagWritten_zero, none_loaded, Bool.or_false]
  rfl

theorem loadAnalogEvents_eq (h : @loadEvents .analog (mpDB.maxIndex .analog) c.events.mAnalogEvents
      c.events.mBuffer.mAnalogEvents.mSelectedEvents f = .ok (done, q, n, g)) :
    (c.afterLoading ⟨nb, 0, 0, 0⟩ qb c.events.mAnalogEvents qc qv).loadAnalogEvents mpDB f =
      .ok (done, c.afterLoading ⟨nb, n, 0, 0⟩ qb q qc qv, g) := by
  simp only [loadAnalogEvents, afterLoading, SlaveEventBuffer.flagWritten,
    EventBuffer.flagWritten_zero, h, except_ok_bind, none_loaded, Bool.or_false]
  rfl

theorem loadCounterEvents_eq
    (h : @loadEvents .counter (mpDB.maxIndex .counter) c.events.mCounterEvents
      c.events.mBuffer.mCounterEvents.mSelectedEvents f = .ok (done, q, n, g)) :
    (c.afterLoading ⟨nb, na, 0, 0⟩ qb qa c.events.mCounterEvents qv).loadCounterEvents mpDB f =
      .ok (done, c.afterLoading ⟨nb, na, n, 0⟩ qb qa q qv, g) := by
  simp only [loadCounterEvents, afterLoading, SlaveEventBuffer.flagWritten,
    EventBuffer.flagWritten_zero, h, except_ok_bind, none_loaded, Bool.or_false]
  rfl

theorem loadVto_eq
    (h : loadVtoEvents c.events.mVtoEvents c.events.mBuffer.mVtoEvents.mSelectedEvents f =
      .ok (done, q, n, g)) :
    (c.afterLoading ⟨nb, na, nc, 0⟩ qb qa qc c.events.mVtoEvents).loadVto f =
      .ok (done, c.afterLoading ⟨nb, na, nc, n⟩ qb qa qc q, g) := by
  simp only [loadVto, afterLoading, SlaveEventBuffer.flagWritten, EventBuffer.flagWritten_zero, h,
    except_ok_bind, none_loaded, Bool.or_false]
  rfl

end Loading

/-- What is loaded of the events of a buffer; where none is selected, nothing is written. -/
theorem loadEvents_of_requested (readFloat : ℕ → List Byte → ℚ) {num : DataTypes → ℕ}
    (hnum : ∀ aType, mpDB.numType aType = num aType) (hmax : ∀ aType, num aType ≤ 2 ^ 32)
    {aType : DataTypes} {q : List EventRequest} {b : EventBuffer (Measurement aType)}
    (h : Requested (PointEvent num aType) (IsEvent aType) q b) (hf : f.function = some .response) :
    ∃ n q' g, loadEvents (mpDB.maxIndex aType) q b.mSelectedEvents f = .ok
      (decide (n = b.numSelected), q', n, g) ∧
      n ≤ b.numSelected ∧
      (266 ≤ f.remainder → 0 < n ∨ b.numSelected = 0 ∧ 266 ≤ g.remainder) ∧
      f.Gives readFloat g (publishedEvents q (b.mSelectedEvents.take n)) := by
  have hmax' : num aType - 1 ≤ 0xFFFFFFFF := by
    have := hmax aType
    omega
  have hall : ∀ e ∈ b.mSelectedEvents, PointEvent num aType e :=
    fun e he ↦ h.all e (List.mem_append_left _ he)
  have hfew : b.mSelectedEvents.length ≤ 0xFFFFFFFF := Nat.le_trans (Nat.le_add_right _ _) h.few
  obtain ⟨n, q', g, hload, hn, hnone, hsome, hgives⟩ := loadEvents_spec readFloat hmax' hf
    (Database.maxIndex_of_events hnum hall)
    (fun e he ↦ ⟨Nat.le_sub_one_of_lt (hall e he).index, (hall e he).time⟩) hfew h.covers
  refine ⟨n, q', g, hload, hn, fun hroom ↦ ?_, hgives⟩
  by_cases hnil : b.mSelectedEvents = []
  · exact .inr ⟨List.length_eq_zero_iff.mpr hnil, (hnone hnil).symm ▸ hroom⟩
  · exact .inl (hsome hnil (by omega))

/-- **There is an event in the fragment, unless none is selected**: a class of events is loaded once
all those before it had none. -/
theorem EventCounts.progress {m : EventCounts} {nb na nc nv : ℕ} {pb pa pc : Prop}
    (htotal : 0 < m.total) (hb : 0 < nb ∨ m.binary = 0 ∧ pb)
    (ha : pb → 0 < na ∨ m.analog = 0 ∧ pa) (hc : pa → 0 < nc ∨ m.counter = 0 ∧ pc)
    (hv : pc → 0 < m.vto → 0 < nv) :
    0 < nb ∨ m.binary = 0 ∧ (0 < na ∨ m.analog = 0 ∧ (0 < nc ∨ m.counter = 0 ∧ 0 < nv)) := by
  refine hb.imp_right ?_
  rintro ⟨hbzero, hpb⟩
  refine ⟨hbzero, (ha hpb).imp_right ?_⟩
  rintro ⟨hazero, hpa⟩
  refine ⟨hazero, (hc hpa).imp_right ?_⟩
  rintro ⟨hczero, hpc⟩
  refine ⟨hczero, hv hpc ?_⟩
  rw [EventCounts.total] at htotal
  omega

/-- Not all events have been loaded. -/
theorem decide_selected_eq_false {n : EventCounts}
    (h : n.binary ≠ c.events.mBuffer.mBinaryEvents.numSelected ∨
      n.analog ≠ c.events.mBuffer.mAnalogEvents.numSelected ∨
        n.counter ≠ c.events.mBuffer.mCounterEvents.numSelected) :
    decide (n = c.events.mBuffer.selected) = false := by
  refine decide_eq_false fun heq ↦ ?_
  rw [heq] at h
  simp [SlaveEventBuffer.selected] at h

/-- **What is loaded of all events**: the first ones, as many as there is room for, and they are
published. -/
theorem loadEventData_spec {num : DataTypes → ℕ} (hnum : ∀ aType, mpDB.numType aType = num aType)
    (hmax : ∀ aType, num aType ≤ 2 ^ 32) (hready : c.events.Ready num)
    (hf : f.function = some .response) :
    ∃ n g qb qa qc qv, c.loadEventData mpDB f = .ok (decide (n = c.events.mBuffer.selected),
        c.afterLoading n qb qa qc qv, g) ∧ n.FirstOf c.events.mBuffer.selected ∧
      (0 < c.events.mBuffer.selected.total → 266 ≤ f.remainder → 0 < n.total) ∧
      f.Gives readFloat g (c.events.published n) := by
  obtain ⟨nb, qb, gb, hb, hnb, hbsome, hbgives⟩ :=
    loadEvents_of_requested readFloat hnum hmax hready.binary hf
  obtain ⟨na, qa, ga, ha, hna, hasome, hagives⟩ :=
    loadEvents_of_requested readFloat hnum hmax hready.analog
    (hbgives.function.trans hf)
  have hfa := hagives.function.trans (hbgives.function.trans hf)
  obtain ⟨nc, qc, gc, hc, hnc, hcsome, hcgives⟩ :=
    loadEvents_of_requested readFloat hnum hmax hready.counter hfa
  obtain ⟨nv, qv, gv, hv, hnv, hvsome, hvgives⟩ := loadVtoEvents_spec readFloat
    (hcgives.function.trans hfa)
    (fun e he ↦ hready.vto.all e (List.mem_append_left _ he)) hready.vto.covers
  have hloadb := loadBinaryEvents_eq hb
  have hloada : (c.afterLoading ⟨nb, 0, 0, 0⟩ qb c.events.mAnalogEvents c.events.mCounterEvents
      c.events.mVtoEvents).loadAnalogEvents mpDB gb = .ok
        (_, c.afterLoading ⟨nb, na, 0, 0⟩ qb qa _ _, ga) :=
    loadAnalogEvents_eq ha
  have hloadc : (c.afterLoading ⟨nb, na, 0, 0⟩ qb qa c.events.mCounterEvents
      c.events.mVtoEvents).loadCounterEvents mpDB ga = .ok
        (_, c.afterLoading ⟨nb, na, nc, 0⟩ qb qa qc _, gc) :=
    loadCounterEvents_eq hc
  have hloadv : (c.afterLoading ⟨nb, na, nc, 0⟩ qb qa qc c.events.mVtoEvents).loadVto gc =
      .ok (_, c.afterLoading ⟨nb, na, nc, nv⟩ qb qa qc qv, gv) :=
    loadVto_eq hv
  have hanil : @publishedEvents .analog c.events.mAnalogEvents [] = [] := publishedEvents_nil _
  have hcnil : @publishedEvents .counter c.events.mCounterEvents [] = [] := publishedEvents_nil _
  have hprogress (htotal : 0 < c.events.mBuffer.selected.total) (hroom : 266 ≤ f.remainder) :=
    EventCounts.progress htotal (hbsome hroom) hasome hcsome fun hroom hpos ↦
      hvsome (List.ne_nil_of_length_pos hpos) hroom
  rw [loadEventData, hloadb, except_ok_bind]
  by_cases hbdone : nb = c.events.mBuffer.mBinaryEvents.numSelected
  · simp only [decide_eq_true hbdone, Bool.not_true, Bool.false_eq_true, if_false, hloada,
      except_ok_bind]
    by_cases hadone : na = c.events.mBuffer.mAnalogEvents.numSelected
    · simp only [decide_eq_true hadone, Bool.not_true, Bool.false_eq_true, if_false, hloadc,
        except_ok_bind]
      by_cases hcdone : nc = c.events.mBuffer.mCounterEvents.numSelected
      · simp only [decide_eq_true hcdone, Bool.not_true, Bool.false_eq_true, if_false, hloadv]
        refine ⟨⟨nb, na, nc, nv⟩, gv, qb, qa, qc, qv, ?_, ?_, ?_, ?_⟩
        · have hall : nv = c.events.mBuffer.mVtoEvents.mSelectedEvents.length ↔
              (⟨nb, na, nc, nv⟩ : EventCounts) = c.events.mBuffer.selected := by
            simp [SlaveEventBuffer.selected, hbdone, hadone, hcdone, EventBuffer.numSelected]
          rw [decide_eq_decide.mpr hall]
        · refine ⟨hnb, hna, hnc, hnv, fun h ↦ ?_, fun h ↦ ?_, fun h ↦ ?_⟩ <;>
            simp only [SlaveEventBuffer.selected] at h <;> omega
        · intro htotal hroom
          have := hprogress htotal hroom
          simp only [EventCounts.total]
          omega
        · exact hbgives.trans (hagives.trans (hcgives.trans hvgives))
      · refine ⟨⟨nb, na, nc, 0⟩, gc, qb, qa, qc, c.events.mVtoEvents, ?_, ?_, ?_, ?_⟩
        · rw [decide_selected_eq_false (.inr (.inr hcdone)), decide_eq_false hcdone]
          rfl
        · refine ⟨hnb, hna, hnc, Nat.zero_le _, fun h ↦ ?_, fun h ↦ ?_, fun _ ↦ rfl⟩ <;>
            simp only [SlaveEventBuffer.selected] at h <;> omega
        · intro htotal hroom
          have := hprogress htotal hroom
          simp only [EventCounts.total]
          omega
        · simpa [Events.published, publishedVto] using hbgives.trans (hagives.trans hcgives)
    · refine ⟨⟨nb, na, 0, 0⟩, ga, qb, qa, c.events.mCounterEvents, c.events.mVtoEvents, ?_,
        ?_, ?_, ?_⟩
      · rw [decide_selected_eq_false (.inr (.inl hadone)), decide_eq_false hadone]
        rfl
      · exact ⟨hnb, hna, Nat.zero_le _, Nat.zero_le _, fun h ↦ absurd hbdone (Nat.ne_of_lt h),
          fun _ ↦ rfl, fun _ ↦ rfl⟩
      · intro htotal hroom
        have := hprogress htotal hroom
        simp only [EventCounts.total]
        omega
      · simpa [Events.published, publishedVto, hcnil] using hbgives.trans hagives
  · refine ⟨⟨nb, 0, 0, 0⟩, gb, qb, c.events.mAnalogEvents, c.events.mCounterEvents,
      c.events.mVtoEvents, ?_, ?_, ?_, ?_⟩
    · rw [decide_selected_eq_false (.inl hbdone), decide_eq_false hbdone]
      rfl
    · exact ⟨hnb, Nat.zero_le _, Nat.zero_le _, Nat.zero_le _, fun _ ↦ rfl, fun _ ↦ rfl,
        fun _ ↦ rfl⟩
    · intro htotal hroom
      have := hprogress htotal hroom
      simp only [EventCounts.total]
      omega
    · simpa [Events.published, publishedVto, hanil, hcnil] using hbgives

end ResponseContext.Full

/-! ## Fragments without events -/

namespace ResponseContext

namespace Full

variable {mpDB : Database Measurement} {c : Full} {f : OutAPDU (List Byte)}

/-- No event is selected. -/
structure NoneSelected (c : Full) : Prop where
  binary : c.events.mBuffer.mBinaryEvents.mSelectedEvents = []
  analog : c.events.mBuffer.mAnalogEvents.mSelectedEvents = []
  counter : c.events.mBuffer.mCounterEvents.mSelectedEvents = []
  vto : c.events.mBuffer.mVtoEvents.mSelectedEvents = []

theorem loadEvents_none {aType : DataTypes} (maxIndex : Except Exception ℕ) (q : List EventRequest)
    (f : OutAPDU (List Byte)) : @loadEvents aType maxIndex q [] f = .ok (true, q, 0, f) := by
  cases q <;> simp [loadEvents]

theorem loadVtoEvents_none (q : List EventRequest) (f : OutAPDU (List Byte)) :
    loadVtoEvents q [] f = .ok (true, [], 0, f) := by
  induction q with
  | nil => rfl
  | cons r q ih =>
    rw [loadVtoEvents]
    simp only [List.length_nil, Nat.min_zero, iterateVto, except_ok_bind, if_true,
      List.drop_nil, ih]
    rfl

/-- Without events nothing is loaded. -/
theorem loadEventData_none (h : c.NoneSelected) : c.loadEventData mpDB f =
    .ok (true, { c with events := { c.events with mVtoEvents := [] } }, f) := by
  have hb : c.loadBinaryEvents mpDB f = .ok
    (true, c.afterLoading ⟨0, 0, 0, 0⟩ c.events.mBinaryEvents
      c.events.mAnalogEvents c.events.mCounterEvents c.events.mVtoEvents, f) :=
    loadBinaryEvents_eq (by rw [h.binary]; exact loadEvents_none _ _ _)
  have ha : (c.afterLoading
    ⟨0, 0, 0, 0⟩ c.events.mBinaryEvents c.events.mAnalogEvents c.events.mCounterEvents
      c.events.mVtoEvents).loadAnalogEvents mpDB f = .ok
        (true, c.afterLoading ⟨0, 0, 0, 0⟩ c.events.mBinaryEvents
      c.events.mAnalogEvents c.events.mCounterEvents c.events.mVtoEvents, f) :=
    loadAnalogEvents_eq (by rw [h.analog]; exact loadEvents_none _ _ _)
  have hc : (c.afterLoading
    ⟨0, 0, 0, 0⟩ c.events.mBinaryEvents c.events.mAnalogEvents c.events.mCounterEvents
      c.events.mVtoEvents).loadCounterEvents mpDB f = .ok
        (true, c.afterLoading ⟨0, 0, 0, 0⟩ c.events.mBinaryEvents
      c.events.mAnalogEvents c.events.mCounterEvents c.events.mVtoEvents, f) :=
    loadCounterEvents_eq (by rw [h.counter]; exact loadEvents_none _ _ _)
  have hv : (c.afterLoading
    ⟨0, 0, 0, 0⟩ c.events.mBinaryEvents c.events.mAnalogEvents c.events.mCounterEvents
      c.events.mVtoEvents).loadVto f = .ok (true, c.afterLoading ⟨0, 0, 0, 0⟩ c.events.mBinaryEvents
      c.events.mAnalogEvents c.events.mCounterEvents [], f) :=
    loadVto_eq (by rw [h.vto]; exact loadVtoEvents_none _ _)
  have hsame : c.afterLoading ⟨0, 0, 0, 0⟩ c.events.mBinaryEvents c.events.mAnalogEvents
    c.events.mCounterEvents [] =
      { c with events := { c.events with mVtoEvents := [] } } := by
    simp only [afterLoading, SlaveEventBuffer.flagWritten, EventBuffer.flagWritten_zero,
      none_loaded, Bool.or_false]
  rw [loadEventData, hb, except_ok_bind]
  simp only [Bool.not_true, Bool.false_eq_true, if_false, ha, hc, hv, except_ok_bind, hsame]

/-- What is put back is nothing. -/
theorem clearWritten_none (h : c.NoneSelected) : c.clearWritten.events.mBuffer =
    c.events.mBuffer := by
  have hclear {α : Type} {kind : BufferKind α} {s : EventBuffer α} (hs : s.mSelectedEvents = []) :
      s.clearWrittenEvents.deselect kind = s := by
    rw [EventBuffer.deselect, EventBuffer.clearWrittenEvents, hs]
    obtain ⟨_, _, _, _, _, _⟩ := s
    simp_all
  rw [clearWritten, SlaveEventBuffer.clearWritten, SlaveEventBuffer.deselect]
  simp only [hclear h.binary, hclear h.analog, hclear h.counter, hclear h.vto]

/-- Where nothing is selected, there is more to say only if there are static data. -/
theorem NoneSelected.isComplete_eq {c : Full} (h : c.NoneSelected) :
    c.isComplete = c.static.isStaticEmpty := by
  obtain ⟨hb, ha, hk, hv⟩ := h
  rw [isComplete, SlaveEventBuffer.numSelected]
  simp only [EventBuffer.numSelected, hb, ha, hk, hv]
  exact Bool.and_true _

/-- **Where no event is selected, a response is one of static data.** -/
theorem loadFragments_none {write : Writer Measurement (List Byte)}
    {dbs : List (Database Measurement)} {c : Full}
    {f : OutAPDU (List Byte)} (h : c.NoneSelected) (hloaded : c.mLoadedEventData = false)
    {fs : List (OutAPDU (List Byte))} {s' : Static}
    (hstatic : Static.loadFragments write dbs f c.static = .ok (fs, s')) :
    ∃ c', loadFragments write dbs f c = .ok (fs, c') ∧ c'.static = s' ∧
      c'.events.mBuffer = c.events.mBuffer := by
  induction dbs generalizing c f fs with
  | nil =>
    cases hstatic
    exact ⟨c, rfl, rfl, rfl⟩
  | cons mpDB dbs ih =>
    obtain ⟨⟨f', s⟩, hload, hstatic⟩ := except_bind_eq_ok.mp hstatic
    obtain ⟨⟨done, m, g⟩, hdata, hfinal⟩ := except_bind_eq_ok.mp hload
    obtain ⟨rfl, rfl⟩ := Prod.mk.inj (Except.ok.inj hfinal)
    -- the context after the fragment
    obtain ⟨c₁, hc₁⟩ : ∃ c₁ : Full, c₁ = ⟨{ c.events with mVtoEvents := [] },
        { c.static with mStaticWriteMap := m, mFIN := done, mFIR := false }, false⟩ := ⟨_, rfl⟩
    have hnone₁ : c₁.NoneSelected := by
      rw [hc₁]
      exact ⟨h.binary, h.analog, h.counter, h.vto⟩
    have hresponse : c.loadResponse write mpDB f =
        .ok (g.setControl ⟨c.static.mFIR, done, !done, false, 0⟩, c₁) := by
      rw [loadResponse, loadEventData_none h, except_ok_bind]
      simp only [Bool.not_true, Bool.false_eq_true, if_false, hdata, except_ok_bind,
        finalizeResponse, hloaded, Bool.or_false, hc₁]
      rfl
    have hbuffer := clearWritten_none hnone₁
    have hclear : c₁.clearWritten.NoneSelected := by
      obtain ⟨hb, ha, hk, hv⟩ := hnone₁
      exact ⟨by rw [hbuffer]; exact hb,
        by rw [hbuffer]; exact ha, by rw [hbuffer]; exact hk, by rw [hbuffer]; exact hv⟩
    have hcomplete : c₁.clearWritten.isComplete = c₁.static.isStaticEmpty := hclear.isComplete_eq
    have hsame : c₁.events.mBuffer = c.events.mBuffer := by rw [hc₁]
    have hstatic₁ : (do
        if c₁.static.isStaticEmpty then
          return ([g.setControl ⟨c.static.mFIR, done, !done, false, 0⟩], c₁.static)
        let rest ← Static.loadFragments write dbs
          (g.setControl ⟨c.static.mFIR, done, !done, false, 0⟩) c₁.static
        return (g.setControl ⟨c.static.mFIR, done, !done, false, 0⟩ :: rest.1, rest.2)) =
          Except.ok (fs, s') := by
      rw [hc₁]
      exact hstatic
    rw [loadFragments, hresponse, except_ok_bind]
    dsimp only
    rw [hcomplete]
    by_cases hempty : c₁.static.isStaticEmpty = true
    · rw [if_pos hempty] at hstatic₁ ⊢
      obtain ⟨rfl, rfl⟩ := Prod.mk.inj (Except.ok.inj hstatic₁)
      exact ⟨c₁.clearWritten, rfl, rfl, hbuffer.trans hsame⟩
    · rw [if_neg hempty] at hstatic₁ ⊢
      obtain ⟨⟨fs', s⟩, hrest, hstatic₁⟩ := except_bind_eq_ok.mp hstatic₁
      obtain ⟨rfl, rfl⟩ := Prod.mk.inj (Except.ok.inj hstatic₁)
      obtain ⟨c', hrest', hs', hbuffer'⟩ := ih hclear (by rw [hc₁]; rfl) hrest
      exact ⟨c', by rw [hrest']; rfl, hs', hbuffer'.trans (hbuffer.trans hsame)⟩

end Full

end ResponseContext

end OpenDNP3
