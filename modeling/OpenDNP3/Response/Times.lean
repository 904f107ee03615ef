import OpenDNP3.Response.Read

/-!
# The times of binary events

An object of `Group2Var3` has the time of its event relative to the common time in front of it,
which is that of the first event of the block.  The outstation starts a new block when an event is
too late for the common time, and it does not look for events that are too early: their differences
wrap around.

* `NotEarlier` — no event is earlier than its common time.
* `ResponseContext.Full.relative_times` — exactly then do all events get to the observer with their
  times.
-/

set_option autoImplicit false

namespace OpenDNP3

open Objects (BoolDataPoint Group2Var3)

/-! ## Common times -/

section CommonTimes

variable {aType : DataTypes}

/-- No event is too late for its common time. -/
theorem follow_within {start : ℤ} {es : List (EventInfo (Measurement aType))} :
    ∀ a ∈ follow start es, getTime aType a.2.mValue - a.1 ≤ Packer.uInt16LE.max := by
  induction es generalizing start with
  | nil => exact fun _ h ↦ absurd h List.not_mem_nil
  | cons e es ih =>
    rw [follow]
    split
    · rw [List.forall_mem_cons, Int.sub_self]
      exact ⟨by decide, ih⟩
    · next h => exact List.forall_mem_cons.mpr ⟨Int.not_lt.mp h, ih⟩

theorem withCommonTimes_within (es : List (EventInfo (Measurement aType))) :
    ∀ a ∈ withCommonTimes es, getTime aType a.2.mValue - a.1 ≤ Packer.uInt16LE.max := by
  cases es with
  | nil => exact fun _ h ↦ absurd h List.not_mem_nil
  | cons e es =>
    rw [withCommonTimes_eq_follow]
    exact follow_within

/-- In the order of their times no event is earlier than its common time. -/
theorem follow_not_earlier {start : ℤ} {es : List (EventInfo (Measurement aType))}
    (hfirst : ∀ e ∈ es, start ≤ getTime aType e.mValue)
    (h : es.Pairwise fun e e' ↦ getTime aType e.mValue ≤ getTime aType e'.mValue) :
    ∀ a ∈ follow start es, a.1 ≤ getTime aType a.2.mValue := by
  induction es generalizing start with
  | nil => exact fun _ h ↦ absurd h List.not_mem_nil
  | cons e es ih =>
    rw [List.pairwise_cons] at h
    rw [List.forall_mem_cons] at hfirst
    rw [follow]
    split
    · exact List.forall_mem_cons.mpr ⟨Int.le_refl _, ih h.1 h.2⟩
    · exact List.forall_mem_cons.mpr ⟨hfirst.1, ih hfirst.2 h.2⟩

end CommonTimes

/-- No event is earlier than the common time that it is written with, request by request. -/
def NotEarlier : List EventRequest → List (EventInfo BoolDataPoint) → Prop
  | [], _ => True
  | r :: q, es => (∀ a ∈ @withCommonTimes .binary (es.take r.count), a.1 ≤ a.2.mValue.mTime) ∧
      NotEarlier q (es.drop r.count)

/-- Events that are in the order of their times. -/
theorem notEarlier_of_ordered {q : List EventRequest} {es : List (EventInfo BoolDataPoint)}
    (h : es.Pairwise fun e e' ↦ e.mValue.mTime ≤ e'.mValue.mTime) : NotEarlier q es := by
  induction q generalizing es with
  | nil => trivial
  | cons r q ih =>
    refine ⟨?_, ih (h.sublist (List.drop_sublist _ _))⟩
    have htake := h.sublist (List.take_sublist r.count es)
    revert htake
    cases es.take r.count with
    | nil => exact fun _ _ h ↦ absurd h List.not_mem_nil
    | cons e es =>
      intro htake
      rw [withCommonTimes_eq_follow]
      exact follow_not_earlier
        (List.forall_mem_cons.mpr ⟨Int.le_refl _, (List.pairwise_cons.mp htake).1⟩) htake

/-! ## What gets to the observer -/

/-- The events as they were reported at the outstation. -/
def exactly (es : List (EventInfo BoolDataPoint)) : List Published :=
  es.map fun e ↦ .update .binary e.mIndex e.mValue

/-- A relative time is restored if the event is not earlier than the common time, and not too late
for it. -/
theorem reported_eq_iff {start : ℤ} {v : BoolDataPoint}
    (h : v.mTime - start ≤ Packer.uInt16LE.max) :
    reported .binary Group2Var3 start v = v ↔ start ≤ v.mTime := by
  have hmax : Packer.uInt16LE.max = 65535 := rfl
  have htime : reported .binary Group2Var3 start v =
    ⟨v.mQuality, start + (v.mTime - start) % 65536⟩ := rfl
  obtain ⟨quality, time⟩ := v
  rw [htime, BoolDataPoint.mk.injEq]
  dsimp only at h ⊢
  rw [hmax] at h
  constructor
  · rintro ⟨-, heq⟩
    omega
  · intro hle
    exact ⟨rfl, by omega⟩

theorem publishedAs_relative (es : List (EventInfo BoolDataPoint)) :
    (@publishedAs .binary Group2Var3 (withCommonTimes es)).length = es.length ∧
      (@publishedAs .binary Group2Var3 (withCommonTimes es) = exactly es ↔
        ∀ a ∈ @withCommonTimes .binary es, a.1 ≤ a.2.mValue.mTime) := by
  have hsnd := @map_snd_withCommonTimes .binary es
  have hlen := congrArg List.length hsnd
  rw [List.length_map] at hlen
  have hexactly : exactly es = (@withCommonTimes .binary es).map
      fun a ↦ .update .binary a.2.mIndex a.2.mValue := by
    rw [exactly]
    conv_lhs => rw [← hsnd, List.map_map]
    rfl
  have hloaded : isLoaded Group2Var3 = true := by decide
  rw [publishedAs, if_pos hloaded]
  refine ⟨by rw [List.length_map, hlen], ?_⟩
  rw [hexactly, List.map_inj_left]
  refine forall₂_congr fun a ha ↦ ?_
  have hwithin : a.2.mValue.mTime - a.1 ≤ Packer.uInt16LE.max :=
    @withCommonTimes_within .binary es a ha
  rw [← reported_eq_iff hwithin]
  simp

/-- Two lists that begin alike. -/
theorem append_eq_append_iff_of_length {β : Type} {a b c d : List β} (h : a.length = c.length) :
    a ++ b = c ++ d ↔ a = c ∧ b = d :=
  ⟨fun heq ↦ List.append_inj heq h, fun heq ↦ heq.1 ▸ heq.2 ▸ rfl⟩

/-- **The events of all requests get to the observer exactly** if none is earlier than its common
time. -/
theorem publishedEvents_relative {q : List EventRequest} {es : List (EventInfo BoolDataPoint)}
    (hq : ∀ r ∈ q, r.pObj = Group2Var3.base) (hcount : es.length ≤ (q.map (·.count)).sum) :
    (@publishedEvents .binary q es).length = es.length ∧
      (@publishedEvents .binary q es = exactly es ↔ NotEarlier q es) := by
  induction q generalizing es with
  | nil =>
    obtain rfl : es = [] := List.length_eq_zero_iff.mp (Nat.le_zero.mp hcount)
    exact ⟨rfl, iff_of_true rfl trivial⟩
  | cons r q ih =>
    rw [List.forall_mem_cons] at hq
    rw [List.map_cons, List.sum_cons] at hcount
    obtain ⟨hlen, hiff⟩ := @ih (es.drop r.count) hq.2 (by rw [List.length_drop]; omega)
    obtain ⟨hlen', hiff'⟩ := publishedAs_relative (es.take r.count)
    have hclass : eventClass .binary r.pObj = some Group2Var3 := by
      rw [hq.1]
      rfl
    have hsplit : exactly es = exactly (es.take r.count) ++ exactly (es.drop r.count) := by
      rw [exactly, exactly, exactly, ← List.map_append, List.take_append_drop]
    rw [publishedEvents, hclass, Option.map_some, Option.getD_some]
    refine ⟨by rw [List.length_append, hlen, hlen', ← List.length_append, List.take_append_drop],
      ?_⟩
    rw [hsplit, append_eq_append_iff_of_length (by rw [hlen', exactly, List.length_map]), hiff,
      hiff', NotEarlier]

/-! ## A read -/

namespace ResponseContext.Full

variable {mpDB : Database Measurement} {c : Full} {f : OutAPDU (List Byte)}

/-- **When the times of relative events are exact.**  Whatever a read selects, the master publishes
the first of the binary events, as many as there is room for, and if they have been requested as
`Group2Var3` then they are published with their indices, their values and their times exactly when
none of them is earlier than the common time that it is written with.  It is enough that they have
been selected in the order of their times. -/
theorem relative_times (readFloat : ℕ → List Byte → ℚ) (writeFloat : Writer Measurement (List Byte))
    {arRequest : APDU} {c₀ : Full} (hconfigure : c₀.configure mpDB arRequest = .ok c)
    (hholds : SlaveEventBuffer.Holds mpDB.numType c₀.events.mBuffer)
    (htypes : c₀.events.mpRspTypes.Known)
    (hinteger : ∀ a ∈ asked c₀.static.mpRspTypes arRequest, IsInteger a.2)
    (hmax : ∀ aType, mpDB.numType aType ≤ 2 ^ 32)
    (hroom : ∀ a ∈ asked c₀.static.mpRspTypes arRequest,
      ∀ r ∈ readRange mpDB.numType arRequest a.1 a.2.1, 0 < r.2 →
      4 + (contiguousHeader (r.1 + r.2 - 1)).getSize + a.2.2.size ≤ f.mMaxSize)
    (hrelative : ∀ r ∈ c.events.mBinaryEvents, r.pObj = Group2Var3.base) :
    ∃ n g c' apdu events rest, c.loadResponse (measurementWriter writeFloat) mpDB f = .ok (g, c') ∧
      n ≤ c.events.mBuffer.mBinaryEvents.mSelectedEvents.length ∧
      c'.clearWritten.events.mBuffer.mBinaryEvents =
        (c.events.mBuffer.mBinaryEvents.dropWritten n).deselect (.timeOrdered (getTime .binary)) ∧
      APDU.interpret g.octets = .ok apdu ∧ readData readFloat apdu = .ok (events ++ rest) ∧
        events.length = n ∧
      (events = exactly (c.events.mBuffer.mBinaryEvents.mSelectedEvents.take n) ↔
        NotEarlier c.events.mBinaryEvents (c.events.mBuffer.mBinaryEvents.mSelectedEvents.take n)) ∧
      ((c.events.mBuffer.mBinaryEvents.mSelectedEvents.take n).Pairwise
          (fun e e' ↦ e.mValue.mTime ≤ e'.mValue.mTime) →
        events = exactly (c.events.mBuffer.mBinaryEvents.mSelectedEvents.take n)) := by
  rw [configure] at hconfigure
  obtain ⟨events, hevents, hconfigure⟩ := except_bind_eq_ok.mp hconfigure
  obtain rfl := Except.ok.inj hconfigure
  have hready : events.Ready mpDB.numType := (ready_deselect hholds htypes).configureAll hevents
  obtain ⟨hpoints, -, hwritable⟩ := Static.configure_notes hmax hroom
  obtain ⟨n, written, g, c', hload, -, hfirst⟩ := @loadResponse_spec mpDB
    ⟨events, c₀.static.configure mpDB arRequest, false⟩ f readFloat writeFloat mpDB.numType
      (fun _ ↦ rfl) hmax hready rfl
    hwritable
  have hwritten : ∀ a ∈ written, IsInteger a.1 := fun a ha ↦
    isInteger_requested hinteger a (hpoints ▸ hfirst.points ▸ List.mem_append_left _ ha)
  obtain ⟨apdu, pubs, hinterpret, -, -, hdata, -⟩ := (hfirst.reports hwritten).published
  have hcount := Nat.le_trans hfirst.first.binary hready.binary.covers.count
  obtain ⟨hlen, hiff⟩ := @publishedEvents_relative events.mBinaryEvents
    (events.mBuffer.mBinaryEvents.mSelectedEvents.take n.binary) hrelative
    (Nat.le_trans (List.length_take_le _ _) hcount)
  rw [ResponseContext.Events.published, List.append_assoc] at hdata
  refine ⟨n.binary, g, c', apdu, _, _, hload, hfirst.first.binary, ?_, hinterpret, hdata, ?_, hiff,
    fun hordered ↦ hiff.mpr (notEarlier_of_ordered hordered)⟩
  · rw [hfirst.buffer]
    rfl
  · rw [hlen, List.length_take]
    exact Nat.min_eq_left hfirst.first.binary

theorem relative_times_class1 :
    ∃ c, readContext.configure readDatabase classRead = .ok c ∧
    ∃ n g c' apdu events rest, c.loadResponse (measurementWriter fun _ _ _ ↦ []) readDatabase
      (.new 34) = .ok (g, c') ∧
      n ≤ c.events.mBuffer.mBinaryEvents.mSelectedEvents.length ∧
      c'.clearWritten.events.mBuffer.mBinaryEvents =
        (c.events.mBuffer.mBinaryEvents.dropWritten n).deselect (.timeOrdered (getTime .binary)) ∧
      APDU.interpret g.octets = .ok apdu ∧ readData (fun _ _ ↦ 0) apdu = .ok (events ++ rest) ∧
        events.length = n ∧
      (events = exactly (c.events.mBuffer.mBinaryEvents.mSelectedEvents.take n) ↔
        NotEarlier c.events.mBinaryEvents (c.events.mBuffer.mBinaryEvents.mSelectedEvents.take n)) ∧
      ((c.events.mBuffer.mBinaryEvents.mSelectedEvents.take n).Pairwise
          (fun e e' ↦ e.mValue.mTime ≤ e'.mValue.mTime) →
        events = exactly (c.events.mBuffer.mBinaryEvents.mSelectedEvents.take n)) := by
  obtain ⟨c, hconfigure, hrelative⟩ := configure_readContext
  refine ⟨c, hconfigure, ?_⟩
  exact @relative_times readDatabase c (.new 34) (fun _ _ ↦ 0)
    (fun _ _ _ ↦ []) classRead readContext hconfigure
    holds_readContext ⟨by decide, by decide, by decide, by decide⟩ (by decide)
    (fun aType ↦ Nat.le_trans (numType_readDatabase aType) (by decide)) (by decide) hrelative

end ResponseContext.Full

end OpenDNP3
