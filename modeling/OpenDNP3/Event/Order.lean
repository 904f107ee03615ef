import OpenDNP3.Event.Counts

/-!
# The order of events

A buffer numbers its events in the order in which they come in.  This file keeps a record of them
beside the buffer (`Logged`), from the last time that the buffer was empty, and says in which order
`Select` takes them out.

* `EventBuffer.Recorded` — what is held is in the record, in the order of the sequence numbers.
* `EventBuffer.selects_in_time_order` — **the buffer that is ordered by time**: events of the same
  time keep the order in which they came in, as long as no `Deselect` puts an event behind a newer
  one of its time (`PutsBackInOrder`).
* `EventBuffer.lossless_fifo` — **the buffer that is ordered by insertion**: it takes in every
  event, and only the overflow and `ClearWrittenEvents` take one away.
-/

set_option autoImplicit false

namespace OpenDNP3

open OrderedSet

/-! ## The record

The events that have come in, in this order, with the sequence numbers that they were given. -/

/-- A buffer, with the events that have come in since it was last empty, in this order. -/
structure Logged (α : Type) where
  buffer : EventBuffer α
  arrived : List (EventInfo α)

namespace EventBuffer

variable {α : Type} {kind : BufferKind α}

/-- The record after an operation. -/
def record (s : EventBuffer α) (arrived : List (EventInfo α)) : BufferOp α → List (EventInfo α)
  | .update v c i => (if s.size = 0 then [] else arrived) ++ [s.newEvent v c i]
  | .select _ _ | .deselect | .clearWrittenEvents | .markWritten _ | .isOverflown => arrived

end EventBuffer

namespace Logged

variable {α : Type} (kind : BufferKind α)

/-- An empty buffer. -/
def new (aMaxEvents : ℕ) : Logged α := ⟨.new aMaxEvents, []⟩

/-- One operation, and the record of it. -/
def step (s : Logged α) (op : BufferOp α) : Option (Logged α) :=
  (s.buffer.step kind op).map fun t ↦ ⟨t, s.buffer.record s.arrived op⟩

variable {kind}

theorem step_eq_some {s t : Logged α} {op : BufferOp α} : s.step kind op = some t ↔
    s.buffer.step kind op = some t.buffer ∧ t.arrived = s.buffer.record s.arrived op := by
  rw [step, Option.map_eq_some_iff]
  constructor
  · rintro ⟨u, hu, rfl⟩
    exact ⟨hu, rfl⟩
  · rintro ⟨hu, ha⟩
    exact ⟨t.buffer, hu, by rw [← ha]⟩

end Logged

namespace EventBuffer

variable {α : Type} {kind : BufferKind α} {s t : EventBuffer α}

/-- **What an operation holds on to**: events that were held before, and for an update the new
one. -/
theorem held_step {op : BufferOp α} (hs : Sequenced kind s) (h : s.step kind op = some t) :
    (∃ v c i, op = .update v c i ∧ t.mSequence = s.nextSequence + 1 ∧
      ∀ x ∈ t.held, x = s.newEvent v c i ∨ x ∈ s.held) ∨
    (∀ arrived, s.record arrived op = arrived) ∧ t.mSequence = s.mSequence ∧
      ∀ x ∈ t.held, ∃ y ∈ s.held, unwritten y = unwritten x := by
  have hsame {l : List (EventInfo α)} (hl : ∀ x ∈ l, x ∈ s.held) :
      ∀ x ∈ l, ∃ y ∈ s.held, unwritten y = unwritten x := fun x hx ↦ ⟨x, hl x hx, rfl⟩
  have hnew {u : EventBuffer α} {v : α} {c : PointClass} {i : ℕ}
      (hu : Updates kind s.numbered (s.newEvent v c i) u) :
      u.mSequence = s.nextSequence + 1 ∧ ∀ x ∈ u.held, x = s.newEvent v c i ∨ x ∈ s.held := by
    obtain ⟨hseq, hsel, hset⟩ := (hs.takes_new hu).frame
    refine ⟨hseq, fun x hx ↦ ?_⟩
    rcases List.mem_append.mp hx with hx | hx
    · rw [hsel] at hx
      exact .inr (List.mem_append_left _ hx)
    · rcases List.mem_cons.mp (hset.subset hx) with rfl | hx
      · exact .inl rfl
      · exact .inr (List.mem_append_right _ hx)
  cases performs_of_step hs.valid h with
  | @updates v c i t hu _ _ => exact .inl ⟨v, c, i, rfl, hnew hu⟩
  | @overflows v c i u e rest n hu _ _ hset _ =>
    obtain ⟨hseq, hheld⟩ := hnew hu
    refine .inl ⟨v, c, i, rfl, hseq, fun x hx ↦ hheld x ?_⟩
    rw [held, hset]
    exact ((List.sublist_cons_self e rest).append_left _).subset hx
  | @selects c k picked kept n hp _ _ _ _ _ =>
    refine .inr ⟨fun _ ↦ rfl, rfl, fun x hx ↦ ?_⟩
    rcases List.mem_append.mp hx with hx | hx
    · rcases List.mem_append.mp hx with hx | hx
      · exact ⟨x, List.mem_append_left _ hx, rfl⟩
      · obtain ⟨y, hy, rfl⟩ := List.mem_map.mp hx
        exact ⟨y, List.mem_append_right _ (hp.mem_iff.mpr (List.mem_append_left _ hy)), rfl⟩
    · exact ⟨x, List.mem_append_right _ (hp.mem_iff.mpr (List.mem_append_right _ hx)), rfl⟩
  | deselects =>
    have hstep : ∀ (e : EventInfo α) l (u : EventBuffer α), Returning kind s (e :: l) u →
        (∀ x ∈ (e :: l) ++ u.mEventSet, x ∈ s.held) →
          ∀ x ∈ l ++ (u.updateOld kind e).mEventSet, x ∈ s.held := by
      intro e l u hu hsub x hx
      have hset := hu.takes.frame.2.2.subset
      refine hsub x ?_
      rcases List.mem_append.mp hx with hx | hx
      · exact List.mem_append_left _ (List.mem_cons_of_mem e hx)
      · rcases List.mem_cons.mp (hset hx) with rfl | hx
        · exact List.mem_append_left _ List.mem_cons_self
        · exact List.mem_append_right _ hx
    obtain ⟨u, hu, hsub, heq⟩ := deselect_rule (P := fun l u ↦ ∀ x ∈ l ++ u.mEventSet, x ∈ s.held)
      hs hstep fun _ hx ↦ hx
    rw [heq]
    exact .inr ⟨fun _ ↦ rfl, hu.sequence, hsame hsub⟩
  | clears =>
    refine .inr ⟨fun _ ↦ rfl, rfl, hsame fun x hx ↦ ?_⟩
    exact ((List.dropWhile_sublist _).append_right _).subset hx
  | @marks i =>
    refine .inr ⟨fun _ ↦ rfl, rfl, fun x hx ↦ ?_⟩
    have hmap : (s.markWritten i).held.map unwritten = s.held.map unwritten := by
      rw [held, List.map_append, map_markWritten s i fun _ ↦ rfl, ← List.map_append]
      rfl
    have hmem := List.mem_map_of_mem (f := unwritten) hx
    rw [hmap] at hmem
    exact List.mem_map.mp hmem
  | asks =>
    rw [isOverflown]
    dsimp only
    split <;> exact .inr ⟨fun _ ↦ rfl, rfl, hsame fun _ hx ↦ hx⟩

/-- **What is held is in the record**, which is in the order of the sequence numbers. -/
structure Recorded (kind : BufferKind α) (s : Logged α) : Prop where
  sequenced : Sequenced kind s.buffer
  increasing : s.arrived.Pairwise fun x y ↦ x.mSequence < y.mSequence
  below : s.buffer.size ≠ 0 → ∀ x ∈ s.arrived, x.mSequence < s.buffer.mSequence
  mem : ∀ x ∈ s.buffer.held, unwritten x ∈ s.arrived

theorem size_ne_zero {x : EventInfo α} (hx : x ∈ s.held) : s.size ≠ 0 := by
  have hpos := List.length_pos_of_mem hx
  rw [held, List.length_append] at hpos
  exact Nat.ne_of_gt hpos

theorem exists_held (h : s.size ≠ 0) : ∃ x, x ∈ s.held := by
  refine List.exists_mem_of_length_pos ?_
  rw [held, List.length_append]
  exact Nat.pos_of_ne_zero h

theorem recorded_new (aMaxEvents : ℕ) : Recorded kind (Logged.new aMaxEvents) :=
  ⟨sequenced_new aMaxEvents, .nil, fun h ↦ absurd rfl h, fun _ hx ↦ absurd hx List.not_mem_nil⟩

/-- **One operation** keeps the record. -/
theorem recorded_step {s t : Logged α} {op : BufferOp α} (hs : Recorded kind s)
    (h : s.step kind op = some t) : Recorded kind t := by
  obtain ⟨hb, ha⟩ := Logged.step_eq_some.mp h
  have hseq := sequenced_step hs.sequenced hb
  rcases held_step hs.sequenced hb with ⟨v, c, i, rfl, hnext, hheld⟩ | ⟨hrecord, hnext, hheld⟩
  · have ha : t.arrived = (if s.buffer.size = 0 then [] else s.arrived) ++
      [s.buffer.newEvent v c i] := ha
    by_cases hsize : s.buffer.size = 0
    · rw [if_pos hsize, List.nil_append] at ha
      refine ⟨hseq, ha ▸ List.pairwise_singleton _ _, ?_, ?_⟩
      · intro _ x hx
        rw [ha, List.mem_singleton] at hx
        rw [hx, hnext]
        exact Nat.lt_succ_self _
      · intro x hx
        rw [ha]
        rcases hheld x hx with rfl | hx
        · exact List.mem_singleton.mpr rfl
        · exact absurd hsize (size_ne_zero hx)
    · rw [if_neg hsize] at ha
      have hbelow : ∀ x ∈ s.arrived, x.mSequence < s.buffer.nextSequence := by
        rw [nextSequence, if_neg hsize]
        exact hs.below hsize
      refine ⟨hseq, ?_, ?_, ?_⟩
      · rw [ha, List.pairwise_append]
        refine ⟨hs.increasing, List.pairwise_singleton _ _, fun x hx y hy ↦ ?_⟩
        rw [List.mem_singleton.mp hy]
        exact hbelow x hx
      · intro _ x hx
        rw [hnext]
        rw [ha] at hx
        rcases List.mem_append.mp hx with hx | hx
        · exact Nat.lt_succ_of_lt (hbelow x hx)
        · rw [List.mem_singleton.mp hx]
          exact Nat.lt_succ_self _
      · intro x hx
        rw [ha]
        rcases hheld x hx with rfl | hx
        · exact List.mem_append_right _ (List.mem_singleton.mpr rfl)
        · exact List.mem_append_left _ (hs.mem x hx)
  · rw [hrecord] at ha
    refine ⟨hseq, ha ▸ hs.increasing, ?_, ?_⟩
    · intro hsize x hx
      obtain ⟨y, hy⟩ := exists_held hsize
      obtain ⟨z, hz, -⟩ := hheld y hy
      rw [ha] at hx
      rw [hnext]
      exact hs.below (size_ne_zero hz) x hx
    · intro x hx
      obtain ⟨y, hy, hxy⟩ := hheld x hx
      rw [ha, ← hxy]
      exact hs.mem y hy

/-- **Held events in the order of their numbers stand in this order in the record.** -/
theorem Recorded.sublist {s : Logged α} (hs : Recorded kind s) {l : List (EventInfo α)}
    (hl : l.Pairwise fun x y ↦ x.mSequence < y.mSequence) (hmem : ∀ x ∈ l, x ∈ s.buffer.held) :
    (l.map unwritten).Sublist s.arrived := by
  have hpair : (l.map unwritten).Pairwise fun x y ↦ x.mSequence < y.mSequence :=
    List.pairwise_map.mpr hl
  have hnodup : (l.map unwritten).Nodup := by
    refine hpair.imp ?_
    rintro x y hlt rfl
    exact Nat.lt_irrefl _ hlt
  have hsub : l.map unwritten ⊆ s.arrived := by
    intro x hx
    obtain ⟨y, hy, rfl⟩ := List.mem_map.mp hx
    exact hs.mem y (hmem y hy)
  have : Std.Antisymm fun x y : EventInfo α ↦ x.mSequence < y.mSequence :=
    ⟨fun _ _ hxy hyx ↦ absurd hyx (Nat.lt_asymm hxy)⟩
  exact List.sublist_of_subperm_of_pairwise (List.subperm_of_subset hnodup hsub) hpair hs.increasing

/-- Only a buffer with one event for each index puts an event in the place of another. -/
theorem sameClass_of_ne_single (hkind : ∀ getTime, kind ≠ .single getTime) (s : EventBuffer α)
    (op : BufferOp α) : SameClass kind s op := by
  have hone : ∀ (s : EventBuffer α) e, KeepsClass kind s e := by
    intro s e
    cases kind with
    | single getTime => exact absurd rfl (hkind getTime)
    | timeOrdered _ => trivial
    | insertionOrdered => trivial
  have hall : ∀ (l : List (EventInfo α)) (s : EventBuffer α), KeepsClasses kind s l := by
    intro l
    induction l with
    | nil => exact fun _ ↦ trivial
    | cons e l ih => exact fun s ↦ ⟨hone s e, ih _⟩
  cases op with
  | update v c i => exact hone s _
  | deselect => exact hall _ s
  | _ => trivial

/-- What `Select` is to pick: the first events of the class, as many as are allowed. -/
def matching (s : EventBuffer α) (aClass : PointClass) (aMaxEvent : ℕ) : List (EventInfo α) :=
  (s.mEventSet.filter (·.mClass &&& aClass ≠ 0)).take aMaxEvent

theorem matching_sublist (s : EventBuffer α) (aClass : PointClass) (aMaxEvent : ℕ) :
    (s.matching aClass aMaxEvent).Sublist s.mEventSet :=
  (List.take_sublist _ _).trans List.filter_sublist

/-- **`Select` picks these**, and appends them to what is selected. -/
theorem select_matching (hs : Exact kind s) (c : PointClass) (k : ℕ) :
    ∃ t, s.step kind (.select c k) = some t ∧
      t.mSelectedEvents = s.mSelectedEvents ++ (s.matching c k).map unwritten ∧
      s.mEventSet.Perm (s.matching c k ++ t.mEventSet) ∧ t.mEventSet.Sublist s.mEventSet := by
  have hcounts : s.mCounter.Counts ([] ++ s.mEventSet) := hs.counts
  obtain ⟨⟨n, selected, kept⟩, hloop⟩ := selectLoop_ok (k := k) hcounts
  obtain ⟨picked, rfl, hp, rfl, -, hkept, -⟩ := selectLoop_spec hloop
  refine ⟨{ s with
    mCounter := n
    mSelectedEvents := s.mSelectedEvents ++ (s.matching c k).map unwritten
    mEventSet := kept }, ?_, rfl, hp, hkept⟩
  rw [step, perform, select, hloop]
  rfl

/-! ## By time

A set that is sorted by time has the events of one time in the order in which they were inserted,
which need not be the order in which they came in. -/

section Time

variable (getTime : α → Int)

/-- Earlier in time, or of the same time and earlier in the order in which events came in. -/
def Precedes (a b : EventInfo α) : Prop :=
  getTime a.mValue < getTime b.mValue ∨
    getTime a.mValue = getTime b.mValue ∧ a.mSequence < b.mSequence

/-- If they are of the same time, the first came in first. -/
def CameFirst (a b : EventInfo α) : Prop :=
  getTime a.mValue = getTime b.mValue → a.mSequence < b.mSequence

instance : DecidableRel (CameFirst getTime : EventInfo α → EventInfo α → Prop) :=
  fun _ _ ↦ inferInstanceAs (Decidable (_ → _))

/-- **The condition**: of the events of one time, those that `Deselect` puts back came in after
those that are not selected, and they were selected in the order in which they came in. -/
def PutsBackInOrder (s : EventBuffer α) : BufferOp α → Prop
  | .deselect => (s.mEventSet ++ s.mSelectedEvents).Pairwise (CameFirst getTime)
  | .update _ _ _ | .select _ _ | .clearWrittenEvents | .markWritten _ | .isOverflown => True

instance (s : EventBuffer α) (op : BufferOp α) : Decidable (PutsBackInOrder getTime s op) :=
  match op with
  | .deselect => inferInstanceAs (Decidable (List.Pairwise _ _))
  | .update _ _ _ | .select _ _ | .clearWrittenEvents | .markWritten _ | .isOverflown =>
    inferInstanceAs (Decidable True)

variable {getTime}

theorem Precedes.cameFirst {a b : EventInfo α} (h : Precedes getTime a b) :
    CameFirst getTime a b := by
  rcases h with hlt | ⟨-, hseq⟩
  · intro heq
    exact absurd heq (Int.ne_of_lt hlt)
  · exact fun _ ↦ hseq

/-- What comes before an event in time comes before all that follow it. -/
theorem lessThan_mono {l : List (EventInfo α)} (hl : l.Pairwise (Precedes getTime))
    (e : EventInfo α) :
    l.Pairwise fun x y ↦ (BufferKind.timeOrdered getTime).lessThan e x = true →
      (BufferKind.timeOrdered getTime).lessThan e y = true := by
  refine hl.imp fun hxy hx ↦ ?_
  have hx : getTime e.mValue < getTime _ := of_decide_eq_true hx
  refine decide_eq_true ?_
  rcases hxy with hlt | ⟨heq, -⟩
  · exact Int.lt_trans hx hlt
  · exact heq ▸ hx

/-- **An event that is put into the set stands in order** exactly when it came in after those of its
time. -/
theorem pairwise_insert_iff {l : List (EventInfo α)} (hl : l.Pairwise (Precedes getTime))
    (e : EventInfo α) :
    ((BufferKind.timeOrdered getTime).insert e l).Pairwise (Precedes getTime) ↔
      ∀ x ∈ l, CameFirst getTime x e := by
  constructor
  · intro h x hx heq
    have hbehind : (BufferKind.timeOrdered getTime).lessThan e x = false :=
      decide_eq_false (by rw [heq]; exact Int.lt_irrefl _)
    exact (rel_of_pairwise_insertMulti h (lessThan_mono hl e) hx hbehind).cameFirst heq
  · intro h
    refine pairwise_insertMulti hl ?_ ?_ (lessThan_mono hl e)
    · intro x _ hlt
      exact .inl (of_decide_eq_true hlt)
    · intro x hx hlt
      have hle : ¬getTime e.mValue < getTime x.mValue := of_decide_eq_false hlt
      rcases Int.lt_or_eq_of_le (Int.not_lt.mp hle) with hlt | heq
      · exact .inl hlt
      · exact .inr ⟨heq, h x hx heq⟩

theorem mem_insert_timeOrdered {e x : EventInfo α} {l : List (EventInfo α)} :
    x ∈ (BufferKind.timeOrdered getTime).insert e l ↔ x = e ∨ x ∈ l := mem_insertMulti

theorem sublist_foldl_updateOld (l : List (EventInfo α)) (u : EventBuffer α) :
    u.mEventSet.Sublist (l.foldl (updateOld (.timeOrdered getTime)) u).mEventSet := by
  induction l generalizing u with
  | nil => exact .refl _
  | cons e l ih =>
    exact (sublist_insertMulti e u.mEventSet).trans (ih (u.updateOld (.timeOrdered getTime) e))

/-- **`Deselect` leaves the set in order exactly when the condition holds.** -/
theorem foldl_updateOld_iff {l : List (EventInfo α)} {u : EventBuffer α}
    (hu : u.mEventSet.Pairwise (Precedes getTime)) :
    (l.foldl (updateOld (.timeOrdered getTime)) u).mEventSet.Pairwise (Precedes getTime) ↔
      (u.mEventSet ++ l).Pairwise (CameFirst getTime) := by
  induction l generalizing u with
  | nil =>
    rw [List.append_nil]
    exact ⟨fun _ ↦ hu.imp Precedes.cameFirst, fun _ ↦ hu⟩
  | cons e l ih =>
    have hset : (u.updateOld (.timeOrdered getTime) e).mEventSet =
        (BufferKind.timeOrdered getTime).insert e u.mEventSet := rfl
    -- both say: `e` stands in order, and so do the events behind it
    have hsplit : (u.mEventSet ++ e :: l).Pairwise (CameFirst getTime) ↔
        (∀ x ∈ u.mEventSet, CameFirst getTime x e) ∧
          ((∀ x, x = e ∨ x ∈ u.mEventSet → ∀ y ∈ l, CameFirst getTime x y) ∧
            l.Pairwise (CameFirst getTime)) := by
      have hfirst : u.mEventSet.Pairwise (CameFirst getTime) := hu.imp Precedes.cameFirst
      simp only [List.pairwise_append, List.pairwise_cons, List.forall_mem_cons, forall_eq_or_imp]
      constructor
      · rintro ⟨-, ⟨he, hl⟩, hx⟩
        exact ⟨fun x hu ↦ (hx x hu).1, ⟨he, fun x hu ↦ (hx x hu).2⟩, hl⟩
      · rintro ⟨hxe, ⟨he, hxl⟩, hl⟩
        exact ⟨hfirst, ⟨he, hl⟩, fun x hu ↦ ⟨hxe x hu, hxl x hu⟩⟩
    rw [List.foldl_cons, hsplit]
    constructor
    · intro h
      have hin := h.sublist (sublist_foldl_updateOld l _)
      have hrest := (ih hin).mp h
      refine ⟨(pairwise_insert_iff hu e).mp hin, ?_⟩
      rw [hset, List.pairwise_append] at hrest
      exact ⟨fun x hx ↦ hrest.2.2 x (mem_insert_timeOrdered.mpr hx), hrest.2.1⟩
    · rintro ⟨hin, hrest, hl⟩
      have hin := (pairwise_insert_iff hu e).mpr hin
      refine (ih hin).mpr ?_
      rw [hset, List.pairwise_append]
      have hfirst : ((BufferKind.timeOrdered getTime).insert e u.mEventSet).Pairwise
          (CameFirst getTime) := hin.imp Precedes.cameFirst
      exact ⟨hfirst, hl, fun x hx ↦ hrest x (mem_insert_timeOrdered.mp hx)⟩

/-- **Order by time**, with the record beside it. -/
structure OrderedByTime (getTime : α → Int) (s : Logged α) : Prop where
  recorded : Recorded (.timeOrdered getTime) s
  exact : Exact (.timeOrdered getTime) s.buffer
  ordered : s.buffer.mEventSet.Pairwise (Precedes getTime)

/-- **One operation** keeps the order. -/
theorem orderedByTime_step {s t : Logged α} {op : BufferOp α} (hs : OrderedByTime getTime s)
    (hg : PutsBackInOrder getTime s.buffer op) (h : s.step (.timeOrdered getTime) op = some t) :
    OrderedByTime getTime t := by
  obtain ⟨hb, -⟩ := Logged.step_eq_some.mp h
  refine ⟨recorded_step hs.recorded h,
    exact_step hs.exact (sameClass_of_ne_single (by simp) _ _) hb, ?_⟩
  have hset := performs_of_step hs.exact.sequenced.valid hb
  cases op with
  | update v c i =>
    have hnew : ((BufferKind.timeOrdered getTime).insert (s.buffer.newEvent v c i)
        s.buffer.mEventSet).Pairwise (Precedes getTime) := by
      refine (pairwise_insert_iff hs.ordered _).mpr fun x hx _ ↦ ?_
      exact hs.exact.sequenced.below_next x (List.mem_append_right _ hx)
    rcases dropOverflow_spec (dropOverflow_of_step hb) with ⟨-, heq⟩ |
      ⟨-, e, rest, n, hrest, -, heq⟩
    · rw [heq]
      exact hnew
    · rw [heq]
      have hnew : (e :: rest).Pairwise (Precedes getTime) := hrest ▸ hnew
      exact (List.pairwise_cons.mp hnew).2
  | select c k =>
    obtain ⟨u, hu, -, -, hsub⟩ := select_matching hs.exact c k
    rw [Option.some.inj (hb.symm.trans hu)]
    exact hs.ordered.sublist hsub
  | deselect =>
    rw [← Option.some.inj hb]
    exact (foldl_updateOld_iff hs.ordered).mpr hg
  | clearWrittenEvents =>
    rw [← Option.some.inj hb]
    exact hs.ordered
  | markWritten i =>
    rw [← Option.some.inj hb]
    exact hs.ordered
  | isOverflown =>
    rw [← Option.some.inj hb]
    exact isOverflown_mEventSet (s := s.buffer) ▸ hs.ordered

theorem exact_new (kind : BufferKind α) (aMaxEvents : ℕ) : Exact kind (new aMaxEvents) := by
  refine ⟨sequenced_new aMaxEvents, fun c hc ↦ ?_⟩
  rcases hc with rfl | rfl | rfl <;> rfl

/-- **The buffer that is ordered by time reports in this order**, in every run in which `Deselect`
puts events back only behind those of the same time that came in before: `Select` appends the first
unselected events of the class, as many as are allowed; the earlier ones come first, and of two of
the same time the one that came in first. -/
theorem selects_in_time_order (getTime : α → Int) {aMaxEvents : ℕ} {ops : List (BufferOp α)}
    {s : Logged α}
    (hguard : Run.Guarded (Logged.step (.timeOrdered getTime))
      (fun s op ↦ PutsBackInOrder getTime s.buffer op) (Logged.new aMaxEvents) ops)
    (hrun : Run.run (Logged.step (.timeOrdered getTime)) (Logged.new aMaxEvents) ops = some s)
    (c : PointClass) (k : ℕ) :
    ∃ t, s.buffer.step (.timeOrdered getTime) (.select c k) = some t ∧
      t.mSelectedEvents = s.buffer.mSelectedEvents ++ (s.buffer.matching c k).map unwritten ∧
      s.buffer.mEventSet.Perm (s.buffer.matching c k ++ t.mEventSet) ∧
      (s.buffer.matching c k).Pairwise fun a b ↦ getTime a.mValue < getTime b.mValue ∨
        getTime a.mValue = getTime b.mValue ∧ [unwritten a, unwritten b].Sublist s.arrived := by
  have hs : OrderedByTime getTime s := by
    refine Run.inv_of_guarded (fun s op t hs hg h ↦ orderedByTime_step hs hg h) ?_ hguard hrun
    exact ⟨recorded_new aMaxEvents, exact_new _ aMaxEvents, .nil⟩
  obtain ⟨t, ht, hsel, hp, -⟩ := select_matching hs.exact c k
  refine ⟨t, ht, hsel, hp, ?_⟩
  refine (hs.ordered.sublist (s.buffer.matching_sublist c k)).imp_of_mem fun {a b} ha hb hab ↦ ?_
  rcases hab with hlt | ⟨heq, hseq⟩
  · exact .inl hlt
  · refine .inr ⟨heq, hs.recorded.sublist (l := [a, b]) (List.pairwise_pair.mpr hseq) fun x hx ↦ ?_⟩
    have hheld : ∀ y ∈ s.buffer.matching c k, y ∈ s.buffer.held := fun y hy ↦
      List.mem_append_right _ ((s.buffer.matching_sublist c k).subset hy)
    rcases List.mem_cons.mp hx with rfl | hx
    · exact hheld x ha
    · rw [List.mem_singleton.mp hx]
      exact hheld b hb

/-- Three events, two of the same time; a report of all of them fails before the next one comes
in. -/
def reportFails : List (BufferOp Int) :=
  [.update 1 .class1 0, .update 1 .class1 1, .update 2 .class1 0, .select .class1 3, .deselect,
    .update 2 .class1 1]

theorem selects_in_time_order_reportFails : ∃ s : Logged Int,
    Run.run (Logged.step (.timeOrdered id)) (Logged.new 5) reportFails = some s ∧
    ∃ t, s.buffer.step (.timeOrdered id) (.select .class1 5) = some t ∧
      t.mSelectedEvents = s.buffer.mSelectedEvents ++ (s.buffer.matching .class1 5).map unwritten ∧
      s.buffer.mEventSet.Perm (s.buffer.matching .class1 5 ++ t.mEventSet) ∧
      (s.buffer.matching .class1 5).Pairwise fun a b ↦ id a.mValue < id b.mValue ∨
        id a.mValue = id b.mValue ∧ [unwritten a, unwritten b].Sublist s.arrived := by
  obtain ⟨s, hrun⟩ : ∃ s : Logged Int,
      Run.run (Logged.step (.timeOrdered id)) (Logged.new 5) reportFails = some s :=
    Option.isSome_iff_exists.mp (by decide +kernel)
  exact ⟨s, hrun, selects_in_time_order id (by decide +kernel) hrun .class1 5⟩

/-- **An old event behind a newer one of its time**: the report of the event of the point 0 fails
while that of the point 1 comes in at the same time, and the next report has them the other way
round. -/
theorem selects_out_of_order : ∃ s : Logged Int,
    Run.run (Logged.step (.timeOrdered id)) (Logged.new 5)
      [.update 1 .class1 0, .select .class1 5, .update 1 .class1 1, .deselect] = some s ∧
    s.arrived.map (·.mIndex) = [0, 1] ∧ s.arrived.map (·.mValue) = [1, 1] ∧
    ∃ t, s.buffer.step (.timeOrdered id) (.select .class1 5) = some t ∧
      t.mSelectedEvents.map (·.mIndex) = [1, 0] ∧ t.mSelectedEvents.map (·.mValue) = [1, 1] :=
  ⟨_, rfl, rfl, rfl, _, rfl, rfl, rfl⟩

end Time

/-! ## By insertion

The comparison of these sets is the sequence number, so the set is in the order of the numbers
whatever is done. -/

/-- **What becomes of the events of a FIFO**: an update puts the new one at the end, and takes the
first away when there are too many; `ClearWrittenEvents` takes away the written ones at the front of
those that are selected; nothing else takes one away. -/
def Retains (s : EventBuffer α) (op : BufferOp α) (t : EventBuffer α) : Prop :=
  match op with
  | .update v c i => t.mSelectedEvents = s.mSelectedEvents ∧
      t.mEventSet = if s.numUnselected < s.mMaxEvents then s.mEventSet ++ [s.newEvent v c i]
        else (s.mEventSet ++ [s.newEvent v c i]).tail
  | .select c k => t.mSelectedEvents = s.mSelectedEvents ++ (s.matching c k).map unwritten ∧
      s.mEventSet.Perm (s.matching c k ++ t.mEventSet)
  | .deselect => t.mSelectedEvents = [] ∧ t.mEventSet.Perm s.held
  | .clearWrittenEvents => t.mEventSet = s.mEventSet ∧
      ∃ written, s.mSelectedEvents = written ++ t.mSelectedEvents ∧ ∀ e ∈ written, e.mWritten = true
  | .markWritten _ => t.mEventSet = s.mEventSet ∧
      t.mSelectedEvents.map unwritten = s.mSelectedEvents.map unwritten
  | .isOverflown => t.mEventSet = s.mEventSet ∧ t.mSelectedEvents = s.mSelectedEvents

/-- An event that is put into the set leaves it in the order of the sequence numbers. -/
theorem pairwise_insert_sequence {l : List (EventInfo α)}
    (hl : l.Pairwise fun x y ↦ x.mSequence < y.mSequence) (e : EventInfo α) :
    (BufferKind.insertionOrdered.insert e l).Pairwise fun x y ↦ x.mSequence < y.mSequence := by
  show (insertUnique (BufferKind.insertionOrdered : BufferKind α).lessThan e l).Pairwise _
  cases hany : l.any (same (BufferKind.insertionOrdered : BufferKind α).lessThan e) with
  | true =>
    rw [insertUnique_of_any hany]
    exact hl
  | false =>
    rw [insertUnique, hany]
    refine pairwise_insertMulti hl (fun x _ hlt ↦ of_decide_eq_true hlt) ?_ ?_
    · intro x hx hlt
      have hle : ¬e.mSequence < x.mSequence := of_decide_eq_false hlt
      have hne : ¬x.mSequence = e.mSequence := fun heq ↦
        List.any_eq_false.mp hany x hx (same_insertionOrdered.mpr heq)
      omega
    · refine hl.imp fun {x y} hxy hx ↦ ?_
      have hx : e.mSequence < x.mSequence := of_decide_eq_true hx
      exact decide_eq_true (Nat.lt_trans hx hxy)

/-- **A new event goes to the end.** -/
theorem insert_newEvent (hs : Sequenced .insertionOrdered s) (v : α) (c : PointClass) (i : ℕ) :
    BufferKind.insertionOrdered.insert (s.newEvent v c i) s.mEventSet =
      s.mEventSet ++ [s.newEvent v c i] := by
  have hlt : ∀ x ∈ s.mEventSet, x.mSequence < (s.newEvent v c i).mSequence :=
    fun x hx ↦ hs.below_next x (List.mem_append_right _ hx)
  show insertUnique (BufferKind.insertionOrdered : BufferKind α).lessThan
    (s.newEvent v c i) s.mEventSet = _
  rw [insertUnique, if_neg]
  · refine insertMulti_of_behind fun x hx ↦ decide_eq_false ?_
    exact Nat.lt_asymm (hlt x hx)
  · rw [List.any_eq_true]
    rintro ⟨x, hx, hsame⟩
    exact Nat.ne_of_lt (hlt x hx) (same_insertionOrdered.mp hsame)

/-- An update of a FIFO. -/
theorem retains_update {v : α} {c : PointClass} {i : ℕ} (hs : Sequenced .insertionOrdered s)
    (h : s.step .insertionOrdered (.update v c i) = some t) : s.Retains (.update v c i) t := by
  have hset : (s.numbered.kindUpdate .insertionOrdered (s.newEvent v c i)).mEventSet =
      s.mEventSet ++ [s.newEvent v c i] := insert_newEvent hs v c i
  have hlen : (s.numbered.kindUpdate .insertionOrdered (s.newEvent v c i)).numUnselected =
      s.numUnselected + 1 := by
    rw [numUnselected, hset, List.length_append]
    rfl
  have hmax : (s.numbered.kindUpdate .insertionOrdered (s.newEvent v c i)).mMaxEvents =
    s.mMaxEvents := rfl
  rcases dropOverflow_spec (dropOverflow_of_step h) with ⟨hle, rfl⟩ |
    ⟨hlt, e, rest, n, hrest, -, rfl⟩
  · rw [hlen, hmax] at hle
    have hlt : s.numUnselected < s.mMaxEvents := hle
    exact ⟨rfl, by rw [if_pos hlt, hset]⟩
  · rw [hlen, hmax] at hlt
    refine ⟨rfl, ?_⟩
    rw [if_neg (Nat.not_lt.mpr (Nat.le_of_lt_succ hlt)), ← hset, hrest]
    rfl

/-- `Deselect` of a FIFO puts every event back, in the order of the sequence numbers. -/
theorem deselect_fifo (hs : Sequenced .insertionOrdered s)
    (hordered : s.mEventSet.Pairwise fun x y ↦ x.mSequence < y.mSequence) :
    (s.deselect .insertionOrdered).mEventSet.Perm s.held ∧
      (s.deselect .insertionOrdered).mEventSet.Pairwise fun x y ↦ x.mSequence < y.mSequence := by
  have hstep : ∀ (e : EventInfo α) l (u : EventBuffer α), Returning .insertionOrdered s (e :: l) u →
      ((e :: l) ++ u.mEventSet).Perm s.held ∧
        u.mEventSet.Pairwise (fun x y ↦ x.mSequence < y.mSequence) →
      (l ++ (u.updateOld .insertionOrdered e).mEventSet).Perm s.held ∧
        (u.updateOld .insertionOrdered e).mEventSet.Pairwise fun x y ↦ x.mSequence <
          y.mSequence := by
    rintro e l u hu ⟨hp, hlt⟩
    refine ⟨?_, pairwise_insert_sequence hlt e⟩
    have hset : (u.updateOld .insertionOrdered e).mEventSet.Perm (e :: u.mEventSet) := by
      have htakes := hu.takes
      generalize u.updateOld .insertionOrdered e = w at htakes
      cases htakes with
      | adds hset _ => exact hset
      | replaces hkind _ _ _ _ => cases hkind
      | keeps hkind _ _ _ => cases hkind
    exact ((hset.append_left l).trans List.perm_middle).trans hp
  obtain ⟨u, -, ⟨hp, hlt⟩, heq⟩ := deselect_rule
    (P := fun l u ↦ (l ++ u.mEventSet).Perm s.held ∧
      u.mEventSet.Pairwise fun x y ↦ x.mSequence < y.mSequence)
    hs hstep ⟨List.Perm.refl _, hordered⟩
  rw [heq]
  exact ⟨hp, hlt⟩

/-- **Every operation of a FIFO goes through**, and keeps all events that it does not take away. -/
theorem exists_retains (hs : Exact .insertionOrdered s)
    (hordered : s.mEventSet.Pairwise fun x y ↦ x.mSequence < y.mSequence) (op : BufferOp α) :
    ∃ t, s.step .insertionOrdered op = some t ∧ s.Retains op t := by
  obtain ⟨t, ht⟩ := perform_ok hs (sameClass_of_ne_single (by simp) s op)
  have hstep : s.step .insertionOrdered op = some t := by
    rw [EventBuffer.step, ht]
    rfl
  refine ⟨t, hstep, ?_⟩
  cases op with
  | update v c i => exact retains_update hs.sequenced hstep
  | select c k =>
    obtain ⟨u, hu, hsel, hp, -⟩ := select_matching hs c k
    rw [Option.some.inj (hstep.symm.trans hu)]
    exact ⟨hsel, hp⟩
  | deselect =>
    cases ht
    exact ⟨rfl, (deselect_fifo hs.sequenced hordered).1⟩
  | clearWrittenEvents =>
    cases ht
    refine ⟨rfl, s.mSelectedEvents.takeWhile (·.mWritten), ?_, ?_⟩
    · exact List.takeWhile_append_dropWhile.symm
    · exact fun e he ↦ List.mem_takeWhile_imp he
  | markWritten i =>
    cases ht
    exact ⟨rfl, map_markWritten s i fun _ ↦ rfl⟩
  | isOverflown =>
    cases ht
    refine ⟨isOverflown_mEventSet, ?_⟩
    rw [isOverflown]
    dsimp only
    split <;> rfl

/-- **Order by insertion**, with the record beside it. -/
structure OrderedByInsertion (s : Logged α) : Prop where
  recorded : Recorded .insertionOrdered s
  exact : Exact .insertionOrdered s.buffer
  ordered : s.buffer.mEventSet.Pairwise fun x y ↦ x.mSequence < y.mSequence

theorem OrderedByInsertion.retains {s : Logged α} (hs : OrderedByInsertion s) (op : BufferOp α) :
    ∃ t, s.buffer.step .insertionOrdered op = some t ∧ s.buffer.Retains op t :=
  exists_retains hs.exact hs.ordered op

/-- **One operation** keeps the order. -/
theorem orderedByInsertion_step {s t : Logged α} {op : BufferOp α} (hs : OrderedByInsertion s)
    (h : s.step .insertionOrdered op = some t) : OrderedByInsertion t := by
  obtain ⟨hb, -⟩ := Logged.step_eq_some.mp h
  refine ⟨recorded_step hs.recorded h,
    exact_step hs.exact (sameClass_of_ne_single (by simp) _ _) hb, ?_⟩
  obtain ⟨u, hu, hretains⟩ := hs.retains op
  obtain rfl : t.buffer = u := Option.some.inj (hb.symm.trans hu)
  cases op with
  | update v c i =>
    have hnew := pairwise_insert_sequence hs.ordered (s.buffer.newEvent v c i)
    rw [insert_newEvent hs.exact.sequenced] at hnew
    rw [hretains.2]
    split
    · exact hnew
    · exact hnew.sublist (List.tail_sublist _)
  | select c k =>
    obtain ⟨u, hu, -, -, hsub⟩ := select_matching hs.exact c k
    rw [Option.some.inj (hb.symm.trans hu)]
    exact hs.ordered.sublist hsub
  | deselect =>
    rw [← Option.some.inj hb]
    exact (deselect_fifo hs.exact.sequenced hs.ordered).2
  | clearWrittenEvents => exact hretains.1 ▸ hs.ordered
  | markWritten i => exact hretains.1 ▸ hs.ordered
  | isOverflown => exact hretains.1 ▸ hs.ordered

/-- **The buffer that is ordered by insertion is a lossless FIFO**, in every run: the events that
are held have sequence numbers of their own, those that are not selected stand in the order in which
they came in, and every operation goes through and does with them what `Retains` says. -/
theorem lossless_fifo {aMaxEvents : ℕ} {ops : List (BufferOp α)} {s : Logged α}
    (hrun : Run.run (Logged.step .insertionOrdered) (Logged.new aMaxEvents) ops = some s) :
    (s.buffer.held.map (·.mSequence)).Nodup ∧
    (s.buffer.mEventSet.map unwritten).Sublist s.arrived ∧
    ∀ op, ∃ t, s.buffer.step .insertionOrdered op = some t ∧ s.buffer.Retains op t := by
  have hs : OrderedByInsertion s := by
    refine Run.inv_of_run (fun s op t hs h ↦ orderedByInsertion_step hs h) ?_ hrun
    exact ⟨recorded_new aMaxEvents, exact_new _ aMaxEvents, .nil⟩
  refine ⟨hs.exact.sequenced.nodup, ?_, hs.retains⟩
  exact hs.recorded.sublist hs.ordered fun x hx ↦ List.mem_append_right _ hx

/-- A buffer for two events: the first is selected while two others come in, it is put back, one
more comes in and costs it, and what is left is selected, written and cleared. -/
def putsBackAndOverflows : List (BufferOp Char) :=
  [.update 'a' .class1 0, .select .class1 1, .update 'b' .class1 0, .update 'c' .class1 0,
    .deselect, .update 'd' .class1 0, .select .class1 1, .markWritten 0, .clearWrittenEvents]

theorem lossless_fifo_putsBackAndOverflows : ∃ s : Logged Char,
    Run.run (Logged.step .insertionOrdered) (Logged.new 2) putsBackAndOverflows = some s ∧
    (s.buffer.held.map (·.mSequence)).Nodup ∧
    (s.buffer.mEventSet.map unwritten).Sublist s.arrived ∧
    ∀ op, ∃ t, s.buffer.step .insertionOrdered op = some t ∧ s.buffer.Retains op t := by
  obtain ⟨s, hrun⟩ : ∃ s : Logged Char,
      Run.run (Logged.step .insertionOrdered) (Logged.new 2) putsBackAndOverflows = some s :=
    Option.isSome_iff_exists.mp (by decide +kernel)
  exact ⟨s, hrun, lossless_fifo hrun⟩

end EventBuffer

end OpenDNP3
