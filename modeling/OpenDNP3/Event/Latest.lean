import Mathlib.Data.List.Pairwise
import OpenDNP3.Event.Sequence

/-!
# The latest event of an index

`SingleEventBuffer` holds one unselected event for each index, and `_Update` puts a later one in its
place.  So the unselected event should be the latest of those that have come in since the index was
last selected or dropped — by its time, and by the order in which the values were updated when the
times are the same.

`Deselect` goes through `_Update` as well, where the event that comes in takes the place of one of
the same time: an old event takes the place of a newer one that was updated while it was selected.
So this holds only as long as no selected event of the same time is put back (`Settled`), unless a
later event of the index is.

* `Tracked` — the buffer, with the events that have come in for each index.
* `Kept` — the unselected events are the latest, except for events that are still to be put back.
* `EventBuffer.latest` — every run.
-/

set_option autoImplicit false

namespace OpenDNP3

/-! ## What has come in

A buffer knows only the events that it holds. To say which event of a point is the latest, the
events that have come in are recorded beside it. -/

/-- **A buffer, with the events that have come in** for each index since its unselected event was
last selected, or dropped. -/
structure Tracked (α : Type) where
  buffer : EventBuffer α
  recent : ℕ → List (EventInfo α)

namespace EventBuffer

variable {α : Type}

/-- One more event has come in. -/
def noted (recent : ℕ → List (EventInfo α)) (e : EventInfo α) : ℕ → List (EventInfo α) :=
  fun i ↦ if e.mIndex = i then recent i ++ [e] else recent i

/-- The events that come in by an operation. -/
def arrivals (s : EventBuffer α) : BufferOp α → List (EventInfo α)
  | .update arVal aClass aIndex => [s.newEvent arVal aClass aIndex]
  | .deselect => s.mSelectedEvents
  | .select _ _ | .clearWrittenEvents | .markWritten _ | .isOverflown => []

/-- The unselected events that an operation takes out: those that it selects, or the one that an
overflow costs.  `t` is the buffer after it. -/
def takenOut (kind : BufferKind α) (s t : EventBuffer α) : BufferOp α → List (EventInfo α)
  | .update arVal aClass aIndex =>
    let u := s.updateNew kind { mValue := arVal, mClass := aClass, mIndex := aIndex }
    if u.numUnselected > u.mMaxEvents then u.mEventSet.take 1 else []
  | .select _ _ => t.mSelectedEvents.drop s.mSelectedEvents.length
  | .deselect | .clearWrittenEvents | .markWritten _ | .isOverflown => []

end EventBuffer

namespace Tracked

variable {α : Type}

/-- The constructor. -/
def new (aMaxEvents : ℕ) : Tracked α where
  buffer := .new aMaxEvents
  recent := fun _ ↦ []

/-- What has come in after an operation that leads to the buffer `t`. -/
def next (kind : BufferKind α) (s : Tracked α) (op : BufferOp α) (t : EventBuffer α) :
    Tracked α where
  buffer := t
  recent := fun i ↦
    if (s.buffer.takenOut kind t op).any (·.mIndex = i) then []
    else (s.buffer.arrivals op).foldl EventBuffer.noted s.recent i

/-- One operation. -/
def step (kind : BufferKind α) (s : Tracked α) (op : BufferOp α) : Option (Tracked α) :=
  (s.buffer.step kind op).map (s.next kind op)

end Tracked

namespace EventBuffer

variable {α : Type} {getTime : α → Int} {s t u : EventBuffer α}
  {l set rest : List (EventInfo α)} {recent : ℕ → List (EventInfo α)}

theorem noted_same (recent : ℕ → List (EventInfo α)) (e : EventInfo α) :
    noted recent e e.mIndex = recent e.mIndex ++ [e] := if_pos rfl

theorem noted_other {e : EventInfo α} {i : ℕ} (h : e.mIndex ≠ i) : noted recent e i = recent i :=
  if_neg h

theorem mem_foldl_noted {x : EventInfo α} {i : ℕ} (h : x ∈ l.foldl noted recent i) :
    x ∈ recent i ∨ x ∈ l := by
  induction l generalizing recent with
  | nil => exact .inl h
  | cons e l ih =>
    rcases ih h with hx | hx
    · by_cases hi : e.mIndex = i
      · rw [noted, if_pos hi, List.mem_append, List.mem_singleton] at hx
        rcases hx with hx | rfl
        · exact .inl hx
        · exact .inr List.mem_cons_self
      · rw [noted_other hi] at hx
        exact .inl hx
    · exact .inr (List.mem_cons_of_mem e hx)

/-! ## The latest event

Of two events of the same point the later one is kept. What is selected is not looked at, so it
is compared when it is put back. -/

/-- Some event of the list has the index of `w` and a later time. -/
def Later (getTime : α → Int) (l : List (EventInfo α)) (w : EventInfo α) : Prop :=
  ∃ e ∈ l, e.mIndex = w.mIndex ∧ getTime w.mValue < getTime e.mValue

instance (l : List (EventInfo α)) (w : EventInfo α) : Decidable (Later getTime l w) :=
  inferInstanceAs (Decidable (∃ e ∈ l, _))

/-- `x` is not after `w`, by time and then by the order of the updates — unless there is a later one
among those of `l` anyway. -/
def NotAfter (getTime : α → Int) (l : List (EventInfo α)) (w x : EventInfo α) : Prop :=
  getTime x.mValue < getTime w.mValue ∨
    getTime x.mValue = getTime w.mValue ∧ (x.mSequence ≤ w.mSequence ∨ Later getTime l w)

/-- **The unselected events are the latest**, when the events of `l` are still to come in. -/
structure Kept (getTime : α → Int) (l set : List (EventInfo α)) (recent : ℕ → List (EventInfo α)) :
    Prop where
  none : ∀ i, (∀ w ∈ set, w.mIndex ≠ i) → recent i = []
  mem : ∀ w ∈ set, w ∈ recent w.mIndex
  greatest : ∀ w ∈ set, ∀ x ∈ recent w.mIndex, NotAfter getTime l w x
  ties : ∀ w ∈ set, ∀ e ∈ l, e.mIndex = w.mIndex → getTime e.mValue = getTime w.mValue →
    w.mSequence < e.mSequence ∨ Later getTime l w

theorem Later.of_other {e w : EventInfo α} (h : Later getTime (e :: l) w)
    (he : e.mIndex ≠ w.mIndex) :
    Later getTime l w := by
  obtain ⟨x, hx, hindex, htime⟩ := h
  rcases List.mem_cons.mp hx with rfl | hx
  · exact absurd hindex he
  · exact ⟨x, hx, hindex, htime⟩

theorem Later.of_not_later {e w : EventInfo α} (h : Later getTime (e :: l) w)
    (he : getTime e.mValue ≤ getTime w.mValue) : Later getTime l w := by
  obtain ⟨x, hx, hindex, htime⟩ := h
  rcases List.mem_cons.mp hx with rfl | hx
  · exact absurd htime (Int.not_lt.mpr he)
  · exact ⟨x, hx, hindex, htime⟩

/-- What an event that comes in does not touch: the events of other indices. -/
theorem Kept.other {e w : EventInfo α} (h : Kept getTime (e :: l) set recent) (hw : w ∈ set)
    (hindex : e.mIndex ≠ w.mIndex) :
    w ∈ noted recent e w.mIndex ∧ (∀ x ∈ noted recent e w.mIndex, NotAfter getTime l w x) ∧
      ∀ x ∈ l, x.mIndex = w.mIndex → getTime x.mValue = getTime w.mValue →
        w.mSequence < x.mSequence ∨ Later getTime l w := by
  rw [noted_other hindex]
  refine ⟨h.mem w hw, ?_, ?_⟩
  · intro x hx
    rcases h.greatest w hw x hx with hlt | ⟨heq, hle | hlater⟩
    · exact .inl hlt
    · exact .inr ⟨heq, .inl hle⟩
    · exact .inr ⟨heq, .inr (hlater.of_other hindex)⟩
  · intro x hx hxw htime
    rcases h.ties w hw x (List.mem_cons_of_mem e hx) hxw htime with hlt | hlater
    · exact .inl hlt
    · exact .inr (hlater.of_other hindex)

/-- An event takes the place of what there is of its index. -/
theorem Kept.put {e : EventInfo α} (h : Kept getTime (e :: l) set recent)
    {set' : List (EventInfo α)}
    (hnew : set'.Perm (e :: rest)) (hrest : ∀ w ∈ rest, w ∈ set ∧ w.mIndex ≠ e.mIndex)
    (hcover : ∀ w ∈ set, w.mIndex ≠ e.mIndex → w ∈ rest)
    (hgreatest : ∀ x ∈ recent e.mIndex, NotAfter getTime l e x)
    (hlater : ∀ x ∈ l, x.mIndex = e.mIndex → e.mSequence < x.mSequence) :
    Kept getTime l set' (noted recent e) := by
  have hcases : ∀ w ∈ set', w = e ∨ w ∈ set ∧ e.mIndex ≠ w.mIndex := by
    intro w hw
    rcases List.mem_cons.mp (hnew.mem_iff.mp hw) with rfl | hw
    · exact .inl rfl
    · exact .inr ⟨(hrest w hw).1, (hrest w hw).2.symm⟩
  refine ⟨?_, ?_, ?_, ?_⟩
  · intro i hi
    have he : e.mIndex ≠ i := hi e (hnew.mem_iff.mpr List.mem_cons_self)
    rw [noted_other he]
    refine h.none i fun w hw hwi ↦ ?_
    have hwe : w.mIndex ≠ e.mIndex := fun h ↦ he (h.symm.trans hwi)
    exact hi w (hnew.mem_iff.mpr (List.mem_cons_of_mem e (hcover w hw hwe))) hwi
  · intro w hw
    rcases hcases w hw with rfl | ⟨hw, hindex⟩
    · rw [noted_same]
      exact List.mem_append_right _ List.mem_cons_self
    · exact (h.other hw hindex).1
  · intro w hw
    rcases hcases w hw with rfl | ⟨hw, hindex⟩
    · intro x hx
      rw [noted_same, List.mem_append, List.mem_singleton] at hx
      rcases hx with hx | rfl
      · exact hgreatest x hx
      · exact .inr ⟨rfl, .inl (Nat.le_refl _)⟩
    · exact (h.other hw hindex).2.1
  · intro w hw
    rcases hcases w hw with rfl | ⟨hw, hindex⟩
    · exact fun x hx hxw _ ↦ .inl (hlater x hx hxw)
    · exact (h.other hw hindex).2.2

/-- No two unselected events have the same index. -/
theorem pairwise_index (hs : (BufferKind.single getTime).Valid set) :
    set.Pairwise fun a b ↦ a.mIndex ≠ b.mIndex := by
  refine List.Pairwise.imp (fun h hindex ↦ ?_) hs
  rw [same_single.mpr hindex.symm] at h
  exact Bool.noConfusion h

theorem eq_of_index (hs : (BufferKind.single getTime).Valid set) {w x : EventInfo α} (hw : w ∈ set)
    (hx : x ∈ set) (h : w.mIndex = x.mIndex) : w = x := by
  have hsymm : Std.Symm fun a b : EventInfo α ↦ a.mIndex ≠ b.mIndex := ⟨fun _ _ h ↦ h.symm⟩
  by_contra hne
  exact (pairwise_index hs).forall hw hx hne h

/-- **An event that is taken in** leaves the latest. -/
theorem Takes.kept {e : EventInfo α} (h : Takes (.single getTime) s e t)
    (hs : (BufferKind.single getTime).Valid s.mEventSet)
    (hk : Kept getTime (e :: l) s.mEventSet recent)
    (hlater : ∀ x ∈ l, x.mIndex = e.mIndex → e.mSequence < x.mSequence) :
    Kept getTime l t.mEventSet (noted recent e) := by
  cases h with
  | @adds set hp hother =>
    have hother := hother getTime rfl
    have hnone : recent e.mIndex = [] := hk.none e.mIndex hother
    refine hk.put hp (fun w hw ↦ ⟨hw, hother w hw⟩) (fun w hw _ ↦ hw) ?_ hlater
    intro x hx
    rw [hnone] at hx
    exact absurd hx List.not_mem_nil
  | @replaces getTime' x set rest hkind hindex htime hold hnew =>
    cases hkind
    have hx : x ∈ s.mEventSet := hold.mem_iff.mpr List.mem_cons_self
    have hapart : ∀ w ∈ rest, x.mIndex ≠ w.mIndex := by
      have hpair := (pairwise_index hs).perm hold fun h ↦ h.symm
      exact (List.pairwise_cons.mp hpair).1
    refine hk.put hnew ?_ ?_ ?_ hlater
    · intro w hw
      refine ⟨hold.mem_iff.mpr (List.mem_cons_of_mem x hw), ?_⟩
      rw [← hindex]
      exact (hapart w hw).symm
    · intro w hw hwe
      rcases List.mem_cons.mp (hold.mem_iff.mp hw) with rfl | hw
      · exact absurd hindex hwe
      · exact hw
    · intro y hy
      rw [← hindex] at hy
      by_cases hlt : getTime x.mValue < getTime e.mValue
      · rcases hk.greatest x hx y hy with hyx | ⟨hyx, -⟩
        · exact .inl (hyx.trans hlt)
        · exact .inl (hyx ▸ hlt)
      · -- the event comes in at the same time
        have heq : getTime e.mValue = getTime x.mValue := Int.le_antisymm (Int.not_lt.mp hlt) htime
        have hafter : Later getTime (e :: l) x → Later getTime l e := by
          intro hx
          obtain ⟨z, hz, hzx, hzt⟩ := hx.of_not_later heq.le
          exact ⟨z, hz, hzx.trans hindex, heq ▸ hzt⟩
        rcases hk.greatest x hx y hy with hyx | ⟨hyx, hseq | hxl⟩
        · exact .inl (heq ▸ hyx)
        · rcases hk.ties x hx e List.mem_cons_self hindex.symm heq with hxe | hxl
          · exact .inr ⟨hyx.trans heq.symm, .inl (hseq.trans hxe.le)⟩
          · exact .inr ⟨hyx.trans heq.symm, .inr (hafter hxl)⟩
        · exact .inr ⟨hyx.trans heq.symm, .inr (hafter hxl)⟩
  | @keeps getTime' x hkind hindex htime hmem =>
    cases hkind
    refine ⟨?_, ?_, ?_, ?_⟩
    · intro i hi
      have he : e.mIndex ≠ i := hindex ▸ hi x hmem
      rw [noted_other he]
      exact hk.none i hi
    · intro w hw
      by_cases he : e.mIndex = w.mIndex
      · rw [noted, if_pos he]
        exact List.mem_append_left _ (hk.mem w hw)
      · exact (hk.other hw he).1
    · intro w hw
      by_cases he : e.mIndex = w.mIndex
      · have hwx := eq_of_index hs hw hmem (he.symm.trans hindex.symm)
        subst hwx
        intro y hy
        rw [noted, if_pos he, List.mem_append, List.mem_singleton] at hy
        rcases hy with hy | rfl
        · rcases hk.greatest w hw y hy with hlt | ⟨heq, hle | hlater⟩
          · exact .inl hlt
          · exact .inr ⟨heq, .inl hle⟩
          · exact .inr ⟨heq, .inr (hlater.of_not_later htime.le)⟩
        · exact .inl htime
      · exact (hk.other hw he).2.1
    · intro w hw
      by_cases he : e.mIndex = w.mIndex
      · have hwx := eq_of_index hs hw hmem (he.symm.trans hindex.symm)
        subst hwx
        intro y hy hyw hyt
        rcases hk.ties w hw y (List.mem_cons_of_mem e hy) hyw hyt with hlt | hlater
        · exact .inl hlt
        · exact .inr (hlater.of_not_later htime.le)
      · exact (hk.other hw he).2.2

/-- Events that are taken out of the set, when nothing is still to come in. -/
theorem Kept.remove {out : List (EventInfo α)} (h : Kept getTime [] set recent)
    (hs : (BufferKind.single getTime).Valid set) (hset : set.Perm (out ++ rest)) :
    Kept getTime [] rest fun i ↦ if out.any (·.mIndex = i) then [] else recent i := by
  have hapart : ∀ x ∈ out, ∀ w ∈ rest, x.mIndex ≠ w.mIndex := by
    have hpair := (pairwise_index hs).perm hset fun h ↦ h.symm
    exact (List.pairwise_append.mp hpair).2.2
  have hin : ∀ w ∈ rest, w ∈ set := fun w hw ↦ hset.mem_iff.mpr (List.mem_append_right out hw)
  have hkeep : ∀ w ∈ rest, ¬ out.any (·.mIndex = w.mIndex) = true := by
    intro w hw hany
    obtain ⟨x, hx, hindex⟩ := List.any_eq_true.mp hany
    exact hapart x hx w hw (of_decide_eq_true hindex)
  refine ⟨?_, ?_, ?_, fun _ _ _ he ↦ absurd he List.not_mem_nil⟩
  · intro i hi
    by_cases hany : out.any (·.mIndex = i) = true
    · rw [if_pos hany]
    · rw [if_neg hany]
      refine h.none i fun w hw hwi ↦ ?_
      rcases List.mem_append.mp (hset.mem_iff.mp hw) with hw | hw
      · exact hany (List.any_eq_true.mpr ⟨w, hw, decide_eq_true hwi⟩)
      · exact hi w hw hwi
  · intro w hw
    rw [if_neg (hkeep w hw)]
    exact h.mem w (hin w hw)
  · intro w hw
    rw [if_neg (hkeep w hw)]
    exact h.greatest w (hin w hw)

/-! ## The order of the events of an index -/

/-- The index of an event and its place in the order of the updates. -/
def stamp (e : EventInfo α) : ℕ × ℕ := (e.mIndex, e.mSequence)

/-- Of the same index, the first was updated earlier. -/
def Earlier (a b : ℕ × ℕ) : Prop := a.1 = b.1 → a.2 < b.2

/-- **What holds of a tracked buffer**: the unselected events are the latest, and those of the same
index that are selected were updated before them, in this order. -/
structure Latest (getTime : α → Int) (s : Tracked α) : Prop where
  sequenced : Sequenced (.single getTime) s.buffer
  ordered : (s.buffer.held.map stamp).Pairwise Earlier
  below : ∀ i, ∀ x ∈ s.recent i, x.mSequence < s.buffer.mSequence
  kept : Kept getTime [] s.buffer.mEventSet s.recent

/-- **The condition** on `Deselect`: an event that is put back has another time than the unselected
one of its index, or another event that is put back has a later time. -/
def Settled (getTime : α → Int) (s : EventBuffer α) : BufferOp α → Prop
  | .deselect => ∀ w ∈ s.mEventSet, ∀ e ∈ s.mSelectedEvents, e.mIndex = w.mIndex →
      getTime e.mValue = getTime w.mValue → Later getTime s.mSelectedEvents w
  | _ => True

instance (s : EventBuffer α) (op : BufferOp α) : Decidable (Settled getTime s op) :=
  match op with
  | .deselect => inferInstanceAs (Decidable (∀ w ∈ s.mEventSet, ∀ e ∈ s.mSelectedEvents, _ → _ → _))
  | .update _ _ _ | .select _ _ | .clearWrittenEvents | .markWritten _ | .isOverflown =>
    inferInstanceAs (Decidable True)

/-- The set alone is in order, since its indices are different. -/
theorem pairwise_stamp (hs : (BufferKind.single getTime).Valid set) :
    (set.map stamp).Pairwise Earlier :=
  List.pairwise_map.mpr ((pairwise_index hs).imp fun h hindex ↦ absurd hindex h)

/-- A new event is behind all that came in before. -/
theorem Latest.below_next {s : Tracked α} (hs : Latest getTime s) (i : ℕ) :
    ∀ x ∈ s.recent i, x.mSequence < s.buffer.nextSequence := by
  intro x hx
  by_cases hsize : s.buffer.size = 0
  · have hset : s.buffer.mEventSet = [] := by
      rw [size] at hsize
      exact List.eq_nil_of_length_eq_zero (by omega)
    rw [hs.kept.none i (by rw [hset]; exact fun _ h ↦ absurd h List.not_mem_nil)] at hx
    exact absurd hx List.not_mem_nil
  · rw [nextSequence, if_neg hsize]
    exact hs.below i x hx

/-- Selected events were updated before the unselected event of their index. -/
theorem Latest.selected_earlier {s : Tracked α} (hs : Latest getTime s) :
    ∀ a ∈ s.buffer.mSelectedEvents, ∀ w ∈ s.buffer.mEventSet, a.mIndex = w.mIndex →
      a.mSequence < w.mSequence := by
  have hordered := hs.ordered
  rw [held, List.map_append, List.pairwise_append] at hordered
  intro a ha w hw
  exact hordered.2.2 (stamp a) (List.mem_map_of_mem ha) (stamp w) (List.mem_map_of_mem hw)

theorem Latest.selected_ordered {s : Tracked α} (hs : Latest getTime s) :
    (s.buffer.mSelectedEvents.map stamp).Pairwise Earlier := by
  have hordered := hs.ordered
  rw [held, List.map_append, List.pairwise_append] at hordered
  exact hordered.1

theorem ordered_of_selected (hsel : (s.mSelectedEvents.map stamp).Pairwise Earlier)
    (hset : (BufferKind.single getTime).Valid s.mEventSet)
    (hcross : ∀ a ∈ s.mSelectedEvents, ∀ w ∈ s.mEventSet, a.mIndex = w.mIndex →
      a.mSequence < w.mSequence) : (s.held.map stamp).Pairwise Earlier := by
  rw [held, List.map_append, List.pairwise_append]
  refine ⟨hsel, pairwise_stamp hset, ?_⟩
  intro x hx y hy
  obtain ⟨a, ha, rfl⟩ := List.mem_map.mp hx
  obtain ⟨w, hw, rfl⟩ := List.mem_map.mp hy
  exact hcross a ha w hw

/-! ## One operation -/

/-- Nothing is taken out. -/
theorem next_recent {s : Tracked α} {op : BufferOp α}
    (h : s.buffer.takenOut (.single getTime) t op = []) :
    (s.next (.single getTime) op t).recent = (s.buffer.arrivals op).foldl noted s.recent := by
  funext i
  rw [Tracked.next, h]
  rfl

/-- **An update** before the overflow. -/
theorem Latest.update {s : Tracked α} (hs : Latest getTime s) {v : α} {c : PointClass} {i : ℕ}
    (h : Updates (.single getTime) s.buffer.numbered (s.buffer.newEvent v c i) t)
    (ht : (BufferKind.single getTime).Valid t.mEventSet) :
    Latest getTime ⟨t, noted s.recent (s.buffer.newEvent v c i)⟩ := by
  have htakes := hs.sequenced.takes_new h
  obtain ⟨hseq, hsel, hset⟩ := htakes.frame
  have hnext : s.buffer.numbered.mSequence = s.buffer.nextSequence + 1 := rfl
  have hkept : Kept getTime [s.buffer.newEvent v c i] s.buffer.mEventSet s.recent := by
    refine ⟨hs.kept.none, hs.kept.mem, ?_, ?_⟩
    · intro w hw x hx
      rcases hs.kept.greatest w hw x hx with hlt | ⟨heq, hle | ⟨z, hz, -⟩⟩
      · exact .inl hlt
      · exact .inr ⟨heq, .inl hle⟩
      · exact absurd hz List.not_mem_nil
    · intro w hw e he _ _
      rw [List.mem_singleton] at he
      subst he
      exact .inl (hs.sequenced.below_next w (List.mem_append_right _ hw))
  refine ⟨hs.sequenced.update h ht, ?_, ?_, ?_⟩
  · refine ordered_of_selected ?_ ht ?_
    · rw [hsel]
      exact hs.selected_ordered
    · intro a ha w hw hindex
      rw [hsel] at ha
      rcases List.mem_cons.mp (hset.subset hw) with rfl | hw
      · exact hs.sequenced.below_next a (List.mem_append_left _ ha)
      · exact hs.selected_earlier a ha w hw hindex
  · intro j x hx
    rw [hseq, hnext]
    have hx : x ∈ [s.buffer.newEvent v c i].foldl noted s.recent j := hx
    rcases mem_foldl_noted hx with hx | hx
    · exact Nat.lt_succ_of_lt (hs.below_next j x hx)
    · rw [List.mem_singleton] at hx
      subst hx
      exact Nat.lt_succ_self _
  · exact htakes.kept hs.sequenced.valid hkept fun x hx ↦ absurd hx List.not_mem_nil

/-- **An overflow** takes an event out. -/
theorem Latest.overflow {s : Tracked α} (hs : Latest getTime s) {e : EventInfo α}
    (hset : s.buffer.mEventSet = e :: rest) {n : ClassCounter} (hflag : Bool) :
    Latest getTime ⟨{ s.buffer with mIsOverflown := hflag, mCounter := n, mEventSet := rest },
      fun i ↦ if [e].any (·.mIndex = i) then [] else s.recent i⟩ := by
  have hvalid := hs.sequenced.valid
  rw [hset] at hvalid
  have hrest := hvalid.sublist (List.sublist_cons_self e rest)
  refine ⟨hs.sequenced.subperm hrest rfl ?_, ?_, ?_, ?_⟩
  · rw [held, held, hset]
    exact (((List.sublist_cons_self e rest).append_left _).map _).subperm
  · refine ordered_of_selected hs.selected_ordered hrest fun a ha w hw ↦ ?_
    refine hs.selected_earlier a ha w ?_
    rw [hset]
    exact List.mem_cons_of_mem e hw
  · intro i x hx
    by_cases hany : [e].any (·.mIndex = i) = true
    · have hx : x ∈ if [e].any (·.mIndex = i) then [] else s.recent i := hx
      rw [if_pos hany] at hx
      exact absurd hx List.not_mem_nil
    · have hx : x ∈ if [e].any (·.mIndex = i) then [] else s.recent i := hx
      rw [if_neg hany] at hx
      exact hs.below i x hx
  · refine hs.kept.remove hs.sequenced.valid ?_
    rw [hset]
    exact List.Perm.refl _

/-- **A selection** takes events out, and they come behind those that were selected before. -/
theorem Latest.select {s : Tracked α} (hs : Latest getTime s) {picked kept : List (EventInfo α)}
    (hp : s.buffer.mEventSet.Perm (picked ++ kept)) {n : ClassCounter} {c : PointClass} {k : ℕ}
    (hstep : s.buffer.step (.single getTime) (.select c k) = some t)
    (ht : t = { s.buffer with
      mCounter := n
      mSelectedEvents := s.buffer.mSelectedEvents ++ picked.map unwritten
      mEventSet := kept }) :
    Latest getTime (s.next (.single getTime) (.select c k) t) := by
  have hvalid : (BufferKind.single getTime).Valid (picked ++ kept) :=
    OrderedSet.Distinct.perm hs.sequenced.valid hp
  have hout : s.buffer.takenOut (.single getTime) t (.select c k) = picked.map unwritten := by
    rw [ht, takenOut]
    exact List.drop_left
  have hany : ∀ i, (picked.map unwritten).any (·.mIndex = i) = picked.any (·.mIndex = i) := by
    intro i
    rw [List.any_map]
    rfl
  have hrecent : (s.next (.single getTime) (.select c k) t).recent =
      fun i ↦ if picked.any (·.mIndex = i) then [] else s.recent i := by
    funext i
    rw [← hany, ← hout]
    rfl
  refine ⟨sequenced_step hs.sequenced hstep, ?_, ?_, ?_⟩
  · have hheld : t.held.map stamp =
        s.buffer.mSelectedEvents.map stamp ++ (picked ++ kept).map stamp := by
      rw [ht, held, List.append_assoc, List.map_append, List.map_append, List.map_append,
        List.map_map]
      rfl
    show (t.held.map stamp).Pairwise Earlier
    rw [hheld, List.pairwise_append]
    refine ⟨hs.selected_ordered, pairwise_stamp hvalid, ?_⟩
    intro x hx y hy
    obtain ⟨a, ha, rfl⟩ := List.mem_map.mp hx
    obtain ⟨w, hw, rfl⟩ := List.mem_map.mp hy
    exact hs.selected_earlier a ha w (hp.mem_iff.mpr hw)
  · intro i x hx
    have hseq : t.mSequence = s.buffer.mSequence := by rw [ht]
    show x.mSequence < t.mSequence
    rw [hrecent] at hx
    by_cases hi : picked.any (·.mIndex = i) = true
    · simp only [if_pos hi] at hx
      exact absurd hx List.not_mem_nil
    · simp only [if_neg hi] at hx
      rw [hseq]
      exact hs.below i x hx
  · rw [hrecent]
    have hset : t.mEventSet = kept := by rw [ht]
    show Kept getTime [] t.mEventSet _
    rw [hset]
    exact hs.kept.remove hs.sequenced.valid hp

/-- **`Deselect`**: the events that come in again, one after the other. -/
theorem Latest.deselect {s : Tracked α} (hs : Latest getTime s)
    (hsettled : Settled getTime s.buffer .deselect) :
    Latest getTime (s.next (.single getTime) .deselect (s.buffer.deselect (.single getTime))) := by
  have hstart : Kept getTime s.buffer.mSelectedEvents s.buffer.mEventSet s.recent := by
    refine ⟨hs.kept.none, hs.kept.mem, ?_, ?_⟩
    · intro w hw x hx
      rcases hs.kept.greatest w hw x hx with hlt | ⟨heq, hle | ⟨z, hz, -⟩⟩
      · exact .inl hlt
      · exact .inr ⟨heq, .inl hle⟩
      · exact absurd hz List.not_mem_nil
    · exact fun w hw e he hindex htime ↦ .inr (hsettled w hw e he hindex htime)
  -- what is kept when the events of `l` are still to be put back
  let P : List (EventInfo α) → EventBuffer α → Prop := fun l u ↦
    ∃ recent, Kept getTime l u.mEventSet recent ∧
      l.foldl noted recent = s.buffer.mSelectedEvents.foldl noted s.recent
  have hstep : ∀ e l u, Returning (.single getTime) s.buffer (e :: l) u → P (e :: l) u →
      P l (u.updateOld (.single getTime) e) := by
    rintro e l u hu ⟨recent, hkept, hrecent⟩
    refine ⟨noted recent e, hu.takes.kept hu.valid hkept ?_, hrecent⟩
    have hordered := hs.selected_ordered.sublist (hu.suffix.sublist.map stamp)
    intro x hx hindex
    exact (List.pairwise_cons.mp hordered).1 (stamp x) (List.mem_map_of_mem hx) hindex.symm
  obtain ⟨u, hu, ⟨recent, hkept, hrecent⟩, heq⟩ :=
    deselect_rule hs.sequenced hstep ⟨s.recent, hstart, rfl⟩
  have hrecent : (s.next (.single getTime) .deselect (s.buffer.deselect (.single getTime))).recent =
      recent := (next_recent rfl).trans hrecent.symm
  have hdone : s.buffer.step (.single getTime) .deselect =
      some (s.buffer.deselect (.single getTime)) := rfl
  refine ⟨sequenced_step hs.sequenced hdone, ?_, ?_, ?_⟩
  · show ((s.buffer.deselect (.single getTime)).held.map stamp).Pairwise Earlier
    rw [heq]
    exact pairwise_stamp hu.valid
  · intro i x hx
    have hseq : (s.buffer.deselect (.single getTime)).mSequence = s.buffer.mSequence := by
      rw [heq]
      exact hu.sequence
    show x.mSequence < (s.buffer.deselect (.single getTime)).mSequence
    rw [next_recent rfl] at hx
    rw [hseq]
    rcases mem_foldl_noted hx with hx | hx
    · exact hs.below i x hx
    · exact hs.sequenced.below x (List.mem_append_left _ hx)
  · rw [hrecent]
    show Kept getTime [] (s.buffer.deselect (.single getTime)).mEventSet _
    rw [heq]
    exact hkept

/-- The operations that neither take events in nor out of the set. -/
theorem Latest.frame {s : Tracked α} (hs : Latest getTime s) {op : BufferOp α}
    (hstep : s.buffer.step (.single getTime) op = some t)
    (hset : t.mEventSet = s.buffer.mEventSet) (hseq : t.mSequence = s.buffer.mSequence)
    (hsel : (t.mSelectedEvents.map stamp).Sublist (s.buffer.mSelectedEvents.map stamp))
    (hin : s.buffer.arrivals op = []) (hout : s.buffer.takenOut (.single getTime) t op = []) :
    Latest getTime (s.next (.single getTime) op t) := by
  have hrecent : (s.next (.single getTime) op t).recent = s.recent := by
    rw [next_recent hout, hin]
    rfl
  have hordered : (t.held.map stamp).Pairwise Earlier := by
    have hordered := hs.ordered
    rw [held, List.map_append] at hordered ⊢
    rw [hset]
    exact hordered.sublist (hsel.append_right _)
  refine ⟨sequenced_step hs.sequenced hstep, hordered, ?_, ?_⟩
  · intro i x hx
    rw [hrecent] at hx
    show x.mSequence < t.mSequence
    rw [hseq]
    exact hs.below i x hx
  · rw [hrecent]
    show Kept getTime [] t.mEventSet s.recent
    rw [hset]
    exact hs.kept

/-- **One operation** leaves the latest event of each index. -/
theorem latest_step {s t : Tracked α} {op : BufferOp α} (hs : Latest getTime s)
    (hg : Settled getTime s.buffer op) (h : s.step (.single getTime) op = some t) :
    Latest getTime t := by
  rw [Tracked.step, Option.map_eq_some_iff] at h
  obtain ⟨b, hb, rfl⟩ := h
  cases op with
  | update v c i =>
    have hvalid : (BufferKind.single getTime).Valid s.buffer.numbered.mEventSet :=
      hs.sequenced.valid
    have hupdates := kindUpdate_updates hvalid (s.buffer.newEvent v c i)
    have hlatest := hs.update hupdates (valid_kindUpdate hvalid _)
    rcases dropOverflow_spec (dropOverflow_of_step hb) with ⟨hle, rfl⟩ |
      ⟨hlt, e, rest, n, hset, -, rfl⟩
    · have hout : s.buffer.takenOut (.single getTime)
          (s.buffer.numbered.kindUpdate (.single getTime) (s.buffer.newEvent v c i))
            (.update v c i) = [] :=
        if_neg (Nat.not_lt.mpr hle)
      have hlatest : Latest getTime
          ⟨_, (s.buffer.arrivals (.update v c i)).foldl noted s.recent⟩ := hlatest
      rw [← next_recent hout] at hlatest
      exact hlatest
    · have hdrop := hlatest.overflow hset (n := n) true
      have hout : ∀ t, s.buffer.takenOut (.single getTime) t (.update v c i) = [e] := by
        intro t
        have htake : (s.buffer.numbered.kindUpdate (.single getTime)
            (s.buffer.newEvent v c i)).mEventSet.take 1 = [e] := by rw [hset]; rfl
        exact (if_pos hlt).trans htake
      rw [Tracked.next]
      simp only [hout]
      exact hdrop
  | select c k =>
    cases performs_of_step hs.sequenced.valid hb with
    | selects hp _ _ _ _ _ => exact hs.select hp hb rfl
  | deselect =>
    cases hb
    exact hs.deselect hg
  | clearWrittenEvents =>
    cases hb
    exact hs.frame rfl rfl rfl ((List.dropWhile_sublist _).map stamp) rfl rfl
  | markWritten i =>
    cases hb
    refine hs.frame rfl rfl rfl ?_ rfl rfl
    rw [map_markWritten s.buffer i fun _ ↦ rfl]
  | isOverflown =>
    cases hb
    refine hs.frame rfl isOverflown_mEventSet ?_ ?_ rfl rfl
    · rw [isOverflown]
      dsimp only
      split <;> rfl
    · rw [isOverflown]
      dsimp only
      split <;> exact List.Sublist.refl _

/-! ## Every run -/

theorem latest_new (aMaxEvents : ℕ) : Latest getTime (Tracked.new aMaxEvents) := by
  refine ⟨sequenced_new aMaxEvents, List.Pairwise.nil, ?_, ?_, ?_, ?_, ?_⟩
  · exact fun _ x hx ↦ absurd hx List.not_mem_nil
  · exact fun _ _ ↦ rfl
  · exact fun w hw ↦ absurd hw List.not_mem_nil
  · exact fun w hw ↦ absurd hw List.not_mem_nil
  · exact fun w hw ↦ absurd hw List.not_mem_nil

/-- **The latest event of each index is kept**, in every run in which `Deselect` finds no selected
event of the same time as the unselected one of its index, except when a later event of the index is
put back as well: there is at most one unselected event for each index; there is one if any event
has come in since the index was last selected or dropped; it is one of these, and none of them has a
later time, or the same time and a later place in the order of the updates. -/
theorem latest (getTime : α → Int) {aMaxEvents : ℕ} {ops : List (BufferOp α)} {s : Tracked α}
    (hguard : Run.Guarded (Tracked.step (.single getTime)) (fun s op ↦ Settled getTime s.buffer op)
      (Tracked.new aMaxEvents) ops)
    (hrun : Run.run (Tracked.step (.single getTime)) (Tracked.new aMaxEvents) ops = some s) :
    s.buffer.mEventSet.Pairwise (fun a b ↦ a.mIndex ≠ b.mIndex) ∧
    (∀ i, s.recent i ≠ [] → ∃ e ∈ s.buffer.mEventSet, e.mIndex = i) ∧
    ∀ e ∈ s.buffer.mEventSet, e ∈ s.recent e.mIndex ∧
      ∀ x ∈ s.recent e.mIndex, getTime x.mValue < getTime e.mValue ∨
        getTime x.mValue = getTime e.mValue ∧ x.mSequence ≤ e.mSequence := by
  have hs : Latest getTime s :=
    Run.inv_of_guarded (fun s op t hs hg h ↦ latest_step hs hg h)
      (latest_new aMaxEvents) hguard hrun
  refine ⟨pairwise_index hs.sequenced.valid, ?_, ?_⟩
  · intro i hi
    by_contra hnone
    refine hi (hs.kept.none i fun w hw hindex ↦ ?_)
    exact hnone ⟨w, hw, hindex⟩
  · intro e he
    refine ⟨hs.kept.mem e he, fun x hx ↦ ?_⟩
    rcases hs.kept.greatest e he x hx with hlt | ⟨heq, hle | ⟨z, hz, -⟩⟩
    · exact .inl hlt
    · exact .inr ⟨heq, hle⟩
    · exact absurd hz List.not_mem_nil

/-- A counter at the times 5, 7 and 6; the first two are selected when the third comes in. -/
def putsBackLater : List (BufferOp Int) :=
  [.update 5 .class1 0, .select .class1 5, .update 7 .class1 0, .select .class1 5,
    .update 6 .class1 0, .deselect]

theorem latest_putsBackLater : ∃ s : Tracked Int,
    Run.run (Tracked.step (.single id)) (Tracked.new 3) putsBackLater = some s ∧
    s.buffer.mEventSet.Pairwise (fun a b ↦ a.mIndex ≠ b.mIndex) ∧
    (∀ i, s.recent i ≠ [] → ∃ e ∈ s.buffer.mEventSet, e.mIndex = i) ∧
    ∀ e ∈ s.buffer.mEventSet, e ∈ s.recent e.mIndex ∧
      ∀ x ∈ s.recent e.mIndex, id x.mValue < id e.mValue ∨
        id x.mValue = id e.mValue ∧ x.mSequence ≤ e.mSequence := by
  obtain ⟨s, hrun⟩ : ∃ s : Tracked Int,
      Run.run (Tracked.step (.single id)) (Tracked.new 3) putsBackLater = some s :=
    Option.isSome_iff_exists.mp (by decide +kernel)
  exact ⟨s, hrun, latest id (by decide +kernel) hrun⟩

/-- **An old event takes the place of a newer one**: a counter without times changes from 10 to 20
while the first value is selected, and `Deselect` puts 10 back in place of 20. -/
theorem latest_fails : ∃ s : Tracked Int,
    Run.run (Tracked.step (.single fun _ ↦ 0)) (Tracked.new 3)
      [.update 10 .class1 0, .select .class1 5, .update 20 .class1 0, .deselect] = some s ∧
    ∃ e ∈ s.buffer.mEventSet, e.mValue = 10 ∧ ∃ x ∈ s.recent e.mIndex, x.mValue = 20 ∧
      e.mSequence < x.mSequence :=
  ⟨_, rfl, _, List.mem_cons_self, rfl, _, List.mem_cons_self, rfl, by decide⟩

end EventBuffer

end OpenDNP3
