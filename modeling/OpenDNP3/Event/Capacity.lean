import OpenDNP3.Event.Buffer

/-!
# The capacity of event buffers

The overflow check looks at the unselected events only, and only when the user adds an event.

* `EventBuffer.HasRoom` — an update that adds an event while the buffer is full and some of its
  events are selected makes it larger than its capacity.
* `EventBuffer.capacity` — **in runs without such updates the buffer stays within its capacity**; in
  every run an update leaves no more unselected events than the capacity, or than there were, and a
  buffer that has lost an event is overflown until there is room again.
-/

set_option autoImplicit false

namespace OpenDNP3

namespace EventBuffer

variable {α : Type} {kind : BufferKind α} {s t : EventBuffer α}

/-! ## Sizes -/

/-- An update makes the set larger by at most one event, and keeps all else. -/
theorem Updates.frame {e : EventInfo α} (h : Updates kind s e t) :
    t.mEventSet.length ≤ s.mEventSet.length + 1 ∧ t.mMaxEvents = s.mMaxEvents ∧
      t.mSelectedEvents = s.mSelectedEvents ∧ t.mIsOverflown = s.mIsOverflown := by
  cases h with
  | adds hp _ => exact ⟨by simp [hp.length_eq], rfl, rfl, rfl⟩
  | swallows _ _ => exact ⟨Nat.le_succ _, rfl, rfl, rfl⟩
  | replaces _ _ _ hold hnew => exact ⟨by simp [hold.length_eq, hnew.length_eq], rfl, rfl, rfl⟩
  | keeps _ _ _ _ => exact ⟨Nat.le_succ _, rfl, rfl, rfl⟩

/-- There is an unselected event with this index, and the set holds one event for each index. -/
def Holds (kind : BufferKind α) (s : EventBuffer α) (aIndex : ℕ) : Prop :=
  match kind with
  | .single _ => ∃ e ∈ s.mEventSet, e.mIndex = aIndex
  | .timeOrdered _ | .insertionOrdered => False

instance (kind : BufferKind α) (s : EventBuffer α) (aIndex : ℕ) : Decidable (Holds kind s aIndex) :=
  match kind with
  | .single _ => inferInstanceAs (Decidable (∃ e ∈ s.mEventSet, e.mIndex = aIndex))
  | .timeOrdered _ | .insertionOrdered => inferInstanceAs (Decidable False)

/-- An update of an index that the set holds adds no event. -/
theorem Updates.length_of_holds {e : EventInfo α} (h : Updates kind s e t)
    (hholds : Holds kind s e.mIndex) : t.mEventSet.length = s.mEventSet.length := by
  cases h with
  | adds hp hother =>
    cases kind with
    | single getTime =>
      obtain ⟨x, hx, hindex⟩ := hholds
      exact absurd hindex (hother getTime rfl x hx)
    | timeOrdered _ => exact hholds.elim
    | insertionOrdered => exact hholds.elim
  | swallows _ _ => rfl
  | replaces _ _ _ hold hnew => simp [hold.length_eq, hnew.length_eq]
  | keeps _ _ _ _ => rfl

/-- `Deselect` puts all back, at most. -/
theorem size_deselect (hs : kind.Valid s.mEventSet) :
    (s.deselect kind).size ≤ s.size ∧ (s.deselect kind).mMaxEvents = s.mMaxEvents ∧
      (s.deselect kind).mIsOverflown = s.mIsOverflown := by
  have hloop : kind.Valid (s.mSelectedEvents.foldl (updateOld kind) s).mEventSet ∧ _ :=
    foldl_updateOld (P := fun l u ↦ kind.Valid u.mEventSet ∧
      u.mEventSet.length + l.length ≤ s.size ∧ u.mMaxEvents = s.mMaxEvents ∧
        u.mIsOverflown = s.mIsOverflown) ?_ ⟨hs, by rw [size]; omega, rfl, rfl⟩
  · obtain ⟨-, hlen, hmax, hflag⟩ := hloop
    refine ⟨?_, hmax, hflag⟩
    rw [size, deselect]
    simpa using hlen
  · rintro e l u ⟨hu, hlen, hmax, hflag⟩
    have hu : kind.Valid { u with mSequence := u.nextSequence }.mEventSet := hu
    obtain ⟨hle, hmax', -, hflag'⟩ := (kindUpdate_updates hu e).frame
    refine ⟨valid_kindUpdate hu e, ?_, hmax'.trans hmax, hflag'.trans hflag⟩
    have hle : (u.updateOld kind e).mEventSet.length ≤ u.mEventSet.length + 1 := hle
    rw [List.length_cons] at hlen
    omega

/-! ## Room

An event is added without looking at the room there is, and what is too much is dropped. Selected
events are not dropped, so with them the buffer may hold more than its maximum. -/

/-- **The condition** on an update: the buffer is not full, or nothing is selected, or the update
adds no event. -/
def HasRoom (kind : BufferKind α) (s : EventBuffer α) : BufferOp α → Prop
  | .update _ _ aIndex => s.size < s.mMaxEvents ∨ s.mSelectedEvents = [] ∨ Holds kind s aIndex
  | _ => True

instance (kind : BufferKind α) (s : EventBuffer α) (op : BufferOp α) :
    Decidable (HasRoom kind s op) :=
  match op with
  | .update _ _ aIndex =>
    haveI : Decidable (s.mSelectedEvents = []) := decidable_of_iff _ List.isEmpty_iff
    inferInstanceAs (Decidable
      (s.size < s.mMaxEvents ∨ s.mSelectedEvents = [] ∨ Holds kind s aIndex))
  | .select _ _ | .deselect | .clearWrittenEvents | .markWritten _ | .isOverflown =>
    inferInstanceAs (Decidable True)

theorem isOverflown_frame : s.isOverflown.2.mMaxEvents = s.mMaxEvents ∧
    s.isOverflown.2.size = s.size := by
  rw [isOverflown]
  dsimp only
  split <;> exact ⟨rfl, rfl⟩

theorem size_markWritten (aPosition : ℕ) : (s.markWritten aPosition).size = s.size := by
  simp [size, markWritten]

theorem size_clearWrittenEvents : s.clearWrittenEvents.size ≤ s.size := by
  have hle := (List.dropWhile_sublist (l := s.mSelectedEvents) (·.mWritten)).length_le
  rw [size, size, clearWrittenEvents]
  dsimp only
  omega

/-- The capacity never changes. -/
theorem mMaxEvents_step {op : BufferOp α} (hs : kind.Valid s.mEventSet)
    (h : s.step kind op = some t) : t.mMaxEvents = s.mMaxEvents := by
  cases performs_of_step hs h with
  | updates hu _ _ => exact hu.frame.2.1
  | overflows hu _ _ _ _ => exact hu.frame.2.1
  | selects _ _ _ _ _ _ => rfl
  | deselects => exact (size_deselect hs).2.1
  | clears => rfl
  | marks => rfl
  | asks => exact isOverflown_frame.1

/-- **One operation** that finds room keeps the buffer within its capacity. -/
theorem size_step {op : BufferOp α} (hs : kind.Valid s.mEventSet) (hsize : s.size ≤ s.mMaxEvents)
    (hroom : HasRoom kind s op) (h : s.step kind op = some t) : t.size ≤ t.mMaxEvents := by
  -- a full buffer takes one more event only if all its events are unselected
  have hone {e : EventInfo α} {u : EventBuffer α} (h : Updates kind s.numbered e u)
      (hroom : s.size < s.mMaxEvents ∨ s.mSelectedEvents = [] ∨ Holds kind s e.mIndex) :
      u.mMaxEvents = s.mMaxEvents ∧ (u.size ≤ u.mMaxEvents ∨
        u.mSelectedEvents = [] ∧ u.mEventSet.length ≤ u.mMaxEvents + 1) := by
    obtain ⟨hle, hmax, hsel, -⟩ := h.frame
    have hle : u.mEventSet.length ≤ s.mEventSet.length + 1 := hle
    have hmax : u.mMaxEvents = s.mMaxEvents := hmax
    have hsel : u.mSelectedEvents = s.mSelectedEvents := hsel
    have hsum : s.size = s.mSelectedEvents.length + s.mEventSet.length := rfl
    refine ⟨hmax, ?_⟩
    rw [size, hmax, hsel]
    rcases hroom with hlt | hnil | hholds
    · left
      omega
    · right
      rw [hnil] at hsum
      exact ⟨hnil, by simp at hsum; omega⟩
    · left
      have heq : u.mEventSet.length = s.mEventSet.length := h.length_of_holds hholds
      omega
  cases performs_of_step hs h with
  | updates hu _ hle =>
    obtain ⟨hmax, hfits | ⟨hnil, hlen⟩⟩ := hone hu hroom
    · exact hfits
    · rw [size, hnil, List.length_nil, Nat.zero_add]
      exact hle
  | @overflows v c i t e rest n hu _ hlt hset _ =>
    obtain ⟨hmax, hfits | ⟨hnil, hlen⟩⟩ := hone hu hroom
    · rw [size, hset, List.length_cons] at hfits
      exact Nat.le_trans (Nat.add_le_add_left (Nat.le_succ _) _) hfits
    · rw [hset, List.length_cons] at hlen
      rw [size]
      dsimp only
      rw [hnil]
      simpa using hlen
  | selects hp _ _ _ _ _ =>
    have hlen := hp.length_eq
    rw [size] at hsize ⊢
    simp only [List.length_append, List.length_map] at hlen ⊢
    omega
  | deselects =>
    obtain ⟨hle, hmax, -⟩ := size_deselect hs
    rw [hmax]
    exact Nat.le_trans hle hsize
  | clears => exact Nat.le_trans size_clearWrittenEvents hsize
  | marks =>
    rw [size_markWritten]
    exact hsize
  | asks =>
    rw [isOverflown_frame.1, isOverflown_frame.2]
    exact hsize

/-! ## The unselected events -/

/-- **An update** leaves no more unselected events than the capacity, or than there were. -/
theorem numUnselected_update {v : α} {c : PointClass} {i : ℕ} (hs : kind.Valid s.mEventSet)
    (h : s.step kind (.update v c i) = some t) :
    t.numUnselected ≤ max s.mMaxEvents s.numUnselected := by
  cases performs_of_step hs h with
  | updates hu _ hle =>
    rw [hu.frame.2.1] at hle
    exact Nat.le_trans hle (Nat.le_max_left _ _)
  | @overflows _ _ _ t e rest n hu _ _ hset _ =>
    have hle := hu.frame.1
    rw [hset, List.length_cons] at hle
    exact Nat.le_trans (Nat.le_of_succ_le_succ hle) (Nat.le_max_right _ _)

/-! ## The overflow flag

The flag is set when an event is lost for want of room. -/

/-- An update that costs an event. -/
def loses (kind : BufferKind α) (s : EventBuffer α) : BufferOp α → Bool
  | .update v c i => s.mMaxEvents < (s.numbered.kindUpdate kind (s.newEvent v c i)).numUnselected
  | _ => false

/-- There is no room. -/
def Full (s : EventBuffer α) (_op : BufferOp α) : Prop := s.mMaxEvents ≤ s.size

instance (s : EventBuffer α) (op : BufferOp α) : Decidable (Full s op) :=
  inferInstanceAs (Decidable (_ ≤ _))

/-- An event that is lost sets the flag. -/
theorem mIsOverflown_of_loses {op : BufferOp α} (hs : kind.Valid s.mEventSet)
    (hloses : loses kind s op = true) (h : s.step kind op = some t) : t.mIsOverflown = true := by
  cases op with
  | update v c i =>
    have hlt : s.mMaxEvents < (s.numbered.kindUpdate kind (s.newEvent v c i)).numUnselected :=
      of_decide_eq_true hloses
    have hs' : kind.Valid s.numbered.mEventSet := hs
    have hmax := (kindUpdate_updates hs' (s.newEvent v c i)).frame.2.1
    have h : (s.numbered.kindUpdate kind (s.newEvent v c i)).dropOverflow.toOption = some t := h
    cases hdrop : (s.numbered.kindUpdate kind (s.newEvent v c i)).dropOverflow with
    | error ex =>
      rw [hdrop] at h
      exact absurd h (by simp [Except.toOption])
    | ok u =>
      rw [hdrop] at h
      obtain rfl : u = t := Option.some.inj h
      rcases dropOverflow_spec hdrop with ⟨hle, -⟩ | ⟨-, e, rest, n, -, -, rfl⟩
      · rw [hmax] at hle
        exact absurd hlt (Nat.not_lt.mpr hle)
      · rfl
  | _ => exact Bool.noConfusion hloses

/-- As long as there is no room, the flag stays. -/
theorem mIsOverflown_step {op : BufferOp α} (hs : kind.Valid s.mEventSet)
    (hflag : s.mIsOverflown = true) (hfull : Full s op) (h : s.step kind op = some t) :
    t.mIsOverflown = true := by
  cases performs_of_step hs h with
  | updates hu _ _ => exact hu.frame.2.2.2.trans hflag
  | overflows _ _ _ _ _ => rfl
  | selects _ _ _ _ _ _ => exact hflag
  | deselects => exact (size_deselect hs).2.2.trans hflag
  | clears => exact hflag
  | marks => exact hflag
  | asks =>
    have hfull : ¬s.size < s.mMaxEvents := Nat.not_lt.mpr hfull
    simp [isOverflown, hfull, hflag]

/-! ## Every run -/

theorem mMaxEvents_run {ops : List (BufferOp α)} (hs : kind.Valid s.mEventSet)
    (h : Run.run (step kind) s ops = some t) : t.mMaxEvents = s.mMaxEvents := by
  refine (Run.inv_of_run (I := fun u ↦ kind.Valid u.mEventSet ∧ u.mMaxEvents = s.mMaxEvents)
    (fun u _ _ hu h ↦ ?_) ⟨hs, rfl⟩ h).2
  exact ⟨valid_step hu.1 h, (mMaxEvents_step hu.1 h).trans hu.2⟩

/-- **The capacity of a buffer**, for runs from the empty one: if every update that adds an event
finds the buffer not full, or nothing selected, then the buffer stays within its capacity; an update
leaves no more unselected events than the capacity, or than there were; and while there has been no
room since an event was lost, the buffer is overflown. -/
theorem capacity (kind : BufferKind α) {aMaxEvents : ℕ} {ops : List (BufferOp α)}
    (hrun : Run.run (step kind) (new aMaxEvents) ops = some s) :
    (Run.Guarded (step kind) (HasRoom kind) (new aMaxEvents) ops →
      s.size ≤ aMaxEvents ∧ s.size + s.numAvailable = aMaxEvents) ∧
    (∀ v c i t, s.step kind (.update v c i) = some t →
      t.numUnselected ≤ max aMaxEvents s.numUnselected) ∧
    ∀ op t ops' u, loses kind s op = true → s.step kind op = some t →
      Run.Guarded (step kind) Full t ops' → Run.run (step kind) t ops' = some u →
      aMaxEvents ≤ u.size → u.isOverflown.1 = true := by
  have hs := valid_run (valid_new aMaxEvents) hrun
  have hmax : s.mMaxEvents = aMaxEvents := mMaxEvents_run (valid_new aMaxEvents) hrun
  refine ⟨?_, ?_, ?_⟩
  · intro hguard
    have hsize := Run.inv_of_guarded
      (I := fun u ↦ kind.Valid u.mEventSet ∧ u.size ≤ u.mMaxEvents)
      (fun u op t hu hg h ↦ ⟨valid_step hu.1 h, size_step hu.1 hu.2 hg h⟩)
      ⟨valid_new aMaxEvents, Nat.zero_le _⟩ hguard hrun
    have hsize := hmax ▸ hsize.2
    refine ⟨hsize, ?_⟩
    rw [numAvailable, hmax]
    omega
  · intro v c i t h
    exact hmax ▸ numUnselected_update hs h
  · intro op t ops' u hloses h hguard hrun' hfull
    have ht := valid_step hs h
    have hflag := (Run.inv_of_guarded
      (I := fun u ↦ kind.Valid u.mEventSet ∧ u.mIsOverflown = true)
      (fun u op t hu hg h ↦ ⟨valid_step hu.1 h, mIsOverflown_step hu.1 hu.2 hg h⟩)
      ⟨ht, mIsOverflown_of_loses hs hloses h⟩ hguard hrun').2
    have hmax' : u.mMaxEvents = aMaxEvents :=
      (mMaxEvents_run ht hrun').trans ((mMaxEvents_step hs h).trans hmax)
    have hfull : ¬u.size < u.mMaxEvents := by
      rw [hmax']
      exact Nat.not_lt.mpr hfull
    simp [isOverflown, hfull, hflag]

/-- A buffer for two events, in the order in which they come: both are selected, one is written and
cleared, and there is room for another. -/
def selectAndClear : List (BufferOp Char) :=
  [.update 'a' .class1 0, .update 'b' .class2 1, .select .allEvents 2, .markWritten 0,
    .clearWrittenEvents, .update 'c' .class1 0]

theorem capacity_selectAndClear : ∃ s,
    Run.run (step .insertionOrdered) (new 2) selectAndClear = some s ∧
      s.size ≤ 2 ∧ s.size + s.numAvailable = 2 := by
  obtain ⟨s, hrun⟩ : ∃ s, Run.run (step .insertionOrdered) (new 2) selectAndClear = some s :=
    Option.isSome_iff_exists.mp (by decide +kernel)
  exact ⟨s, hrun, (capacity .insertionOrdered hrun).1 (by decide +kernel)⟩

/-- **Selected events do not count towards the capacity**: a buffer for one event holds two. -/
theorem capacity_exceeded : ∃ s,
    Run.run (step (.insertionOrdered : BufferKind Char)) (new 1)
      [.update 'a' .class1 0, .select .allEvents 1, .update 'b' .class1 0] = some s ∧
    s.mMaxEvents = 1 ∧ s.size = 2 := ⟨_, rfl, rfl, rfl⟩

end EventBuffer

end OpenDNP3
