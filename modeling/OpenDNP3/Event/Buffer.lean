import OpenDNP3.APL.Exception
import OpenDNP3.Lib.OrderedSet
import OpenDNP3.Lib.Run

/-!
# Event buffers

An event buffer of the outstation holds the events of one kind of measurement: the unselected ones
in an ordered set, and those selected for a response in a vector.  `Select` moves events from the
set to the vector, `Deselect` puts them back, and `ClearWrittenEvents` removes the written ones from
the front of the vector.

There are three kinds of buffers (`BufferKind`): one event for each index, all events by time, all
events in the order in which they were inserted.  They differ in the comparison of the set, and the
first in `_Update`.

* `EventBuffer` and its operations — `EventBufferBase` and `SingleEventBuffer`.
* `EventBuffer.step` — one operation of a user, who may also mark a selected event as written.
* `EventBuffer.Updates`, `EventBuffer.dropOverflow_spec` and `EventBuffer.selectLoop_spec` — all
  that `_Update`, the overflow and the loop of `Select` do.
-/

set_option autoImplicit false

namespace OpenDNP3

open OrderedSet

/-! ## Classes -/

/-- `PointClass`, a set of bits. -/
abbrev PointClass := BitVec 8

namespace PointClass

/-- `PC_CLASS_0` -/
def class0 : PointClass := 0x01
/-- `PC_CLASS_1` -/
def class1 : PointClass := 0x02
/-- `PC_CLASS_2` -/
def class2 : PointClass := 0x04
/-- `PC_CLASS_3` -/
def class3 : PointClass := 0x08
/-- `PC_ALL_EVENTS` -/
def allEvents : PointClass := class1 ||| class2 ||| class3

/-- The classes of events. -/
def IsEvent (c : PointClass) : Prop := c = class1 ∨ c = class2 ∨ c = class3

instance (c : PointClass) : Decidable c.IsEvent := inferInstanceAs (Decidable (_ ∨ _ ∨ _))

end PointClass

/-- `ClassCounter` -/
structure ClassCounter where
  mNumClass1 : ℕ := 0
  mNumClass2 : ℕ := 0
  mNumClass3 : ℕ := 0
  deriving DecidableEq, Repr

namespace ClassCounter

/-- `GetNum` -/
def getNum (n : ClassCounter) (aClass : PointClass) : ℕ :=
  if aClass = .class1 then n.mNumClass1
  else if aClass = .class2 then n.mNumClass2
  else if aClass = .class3 then n.mNumClass3
  else if aClass = .allEvents then n.mNumClass1 + n.mNumClass2 + n.mNumClass3
  else 0

/-- `IncrCount` -/
def incrCount (n : ClassCounter) (aClass : PointClass) : ClassCounter :=
  if aClass = .class1 then { n with mNumClass1 := n.mNumClass1 + 1 }
  else if aClass = .class2 then { n with mNumClass2 := n.mNumClass2 + 1 }
  else if aClass = .class3 then { n with mNumClass3 := n.mNumClass3 + 1 }
  else n

/-- `DecrCount` -/
def decrCount (n : ClassCounter) (aClass : PointClass) : Except Exception ClassCounter := do
  if aClass = .class1 then
    assert "mNumClass1 > 0" (n.mNumClass1 > 0)
    return { n with mNumClass1 := n.mNumClass1 - 1 }
  else if aClass = .class2 then
    assert "mNumClass2 > 0" (n.mNumClass2 > 0)
    return { n with mNumClass2 := n.mNumClass2 - 1 }
  else if aClass = .class3 then
    assert "mNumClass3 > 0" (n.mNumClass3 > 0)
    return { n with mNumClass3 := n.mNumClass3 - 1 }
  else return n

end ClassCounter

/-! ## Events

An `std::set` is a list that is sorted by the comparison, without two elements that the
comparison does not tell apart. -/

/-- `EventInfo`, an event with a measurement of type `α`. -/
structure EventInfo (α : Type) where
  mValue : α
  mClass : PointClass
  mIndex : ℕ
  mSequence : ℕ := 0
  mWritten : Bool := false
  deriving DecidableEq, Repr

/-- The kinds of event buffers, the first two with `GetTime` of the measurements. -/
inductive BufferKind (α : Type) where
  /-- `SingleEventBuffer` -/
  | single (getTime : α → Int)
  /-- `TimeOrderedEventBuffer` -/
  | timeOrdered (getTime : α → Int)
  /-- `InsertionOrderedEventBuffer` -/
  | insertionOrdered

namespace BufferKind

variable {α : Type}

/-- The comparison of the set: `LessThanByIndex`, `LessThanByTime`, `InsertionOrder`. -/
def lessThan : BufferKind α → EventInfo α → EventInfo α → Bool
  | .single _, a, b => a.mIndex < b.mIndex
  | .timeOrdered getTime, a, b => getTime a.mValue < getTime b.mValue
  | .insertionOrdered, a, b => a.mSequence < b.mSequence

/-- `insert` of the set, which is an `std::multiset` when it is ordered by time. -/
def insert (kind : BufferKind α) (e : EventInfo α) (set : List (EventInfo α)) :
    List (EventInfo α) :=
  match kind with
  | .timeOrdered _ => insertMulti kind.lessThan e set
  | .single _ | .insertionOrdered => insertUnique kind.lessThan e set

/-- **The elements of an `std::set` are different from each other.** -/
def Valid (kind : BufferKind α) (set : List (EventInfo α)) : Prop :=
  match kind with
  | .timeOrdered _ => True
  | .single _ | .insertionOrdered => Distinct kind.lessThan set

theorem Valid.sublist {kind : BufferKind α} {l l' : List (EventInfo α)} (h : kind.Valid l)
    (hl : l'.Sublist l) : kind.Valid l' := by
  cases kind with
  | timeOrdered _ => trivial
  | single _ => exact List.Pairwise.sublist hl h
  | insertionOrdered => exact List.Pairwise.sublist hl h

theorem Valid.insert {kind : BufferKind α} {set : List (EventInfo α)} (h : kind.Valid set)
    (e : EventInfo α) : kind.Valid (kind.insert e set) := by
  cases kind with
  | timeOrdered _ => trivial
  | single _ => exact Distinct.insertUnique h e
  | insertionOrdered => exact Distinct.insertUnique h e

end BufferKind

/-! ## The buffer

An event is unselected, in the set, or selected for a response that is under way. `Deselect` puts
the selected events that were not written back into the set. -/

/-- `EventBufferBase`.  The sequence number does not overflow here; it starts again from zero
whenever the buffer is empty. -/
structure EventBuffer (α : Type) where
  mCounter : ClassCounter
  /-- `M_MAX_EVENTS` -/
  mMaxEvents : ℕ
  mSequence : ℕ
  mIsOverflown : Bool
  mSelectedEvents : List (EventInfo α)
  mEventSet : List (EventInfo α)

namespace EventBuffer

variable {α : Type} (kind : BufferKind α)

/-- The constructor. -/
def new (aMaxEvents : ℕ) : EventBuffer α where
  mCounter := {}
  mMaxEvents := aMaxEvents
  mSequence := 0
  mIsOverflown := false
  mSelectedEvents := []
  mEventSet := []

section Members

variable (s : EventBuffer α)

/-- `HasClassData` -/
def hasClassData (aClass : PointClass) : Bool := s.mCounter.getNum aClass > 0

/-- `NumSelected` -/
def numSelected : ℕ := s.mSelectedEvents.length

/-- `NumUnselected` -/
def numUnselected : ℕ := s.mEventSet.length

/-- `Size` -/
def size : ℕ := s.mSelectedEvents.length + s.mEventSet.length

/-- `NumAvailable`, as long as it does not wrap. -/
def numAvailable : ℕ := s.mMaxEvents - s.size

/-- `IsFull` -/
def isFull : Bool := s.numUnselected ≥ s.mMaxEvents

/-- `_Update` of `EventBufferBase` -/
def baseUpdate (arEvent : EventInfo α) : EventBuffer α :=
  { s with
    mCounter := s.mCounter.incrCount arEvent.mClass
    mEventSet := kind.insert arEvent s.mEventSet }

/-- `_Update` of `SingleEventBuffer` -/
def singleUpdate (getTime : α → Int) (arEvent : EventInfo α) : EventBuffer α :=
  match find kind.lessThan arEvent s.mEventSet with
  | some e =>
    if getTime arEvent.mValue ≥ getTime e.mValue then
      { s with mEventSet := kind.insert arEvent (erase kind.lessThan arEvent s.mEventSet) }
    else s
  | none =>
    { s with
      mEventSet := kind.insert arEvent s.mEventSet
      mCounter := s.mCounter.incrCount arEvent.mClass }

/-- `_Update` -/
def kindUpdate (arEvent : EventInfo α) : EventBuffer α :=
  match kind with
  | .single getTime => s.singleUpdate kind getTime arEvent
  | .timeOrdered _ | .insertionOrdered => s.baseUpdate kind arEvent

/-- `mSequence`, which starts again from zero when the buffer is empty. -/
def nextSequence : ℕ := if s.size = 0 then 0 else s.mSequence

/-- `Update` of an event that is put back. -/
def updateOld (arEvent : EventInfo α) : EventBuffer α :=
  { s with mSequence := s.nextSequence }.kindUpdate kind arEvent

/-- `Update` of a new event, which gets the next sequence number. -/
def updateNew (arEvent : EventInfo α) : EventBuffer α :=
  { s with mSequence := s.nextSequence + 1 }.kindUpdate kind
    { arEvent with mSequence := s.nextSequence }

/-- What the public `Update` does after it: more events than there is room for cost the first
one. -/
def dropOverflow : Except Exception (EventBuffer α) :=
  if s.numUnselected > s.mMaxEvents then
    match s.mEventSet with
    | e :: rest => do
      let mCounter ← s.mCounter.decrCount e.mClass
      return { s with mIsOverflown := true, mCounter := mCounter, mEventSet := rest }
    | [] => .ok { s with mIsOverflown := true }
  else .ok s

/-- `Update`, the public one. -/
def update (arVal : α) (aClass : PointClass) (aIndex : ℕ) : Except Exception (EventBuffer α) :=
  (s.updateNew kind { mValue := arVal, mClass := aClass, mIndex := aIndex }).dropOverflow

/-- `Deselect` -/
def deselect : EventBuffer α :=
  { s.mSelectedEvents.foldl (updateOld kind) s with mSelectedEvents := [] }

/-- `IsOverflown`, and the buffer after it. -/
def isOverflown : Bool × EventBuffer α :=
  let s := if s.mIsOverflown && s.size < s.mMaxEvents then { s with mIsOverflown := false } else s
  (s.mIsOverflown, s)

/-- `ClearWrittenEvents` -/
def clearWrittenEvents : EventBuffer α :=
  { s with mSelectedEvents := s.mSelectedEvents.dropWhile (·.mWritten) }

end Members

/-- The loop of `Select`, over the part of the set that is left, when so many events may still be
selected: the counter, what is selected, and what stays. -/
def selectLoop (aClass : PointClass) :
    ℕ → ClassCounter → List (EventInfo α) →
      Except Exception (ClassCounter × List (EventInfo α) × List (EventInfo α))
  | _, n, [] => .ok (n, [], [])
  | 0, n, set => .ok (n, [], set)
  | k + 1, n, e :: set =>
    if e.mClass &&& aClass ≠ 0 then do
      let n ← n.decrCount e.mClass
      let (n, selected, kept) ← selectLoop aClass k n set
      return (n, { e with mWritten := false } :: selected, kept)
    else do
      let (n, selected, kept) ← selectLoop aClass (k + 1) n set
      return (n, selected, e :: kept)

/-- `Select` -/
def select (s : EventBuffer α) (aClass : PointClass) (aMaxEvent : ℕ) :
    Except Exception (EventBuffer α) := do
  let (n, selected, kept) ← selectLoop aClass aMaxEvent s.mCounter s.mEventSet
  return { s with
    mCounter := n
    mSelectedEvents := s.mSelectedEvents ++ selected
    mEventSet := kept }

/-- A user marks the selected event at this position as written, through the iterator of `Begin`. -/
def markWritten (s : EventBuffer α) (aPosition : ℕ) : EventBuffer α :=
  { s with
    mSelectedEvents := s.mSelectedEvents.modify aPosition fun e ↦ { e with mWritten := true } }

/-! ## Runs -/

end EventBuffer

/-- What a user does with a buffer. -/
inductive BufferOp (α : Type) where
  | update (arVal : α) (aClass : PointClass) (aIndex : ℕ)
  | select (aClass : PointClass) (aMaxEvent : ℕ)
  | deselect
  | clearWrittenEvents
  | markWritten (aPosition : ℕ)
  | isOverflown
  deriving DecidableEq

namespace EventBuffer

variable {α : Type} (kind : BufferKind α) (s : EventBuffer α)

/-- **One operation**. -/
def perform : BufferOp α → Except Exception (EventBuffer α)
  | .update arVal aClass aIndex => s.update kind arVal aClass aIndex
  | .select aClass aMaxEvent => s.select aClass aMaxEvent
  | .deselect => .ok (s.deselect kind)
  | .clearWrittenEvents => .ok s.clearWrittenEvents
  | .markWritten aPosition => .ok (s.markWritten aPosition)
  | .isOverflown => .ok s.isOverflown.2

/-- The buffer after an operation; a failed assertion ends the program. -/
def step (op : BufferOp α) : Option (EventBuffer α) := (s.perform kind op).toOption


/-! ## What an update does

An update adds an event, or takes the place of an older one of the same point. Which one it is
depends on the kind of buffer. -/

/-- **All that `_Update` does** with an event. -/
inductive Updates (e : EventInfo α) : EventBuffer α → Prop
  /-- The event comes in addition. -/
  | adds {set : List (EventInfo α)} (hp : set.Perm (e :: s.mEventSet))
      (hother : ∀ getTime, kind = .single getTime → ∀ x ∈ s.mEventSet, x.mIndex ≠ e.mIndex) :
      Updates e { s with mCounter := s.mCounter.incrCount e.mClass, mEventSet := set }
  /-- There is an event with the same sequence number. -/
  | swallows (hkind : kind = .insertionOrdered)
      (hsame : ∃ x ∈ s.mEventSet, x.mSequence = e.mSequence) :
      Updates e { s with mCounter := s.mCounter.incrCount e.mClass }
  /-- It takes the place of the event with its index. -/
  | replaces {getTime : α → Int} {x : EventInfo α} {set rest : List (EventInfo α)}
      (hkind : kind = .single getTime) (hindex : x.mIndex = e.mIndex)
      (htime : getTime x.mValue ≤ getTime e.mValue) (hold : s.mEventSet.Perm (x :: rest))
      (hnew : set.Perm (e :: rest)) : Updates e { s with mEventSet := set }
  /-- The event with its index is later. -/
  | keeps {getTime : α → Int} {x : EventInfo α} (hkind : kind = .single getTime)
      (hindex : x.mIndex = e.mIndex) (htime : getTime e.mValue < getTime x.mValue)
      (hmem : x ∈ s.mEventSet) : Updates e s

variable {kind} {s}

theorem same_single {getTime : α → Int} {a b : EventInfo α} :
    same (BufferKind.single getTime).lessThan a b = true ↔ b.mIndex = a.mIndex := by
  simp only [same, BufferKind.lessThan, Bool.and_eq_true, Bool.not_eq_true',
    decide_eq_false_iff_not]
  omega

theorem same_insertionOrdered {a b : EventInfo α} :
    same (BufferKind.insertionOrdered : BufferKind α).lessThan a b = true ↔
      b.mSequence = a.mSequence := by
  simp only [same, BufferKind.lessThan, Bool.and_eq_true, Bool.not_eq_true',
    decide_eq_false_iff_not]
  omega

theorem baseUpdate_updates (hkind : ∀ getTime, kind ≠ .single getTime) (e : EventInfo α) :
    Updates kind s e (s.baseUpdate kind e) := by
  have hother : ∀ getTime, kind = .single getTime → ∀ x ∈ s.mEventSet, x.mIndex ≠ e.mIndex :=
    fun getTime h ↦ absurd h (hkind getTime)
  cases kind with
  | single getTime => exact absurd rfl (hkind getTime)
  | timeOrdered getTime => exact .adds (perm_insertMulti e s.mEventSet) hother
  | insertionOrdered =>
    cases hany : s.mEventSet.any (same (BufferKind.insertionOrdered : BufferKind α).lessThan e) with
    | true =>
      obtain ⟨x, hx, hsame⟩ := List.any_eq_true.mp hany
      have hswallows : Updates (.insertionOrdered : BufferKind α) s e
          { s with mCounter := s.mCounter.incrCount e.mClass } :=
        .swallows rfl ⟨x, hx, same_insertionOrdered.mp hsame⟩
      rw [baseUpdate, BufferKind.insert, insertUnique_of_any hany]
      exact hswallows
    | false => exact .adds (perm_insertUnique hany) hother

theorem singleUpdate_updates {getTime : α → Int} (hkind : kind = .single getTime)
    (hs : kind.Valid s.mEventSet) (e : EventInfo α) :
    Updates kind s e (s.singleUpdate kind getTime e) := by
  subst hkind
  rw [singleUpdate]
  cases hfind : find (BufferKind.single getTime).lessThan e s.mEventSet with
  | none =>
    have hany := find_eq_none.mp hfind
    refine .adds (perm_insertUnique hany) ?_
    intro _ _ x hx hindex
    exact List.any_eq_false.mp hany x hx (same_single.mpr hindex)
  | some x =>
    have hindex := same_single.mp (same_of_find hfind)
    dsimp only
    by_cases htime : getTime e.mValue ≥ getTime x.mValue
    · have hold := perm_of_find hfind
      -- the others have other indices
      have hany : (erase (BufferKind.single getTime).lessThan e s.mEventSet).any
          (same (BufferKind.single getTime).lessThan e) = false := by
        have hdistinct : Distinct _ _ := Distinct.perm hs hold
        refine List.any_eq_false.mpr fun y hy hsame ↦ ?_
        have hxy := (List.pairwise_cons.mp hdistinct).1 y hy
        have hy := same_single.mp hsame
        rw [same_single.mpr (hy.trans hindex.symm)] at hxy
        exact Bool.noConfusion hxy
      rw [if_pos htime]
      exact .replaces rfl hindex htime hold (perm_insertUnique hany)
    · rw [if_neg htime]
      exact .keeps rfl hindex (Int.not_le.mp htime) (mem_of_find hfind)

/-- **`_Update` does one of these things.** -/
theorem kindUpdate_updates (hs : kind.Valid s.mEventSet) (e : EventInfo α) :
    Updates kind s e (s.kindUpdate kind e) := by
  cases kind with
  | single getTime => exact singleUpdate_updates rfl hs e
  | timeOrdered getTime => exact baseUpdate_updates (by simp) e
  | insertionOrdered => exact baseUpdate_updates (by simp) e

theorem valid_kindUpdate (hs : kind.Valid s.mEventSet) (e : EventInfo α) :
    kind.Valid (s.kindUpdate kind e).mEventSet := by
  cases kind with
  | timeOrdered getTime => trivial
  | insertionOrdered => exact hs.insert e
  | single getTime =>
    rw [kindUpdate, singleUpdate]
    split
    · split
      · exact BufferKind.Valid.insert (hs.sublist List.eraseP_sublist) e
      · exact hs
    · exact hs.insert e

/-! ## Overflow and selection -/

/-- **What the overflow costs**: nothing, or the first of the unselected events. -/
theorem dropOverflow_spec {t : EventBuffer α} (h : s.dropOverflow = .ok t) :
    s.numUnselected ≤ s.mMaxEvents ∧ t = s ∨
    s.mMaxEvents < s.numUnselected ∧ ∃ e rest n, s.mEventSet = e :: rest ∧
      s.mCounter.decrCount e.mClass = .ok n ∧
      t = { s with mIsOverflown := true, mCounter := n, mEventSet := rest } := by
  rw [dropOverflow] at h
  split at h
  · next hlt =>
    split at h
    · next e rest hset =>
      cases hn : s.mCounter.decrCount e.mClass with
      | error ex =>
        rw [hn] at h
        cases h
      | ok n =>
        rw [hn] at h
        cases h
        exact .inr ⟨hlt, e, rest, n, hset, hn, rfl⟩
    · next hset =>
      rw [numUnselected, hset] at hlt
      exact absurd hlt (Nat.not_lt_zero _)
  · next hle =>
    cases h
    exact .inl ⟨Nat.not_lt.mp hle, rfl⟩

/-- The counter without the classes of these events. -/
def decrAll : List (EventInfo α) → ClassCounter → Except Exception ClassCounter
  | [], n => .ok n
  | e :: es, n => do
    let n ← n.decrCount e.mClass
    decrAll es n

/-- An event that is selected is not written yet. -/
def unwritten (e : EventInfo α) : EventInfo α := { e with mWritten := false }

/-- **What the loop of `Select` does**: it picks the first events of the class, as many as are
allowed, and leaves the others. -/
theorem selectLoop_spec {aClass : PointClass} {k : ℕ} {n n' : ClassCounter}
    {set selected kept : List (EventInfo α)}
    (h : selectLoop aClass k n set = .ok (n', selected, kept)) :
    ∃ picked, picked = (set.filter (·.mClass &&& aClass ≠ 0)).take k ∧
      set.Perm (picked ++ kept) ∧ selected = picked.map unwritten ∧ picked.Sublist set ∧
      kept.Sublist set ∧ picked.length ≤ k ∧ (∀ e ∈ picked, e.mClass &&& aClass ≠ 0) ∧
      decrAll picked n = .ok n' := by
  induction set generalizing k n n' selected kept with
  | nil =>
    rw [selectLoop] at h
    cases h
    exact ⟨[], List.take_nil.symm, .refl _, rfl, .refl _, .refl _, Nat.zero_le k, by simp, rfl⟩
  | cons e set ih =>
    cases k with
    | zero =>
      rw [selectLoop] at h
      · cases h
        exact ⟨[], rfl, .refl _, rfl, List.nil_sublist _, .refl _, Nat.le_refl 0, by simp, rfl⟩
      · exact fun h ↦ List.cons_ne_nil e set h
    | succ k =>
      rw [selectLoop] at h
      split at h
      · next hc =>
        cases hn : n.decrCount e.mClass with
        | error ex =>
          rw [hn] at h
          cases h
        | ok m =>
          rw [hn, except_ok_bind] at h
          cases hrec : selectLoop aClass k m set with
          | error ex =>
            rw [hrec] at h
            cases h
          | ok r =>
            obtain ⟨m', selected', kept'⟩ := r
            rw [hrec] at h
            cases h
            obtain ⟨picked, hfirst, hp, rfl, hpicked, hkept, hlen, hclass, hdecr⟩ := ih hrec
            refine ⟨e :: picked, ?_, hp.cons e, rfl, hpicked.cons_cons e, hkept.cons e, ?_, ?_, ?_⟩
            · rw [List.filter_cons_of_pos (by simpa using hc), List.take_succ_cons, ← hfirst]
            · exact Nat.succ_le_succ hlen
            · exact List.forall_mem_cons.mpr ⟨hc, hclass⟩
            · rw [decrAll, hn, except_ok_bind, hdecr]
      · next hc =>
        cases hrec : selectLoop aClass (k + 1) n set with
        | error ex =>
          rw [hrec] at h
          cases h
        | ok r =>
          obtain ⟨m', selected', kept'⟩ := r
          rw [hrec] at h
          cases h
          obtain ⟨picked, hfirst, hp, rfl, hpicked, hkept, hlen, hclass, hdecr⟩ := ih hrec
          refine ⟨picked, ?_, ?_, rfl, hpicked.cons e, hkept.cons_cons e, hlen, hclass, hdecr⟩
          · rw [List.filter_cons_of_neg (by simpa using hc), hfirst]
          · exact (hp.cons e).trans List.perm_middle.symm

/-! ## What an operation does

All that later proofs need to know of an operation: which events were held before and after it,
and how the counters and the sequence number have changed. -/

/-- The event that a user's update makes. -/
def newEvent (s : EventBuffer α) (arVal : α) (aClass : PointClass) (aIndex : ℕ) : EventInfo α where
  mValue := arVal
  mClass := aClass
  mIndex := aIndex
  mSequence := s.nextSequence

/-- The buffer with the next sequence number taken. -/
def numbered (s : EventBuffer α) : EventBuffer α := { s with mSequence := s.nextSequence + 1 }

/-- What an update that ends does. -/
theorem dropOverflow_of_step {v : α} {c : PointClass} {i : ℕ} {t : EventBuffer α}
    (h : s.step kind (.update v c i) = some t) :
    (s.numbered.kindUpdate kind (s.newEvent v c i)).dropOverflow = .ok t := by
  have h : ((s.numbered.kindUpdate kind (s.newEvent v c i)).dropOverflow).toOption = some t := h
  cases hd : (s.numbered.kindUpdate kind (s.newEvent v c i)).dropOverflow with
  | error ex =>
    rw [hd] at h
    exact absurd h (by simp [Except.toOption])
  | ok u =>
    rw [hd] at h
    exact congrArg _ (Option.some.inj h)

/-- **All that an operation does.** -/
inductive Performs (kind : BufferKind α) (s : EventBuffer α) : BufferOp α → EventBuffer α → Prop
  | updates {v : α} {c : PointClass} {i : ℕ} {t : EventBuffer α}
      (h : Updates kind s.numbered (s.newEvent v c i) t) (hvalid : kind.Valid t.mEventSet)
      (hle : t.numUnselected ≤ t.mMaxEvents) :
      Performs kind s (.update v c i) t
  | overflows {v : α} {c : PointClass} {i : ℕ} {t : EventBuffer α} {e : EventInfo α}
      {rest : List (EventInfo α)} {n : ClassCounter}
      (h : Updates kind s.numbered (s.newEvent v c i) t) (hvalid : kind.Valid t.mEventSet)
      (hlt : t.mMaxEvents < t.numUnselected) (hset : t.mEventSet = e :: rest)
        (hn : t.mCounter.decrCount e.mClass = .ok n) :
      Performs kind s (.update v c i)
        { t with mIsOverflown := true, mCounter := n, mEventSet := rest }
  | selects {c : PointClass} {k : ℕ} {picked kept : List (EventInfo α)} {n : ClassCounter}
      (hp : s.mEventSet.Perm (picked ++ kept)) (hpicked : picked.Sublist s.mEventSet)
      (hkept : kept.Sublist s.mEventSet) (hlen : picked.length ≤ k)
      (hclass : ∀ e ∈ picked, e.mClass &&& c ≠ 0) (hn : decrAll picked s.mCounter = .ok n) :
      Performs kind s (.select c k) { s with
        mCounter := n
        mSelectedEvents := s.mSelectedEvents ++ picked.map unwritten
        mEventSet := kept }
  | deselects : Performs kind s .deselect (s.deselect kind)
  | clears : Performs kind s .clearWrittenEvents s.clearWrittenEvents
  | marks {i : ℕ} : Performs kind s (.markWritten i) (s.markWritten i)
  | asks : Performs kind s .isOverflown s.isOverflown.2

/-- **Every operation does one of these things.** -/
theorem performs_of_step {op : BufferOp α} {t : EventBuffer α} (hs : kind.Valid s.mEventSet)
    (h : s.step kind op = some t) : Performs kind s op t := by
  have h : s.perform kind op = .ok t := by
    rw [step] at h
    cases hp : s.perform kind op with
    | error ex =>
      rw [hp] at h
      exact absurd h (by simp [Except.toOption])
    | ok u =>
      rw [hp] at h
      exact congrArg _ (Option.some.inj h)
  cases op with
  | update v c i =>
    have hs : kind.Valid s.numbered.mEventSet := hs
    have hupdates := kindUpdate_updates hs (s.newEvent v c i)
    have hvalid := valid_kindUpdate hs (s.newEvent v c i)
    have h : (s.numbered.kindUpdate kind (s.newEvent v c i)).dropOverflow = .ok t := h
    rcases dropOverflow_spec h with ⟨hle, rfl⟩ | ⟨hlt, e, rest, n, hset, hn, rfl⟩
    · exact .updates hupdates hvalid hle
    · exact .overflows hupdates hvalid hlt hset hn
  | select c k =>
    cases hloop : selectLoop c k s.mCounter s.mEventSet with
    | error ex =>
      rw [perform, select, hloop] at h
      cases h
    | ok r =>
      obtain ⟨n, selected, kept⟩ := r
      obtain ⟨picked, -, hp, rfl, hpicked, hkept, hlen, hclass, hn⟩ := selectLoop_spec hloop
      rw [perform, select, hloop] at h
      cases h
      exact .selects hp hpicked hkept hlen hclass hn
  | deselect =>
    cases h
    exact .deselects
  | clearWrittenEvents =>
    cases h
    exact .clears
  | markWritten i =>
    cases h
    exact .marks
  | isOverflown =>
    cases h
    exact .asks

theorem isOverflown_mEventSet : s.isOverflown.2.mEventSet = s.mEventSet := by
  rw [isOverflown]
  dsimp only
  split <;> rfl

/-- The rule for the loop of `Deselect`: `P` is about the events that are still to be put back. -/
theorem foldl_updateOld {P : List (EventInfo α) → EventBuffer α → Prop}
    (hstep : ∀ e l s, P (e :: l) s → P l (s.updateOld kind e)) {l : List (EventInfo α)}
    (h : P l s) : P [] (l.foldl (updateOld kind) s) := by
  induction l generalizing s with
  | nil => exact h
  | cons e l ih => exact ih (hstep e l s h)

/-- **The set stays a set.** -/
theorem valid_step {op : BufferOp α} {t : EventBuffer α} (hs : kind.Valid s.mEventSet)
    (h : s.step kind op = some t) : kind.Valid t.mEventSet := by
  cases performs_of_step hs h with
  | updates _ hvalid _ => exact hvalid
  | @overflows v c i t e rest n _ hvalid _ hset _ =>
    rw [hset] at hvalid
    exact hvalid.sublist (List.sublist_cons_self e rest)
  | selects _ _ hkept _ _ _ => exact hs.sublist hkept
  | deselects =>
    refine foldl_updateOld (P := fun _ s ↦ kind.Valid s.mEventSet) (fun e l s hs ↦ ?_) hs
    have hs : kind.Valid { s with mSequence := s.nextSequence }.mEventSet := hs
    exact valid_kindUpdate hs e
  | clears => exact hs
  | marks => exact hs
  | asks =>
    rw [isOverflown_mEventSet]
    exact hs

theorem valid_run {ops : List (BufferOp α)} {t : EventBuffer α} (hs : kind.Valid s.mEventSet)
    (h : Run.run (step kind) s ops = some t) : kind.Valid t.mEventSet :=
  Run.inv_of_run (I := fun s ↦ kind.Valid s.mEventSet) (fun _ _ _ hs h ↦ valid_step hs h) hs h

theorem valid_new (aMaxEvents : ℕ) : kind.Valid (new aMaxEvents).mEventSet := by
  cases kind with
  | timeOrdered _ => trivial
  | single _ => exact List.Pairwise.nil
  | insertionOrdered => exact List.Pairwise.nil

end EventBuffer

end OpenDNP3
