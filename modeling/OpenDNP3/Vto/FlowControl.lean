import OpenDNP3.Event.Capacity
import OpenDNP3.Event.Order
import OpenDNP3.Vto.Writer

/-!
# The flow of virtual terminal data

The outstation and the master move chunks from their `VtoWriter` into a buffer of events, from which
they are sent.  Both move as many as `NumAvailable` of the buffer says.  What has been selected for
a report goes back into the buffer when the report fails.

* `EventBuffer.Fifo` — a buffer that holds no more than it may, in the order in which it was filled,
  the selected events in front.
* `VtoFlow` — a writer and a buffer, with the operations of the two parties on them.
* `VtoFlow.drops_nothing` — **every run**.
-/

set_option autoImplicit false

namespace OpenDNP3

/-! ## The buffer -/

namespace EventBuffer

variable {α : Type} {s t : EventBuffer α}

/-- **A FIFO that has never been overflown**: what is held is in the order of the sequence numbers,
all of class 1 and no more than may be held. -/
structure Fifo (s : EventBuffer α) : Prop where
  exact : Exact .insertionOrdered s
  ordered : s.held.Pairwise fun x y ↦ x.mSequence < y.mSequence
  class1 : ∀ e ∈ s.held, e.mClass = .class1
  fits : s.size ≤ s.mMaxEvents
  notOverflown : s.mIsOverflown = false

theorem fifo_new (aMaxEvents : ℕ) : Fifo (new aMaxEvents : EventBuffer α) :=
  ⟨exact_new _ aMaxEvents, .nil, fun _ he ↦ absurd he List.not_mem_nil, Nat.zero_le _, rfl⟩

theorem size_eq (s : EventBuffer α) : s.size = s.held.length := by
  rw [held, List.length_append]
  rfl

theorem Fifo.ordered_set (hs : Fifo s) : s.mEventSet.Pairwise fun x y ↦ x.mSequence < y.mSequence :=
  (List.pairwise_append.mp hs.ordered).2.1

/-- What is held may get fewer at the front, and be marked. -/
theorem Fifo.of_held (hs : Fifo s) (ht : Exact .insertionOrdered t) {l : List (EventInfo α)}
    (hheld : (l ++ t.held).map unwritten = s.held.map unwritten)
    (hmax : t.mMaxEvents = s.mMaxEvents) (hover : t.mIsOverflown = s.mIsOverflown) : Fifo t := by
  have hordered : ((l ++ t.held).map unwritten).Pairwise fun x y ↦ x.mSequence < y.mSequence := by
    rw [hheld]
    exact List.pairwise_map.mpr hs.ordered
  refine ⟨ht, (List.pairwise_append.mp (List.pairwise_map.mp hordered)).2.1, fun e he ↦ ?_, ?_,
    hover.trans hs.notOverflown⟩
  · have hmem : unwritten e ∈ s.held.map unwritten := by
      rw [← hheld]
      exact List.mem_map_of_mem (List.mem_append_right l he)
    obtain ⟨x, hx, hxe⟩ := List.mem_map.mp hmem
    exact (congrArg EventInfo.mClass hxe).symm.trans (hs.class1 x hx)
  · have hlen := congrArg List.length hheld
    rw [List.length_map, List.length_map, List.length_append] at hlen
    rw [hmax, size_eq]
    have hfits := hs.fits
    rw [size_eq] at hfits
    omega

/-- **A chunk for which there is room** goes to the end. -/
theorem Fifo.update (hs : Fifo s) (hroom : s.size < s.mMaxEvents) (v : α) (i : ℕ) :
    ∃ t, s.update .insertionOrdered v .class1 i = .ok t ∧ Fifo t ∧
      t.held = s.held ++ [s.newEvent v .class1 i] ∧
      t.mMaxEvents = s.mMaxEvents := by
  obtain ⟨t, ht⟩ : ∃ t, s.perform .insertionOrdered (.update v .class1 i) = .ok t :=
    perform_ok hs.exact (sameClass_of_ne_single (by simp) s _)
  have hstep : s.step .insertionOrdered (.update v .class1 i) = some t := by
    rw [EventBuffer.step, ht]
    rfl
  obtain ⟨hsel, hset⟩ := retains_update hs.exact.sequenced hstep
  have hunselected : s.numUnselected < s.mMaxEvents :=
    Nat.lt_of_le_of_lt (Nat.le_add_left _ _) hroom
  have hheld : t.held = s.held ++ [s.newEvent v .class1 i] := by
    rw [held, hsel, hset, if_pos hunselected, held, List.append_assoc]
  have hmax := mMaxEvents_step hs.exact.sequenced.valid hstep
  refine ⟨t, ht, ⟨exact_step hs.exact (sameClass_of_ne_single (by simp) s _) hstep, ?_, ?_, ?_, ?_⟩,
    hheld, hmax⟩
  · rw [hheld, List.pairwise_append]
    refine ⟨hs.ordered, List.pairwise_singleton _ _, fun x hx y hy ↦ ?_⟩
    rw [List.mem_singleton.mp hy]
    exact hs.exact.sequenced.below_next x hx
  · intro e he
    rw [hheld] at he
    rcases List.mem_append.mp he with he | he
    · exact hs.class1 e he
    · rw [List.mem_singleton.mp he]
      rfl
  · rw [size_eq, hheld, List.length_append, ← size_eq, hmax]
    exact hroom
  · rcases dropOverflow_spec (dropOverflow_of_step hstep) with ⟨-, rfl⟩ | ⟨hlt, -⟩
    · exact hs.notOverflown
    · have hset : (s.numbered.kindUpdate .insertionOrdered (s.newEvent v .class1 i)).mEventSet =
          s.mEventSet ++ [s.newEvent v .class1 i] := insert_newEvent hs.exact.sequenced v .class1 i
      rw [numUnselected, hset, List.length_append] at hlt
      exact absurd hunselected (Nat.not_lt.mpr (Nat.le_of_lt_succ hlt))

/-- Events in the order of their numbers are in the only such order. -/
theorem eq_of_perm_of_ordered {l l' : List (EventInfo α)} (hp : l.Perm l')
    (hl : l.Pairwise fun x y ↦ x.mSequence < y.mSequence)
    (hl' : l'.Pairwise fun x y ↦ x.mSequence < y.mSequence) : l = l' :=
  hp.eq_of_pairwise (fun _ _ _ _ hxy hyx ↦ absurd hyx (Nat.lt_asymm hxy)) hl hl'

/-- `Select` picks from the front, or nothing. -/
theorem Fifo.exists_matching (hs : Fifo s) (c : PointClass) (k : ℕ) :
    ∃ j, s.matching c k = s.mEventSet.take j := by
  have hclass : ∀ e ∈ s.mEventSet, e.mClass = .class1 :=
    fun e he ↦ hs.class1 e (List.mem_append_right _ he)
  by_cases hc : PointClass.class1 &&& c ≠ 0
  · refine ⟨k, ?_⟩
    rw [matching, List.filter_eq_self.mpr fun e he ↦ ?_]
    rw [hclass e he]
    exact decide_eq_true hc
  · refine ⟨0, ?_⟩
    rw [matching, List.filter_eq_nil_iff.mpr fun e he ↦ ?_, List.take_nil, List.take_zero]
    rw [hclass e he]
    simpa using hc

/-- What an operation takes away. -/
def cleared (s : EventBuffer α) : BufferOp α → List (EventInfo α)
  | .clearWrittenEvents => s.mSelectedEvents.takeWhile (·.mWritten)
  | .update _ _ _ | .select _ _ | .deselect | .markWritten _ | .isOverflown => []

/-- **The other operations** keep all events that they do not take away at the front, in their
order. -/
theorem Fifo.step (hs : Fifo s) {op : BufferOp α} (hop : ∀ v c i, op ≠ .update v c i) :
    ∃ t, s.step .insertionOrdered op = some t ∧ Fifo t ∧
      (s.cleared op ++ t.held).map unwritten = s.held.map unwritten ∧
        t.mMaxEvents = s.mMaxEvents := by
  obtain ⟨t, ht, hretains⟩ := exists_retains hs.exact hs.ordered_set op
  have hexact := exact_step hs.exact (sameClass_of_ne_single (by simp) s op) ht
  have hmax := mMaxEvents_step hs.exact.sequenced.valid ht
  suffices hheld : (s.cleared op ++ t.held).map unwritten = s.held.map unwritten ∧
      t.mIsOverflown = s.mIsOverflown from
    ⟨t, ht, hs.of_held hexact hheld.1 hmax hheld.2, hheld.1, hmax⟩
  cases op with
  | update v c i => exact absurd rfl (hop v c i)
  | select c k =>
    obtain ⟨u, hu, hsel, hp, hsub⟩ := select_matching hs.exact c k
    obtain rfl := Option.some.inj (ht.symm.trans hu)
    obtain ⟨j, hj⟩ := hs.exists_matching c k
    rw [hj] at hsel hp
    have hrest : s.mEventSet.drop j = t.mEventSet := by
      refine eq_of_perm_of_ordered ?_ (hs.ordered_set.sublist (List.drop_sublist _ _))
        (hs.ordered_set.sublist hsub)
      rw [← List.perm_append_left_iff (s.mEventSet.take j), List.take_append_drop]
      exact hp
    constructor
    · have hpicked : (s.mEventSet.take j).map (unwritten ∘ unwritten) =
        (s.mEventSet.take j).map unwritten := rfl
      rw [cleared, List.nil_append, held, held, hsel, ← hrest, List.map_append, List.map_append,
        List.map_map, hpicked, List.append_assoc, ← List.map_append, List.take_append_drop,
        ← List.map_append]
    · cases performs_of_step hs.exact.sequenced.valid ht with
      | selects _ _ _ _ _ _ => rfl
  | deselect =>
    obtain ⟨hsel, hp⟩ := hretains
    have hset : t.mEventSet = s.held := by
      cases ht
      exact eq_of_perm_of_ordered hp (deselect_fifo hs.exact.sequenced hs.ordered_set).2 hs.ordered
    rw [cleared, List.nil_append, held, hsel, hset, List.nil_append]
    cases ht
    exact ⟨rfl, (size_deselect hs.exact.sequenced.valid).2.2⟩
  | clearWrittenEvents =>
    cases ht
    refine ⟨?_, rfl⟩
    rw [cleared, held, clearWrittenEvents, ← List.append_assoc, List.takeWhile_append_dropWhile]
    rfl
  | markWritten i =>
    cases ht
    refine ⟨?_, rfl⟩
    rw [cleared, List.nil_append, held, List.map_append, map_markWritten s i fun _ ↦ rfl,
      ← List.map_append]
    rfl
  | isOverflown =>
    obtain ⟨hset, hsel⟩ := hretains
    rw [cleared, List.nil_append, held, hset, hsel]
    refine ⟨rfl, ?_⟩
    cases ht
    simp [isOverflown, hs.notOverflown]

end EventBuffer

/-! ## The two parties

The writer of a virtual terminal and the event buffer of the slave. The slave takes from the
writer as much as its buffer has room for. -/

/-- A writer and the buffer that it is emptied into, with the chunks that have been put into the
writer and those that the buffer has cleared. -/
structure VtoFlow where
  mVtoWriter : VtoWriter
  mBuffer : EventBuffer VtoData
  queued : List (ℕ × VtoData)
  cleared : List (ℕ × VtoData)

/-- What happens to the writer and the buffer of the outstation, and to those of the master. -/
inductive VtoFlowEvent where
  | write (apData : List Byte) (aChannelId : Byte)
  | setLocalVtoState (aLocalVtoConnectionOpened : Bool) (aChannelId : Byte)
  /-- `Slave::FlushVtoUpdates` -/
  | flushVtoUpdates
  /-- `ResponseContext::SelectVtoEvents` -/
  | selectVtoEvents (aClass : PointClass) (aNum : ℕ)
  /-- `ResponseContext::LoadVtoEvents`, which gets to so many events. -/
  | loadVtoEvents (aNumWritten : ℕ)
  /-- `ResponseContext::ClearWritten` -/
  | clearWritten
  /-- `ResponseContext::Reset` -/
  | reset
  /-- `Master::TransmitVtoData` -/
  | transmitVtoData (aIsClosed : Bool)
  /-- `VtoTransmitTask::ConfigureRequest`, which gets to so many events. -/
  | configureRequest (aNumWritten : ℕ)
  | onPartialResponse
  | onFinalResponse
  | onFailure
  deriving DecidableEq

namespace VtoFlow

/-- A chunk with its channel. -/
def chunk (e : EventInfo VtoData) : ℕ × VtoData := (e.mIndex, e.mValue)

/-- `Update` of the buffer, as an acceptor. -/
def accept (arEvent : VtoData) (aClass : PointClass) (aIndex : ℕ) (b : EventBuffer VtoData) :
    Except Exception (EventBuffer VtoData) :=
  b.update .insertionOrdered arEvent aClass aIndex

/-- `FlushVtoUpdates` of the outstation: how many chunks have been flushed, and
`mDeferredUpdate`. -/
def flushVtoUpdates (w : VtoWriter) (pBuff : EventBuffer VtoData) (mDeferredUpdate : Bool) :
    Except Exception ((ℕ × Bool) × VtoWriter × EventBuffer VtoData) := do
  let available := w.size
  let space := sizeSub pBuff.mMaxEvents pBuff.size
  let (flushed, w, pBuff) ← w.flush accept space pBuff
  return ((flushed, mDeferredUpdate || available > space), w, pBuff)

/-- `TransmitVtoData` of the master: whether the task is started. -/
def transmitVtoData (w : VtoWriter) (mBuffer : EventBuffer VtoData) (aIsClosed : Bool) :
    Except Exception (Bool × VtoWriter × EventBuffer VtoData) := do
  if aIsClosed then return (false, w, mBuffer)
  else
    let max := sizeSub mBuffer.mMaxEvents mBuffer.size
    let (_, w, mBuffer) ← w.flush accept max mBuffer
    return (mBuffer.size > 0, w, mBuffer)

/-- The other events are these operations of the buffer. -/
def ops : VtoFlowEvent → List (BufferOp VtoData)
  | .write _ _ | .setLocalVtoState _ _ | .flushVtoUpdates | .transmitVtoData _ => []
  | .selectVtoEvents aClass aNum => [.select aClass (min aNum 7)]
  | .loadVtoEvents n => (List.range n).map .markWritten
  | .clearWritten => [.clearWrittenEvents, .deselect]
  | .reset => [.deselect]
  | .configureRequest n => .select .allEvents 7 :: (List.range n).map .markWritten
  | .onPartialResponse => []
  | .onFinalResponse => [.clearWrittenEvents, .deselect]
  | .onFailure => [.deselect]

/-- The constructors. -/
def new (aMaxVtoChunks aMaxEvents : ℕ) : VtoFlow := ⟨⟨aMaxVtoChunks, []⟩, .new aMaxEvents, [], []⟩

/-- One operation of the buffer. -/
def operate (s : VtoFlow) (op : BufferOp VtoData) : Option VtoFlow :=
  (s.mBuffer.step .insertionOrdered op).map fun b ↦
    { s with mBuffer := b, cleared := s.cleared ++ (s.mBuffer.cleared op).map chunk }

/-- The writer has got more chunks. -/
def wrote (s : VtoFlow) (w : VtoWriter) : VtoFlow :=
  { s with
    mVtoWriter := w
    queued := s.queued ++ (w.mQueue.drop s.mVtoWriter.mQueue.length).map chunk }

/-- **One event**; a failed assertion or an exception of the buffer ends the program. -/
def step (s : VtoFlow) (e : VtoFlowEvent) : Option VtoFlow :=
  match e with
  | .write apData aChannelId =>
    (s.mVtoWriter.write apData aChannelId).toOption.map fun r ↦ s.wrote r.2
  | .setLocalVtoState opened aChannelId =>
    some (s.wrote (s.mVtoWriter.setLocalVtoState opened aChannelId))
  | .flushVtoUpdates =>
    (flushVtoUpdates s.mVtoWriter s.mBuffer false).toOption.map fun r ↦
      { s with mVtoWriter := r.2.1, mBuffer := r.2.2 }
  | .transmitVtoData aIsClosed =>
    (transmitVtoData s.mVtoWriter s.mBuffer aIsClosed).toOption.map fun r ↦
      { s with mVtoWriter := r.2.1, mBuffer := r.2.2 }
  | e => Run.run operate s (ops e)

/-! ## The invariant -/

/-- **Nothing is lost**: the buffer is a FIFO that has never been overflown, and what it has
cleared, what it holds and what is queued is what has been put into the writer. -/
structure Flows (s : VtoFlow) : Prop where
  fifo : s.mBuffer.Fifo
  class1 : ∀ e ∈ s.mVtoWriter.mQueue, e.mClass = .class1
  kept : s.cleared ++ s.mBuffer.held.map chunk ++ s.mVtoWriter.mQueue.map chunk = s.queued

variable {s t : VtoFlow}

/-- Chunks for which there is room are taken in, one after the other. -/
theorem foldlM_accept {l : List (EventInfo VtoData)} {b : EventBuffer VtoData} (hb : b.Fifo)
    (hclass : ∀ e ∈ l, e.mClass = .class1) (hroom : b.size + l.length ≤ b.mMaxEvents) :
    ∃ b', l.foldlM (fun b e ↦ accept e.mValue e.mClass e.mIndex b) b = .ok b' ∧ b'.Fifo ∧
      b'.held.map chunk = b.held.map chunk ++ l.map chunk ∧ b'.mMaxEvents = b.mMaxEvents := by
  induction l generalizing b with
  | nil => exact ⟨b, rfl, hb, (List.append_nil _).symm, rfl⟩
  | cons e l ih =>
    rw [List.length_cons] at hroom
    obtain ⟨u, hu, hfifo, hheld, hmax⟩ := hb.update (by omega) e.mValue e.mIndex
    have hsize : u.size = b.size + 1 := by
      rw [EventBuffer.size_eq, hheld, List.length_append, ← EventBuffer.size_eq]
      rfl
    obtain ⟨b', hb', hfifo', hheld', hmax'⟩ := ih hfifo
      (fun x hx ↦ hclass x (List.mem_cons_of_mem e hx)) (by omega)
    refine ⟨b', ?_, hfifo', ?_, hmax'.trans hmax⟩
    · rw [List.foldlM_cons, accept, hclass e List.mem_cons_self, hu]
      exact hb'
    · rw [hheld', hheld, List.map_append, List.append_assoc]
      rfl

/-- **`Flush` into the buffer**, as far as it has room. -/
theorem flush_accept {w : VtoWriter} {b : EventBuffer VtoData} (hb : b.Fifo)
    (hclass : ∀ e ∈ w.mQueue, e.mClass = .class1) (hmax : b.mMaxEvents ≤ sizeMax) :
    ∃ n b', w.flush accept (sizeSub b.mMaxEvents b.size) b =
        .ok (n, { w with mQueue := w.mQueue.drop (b.mMaxEvents - b.size) }, b') ∧ b'.Fifo ∧
      b'.held.map chunk = b.held.map chunk ++ (w.mQueue.take (b.mMaxEvents - b.size)).map chunk ∧
      b'.mMaxEvents = b.mMaxEvents := by
  have hfits := hb.fits
  obtain ⟨b', hb', hfifo, hheld, hmax'⟩ :=
    foldlM_accept (l := w.mQueue.take (b.mMaxEvents - b.size)) hb
    (fun e he ↦ hclass e (List.mem_of_mem_take he)) (by rw [List.length_take]; omega)
  refine ⟨min (b.mMaxEvents - b.size) w.mQueue.length, b', ?_, hfifo, hheld, hmax'⟩
  rw [VtoWriter.flush_eq, sizeSub_of_le hfits hmax, hb']
  rfl

/-- **An operation of the buffer** moves no chunk out of its place. -/
theorem Flows.operate (hs : Flows s) {op : BufferOp VtoData} (hop : ∀ v c i, op ≠ .update v c i) :
    ∃ t, s.operate op = some t ∧ Flows t ∧ t.mBuffer.mMaxEvents = s.mBuffer.mMaxEvents := by
  obtain ⟨b, hb, hfifo, hheld, hmax⟩ := hs.fifo.step hop
  have hchunks := congrArg (List.map chunk) hheld
  rw [List.map_map, List.map_map] at hchunks
  refine ⟨{ s with mBuffer := b, cleared := s.cleared ++ (s.mBuffer.cleared op).map chunk }, ?_,
    ⟨hfifo, hs.class1, ?_⟩, hmax⟩
  · rw [VtoFlow.operate, hb]
    rfl
  · show s.cleared ++ (s.mBuffer.cleared op).map chunk ++ b.held.map chunk ++ _ = s.queued
    rw [List.append_assoc s.cleared, ← List.map_append]
    exact (congrArg (s.cleared ++ · ++ s.mVtoWriter.mQueue.map chunk) hchunks).trans hs.kept

/-- **Operations one after the other.** -/
theorem Flows.operates (hs : Flows s) {l : List (BufferOp VtoData)}
    (hl : ∀ op ∈ l, ∀ v c i, op ≠ .update v c i) :
    ∃ t, Run.run VtoFlow.operate s l = some t ∧ Flows t ∧
      t.mBuffer.mMaxEvents = s.mBuffer.mMaxEvents := by
  induction l generalizing s with
  | nil => exact ⟨s, rfl, hs, rfl⟩
  | cons op l ih =>
    obtain ⟨u, hu, hflows, hmax⟩ := hs.operate (hl op List.mem_cons_self)
    obtain ⟨t, ht, hflows', hmax'⟩ := ih hflows fun x hx ↦ hl x (List.mem_cons_of_mem op hx)
    exact ⟨t, Run.run_cons_eq_some.mpr ⟨u, hu, ht⟩, hflows', hmax'.trans hmax⟩

/-- No event updates the buffer but the two that flush the writer. -/
theorem ops_ne_update (e : VtoFlowEvent) : ∀ op ∈ ops e, ∀ v c i, op ≠ .update v c i := by
  intro op hop v c i
  rintro rfl
  cases e <;> simp [ops] at hop

/-- The writer has queued more chunks of class 1. -/
theorem Flows.wrote (hs : Flows s) {l : List (EventInfo VtoData)}
    (hl : ∀ e ∈ l, e.mClass = .class1) :
    Flows (s.wrote { s.mVtoWriter with mQueue := s.mVtoWriter.mQueue ++ l }) := by
  refine ⟨hs.fifo, fun e he ↦ ?_, ?_⟩
  · rcases List.mem_append.mp he with he | he
    · exact hs.class1 e he
    · exact hl e he
  · show _ ++ (s.mVtoWriter.mQueue ++ l).map chunk =
      s.queued ++ ((s.mVtoWriter.mQueue ++ l).drop s.mVtoWriter.mQueue.length).map chunk
    rw [List.drop_left, List.map_append, ← List.append_assoc, ← hs.kept]
    rfl

/-- The writer has been emptied into the buffer, as far as this has room. -/
theorem Flows.flushed (hs : Flows s) {b : EventBuffer VtoData} (hb : b.Fifo)
    (hheld : b.held.map chunk = s.mBuffer.held.map chunk ++
      (s.mVtoWriter.mQueue.take (s.mBuffer.mMaxEvents - s.mBuffer.size)).map chunk) :
    Flows { s with
      mVtoWriter :=
        { s.mVtoWriter with
          mQueue := s.mVtoWriter.mQueue.drop (s.mBuffer.mMaxEvents - s.mBuffer.size) }
      mBuffer := b } := by
  refine ⟨hb, fun e he ↦ hs.class1 e (List.mem_of_mem_drop he), ?_⟩
  show s.cleared ++ b.held.map chunk ++ (s.mVtoWriter.mQueue.drop _).map chunk = s.queued
  rw [hheld, ← hs.kept, List.append_assoc, List.append_assoc, List.append_assoc, ← List.map_append,
    List.take_append_drop]

/-- **One event**: it happens, and nothing is lost. -/
theorem Flows.step (hs : Flows s) (hmax : s.mBuffer.mMaxEvents ≤ sizeMax) (e : VtoFlowEvent) :
    ∃ t, s.step e = some t ∧ Flows t ∧ t.mBuffer.mMaxEvents = s.mBuffer.mMaxEvents := by
  have hoperates := hs.operates (ops_ne_update e)
  obtain ⟨n, b, hflush, hfifo, hheld, hkeep⟩ := flush_accept hs.fifo hs.class1 hmax
  cases e with
  | write apData aChannelId =>
    obtain ⟨l, hl, hchunks⟩ := VtoWriter.write_eq (w := s.mVtoWriter) apData aChannelId
    refine ⟨_, ?_, hs.wrote hchunks.class1, rfl⟩
    rw [VtoFlow.step, hl]
    rfl
  | setLocalVtoState opened aChannelId =>
    refine ⟨_, rfl, hs.wrote (l := [_]) fun e he ↦ ?_, rfl⟩
    rw [List.mem_singleton.mp he]
  | flushVtoUpdates =>
    refine ⟨_, ?_, hs.flushed hfifo hheld, hkeep⟩
    rw [VtoFlow.step, flushVtoUpdates, hflush]
    rfl
  | transmitVtoData aIsClosed =>
    cases aIsClosed with
    | true => exact ⟨s, rfl, hs, rfl⟩
    | false =>
      refine ⟨_, ?_, hs.flushed hfifo hheld, hkeep⟩
      rw [VtoFlow.step, transmitVtoData, if_neg Bool.false_ne_true]
      dsimp only
      rw [hflush]
      rfl
  | selectVtoEvents aClass aNum => exact hoperates
  | loadVtoEvents aNumWritten => exact hoperates
  | clearWritten => exact hoperates
  | reset => exact hoperates
  | configureRequest aNumWritten => exact hoperates
  | onPartialResponse => exact hoperates
  | onFinalResponse => exact hoperates
  | onFailure => exact hoperates

/-! ## Runs -/

/-- **The flow control of virtual terminal data**, in every run: no operation fails, the buffer
never holds more than it may nor has it been overflown, and its space does not wrap.  The chunks
that have been put into the writer are those that the buffer has cleared, those that are selected,
those that are not, and those that wait in the writer, in this order. -/
theorem drops_nothing {aMaxVtoChunks aMaxEvents : ℕ} (hmax : aMaxEvents ≤ sizeMax)
    {es : List VtoFlowEvent}
    {s : VtoFlow} (hrun : Run.run step (new aMaxVtoChunks aMaxEvents) es = some s) :
    (s.mBuffer.size ≤ aMaxEvents ∧ s.mBuffer.mIsOverflown = false ∧
      sizeSub s.mBuffer.mMaxEvents s.mBuffer.size = aMaxEvents - s.mBuffer.size) ∧
    (∀ e, ∃ t, s.step e = some t) ∧
    s.cleared ++ s.mBuffer.mSelectedEvents.map chunk ++ s.mBuffer.mEventSet.map chunk ++
      s.mVtoWriter.mQueue.map chunk = s.queued ∧
    s.mBuffer.held.Pairwise fun x y ↦ x.mSequence < y.mSequence := by
  obtain ⟨hflows, hmax'⟩ : Flows s ∧ s.mBuffer.mMaxEvents = aMaxEvents := by
    refine Run.inv_of_run (I := fun s ↦ Flows s ∧ s.mBuffer.mMaxEvents = aMaxEvents) ?_
      ⟨⟨EventBuffer.fifo_new _, fun _ he ↦ absurd he List.not_mem_nil, rfl⟩, rfl⟩ hrun
    rintro s e t ⟨hs, hkeep⟩ hstep
    obtain ⟨u, hu, hflows, hkeep'⟩ := hs.step (hkeep ▸ hmax) e
    obtain rfl := Option.some.inj (hstep.symm.trans hu)
    exact ⟨hflows, hkeep'.trans hkeep⟩
  have hfits := hflows.fifo.fits
  refine ⟨⟨hmax' ▸ hfits, hflows.fifo.notOverflown, ?_⟩, fun e ↦ ?_, ?_, hflows.fifo.ordered⟩
  · rw [sizeSub_of_le hfits (hmax' ▸ hmax), hmax']
  · exact (hflows.step (hmax' ▸ hmax) e).imp fun _ h ↦ h.1
  · rw [List.append_assoc s.cleared, ← List.map_append]
    exact hflows.kept

/-- Two chunks, a report of which only the first is written, and a failure. -/
theorem drops_nothing_failed : ∃ s,
    Run.run step (new 3 2) [.write [1, 2] 4, .flushVtoUpdates, .write [3] 4, .flushVtoUpdates,
      .selectVtoEvents .allEvents 2, .loadVtoEvents 1, .reset, .write [5] 4] = some s ∧
    s.mBuffer.size ≤ 2 ∧ s.queued = [(4, ⟨.data, [1, 2]⟩), (4, ⟨.data, [3]⟩), (4, ⟨.data, [5]⟩)] ∧
    s.cleared ++ s.mBuffer.mSelectedEvents.map chunk ++ s.mBuffer.mEventSet.map chunk ++
      s.mVtoWriter.mQueue.map chunk = s.queued := by
  obtain ⟨s, hrun⟩ : ∃ s,
      Run.run step (new 3 2) [.write [1, 2] 4, .flushVtoUpdates, .write [3] 4, .flushVtoUpdates,
        .selectVtoEvents .allEvents 2, .loadVtoEvents 1, .reset, .write [5] 4] = some s :=
    Option.isSome_iff_exists.mp (by decide +kernel)
  obtain ⟨⟨hsize, -, -⟩, -, hkept, -⟩ := drops_nothing (by rw [sizeMax_eq]; decide) hrun
  have hqueued : (Run.run step (new 3 2)
    [.write [1, 2] 4, .flushVtoUpdates, .write [3] 4, .flushVtoUpdates,
      .selectVtoEvents .allEvents 2, .loadVtoEvents 1, .reset, .write [5] 4]).all (fun s ↦
        s.queued = [(4, ⟨.data, [1, 2]⟩), (4, ⟨.data, [3]⟩), (4, ⟨.data, [5]⟩)]) = true := by
    decide +kernel
  rw [hrun] at hqueued
  exact ⟨s, hrun, hsize, of_decide_eq_true hqueued, hkept⟩

end VtoFlow

end OpenDNP3
