import OpenDNP3.Event.Buffer
import OpenDNP3.Lib.Run
import OpenDNP3.Vto.Router

/-!
# The writer of virtual terminal data

`VtoWriter` is where the octets of all channels wait until there is room for them in a buffer of
events.  It cuts them into chunks of at most 255 octets and holds up to `mMaxVtoChunks` of these.
The messages that a local connection has opened or closed go through the same queue, as chunks of
the channel 255.

* `VtoWriter.write`, `VtoWriter.setLocalVtoState`, `VtoWriter.flush` — the operations.
* `VtoWriter.bounded_fifo` — **every run**: on each channel the octets come out as they have gone
  in, and the queue keeps to its bound as long as no message about a connection comes when it is
  full.
-/

set_option autoImplicit false

namespace OpenDNP3

/-! ## The writer -/

namespace VtoData

/-- `MAX_SIZE` -/
def maxSize : ℕ := 255

/-- The constructor from octets. -/
def ofOctets (apValue : List Byte) : Except Exception VtoData := do
  assert "aSize <= MAX_SIZE" (apValue.length ≤ maxSize)
  return ⟨.data, apValue⟩

end VtoData

/-- `CreateVtoData` of `EnhancedVto` -/
def createVtoData (aLocalVtoConnectionOpened : Bool) (aChannelId : Byte) : VtoData :=
  ⟨.data, [aChannelId, if aLocalVtoConnectionOpened then 0 else 1, 0xAB, 0xBC, 0xCD]⟩

/-- `VtoWriter`, a `VtoEvent` being an `EventInfo VtoData`. -/
structure VtoWriter where
  mMaxVtoChunks : ℕ
  mQueue : List (EventInfo VtoData)
  deriving DecidableEq, Repr

namespace VtoWriter

variable (w : VtoWriter)

/-- `Size` -/
def size : ℕ := w.mQueue.length

/-- `NumChunksAvailable` -/
def numChunksAvailable : ℕ := sizeSub w.mMaxVtoChunks w.mQueue.length

/-- `NumBytesAvailable` -/
def numBytesAvailable : ℕ := w.numChunksAvailable * VtoData.maxSize % 2 ^ 64

/-- `QueueVtoObject` -/
def queueVtoObject (apData : List Byte) (aChannelId : Byte) : Except Exception VtoWriter := do
  let vto ← VtoData.ofOctets apData
  return { w with mQueue := w.mQueue ++ [⟨vto, .class1, aChannelId.toNat, 0, false⟩] }

/-- The loop of `Commit`, with the octets that are left after it. -/
def queueBlocks (w : VtoWriter) (apData : List Byte) (aChannelId : Byte) :
    (complete : ℕ) → Except Exception (List Byte × VtoWriter)
  | 0 => .ok (apData, w)
  | complete + 1 => do
    let w ← w.queueVtoObject (apData.take VtoData.maxSize) aChannelId
    queueBlocks w (apData.drop VtoData.maxSize) aChannelId complete

/-- `Commit` -/
def commit (apData : List Byte) (aChannelId : Byte) : Except Exception VtoWriter := do
  let complete := apData.length / VtoData.maxSize
  let numLeft := apData.length % VtoData.maxSize
  let (apData, w) ← w.queueBlocks apData aChannelId complete
  if numLeft > 0 then w.queueVtoObject (apData.take numLeft) aChannelId else return w

/-- `Write`, with the number of octets that have been queued. -/
def write (apData : List Byte) (aChannelId : Byte) : Except Exception (ℕ × VtoWriter) := do
  let num := min w.numBytesAvailable apData.length
  return (num, ← w.commit (apData.take num) aChannelId)

/-- `SetLocalVtoState` -/
def setLocalVtoState (aLocalVtoConnectionOpened : Bool) (aChannelId : Byte) : VtoWriter :=
  { w with mQueue := w.mQueue ++
    [⟨createVtoData aLocalVtoConnectionOpened aChannelId, .class1, 255, 0, false⟩] }

/-- `Flush` to an acceptor with a state of its own, with the number of events that it has got. -/
def flush {σ : Type} (apAcceptor : VtoData → PointClass → ℕ → σ → Except Exception σ) :
    (aMaxEvents : ℕ) → VtoWriter → σ → Except Exception (ℕ × VtoWriter × σ)
  | 0, w, s => .ok (0, w, s)
  | n + 1, w, s =>
    match w.mQueue with
    | [] => .ok (0, w, s)
    | evt :: queue => do
      let s ← apAcceptor evt.mValue evt.mClass evt.mIndex s
      let (num, w, s) ← flush apAcceptor n { w with mQueue := queue } s
      return (num + 1, w, s)

/-! ## Octets

What is written is cut into chunks. The octets of the chunks of a channel are the octets that
were written to it. -/

/-- The octets of a channel, of octets with the channels that they are for. -/
def octetsOn (aChannelId : ℕ) (l : List (ℕ × List Byte)) : List Byte :=
  (l.filter (·.1 = aChannelId)).flatMap Prod.snd

/-- The octets of an event, with its channel. -/
def octets (e : EventInfo VtoData) : ℕ × List Byte := (e.mIndex, e.mValue.mpData)

@[simp] theorem octetsOn_append (c : ℕ) (l l' : List (ℕ × List Byte)) :
    octetsOn c (l ++ l') = octetsOn c l ++ octetsOn c l' := by
  rw [octetsOn, List.filter_append, List.flatMap_append]
  rfl

theorem octetsOn_pair (c n : ℕ) (x y : List Byte) :
    octetsOn c [(n, x), (n, y)] = octetsOn c [(n, x ++ y)] := by
  by_cases h : n = c <;> simp [octetsOn, h]

theorem octetsOn_nil (c n : ℕ) : octetsOn c [(n, [])] = [] := by
  by_cases h : n = c <;> simp [octetsOn, h]

variable {w : VtoWriter}

/-- The octets of a channel, cut into chunks. -/
structure Chunks (apData : List Byte) (aChannelId : Byte) (l : List (EventInfo VtoData)) :
    Prop where
  octets : ∀ c, octetsOn c (l.map octets) = octetsOn c [(aChannelId.toNat, apData)]
  size : ∀ e ∈ l, 0 < e.mValue.getSize ∧ e.mValue.getSize ≤ VtoData.maxSize
  class1 : ∀ e ∈ l, e.mClass = .class1
  length : VtoData.maxSize * l.length < apData.length + VtoData.maxSize

/-- A chunk of the right size is queued. -/
theorem queueVtoObject_eq {apData : List Byte} (h : apData.length ≤ VtoData.maxSize) (c : Byte) :
    w.queueVtoObject apData c =
      .ok { w with mQueue := w.mQueue ++ [⟨⟨.data, apData⟩, .class1, c.toNat, 0, false⟩] } := by
  rw [queueVtoObject, VtoData.ofOctets, assert_of _ h]
  rfl

/-- What the loop of `Commit` queues. -/
theorem queueBlocks_eq {complete : ℕ} {apData : List Byte}
    (h : VtoData.maxSize * complete ≤ apData.length) (c : Byte) :
    ∃ l, w.queueBlocks apData c complete =
        .ok (apData.drop (VtoData.maxSize * complete), { w with mQueue := w.mQueue ++ l }) ∧
      (∀ d, octetsOn d (l.map octets) =
        octetsOn d [(c.toNat, apData.take (VtoData.maxSize * complete))]) ∧
      (∀ e ∈ l, e.mValue.getSize = VtoData.maxSize) ∧ (∀ e ∈ l, e.mClass = .class1) ∧
      l.length = complete := by
  induction complete generalizing w apData with
  | zero =>
    refine ⟨[], ?_, fun d ↦ ?_, fun _ he ↦ absurd he List.not_mem_nil,
      fun _ he ↦ absurd he List.not_mem_nil, rfl⟩
    · rw [queueBlocks, List.append_nil]
      rfl
    · rw [Nat.mul_zero, List.take_zero, octetsOn_nil]
      rfl
  | succ complete ih =>
    rw [Nat.mul_succ] at h
    have hlen : (apData.take VtoData.maxSize).length = VtoData.maxSize := by
      rw [List.length_take]
      omega
    have hrest : VtoData.maxSize * complete ≤ (apData.drop VtoData.maxSize).length := by
      rw [List.length_drop]
      omega
    obtain ⟨l, hl, hoctets, hsize, hclass, hnum⟩ := ih (w := { w with mQueue := w.mQueue ++
      [⟨⟨.data, apData.take VtoData.maxSize⟩, .class1, c.toNat, 0, false⟩] }) hrest
    refine ⟨⟨⟨.data, apData.take VtoData.maxSize⟩, .class1, c.toNat, 0, false⟩ :: l, ?_,
      fun d ↦ ?_, ?_, ?_, by rw [List.length_cons, hnum]⟩
    · rw [queueBlocks, queueVtoObject_eq (Nat.le_of_eq hlen), except_ok_bind, hl, List.drop_drop,
        List.append_assoc, Nat.mul_succ, Nat.add_comm]
      rfl
    · rw [List.map_cons, ← List.singleton_append, octetsOn_append, hoctets, ← octetsOn_append,
        List.singleton_append, octets, octetsOn_pair, ← List.take_add, Nat.mul_succ, Nat.add_comm]
    · rintro e (_ | ⟨_, he⟩)
      · exact hlen
      · exact hsize e he
    · rintro e (_ | ⟨_, he⟩)
      · rfl
      · exact hclass e he

/-- **`Commit` queues chunks of the octets**, and no assertion fails. -/
theorem commit_eq (apData : List Byte) (c : Byte) :
    ∃ l, w.commit apData c = .ok { w with mQueue := w.mQueue ++ l } ∧ Chunks apData c l := by
  have hmax : VtoData.maxSize = 255 := rfl
  have hdiv := Nat.div_add_mod apData.length VtoData.maxSize
  have hmod : apData.length % VtoData.maxSize < VtoData.maxSize := Nat.mod_lt _ (by decide)
  obtain ⟨l, hl, hoctets, hsize, hclass, hnum⟩ := queueBlocks_eq (w := w)
    (Nat.mul_div_le apData.length VtoData.maxSize) c
  have hsize' : ∀ e ∈ l, 0 < e.mValue.getSize ∧ e.mValue.getSize ≤ VtoData.maxSize := by
    intro e he
    rw [hsize e he]
    decide
  rw [commit, hl, except_ok_bind]
  dsimp only
  by_cases hmore : apData.length % VtoData.maxSize > 0
  · -- the last chunk has the octets that are left
    have hleft : (apData.drop (VtoData.maxSize * (apData.length / VtoData.maxSize))).length =
        apData.length % VtoData.maxSize := by
      rw [List.length_drop]
      omega
    rw [if_pos hmore, List.take_of_length_le (Nat.le_of_eq hleft),
      queueVtoObject_eq (Nat.le_trans (Nat.le_of_eq hleft) (Nat.le_of_lt hmod)), List.append_assoc]
    refine ⟨_, rfl, fun d ↦ ?_, ?_, ?_, ?_⟩
    · rw [List.map_append, octetsOn_append, hoctets, ← octetsOn_append]
      show octetsOn d [_, _] = _
      rw [octets, octetsOn_pair, List.take_append_drop]
    · intro e he
      rcases List.mem_append.mp he with he | he
      · exact hsize' e he
      · rw [List.mem_singleton.mp he, VtoData.getSize, hleft]
        exact ⟨hmore, Nat.le_of_lt hmod⟩
    · intro e he
      rcases List.mem_append.mp he with he | he
      · exact hclass e he
      · rw [List.mem_singleton.mp he]
    · rw [List.length_append, hnum, List.length_singleton, Nat.mul_succ]
      omega
  · rw [if_neg hmore]
    refine ⟨l, rfl, fun d ↦ ?_, hsize', hclass, ?_⟩
    · rw [hoctets, List.take_of_length_le (by omega)]
    · rw [hnum]
      omega

/-- What `Write` accepts is queued in chunks. -/
theorem write_eq (apData : List Byte) (c : Byte) :
    ∃ l, w.write apData c = .ok
      (min w.numBytesAvailable apData.length, { w with mQueue := w.mQueue ++ l }) ∧
      Chunks (apData.take (min w.numBytesAvailable apData.length)) c l := by
  obtain ⟨l, hl, hchunks⟩ :=
    commit_eq (w := w) (apData.take (min w.numBytesAvailable apData.length)) c
  refine ⟨l, ?_, hchunks⟩
  rw [write, hl]
  rfl

/-- **`Flush` passes the events on from the front of the queue.** -/
theorem flush_eq {σ : Type} (apAcceptor : VtoData → PointClass → ℕ → σ → Except Exception σ) (n : ℕ)
    (s : σ) :
    w.flush apAcceptor n s = do
      let s ← (w.mQueue.take n).foldlM (fun s e ↦ apAcceptor e.mValue e.mClass e.mIndex s) s
      return (min n w.mQueue.length, { w with mQueue := w.mQueue.drop n }, s) := by
  obtain ⟨m, queue⟩ := w
  induction queue generalizing n s with
  | nil =>
    rw [List.take_nil, List.drop_nil]
    cases n with
    | zero => rfl
    | succ n => rfl
  | cons e queue ih =>
    cases n with
    | zero =>
      show Except.ok _ = Except.ok _
      rw [Nat.zero_min]
      rfl
    | succ n =>
      rw [flush, List.take_succ_cons, List.foldlM_cons]
      dsimp only
      cases apAcceptor e.mValue e.mClass e.mIndex s with
      | error err => rfl
      | ok s =>
        rw [except_ok_bind, except_ok_bind, ih]
        cases (queue.take n).foldlM (fun s e ↦ apAcceptor e.mValue e.mClass e.mIndex s) s with
        | error err => rfl
        | ok s =>
          rw [List.length_cons, Nat.succ_min_succ]
          rfl

end VtoWriter

/-! ## Runs -/

/-- What the users of a writer do. -/
inductive VtoWriterOp where
  | write (apData : List Byte) (aChannelId : Byte)
  | setLocalVtoState (aLocalVtoConnectionOpened : Bool) (aChannelId : Byte)
  | flush (aMaxEvents : ℕ)
  deriving DecidableEq

/-- A writer, with what it has accepted for each channel and what has been flushed. -/
structure VtoStream where
  writer : VtoWriter
  accepted : List (ℕ × List Byte)
  flushed : List (ℕ × List Byte)

namespace VtoStream

open VtoWriter

/-- The constructor of the writer. -/
def new (aMaxVtoChunks : ℕ) : VtoStream := ⟨⟨aMaxVtoChunks, []⟩, [], []⟩

/-- An acceptor that notes the octets. -/
def note (arEvent : VtoData) (_ : PointClass) (aIndex : ℕ) (l : List (ℕ × List Byte)) :
    Except Exception (List (ℕ × List Byte)) :=
  .ok (l ++ [(aIndex, arEvent.mpData)])

/-- One operation; a failed assertion ends the program. -/
def step (s : VtoStream) : VtoWriterOp → Option VtoStream
  | .write apData aChannelId =>
    (s.writer.write apData aChannelId).toOption.map fun (num, w) ↦
      { s with writer := w, accepted := s.accepted ++ [(aChannelId.toNat, apData.take num)] }
  | .setLocalVtoState opened aChannelId =>
    some { s with
      writer := s.writer.setLocalVtoState opened aChannelId
      accepted := s.accepted ++ [(255, (createVtoData opened aChannelId).mpData)] }
  | .flush aMaxEvents =>
    (s.writer.flush note aMaxEvents s.flushed).toOption.map fun (_, w, flushed) ↦
      { s with writer := w, flushed := flushed }

/-- No message about a connection comes when the queue is full. -/
def HasRoom (s : VtoStream) : VtoWriterOp → Prop
  | .setLocalVtoState _ _ => s.writer.mQueue.length < s.writer.mMaxVtoChunks
  | .write _ _ | .flush _ => True

instance (s : VtoStream) : ∀ op, Decidable (s.HasRoom op)
  | .setLocalVtoState _ _ => inferInstanceAs (Decidable (_ < _))
  | .write _ _ => .isTrue trivial
  | .flush _ => .isTrue trivial

/-- **The streams**: what has been flushed and what is queued is what has been accepted. -/
def Streams (s : VtoStream) : Prop :=
  ∀ c, octetsOn c (s.flushed ++ s.writer.mQueue.map octets) = octetsOn c s.accepted

theorem foldlM_note (l : List (EventInfo VtoData)) (noted : List (ℕ × List Byte)) :
    l.foldlM (fun s e ↦ note e.mValue e.mClass e.mIndex s) noted = .ok (noted ++ l.map octets) := by
  induction l generalizing noted with
  | nil => rw [List.map_nil, List.append_nil]; rfl
  | cons e l ih =>
    rw [List.foldlM_cons, note, except_ok_bind, ih, List.append_assoc]
    rfl

/-- **What an operation does**; none fails. -/
theorem step_spec (s : VtoStream) (op : VtoWriterOp) : ∃ t, s.step op = some t ∧
    t.writer.mMaxVtoChunks = s.writer.mMaxVtoChunks ∧ (s.Streams → t.Streams) ∧
    (s.HasRoom op → s.writer.mMaxVtoChunks ≤ sizeMax →
      s.writer.mQueue.length ≤ s.writer.mMaxVtoChunks →
        t.writer.mQueue.length ≤ t.writer.mMaxVtoChunks) := by
  cases op with
  | write apData c =>
    obtain ⟨l, hl, hchunks⟩ := write_eq (w := s.writer) apData c
    have hstep : s.step (.write apData c) = some { s with
        writer := { s.writer with mQueue := s.writer.mQueue ++ l }
        accepted := s.accepted ++
          [(c.toNat, apData.take (min s.writer.numBytesAvailable apData.length))] } := by
      rw [step, hl]
      rfl
    refine ⟨_, hstep, rfl, ?_, ?_⟩
    · intro hs d
      rw [List.map_append, ← List.append_assoc, octetsOn_append, hs d, hchunks.octets,
        octetsOn_append]
    · rintro - hmax hle
      show (s.writer.mQueue ++ l).length ≤ s.writer.mMaxVtoChunks
      have hlen := hchunks.length
      rw [List.length_take] at hlen
      have hbytes : s.writer.numBytesAvailable ≤
          (s.writer.mMaxVtoChunks - s.writer.mQueue.length) * VtoData.maxSize := by
        rw [numBytesAvailable, numChunksAvailable, sizeSub_of_le hle hmax]
        exact Nat.mod_le _ _
      have hfit : VtoData.maxSize * l.length <
          VtoData.maxSize * (s.writer.mMaxVtoChunks - s.writer.mQueue.length + 1) := by
        rw [Nat.mul_succ, Nat.mul_comm VtoData.maxSize (_ - _)]
        omega
      have hroom := Nat.lt_of_mul_lt_mul_left hfit
      rw [List.length_append]
      omega
  | setLocalVtoState opened c =>
    refine ⟨_, rfl, rfl, ?_, ?_⟩
    · intro hs d
      show octetsOn d (s.flushed ++ (s.writer.mQueue ++ [_]).map octets) = _
      rw [List.map_append, ← List.append_assoc, octetsOn_append, hs d, octetsOn_append]
      rfl
    · rintro hroom - -
      show (s.writer.mQueue ++ [_]).length ≤ s.writer.mMaxVtoChunks
      rw [List.length_append]
      exact hroom
  | flush n =>
    have hstep : s.step (.flush n) = some { s with
        writer := { s.writer with mQueue := s.writer.mQueue.drop n }
        flushed := s.flushed ++ (s.writer.mQueue.take n).map octets } := by
      rw [step, flush_eq, foldlM_note]
      rfl
    refine ⟨_, hstep, rfl, ?_, ?_⟩
    · intro hs d
      show octetsOn d (s.flushed ++ _ ++ (s.writer.mQueue.drop n).map octets) = _
      rw [List.append_assoc, ← List.map_append, List.take_append_drop]
      exact hs d
    · rintro - - hle
      show (s.writer.mQueue.drop n).length ≤ s.writer.mMaxVtoChunks
      rw [List.length_drop]
      exact Nat.le_trans (Nat.sub_le _ _) hle

/-- **The writer is a bounded stream**, in every run in which no message about a connection comes
when the queue is full: the queue keeps to the configured number of chunks, the space is what the
queue leaves, `Write` queues as many octets as it returns, and on each channel what has been
flushed, followed by what is queued, is what has been accepted. -/
theorem bounded_fifo {aMaxVtoChunks : ℕ} (hmax : aMaxVtoChunks ≤ sizeMax) {ops : List VtoWriterOp}
    {s : VtoStream} (hguard : Run.Guarded step HasRoom (new aMaxVtoChunks) ops)
    (hrun : Run.run step (new aMaxVtoChunks) ops = some s) :
    (s.writer.mQueue.length ≤ aMaxVtoChunks ∧
      s.writer.numChunksAvailable = aMaxVtoChunks - s.writer.mQueue.length) ∧
    (∀ op, ∃ t, s.step op = some t) ∧
    (∀ apData c, ∃ l, s.writer.write apData c =
        .ok (min s.writer.numBytesAvailable apData.length,
          { s.writer with mQueue := s.writer.mQueue ++ l }) ∧
      ∀ d, octetsOn d (l.map octets) =
        octetsOn d [(c.toNat, apData.take (min s.writer.numBytesAvailable apData.length))]) ∧
    ∀ c, octetsOn c s.flushed ++ octetsOn c (s.writer.mQueue.map octets) =
      octetsOn c s.accepted := by
  obtain ⟨hmax', hle, hstreams⟩ : s.writer.mMaxVtoChunks = aMaxVtoChunks ∧
      s.writer.mQueue.length ≤ s.writer.mMaxVtoChunks ∧ s.Streams := by
    refine Run.inv_of_guarded (I := fun s ↦ s.writer.mMaxVtoChunks = aMaxVtoChunks ∧
      s.writer.mQueue.length ≤ s.writer.mMaxVtoChunks ∧ s.Streams) ?_
        ⟨rfl, Nat.zero_le _, fun _ ↦ rfl⟩
      hguard hrun
    rintro s op t ⟨hmax', hle, hstreams⟩ hroom hstep
    obtain ⟨u, hu, hkeep, hstreams', hle'⟩ := s.step_spec op
    obtain rfl := Option.some.inj (hstep.symm.trans hu)
    exact ⟨hkeep.trans hmax', hle' hroom (hmax' ▸ hmax) hle, hstreams' hstreams⟩
  refine ⟨⟨hmax' ▸ hle, ?_⟩, fun op ↦ (s.step_spec op).imp fun _ h ↦ h.1, fun apData c ↦ ?_,
    fun c ↦ ?_⟩
  · rw [numChunksAvailable, sizeSub_of_le hle (hmax' ▸ hmax), hmax']
  · exact (write_eq apData c).imp fun l h ↦ ⟨h.1, h.2.octets⟩
  · rw [← octetsOn_append]
    exact hstreams c

/-- Octets of a channel, the message that it has been opened, and one chunk flushed. -/
theorem bounded_fifo_opened : ∃ s,
    Run.run step (new 2) [.write [1, 2] 4, .setLocalVtoState true 4, .flush 1] = some s ∧
    s.writer.mQueue.length ≤ 2 ∧ octetsOn 4 s.flushed ++ octetsOn 4 (s.writer.mQueue.map octets) =
      [1, 2] := by
  obtain ⟨s, hrun⟩ : ∃ s,
      Run.run step (new 2) [.write [1, 2] 4, .setLocalVtoState true 4, .flush 1] = some s :=
    Option.isSome_iff_exists.mp (by decide +kernel)
  obtain ⟨⟨hle, -⟩, -, -, hstreams⟩ := bounded_fifo (by rw [sizeMax_eq]; decide)
    (by decide +kernel) hrun
  have haccepted : (Run.run step (new 2) [.write [1, 2] 4, .setLocalVtoState true 4, .flush 1]).all
      (fun s ↦ octetsOn 4 s.accepted = [1, 2]) = true := by decide +kernel
  rw [hrun] at haccepted
  exact ⟨s, hrun, hle, (hstreams 4).trans (of_decide_eq_true haccepted)⟩

/-- **A message about a connection is queued whether there is room or not**, and then there seems to
be room for nearly everything. -/
theorem overfull : ∃ s,
    Run.run step (new 1) [.write [1] 4, .setLocalVtoState true 4] = some s ∧
    s.writer.mQueue.length = 2 ∧ s.writer.mMaxVtoChunks = 1 ∧
    s.writer.numChunksAvailable = 2 ^ 64 - 1 := by
  obtain ⟨s, hrun⟩ : ∃ s, Run.run step (new 1) [.write [1] 4, .setLocalVtoState true 4] = some s :=
    Option.isSome_iff_exists.mp (by decide +kernel)
  have heval : (Run.run step (new 1) [.write [1] 4, .setLocalVtoState true 4]).all (fun s ↦
      s.writer.mQueue.length = 2 ∧ s.writer.mMaxVtoChunks = 1 ∧
        s.writer.numChunksAvailable = 2 ^ 64 - 1) = true := by decide +kernel
  rw [hrun] at heval
  exact ⟨s, hrun, of_decide_eq_true heval⟩

end VtoStream

end OpenDNP3
