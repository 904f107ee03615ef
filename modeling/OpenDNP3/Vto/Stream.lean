import OpenDNP3.Vto.Connection

/-!
# The stream to the remote side

What is read from the local connection, and what becomes of this connection, goes through
`mVtoTxBuffer` to the writer.  The writer takes any part of what it is offered: what it does not
take goes back to the front of the queue, and messages about the connection wait behind it.

What has happened is not kept by the router, so the stream is compared with what was due when an
event came (`Origin`) and with what the event has done to `mLocalConnected` since.  A router tells
the remote side once of a change; so a change and the change back within one event would not show.
There is none: a connection that opens while an event is handled is not closed by the same event.

* `VtoRouter.Streams` — what has been written, followed by what is queued, is what is due.
* `VtoRouter.checkForVtoWrite_eq` — the recursion of `CheckForVtoWrite` ends.
* `Monitored.Tracks` — what the router needs to know about its monitor; a request to close may
  throw.
* `VtoRouter.Settled` and `VtoRouter.Unopened` — what is waiting for the local connection.
* `VtoRouter.Flowing` — the invariant, with a read outstanding when there is room.
-/

set_option autoImplicit false

namespace OpenDNP3

open Handler

/-! ## The stream -/

/-- What passes to the remote side, an octet or a message about the local connection. -/
inductive VtoItem where
  | octet (b : Byte)
  | connection (aType : VtoDataType)
  deriving DecidableEq, Repr

/-- The items of messages. -/
def items (l : List VtoData) : List VtoItem :=
  l.flatMap fun d ↦ if d.mType = .data then d.mpData.map .octet else [.connection d.mType]

@[simp] theorem items_append (l l' : List VtoData) : items (l ++ l') = items l ++ items l' :=
  List.flatMap_append

theorem items_cons (d : VtoData) (l : List VtoData) : items (d :: l) = items [d] ++ items l :=
  items_append [d] l

/-- Data may be cut. -/
theorem items_data (x y : List Byte) :
    items [⟨.data, x⟩] ++ items [⟨.data, y⟩] = items [⟨.data, x ++ y⟩] := by
  simp [items]

/-- Where a router stands when an event comes: what is due at the remote side, and whether the local
side is connected. -/
structure Origin where
  due : List VtoItem
  connected : Bool

/-- More is due. -/
def Origin.plus (o : Origin) (l : List VtoItem) : Origin := { o with due := o.due ++ l }

namespace VtoRouter

/-- What the remote side is to know of a change of the local connection. -/
def change (aFrom aTo : Bool) : List VtoItem := if aTo = aFrom then [] else items [connection aTo]

@[simp] theorem change_self (b : Bool) : change b b = [] := if_pos rfl

/-- **The stream** of a router, with messages that are yet to be queued. -/
def Streams (o : Origin) (u : VtoRouter) (later : List VtoData) : Prop :=
  items u.written ++ items (u.mVtoTxBuffer ++ later) = o.due ++ change o.connected u.mLocalConnected

/-! ## The recursion -/

/-- One call of `CheckForVtoWrite` calls itself with a queue that is shorter. -/
theorem checkForVtoWriteOf_congr {n : ℕ} {s : Monitored VtoRouter}
    (h : s.user.mVtoTxBuffer.length = n) :
    checkForVtoWrite s = checkForVtoWriteOf n s := by
  rw [← h]
  rfl

/-- Of its own call of itself matters what it does with the rest of the queue. -/
theorem writeMessage_congr {x y : Op Unit} (msg : VtoData) {s : Monitored VtoRouter}
    (h : ∀ t : Monitored VtoRouter, t.user.mVtoTxBuffer = s.user.mVtoTxBuffer → x t = y t) :
    writeMessage x msg s = writeMessage y msg s := by
  rw [writeMessage, writeMessage]
  by_cases hdata : msg.mType = .data
  · rw [if_pos hdata, if_pos hdata]
    refine bind_congr_of_ok fun n t ht ↦ ?_
    cases ht
    by_cases hpart : min s.user.available msg.mpData.length < msg.getSize
    · rw [if_pos hpart, if_pos hpart]
    · rw [if_neg hpart, if_neg hpart]
      exact h _ rfl
  · rw [if_neg hdata, if_neg hdata]
    refine bind_congr_of_ok fun _ t ht ↦ ?_
    cases ht
    exact h _ rfl

/-- **`CheckForVtoWrite` is the function that calls itself**, and its calls end. -/
theorem checkForVtoWrite_eq : checkForVtoWrite = (do
    writeFront checkForVtoWrite
    checkForPhysRead) := by
  funext s
  cases hqueue : s.user.mVtoTxBuffer with
  | nil =>
    have hnone : writeFront checkForVtoWrite s = .ok () s := by
      have hempty : writeFront checkForVtoWrite s = (get >>= fun _ ↦ pure () : Op Unit) s := by
        refine bind_congr_of_ok fun t u ht ↦ ?_
        cases ht
        rw [hqueue]
      exact hempty
    rw [checkForVtoWriteOf_congr (n := 0) (by rw [hqueue]; rfl), checkForVtoWriteOf]
    show _ = EStateM.bind _ _ s
    rw [EStateM.bind, hnone]
  | cons msg rest =>
    rw [checkForVtoWriteOf_congr (n := rest.length + 1) (by rw [hqueue]; rfl), checkForVtoWriteOf]
    have hfront : writeFront (checkForVtoWriteOf rest.length) s =
        writeFront checkForVtoWrite s := by
      refine bind_congr_of_ok fun t u ht ↦ ?_
      cases ht
      rw [hqueue]
      refine bind_congr_of_ok fun _ u hu ↦ ?_
      cases hu
      exact writeMessage_congr msg fun t ht ↦
        (checkForVtoWriteOf_congr (congrArg List.length ht)).symm
    show EStateM.bind _ _ s = EStateM.bind _ _ s
    rw [EStateM.bind, EStateM.bind, hfront]

end VtoRouter

/-! ## The monitor -/

/-- **What the router needs to know** about the port and its monitor: the monitor knows whether the
port is open, and while the port is opening it knows this too, and has closed it only if the port is
to close. -/
structure Monitored.Tracks {υ : Type} (s : Monitored υ) : Prop where
  up : s.mIsLowerLayerUp = s.mState.mOpen
  opening : s.mState.mOpening = true → s.mState.mOpen = false ∧ s.mpState.phase = .opening ∧
    (s.mpState.hasClosed = true → s.mState.mClosing = true)

/-- To close the port now throws nothing, and calls nothing. -/
def Monitored.Calm {υ : Type} (s : Monitored υ) : Prop :=
  s.mpState.phase = .idle ∨ s.mState.mOpening = true ∧ s.mState.mClosing = false

namespace VtoRouter

/-! ## What waits for the local connection

A router that is not connected has flushed its queue.  What comes then is data at first, since a
message about the connection is taken at once when nothing is in front of it. -/

/-- There is no message about the connection at the front. -/
def Still (q : List VtoData) : Prop := ∀ d ∈ q.head?, d.mType = .data

theorem still_nil : Still [] := by simp [Still]

theorem still_cons {d : VtoData} {q : List VtoData} : Still (d :: q) ↔ d.mType = .data := by
  simp [Still]

/-- **What is known between events**, and `c` says whether the local side was connected when the
last one came. -/
structure Settled (c : Bool) (v : VtoView) : Prop where
  flushed : c = true → v.local = false → v.queue = []
  still : v.local = false → Still v.queue
  isOpen : v.isOpen = true → v.local = true

/-- The local connection has not been opened by the event. -/
structure Unopened (c : Bool) (v : VtoView) : Prop extends Settled c v where
  connected : v.local = true → c = true

/-- The local connection is down. -/
structure Closed (c : Bool) (v : VtoView) : Prop extends Unopened c v where
  down : v.isOpen = false

variable {c : Bool} {v w : VtoView}

/-- What does not matter. -/
theorem Settled.congr (h : Settled c v) (hq : w.queue = v.queue) (hl : w.local = v.local)
    (ho : w.isOpen = true → v.isOpen = true) : Settled c w where
  flushed hc hw := hq.trans (h.flushed hc (hl.symm.trans hw))
  still hw := by
    rw [hq]
    exact h.still (hl.symm.trans hw)
  isOpen hw := hl.trans (h.isOpen (ho hw))

theorem Unopened.congr (h : Unopened c v) (hq : w.queue = v.queue) (hl : w.local = v.local)
    (ho : w.isOpen = true → v.isOpen = true) : Unopened c w :=
  ⟨h.toSettled.congr hq hl ho, fun hw ↦ h.connected (hl.symm.trans hw)⟩

theorem Closed.congr (h : Closed c v) (hq : w.queue = v.queue) (hl : w.local = v.local)
    (ho : w.isOpen = v.isOpen) : Closed c w :=
  ⟨h.toUnopened.congr hq hl fun hw ↦ ho.symm.trans hw, ho.trans h.down⟩

/-- The queue is flushed. -/
theorem Unopened.flush (h : Unopened c v) (hq : w.queue = []) (hl : w.local = v.local)
    (ho : w.isOpen = v.isOpen) : Unopened c w where
  flushed _ _ := hq
  still _ := by
    rw [hq]
    exact still_nil
  isOpen hw := hl.trans (h.isOpen (ho.symm.trans hw))
  connected hw := h.connected (hl.symm.trans hw)

/-- While the local side is connected, anything may be waiting. -/
theorem settled_of_local (hl : v.local = true) : Settled c v where
  flushed _ hw := Bool.noConfusion (hl.symm.trans hw)
  still hw := Bool.noConfusion (hl.symm.trans hw)
  isOpen _ := hl

/-- A router that was connected has not been opened. -/
theorem Settled.unopened (h : Settled c v) (hc : v.local = true → c = true) :
    Unopened c v := ⟨h, hc⟩

/-! ## The invariant -/

/-- A read is outstanding, unless the port cannot read or three messages are queued. -/
def Reads (s : Monitored VtoRouter) : Prop :=
  s.mState.canRead = true → 3 ≤ s.user.mVtoTxBuffer.length

/-- The monitor, and the stream with a message that is yet to be queued; `F` is what is known of the
local connection. -/
structure Owes (o : Origin) (F : VtoView → Prop) (later : List VtoData) (s : Monitored VtoRouter) :
    Prop where
  tracks : s.Tracks
  streams : s.user.Streams o later
  seen : F (view s)

/-- **The invariant** of a router and its port. -/
structure Flowing (o : Origin) (F : VtoView → Prop) (s : Monitored VtoRouter) : Prop
    extends Owes o F [] s where
  reads : Reads s

variable {o : Origin} {F G : VtoView → Prop} {s : Monitored VtoRouter} {kind : VtoRouterKind}
variable {user : Callbacks VtoRouter}

/-- Less is known. -/
theorem Flowing.imp (h : Flowing o F s) (hF : F (view s) → G (view s)) : Flowing o G s :=
  ⟨⟨h.tracks, h.streams, hF h.seen⟩, h.reads⟩

theorem Owes.imp {later : List VtoData} (h : Owes o F later s) (hF : F (view s) → G (view s)) :
    Owes o G later s :=
  ⟨h.tracks, h.streams, hF h.seen⟩

/-! ## To the remote side -/

/-- Afterwards a read is outstanding, whether one was before or not. -/
theorem wp_checkForPhysRead (h : Owes o F [] s) :
    wp checkForPhysRead (fun _ t ↦ Flowing o F t) (fun _ _ ↦ False) s := by
  rw [checkForPhysRead, wp_bind, wp_get]
  refine wp_ite (fun hcan ↦ ?_) fun hcan ↦ ?_
  · have hread : s.mState.canRead = true := (Bool.and_eq_true_iff.mp hcan).1
    rw [Monitored.asyncRead, wp_bind, wp_get, wp_bind, wp_ensure_of hread, wp_modify]
    refine ⟨⟨⟨h.tracks.up, h.tracks.opening⟩, h.streams, h.seen⟩, fun hagain ↦ ?_⟩
    simp [PhysState.canRead] at hagain
  · refine ⟨h, fun hread ↦ ?_⟩
    simpa [hread] using hcan

/-- **`CheckForVtoWrite` moves the front of the queue to the writer**, and does not throw. -/
theorem wp_checkForVtoWriteOf (n : ℕ) (h : Owes o F [] s) :
    wp (checkForVtoWriteOf n) (fun _ t ↦ Flowing o F t) (fun _ _ ↦ False) s := by
  induction n generalizing s with
  | zero => exact wp_checkForPhysRead h
  | succ n ih =>
    rw [checkForVtoWriteOf, wp_bind]
    suffices hfront : wp (writeFront (checkForVtoWriteOf n)) (fun _ t ↦ Owes o F [] t)
        (fun _ _ ↦ False) s from
      wp_mono hfront (fun _ _ ht ↦ wp_checkForPhysRead ht) fun _ _ he ↦ he
    rw [writeFront, wp_bind, wp_get]
    cases hqueue : s.user.mVtoTxBuffer with
    | nil => exact h
    | cons msg rest =>
      have hstream : items s.user.written ++ (items [msg] ++ items rest) =
          o.due ++ change o.connected s.user.mLocalConnected := by
        have hs := h.streams
        rwa [Streams, hqueue, List.append_nil, items_cons] at hs
      dsimp only
      rw [wp_bind, update, wp_modify, writeMessage]
      refine wp_ite (fun hdata ↦ ?_) fun hdata ↦ ?_
      · have hmsg : items [msg] = items [⟨.data, msg.mpData⟩] := by
          rw [← hdata]
        rw [hmsg] at hstream
        have hpart (n : ℕ) : items (s.user.written ++ [⟨.data, msg.mpData.take n⟩]) ++
            items (⟨.data, msg.mpData.drop n⟩ :: rest ++ []) =
              o.due ++ change o.connected s.user.mLocalConnected := by
          rw [← hstream, List.append_nil, items_append, items_cons _ rest, List.append_assoc,
            ← List.append_assoc (items [⟨.data, msg.mpData.take n⟩]), items_data,
            List.take_append_drop]
        rw [wp_bind, write, wp_bind, wp_get, wp_bind, update, wp_modify, wp_pure]
        refine wp_ite (fun _ ↦ ?_) fun hall ↦ ?_
        · -- what has not been taken goes back to the front
          exact ⟨⟨h.tracks.up, h.tracks.opening⟩, hpart _, h.seen⟩
        · refine wp_mono (ih ⟨⟨h.tracks.up, h.tracks.opening⟩, ?_, h.seen⟩)
            (fun _ _ ht ↦ ht.toOwes) fun _ _ he ↦ he
          have htaken : msg.mpData.take (min s.user.available msg.mpData.length) = msg.mpData :=
            List.take_of_length_le (Nat.le_of_not_lt hall)
          rw [Streams, List.append_nil, items_append, htaken, List.append_assoc]
          exact hstream
      · rw [wp_bind, update, wp_modify]
        refine wp_mono (ih ⟨⟨h.tracks.up, h.tracks.opening⟩, ?_, h.seen⟩)
          (fun _ _ ht ↦ ht.toOwes) fun _ _ he ↦ he
        rw [Streams, List.append_nil, items_append, List.append_assoc]
        exact hstream

theorem wp_checkForVtoWrite (h : Owes o F [] s) :
    wp checkForVtoWrite (fun _ t ↦ Flowing o F t) (fun _ _ ↦ False) s := by
  rw [checkForVtoWrite, wp_bind, wp_get]
  exact wp_checkForVtoWriteOf _ h

theorem flowing_checkForVtoWrite : Stable (Flowing o F) checkForVtoWrite :=
  fun _ h ↦ wp_mono (wp_checkForVtoWrite h.toOwes) (fun _ _ ht ↦ ht) fun _ _ he ↦ he.elim

/-- A message about the connection is queued. -/
theorem wp_notifyRemoteSideOfState {b : Bool} (h : Owes o F [connection b] s) :
    wp (notifyRemoteSideOfState b) (fun _ t ↦ Flowing o F t) (fun _ _ ↦ False) s := by
  rw [notifyRemoteSideOfState, wp_bind, update, wp_modify]
  refine wp_checkForVtoWrite ⟨⟨h.tracks.up, h.tracks.opening⟩, ?_, h.seen⟩
  have hs := h.streams
  rwa [Streams, ← List.append_nil (_ ++ [_])] at hs

/-! ## The monitor

Opening and waiting do not touch what is seen of the local connection. -/

/-- What the invariant does not look at. -/
theorem Flowing.congr {t : Monitored VtoRouter} (h : Flowing o F s)
    (ht : t.mIsLowerLayerUp = s.mIsLowerLayerUp ∧ t.mpState = s.mpState ∧ t.mState = s.mState)
    (hu : t.user.written = s.user.written ∧ t.user.mVtoTxBuffer = s.user.mVtoTxBuffer ∧
      t.user.mLocalConnected = s.user.mLocalConnected) (hF : F (view s) → G (view t)) :
    Flowing o G t := by
  obtain ⟨hup, hm, hp⟩ := ht
  obtain ⟨hw, hq, hl⟩ := hu
  refine ⟨⟨⟨?_, ?_⟩, ?_, hF h.seen⟩, ?_⟩
  · rw [hup, hp]
    exact h.tracks.up
  · rw [hp, hm]
    exact h.tracks.opening
  · rw [Streams, hw, hq, hl]
    exact h.streams
  · rw [Reads, hp, hq]
    exact h.reads

/-- The monitor goes to another state. -/
theorem Flowing.enter (h : Flowing o F s) {m : MonitorState}
    (hm : s.mState.mOpening = true →
      m.phase = .opening ∧ (m.hasClosed = true → s.mState.mClosing = true)) :
    Flowing o F { s with mpState := m } :=
  ⟨⟨⟨h.tracks.up, fun ho ↦ ⟨(h.tracks.opening ho).1, hm ho⟩⟩, h.streams, h.seen⟩, h.reads⟩

theorem Flowing.follow (h : Flowing o F s) {m : MonitorState} (hm : m.Follows s.mpState) :
    Flowing o F { s with mpState := m } := by
  refine h.enter fun ho ↦ ?_
  obtain ⟨-, hphase, hclosed⟩ := h.tracks.opening ho
  exact ⟨hm.1.trans hphase, fun hc ↦ hclosed (hm.2.2 hc)⟩

theorem Flowing.not_opening (h : Flowing o F s) (hphase : s.mpState.phase ≠ .opening) :
    s.mState.mOpening = false :=
  Bool.eq_false_iff.mpr fun ho ↦ hphase (h.tracks.opening ho).2.1

/-- A state is left in which the port is not opening. -/
theorem Flowing.leave (h : Flowing o F s) (ho : s.mState.mOpening = false) (m : MonitorState) :
    Flowing o F { s with mpState := m } :=
  h.enter fun ho' ↦ Bool.noConfusion (ho.symm.trans ho')

/-- **The monitor opens the port**, which is calm then. -/
theorem wp_openInto (h : Flowing o F s) {m : MonitorState} (hm : m.Opens) :
    wp (Monitored.openInto m) (fun _ t ↦ Flowing o F t ∧ t.Calm) (fun _ t ↦ Flowing o F t) s := by
  have hstate : Flowing o F { s with mpState := m } :=
    h.enter fun _ ↦ ⟨hm.1, fun hc ↦ Bool.noConfusion (hm.2.2.symm.trans hc)⟩
  rw [Monitored.openInto, wp_bind, Monitored.changeState, wp_modify, Monitored.asyncOpen, wp_bind,
    wp_get, wp_bind, wp_ensure]
  split
  · next hcan =>
    simp [PhysState.canOpen, PhysState.isClosed] at hcan
    obtain ⟨⟨⟨⟨-, hopen⟩, hclosing⟩, -⟩, -⟩ := hcan
    rw [wp_bind, wp_modify, Monitored.logged, wp_modify]
    have hopening : m.hasClosed = true → s.mState.mClosing = true :=
      fun hc ↦ Bool.noConfusion (hm.2.2.symm.trans hc)
    exact ⟨⟨⟨⟨h.tracks.up, fun _ ↦ ⟨hopen, hm.1, hopening⟩⟩, h.streams, h.seen⟩, h.reads⟩,
      .inr ⟨rfl, hclosing⟩⟩
  · exact hstate

theorem wp_openInto' (h : Flowing o F s) {m : MonitorState} (hm : m.Opens) :
    wp (Monitored.openInto m) (fun _ t ↦ Flowing o F t) (fun _ t ↦ Flowing o F t) s :=
  wp_mono (wp_openInto h hm) (fun _ _ ht ↦ ht.1) fun _ _ ht ↦ ht

theorem flowing_start : Stable (Flowing o F) (Monitored.start : Op Unit) := by
  refine stable_get_bind fun s h ↦ ?_
  split
  · exact wp_openInto' h (by decide)
  · exact wp_openInto' h (by decide)
  · next hm => exact h.follow (by rw [hm]; decide)
  · next hm => exact h.follow (by rw [hm]; decide)
  · next hm => exact h.follow (by rw [hm]; decide)
  · next hm => exact h.follow (by rw [hm]; decide)
  · next hm => exact h.follow (by rw [hm]; decide)
  · exact h

theorem flowing_startOne : Stable (Flowing o F) (Monitored.startOne : Op Unit) := by
  refine stable_get_bind fun s h ↦ ?_
  split
  · exact wp_openInto' h (by decide)
  · exact wp_openInto' h (by decide)
  · next hm => exact h.follow (by rw [hm]; decide)
  · next hm => exact h.follow (by rw [hm]; decide)
  · next hm => exact h.follow (by rw [hm]; decide)
  · next hm => exact h.follow (by rw [hm]; decide)
  · next hm => exact h.follow (by rw [hm]; decide)
  · exact h

theorem flowing_onOpenTimerExpiration :
    Stable (Flowing o F) (Monitored.onOpenTimerExpiration : Op Unit) := by
  have htimeout : Stable (Flowing o F) (Monitored.onOpenTimeout : Op Unit) := by
    refine stable_get_bind fun s h ↦ ?_
    split
    · exact wp_openInto' h (by decide)
    · exact wp_openInto' h (by decide)
    · exact h
  refine stable_get_bind fun s h ↦ ?_
  rw [wp_bind, wp_ensure]
  split
  · exact htimeout _ (h.congr ⟨rfl, rfl, rfl⟩ ⟨rfl, rfl, rfl⟩ id)
  · exact h

/-- The port has failed to open. -/
theorem wp_onOpenFailure (h : Flowing o F s) (ho : s.mState.mOpening = false) :
    wp (Monitored.onOpenFailure : Op Unit) (fun _ t ↦ Flowing o F t ∧ t.Calm)
      (fun _ t ↦ Flowing o F t) s := by
  have hwait : wp (do Monitored.changeState .waiting; Monitored.startOpenTimer : Op Unit)
      (fun _ t ↦ Flowing o F t ∧ t.Calm) (fun _ t ↦ Flowing o F t) s := by
    rw [wp_bind, Monitored.changeState, wp_modify, Monitored.startOpenTimer, wp_bind, wp_get,
      wp_bind, wp_ensure]
    split
    · exact ⟨(h.leave ho .waiting).congr ⟨rfl, rfl, rfl⟩ ⟨rfl, rfl, rfl⟩ id, .inl rfl⟩
    · exact h.leave ho .waiting
  rw [Monitored.onOpenFailure, wp_bind, wp_get]
  split
  · exact hwait
  · exact hwait
  · exact ⟨h.leave ho _, .inl rfl⟩
  · exact ⟨h.leave ho _, .inl rfl⟩
  · exact ⟨h.leave ho _, .inl rfl⟩
  · exact h

/-- The port has closed. -/
theorem wp_onLayerClose (h : Flowing o F s) (ho : s.mState.mOpening = false) :
    wp (Monitored.onLayerClose : Op Unit) (fun _ t ↦ Flowing o F t ∧ t.Calm)
      (fun _ t ↦ Flowing o F t) s := by
  have hagain : wp (do Monitored.changeState .suspended; Monitored.start : Op Unit)
      (fun _ t ↦ Flowing o F t ∧ t.Calm) (fun _ t ↦ Flowing o F t) s := by
    rw [wp_bind, Monitored.changeState, wp_modify, Monitored.start, wp_bind, wp_get]
    exact wp_openInto (h.leave ho .suspended) (by decide)
  rw [Monitored.onLayerClose, wp_bind, wp_get]
  split
  · exact hagain
  · exact hagain
  · exact ⟨h.leave ho _, .inl rfl⟩
  · exact ⟨h.leave ho _, .inl rfl⟩
  · exact ⟨h.leave ho _, .inl rfl⟩
  · exact h

/-! ## Closing

A connection is closed by an event that has not opened it.  If it was up before, the queue is
flushed. -/

/-- What the user does when the port has closed, or has not opened, keeps the invariant. -/
structure ClosesFlowing (o : Origin) (user : Callbacks VtoRouter) : Prop where
  failure {s : Monitored VtoRouter} (h : Flowing o (Closed o.connected) s) (hcalm : s.Calm) :
    wp user.onPhysicalLayerOpenFailureCallback (fun _ t ↦ Flowing o (Unopened o.connected) t)
      (fun _ t ↦ Flowing o (Unopened o.connected) t) s
  close {s : Monitored VtoRouter} (h : Flowing o (Closed o.connected) s) (hcalm : s.Calm) :
    wp user.onPhysicalLayerCloseCallback (fun _ t ↦ Flowing o (Unopened o.connected) t)
      (fun _ t ↦ Flowing o (Unopened o.connected) t) s

/-- A port that cannot read needs no read. -/
theorem Owes.flowing_of_not_canRead (h : Owes o F [] s) (hcan : s.mState.canRead = false) :
    Flowing o F s :=
  ⟨h, fun hread ↦ Bool.noConfusion (hcan.symm.trans hread)⟩

theorem flowing_closeIfDue (huser : ClosesFlowing o user) :
    Stable (Flowing o (Unopened o.connected)) (Monitored.closeIfDue user) := by
  intro s h
  rw [Monitored.closeIfDue, wp_bind, Monitored.wp_checkForClose]
  split
  · next hdue =>
    have ho : s.mState.mOpening = false := by
      simp [PhysState.callbacksPending] at hdue
      exact hdue.2.1.1
    rw [if_pos rfl, Monitored.onLowerLayerDown, wp_bind, wp_get, wp_bind, Monitored.logged,
      wp_modify, wp_bind, wp_get, wp_bind, wp_ensure]
    have hopening {p : Prop} (ho' : s.mState.mOpening = true) : p :=
      Bool.noConfusion (ho.symm.trans ho')
    split
    · rw [wp_bind, wp_modify, wp_bind]
      have hdown : Flowing o (Closed o.connected) { s with
          mState := { s.mState with mClosing := false, mOpen := false }
          mIsLowerLayerUp := false
          log := s.log ++ [.onLowerLayerDown (s.mState.mReading || s.mState.mWriting)] } :=
        Owes.flowing_of_not_canRead ⟨⟨rfl, fun ho' ↦ hopening ho'⟩, h.streams,
          h.seen.congr rfl rfl Bool.noConfusion, rfl⟩ rfl
      exact wp_mono (wp_onLayerClose hdown ho) (fun _ _ ht ↦ huser.close ht.1 ht.2)
        fun _ _ ht ↦ ht.imp Closed.toUnopened
    · next hup =>
      exact Owes.flowing_of_not_canRead ⟨⟨Bool.eq_false_iff.mpr hup, fun ho' ↦ hopening ho'⟩,
        h.streams, h.seen.congr rfl rfl Bool.noConfusion⟩ rfl
  · rw [if_neg Bool.false_ne_true]
    exact h

/-- **A request to close**: it throws if the port is closing already, and is noted all the same. -/
theorem wp_closeInto (huser : ClosesFlowing o user) (h : Flowing o (Unopened o.connected) s)
    {m : MonitorState} (hphase : m.phase = s.mpState.phase) :
    wp (Monitored.closeInto user m) (fun _ t ↦ Flowing o (Unopened o.connected) t)
      (fun _ t ↦ Flowing o (Unopened o.connected) t) s := by
  rw [Monitored.closeInto, wp_bind, Monitored.changeState, wp_modify, Monitored.asyncClose, wp_bind,
    Monitored.startClose, wp_bind, wp_get, wp_bind, wp_ensure]
  split
  · rw [wp_modify]
    refine flowing_closeIfDue huser _ (Owes.flowing_of_not_canRead
      ⟨⟨h.tracks.up, fun ho ↦ ?_⟩, h.streams, h.seen.congr rfl rfl id⟩ ?_)
    · obtain ⟨hopen, hopening, -⟩ := h.tracks.opening ho
      exact ⟨hopen, hphase.trans hopening, fun _ ↦ rfl⟩
    · simp [PhysState.canRead]
  · next hcan =>
    refine h.enter fun ho ↦ ⟨hphase.trans (h.tracks.opening ho).2.1, fun _ ↦ ?_⟩
    have ho : s.mState.mOpening = true := ho
    simpa [PhysState.canClose, ho] using hcan

/-- A request is noted. -/
theorem flowing_request (r : MonitorRequest) : Stable (Flowing o (Unopened o.connected))
    (update fun u ↦ { u with requested := u.requested ++ [r] }) :=
  stable_modify fun _ h ↦ h.congr ⟨rfl, rfl, rfl⟩ ⟨rfl, rfl, rfl⟩ fun hs ↦ hs.congr rfl rfl id

theorem flowing_close (huser : ClosesFlowing o user) :
    Stable (Flowing o (Unopened o.connected)) (close user) := by
  refine stable_bind (flowing_request .close) fun _ ↦ stable_get_bind fun s h ↦ ?_
  split
  · next hm => exact wp_closeInto huser h (by rw [hm]; rfl)
  · next hm => exact wp_closeInto huser h (by rw [hm]; rfl)
  · next hm => exact wp_closeInto huser h (by rw [hm]; rfl)
  · next hm => exact wp_closeInto huser h (by rw [hm]; rfl)
  · exact h

theorem flowing_suspend (huser : ClosesFlowing o user) :
    Stable (Flowing o (Unopened o.connected)) (suspend user) := by
  refine stable_bind (flowing_request .suspend) fun _ ↦ stable_get_bind fun s h ↦ ?_
  have hcancel (ho : s.mState.mOpening = false) :
      wp (do Monitored.cancelOpenTimer; Monitored.changeState .suspended : Op Unit)
        (fun _ t ↦ Flowing o (Unopened o.connected) t)
        (fun _ t ↦ Flowing o (Unopened o.connected) t) s := by
    rw [wp_bind, Monitored.cancelOpenTimer, wp_bind, wp_get, wp_bind, wp_ensure]
    split
    · exact (h.leave ho .suspended).congr ⟨rfl, rfl, rfl⟩ ⟨rfl, rfl, rfl⟩ id
    · exact h
  split
  · next hm => exact wp_closeInto huser h (by rw [hm]; rfl)
  · next hm => exact wp_closeInto huser h (by rw [hm]; rfl)
  · next hm => exact h.follow (by rw [hm]; decide)
  · next hm => exact wp_closeInto huser h (by rw [hm]; rfl)
  · next hm => exact wp_closeInto huser h (by rw [hm]; rfl)
  · next hm => exact hcancel (h.not_opening (by rw [hm]; decide))
  · next hm => exact hcancel (h.not_opening (by rw [hm]; decide))
  · next hm => exact h.follow (by rw [hm]; decide)
  · exact h

/-- **A calm port is closed**, and nothing is thrown or called. -/
theorem wp_close_of_calm {later : List VtoData} (h : Owes o (Unopened o.connected) later s)
    (hcalm : s.Calm) :
    wp (close user) (fun _ t ↦ Owes o (Unopened o.connected) later t) (fun _ _ ↦ False) s := by
  rw [close, wp_bind, update, wp_modify, Monitored.close, wp_bind, wp_get]
  have hinto {m : MonitorState} (hm : m.phase = .opening) (hold : s.mpState.phase = .opening) :
      wp (Monitored.closeInto user m) (fun _ t ↦ Owes o (Unopened o.connected) later t)
        (fun _ _ ↦ False)
        { s with user := { s.user with requested := s.user.requested ++ [.close] } } := by
    obtain hidle | ⟨ho, hclosing⟩ := hcalm
    · exact PortPhase.noConfusion (hidle.symm.trans hold)
    have hcan : s.mState.canClose = true := by
      simp [PhysState.canClose, ho, hclosing]
    rw [Monitored.closeInto, wp_bind, Monitored.changeState, wp_modify, Monitored.asyncClose,
      wp_bind, Monitored.startClose, wp_bind, wp_get, wp_bind, wp_ensure_of hcan, wp_modify,
      Monitored.closeIfDue, wp_bind, Monitored.wp_checkForClose,
      if_neg (by simp [PhysState.callbacksPending, ho]), if_neg Bool.false_ne_true]
    exact ⟨⟨h.tracks.up, fun _ ↦ ⟨(h.tracks.opening ho).1, hm, fun _ ↦ rfl⟩⟩, h.streams,
      h.seen.congr rfl rfl id⟩
  have hopened (hphase : s.mpState.phase = .opened) : False := by
    obtain hidle | ⟨ho, -⟩ := hcalm
    · exact PortPhase.noConfusion (hidle.symm.trans hphase)
    · exact PortPhase.noConfusion ((h.tracks.opening ho).2.1.symm.trans hphase)
  split
  · next hm => exact hinto rfl (congrArg MonitorState.phase hm)
  · next hm => exact hinto rfl (congrArg MonitorState.phase hm)
  · next hm => exact (hopened (congrArg MonitorState.phase hm)).elim
  · next hm => exact (hopened (congrArg MonitorState.phase hm)).elim
  · exact ⟨⟨h.tracks.up, h.tracks.opening⟩, h.streams, h.seen.congr rfl rfl id⟩

theorem flowing_flushBuffers : Stable (Flowing o (Unopened o.connected)) flushBuffers :=
  stable_modify fun _ h ↦ h.congr ⟨rfl, rfl, rfl⟩ ⟨rfl, rfl, rfl⟩ fun hs ↦ hs.flush rfl rfl rfl

theorem flowing_closeAndFlushBuffers (huser : ClosesFlowing o user) :
    Stable (Flowing o (Unopened o.connected)) (closeAndFlushBuffers user) :=
  stable_bind flowing_flushBuffers fun _ ↦ flowing_close huser

/-! ## The local connection -/

/-- **The local connection has been opened**, by an event that found it closed or had not closed it;
a read may be lacking before. -/
theorem wp_setLocalConnected_open (h : Owes o F [] s)
    (hconn : s.user.mLocalConnected = false → o.connected = false)
    (hG : G { view s with «local» := true }) :
    wp (setLocalConnected kind user true) (fun _ t ↦ Owes o G [] t ∧ (Reads s → Reads t))
      (fun _ _ ↦ False) s := by
  rw [setLocalConnected, wp_bind, wp_get]
  refine wp_ite (fun hlocal ↦ ?_) fun hlocal ↦ ?_
  · have hlocal : s.user.mLocalConnected = false := by simpa using hlocal
    rw [wp_bind, update, wp_modify, wp_bind, handleSetLocalConnected.eq_def, wp_bind, wp_get]
    change wp (notifyRemoteSideOfState true) _ _ _
    refine wp_mono (wp_notifyRemoteSideOfState (o := o) (F := G)
      ⟨⟨h.tracks.up, h.tracks.opening⟩, ?_, hG⟩) (fun _ _ ht ↦ ⟨ht.toOwes, fun _ ↦ ht.reads⟩)
      fun _ _ he ↦ he
    have hs := h.streams
    rw [Streams, hlocal, hconn hlocal, change_self, List.append_nil, List.append_nil] at hs
    rw [Streams, hconn hlocal, items_append, ← List.append_assoc, hs]
    rfl
  · have hlocal : s.user.mLocalConnected = true := by simpa using hlocal
    have hview : { view s with «local» := true } = view s := by
      rw [← hlocal]
      rfl
    exact ⟨⟨h.tracks, h.streams, hview ▸ hG⟩, id⟩

/-- **The local connection has closed, or has not opened.** -/
theorem wp_setLocalConnected_close (h : Flowing o (Closed o.connected) s) (hcalm : s.Calm) :
    wp (setLocalConnected kind user false) (fun _ t ↦ Flowing o (Unopened o.connected) t)
      (fun _ _ ↦ False) s := by
  rw [setLocalConnected, wp_bind, wp_get]
  refine wp_ite (fun hlocal ↦ ?_) fun _ ↦ h.imp Closed.toUnopened
  have hlocal : s.user.mLocalConnected = true := by simpa using hlocal
  have hconn : o.connected = true := h.seen.connected hlocal
  have hflushed : Owes o (Unopened o.connected) [connection false] { s with user := { s.user with
      mLocalConnected := false
      mPhysLayerTxBuffer := [] } } := by
    refine ⟨⟨h.tracks.up, h.tracks.opening⟩, ?_, ⟨⟨fun _ _ ↦ rfl, fun _ ↦ still_nil,
      fun hopen ↦ ?_⟩, fun hl ↦ Bool.noConfusion hl⟩⟩
    · have hs := h.streams
      rw [Streams, hlocal, hconn, change_self, List.append_nil, List.append_nil] at hs
      rw [Streams, hconn, items_append, ← List.append_assoc, hs]
      rfl
    · exact Bool.noConfusion (h.seen.down.symm.trans hopen)
  rw [wp_bind, update, wp_modify, wp_bind, handleSetLocalConnected.eq_def, wp_bind, wp_get]
  cases kind with
  | client =>
    change wp (closeAndFlushBuffers user) _ _ _
    rw [closeAndFlushBuffers, wp_bind, flushBuffers, update, wp_modify]
    exact wp_mono (wp_close_of_calm hflushed hcalm) (fun _ _ ht ↦ wp_notifyRemoteSideOfState ht)
      fun _ _ he ↦ he
  | server => exact wp_notifyRemoteSideOfState hflushed

end VtoRouter

end OpenDNP3
