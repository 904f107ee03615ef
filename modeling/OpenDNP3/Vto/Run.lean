import OpenDNP3.Link.Lifecycle
import OpenDNP3.Vto.Router

/-!
# Runs of a router of a virtual terminal

A router with its port, and the part of it that messages about the remote connection depend on.
Most operations leave this part as it is, and after a flush nothing fills the queue again before the
next message.

* `VtoRun` and `VtoRun.step` — the router with its port.
* `VtoRouter.view` — what is seen of a router.
* `Flushed` — the queue is empty, and the copies of the remote state are as they were.
-/

set_option autoImplicit false

namespace OpenDNP3

open Handler

/-! ## Runs -/

/-- What happens to a router. -/
inductive VtoEvent where
  | onVtoDataReceived (arData : VtoData)
  /-- The writer has room for so much. -/
  | onBufferAvailable (aAvailable : ℕ)
  | onOpenTimerExpiration
  | onOpenCallback (arErr : Bool)
  | onReadCallback (arErr : Bool) (apData : List Byte)
  | onWriteCallback (arErr : Bool)
  deriving DecidableEq, Repr

/-- A router with its monitor and port, and what has been thrown out of it. -/
structure VtoRun where
  monitored : Monitored VtoRouter
  thrown : List Exception

namespace VtoRun

variable (kind : VtoRouterKind)

/-- The operation that handles an event. -/
def op : VtoEvent → VtoRouter.Op Unit
  | .onVtoDataReceived d => VtoRouter.onVtoDataReceived kind (VtoRouter.callbacks kind [] 1) d
  | .onBufferAvailable n => do
    VtoRouter.update fun u ↦ { u with available := n }
    VtoRouter.checkForVtoWrite
  | .onOpenTimerExpiration => Monitored.onOpenTimerExpiration
  | .onOpenCallback arErr => Monitored.onOpenCallback (VtoRouter.callbacks kind [] 2) arErr
  | .onReadCallback arErr d => Monitored.onReadCallback (VtoRouter.callbacks kind d 2) arErr
  | .onWriteCallback arErr => Monitored.onWriteCallback (VtoRouter.callbacks kind [] 2) arErr

/-- Callbacks come only if they are due. -/
def possible (s : Monitored VtoRouter) : VtoEvent → Bool
  | .onVtoDataReceived _ | .onBufferAvailable _ => true
  | .onOpenTimerExpiration => s.mpOpenTimer
  | .onOpenCallback _ => s.mState.mOpening
  | .onReadCallback _ _ => s.mState.mReading
  | .onWriteCallback _ => s.mState.mWriting

/-- **One event**, if it can happen. -/
def step (s : VtoRun) (e : VtoEvent) : Option VtoRun :=
  if possible s.monitored e then
    some {
      monitored := (exec (op kind e) s.monitored).1
      thrown := s.thrown ++ (exec (op kind e) s.monitored).2.toList }
  else none

/-- The constructor; the server starts its local connection in it. -/
def init (aAvailable : ℕ) : VtoRun where
  monitored :=
    match kind with
    | .client => .init (.init aAvailable)
    | .server => (exec Monitored.start (.init (.init aAvailable))).1
  thrown := []

end VtoRun

/-! ## What is seen of a router -/

/-- The part of a router and its port that the connection messages depend on. -/
structure VtoView where
  queue : List VtoData
  remote : Bool
  inst : Bool
  «local» : Bool
  requested : List MonitorRequest
  writing : Bool
  closing : Bool
  isOpen : Bool

namespace VtoRouter

/-- What is seen. -/
def view (s : Monitored VtoRouter) : VtoView where
  queue := s.user.mPhysLayerTxBuffer
  remote := s.user.mRemoteConnected
  inst := s.user.mInstRemoteConnected
  «local» := s.user.mLocalConnected
  requested := s.user.requested
  writing := s.mState.mWriting
  closing := s.mState.mClosing
  isOpen := s.mState.mOpen

/-- What is seen, with the state of the monitor and whether the port is closed. -/
def fullView (s : Monitored VtoRouter) : VtoView × MonitorState × Bool :=
  (view s, s.mpState, s.mState.isClosed)

/-! ### What leaves it as it is

Operations that do not touch the part that is seen. A lemma about one of them holds for every
predicate on this part. -/

section Frame

variable {G : VtoView × MonitorState × Bool → Prop} {F : VtoView → Prop}

theorem total_update {f : VtoRouter → VtoRouter}
    (h : ∀ s : Monitored VtoRouter, fullView { s with user := f s.user } = fullView s) :
    Total (fun s ↦ G (fullView s)) (update f) := by
  refine total_modify fun s hs ↦ ?_
  rw [h]
  exact hs

theorem total_checkForPhysRead : Total (fun s ↦ G (fullView s)) checkForPhysRead := by
  refine total_get_bind fun s hs ↦ ?_
  by_cases hcan : (s.mState.canRead && s.user.mVtoTxBuffer.length < 3) = true
  · have hread : s.mState.canRead = true := (Bool.and_eq_true_iff.mp hcan).1
    rw [if_pos hcan, Monitored.asyncRead, wp_bind, wp_get, wp_bind, wp_ensure_of hread, wp_modify]
    -- a port that can read is not closed
    have hclosed : PhysState.isClosed { s.mState with mReading := true } = s.mState.isClosed := by
      simp only [PhysState.canRead, Bool.and_eq_true] at hread
      simp [PhysState.isClosed, hread.1.1]
    have hview : fullView { s with mState := { s.mState with mReading := true } } = fullView s := by
      rw [fullView, fullView, ← hclosed]
      rfl
    rw [hview]
    exact hs
  · rw [if_neg hcan]
    exact hs

theorem total_write (apData : List Byte) : Total (fun s ↦ G (fullView s)) (write apData) :=
  total_get_bind fun _ hs ↦ hs

theorem total_writeMessage {again : Op Unit} (h : Total (fun s ↦ G (fullView s)) again)
    (msg : VtoData) : Total (fun s ↦ G (fullView s)) (writeMessage again msg) := by
  refine total_ite ?_ (total_bind (total_update fun _ ↦ rfl) fun _ ↦ h)
  refine total_bind (total_write _) fun n ↦ ?_
  exact total_ite (total_update fun _ ↦ rfl) h

theorem total_checkForVtoWriteOf (k : ℕ) :
    Total (fun s ↦ G (fullView s)) (checkForVtoWriteOf k) := by
  induction k with
  | zero => exact total_checkForPhysRead
  | succ k ih =>
    refine total_bind ?_ fun _ ↦ total_checkForPhysRead
    refine total_get_bind fun s hs ↦ ?_
    cases s.user.mVtoTxBuffer with
    | nil => exact hs
    | cons msg rest =>
      have hmessage := total_bind (total_update (f := fun u ↦ { u with mVtoTxBuffer := rest })
        fun _ ↦ rfl) fun _ ↦ total_writeMessage ih msg
      exact hmessage s hs

theorem total_checkForVtoWrite : Total (fun s ↦ G (fullView s)) checkForVtoWrite :=
  total_get_bind fun s hs ↦ total_checkForVtoWriteOf _ s hs

theorem total_notifyRemoteSideOfState (aConnected : Bool) :
    Total (fun s ↦ G (fullView s)) (notifyRemoteSideOfState aConnected) :=
  total_bind (total_update fun _ ↦ rfl) fun _ ↦ total_checkForVtoWrite

theorem total_onReceive (apData : List Byte) : Total (fun s ↦ G (fullView s)) (onReceive apData) :=
  total_bind (total_update fun _ ↦ rfl) fun _ ↦
    total_bind total_checkForVtoWrite fun _ ↦ total_checkForPhysRead

/-! ### The monitor -/

/-- What follows a check that may throw. -/
theorem stable_ensure_bind {I : Monitored VtoRouter → Prop} {p : Prop} {_ : Decidable p}
    {e : Exception} {x : Op Unit} (hx : Stable I x) {s : Monitored VtoRouter} (hs : I s) :
    wp (do ensure p e; x) (fun _ t ↦ I t) (fun _ t ↦ I t) s :=
  stable_bind (stable_ensure p e) (fun _ ↦ hx) s hs

theorem stable_of_view {f : Monitored VtoRouter → Monitored VtoRouter}
    (h : ∀ s, view (f s) = view s) : Stable (fun s ↦ F (view s)) (modify f : Op PUnit) := by
  refine stable_modify fun s hs ↦ ?_
  rw [h]
  exact hs

theorem stable_logged (e : LifeEvent) : Stable (fun s ↦ F (view s))
    (Monitored.logged e : Op Unit) :=
  stable_of_view fun _ ↦ rfl

theorem stable_changeState (m : MonitorState) :
    Stable (fun s ↦ F (view s)) (Monitored.changeState m : Op Unit) := stable_of_view fun _ ↦ rfl

theorem stable_asyncOpen : Stable (fun s ↦ F (view s)) (Monitored.asyncOpen : Op Unit) := by
  refine stable_get_bind fun s hs ↦ ?_
  refine stable_ensure_bind (I := fun s ↦ F (view s)) ?_ hs
  exact stable_bind (stable_of_view fun _ ↦ rfl) fun _ ↦ stable_logged .asyncOpen

theorem stable_openInto (m : MonitorState) :
    Stable (fun s ↦ F (view s)) (Monitored.openInto m : Op Unit) :=
  stable_bind (stable_changeState m) fun _ ↦ stable_asyncOpen

theorem stable_startOpenTimer : Stable (fun s ↦ F (view s))
    (Monitored.startOpenTimer : Op Unit) := by
  refine stable_get_bind fun s hs ↦ ?_
  refine stable_ensure_bind (I := fun s ↦ F (view s)) ?_ hs
  exact stable_of_view fun _ ↦ rfl

theorem stable_start : Stable (fun s ↦ F (view s)) (Monitored.start : Op Unit) := by
  refine stable_get_bind fun s hs ↦ ?_
  split
  · exact stable_openInto _ s hs
  · exact stable_openInto _ s hs
  · exact stable_changeState _ s hs
  · exact stable_changeState _ s hs
  · exact stable_changeState _ s hs
  · exact stable_changeState _ s hs
  · exact stable_changeState _ s hs
  · exact hs

theorem stable_monitorStartOne : Stable (fun s ↦ F (view s)) (Monitored.startOne : Op Unit) := by
  refine stable_get_bind fun s hs ↦ ?_
  split
  · exact stable_openInto _ s hs
  · exact stable_openInto _ s hs
  · exact stable_changeState _ s hs
  · exact stable_changeState _ s hs
  · exact stable_changeState _ s hs
  · exact stable_changeState _ s hs
  · exact stable_changeState _ s hs
  · exact hs

theorem stable_onLayerOpen : Stable (fun s ↦ F (view s)) (Monitored.onLayerOpen : Op Unit) := by
  refine stable_get_bind fun s hs ↦ ?_
  split
  · exact stable_changeState _ s hs
  · exact stable_changeState _ s hs
  · exact hs

theorem stable_onOpenFailure : Stable (fun s ↦ F (view s)) (Monitored.onOpenFailure : Op Unit) := by
  refine stable_get_bind fun s hs ↦ ?_
  have hwait : Stable (fun s ↦ F (view s))
      (do Monitored.changeState .waiting; Monitored.startOpenTimer : Op Unit) :=
    stable_bind (stable_changeState _) fun _ ↦ stable_startOpenTimer
  split
  · exact hwait s hs
  · exact hwait s hs
  · exact stable_changeState _ s hs
  · exact stable_changeState _ s hs
  · exact stable_changeState _ s hs
  · exact hs

theorem stable_onLayerClose : Stable (fun s ↦ F (view s)) (Monitored.onLayerClose : Op Unit) := by
  refine stable_get_bind fun s hs ↦ ?_
  have hagain : Stable (fun s ↦ F (view s))
      (do Monitored.changeState .suspended; Monitored.start : Op Unit) :=
    stable_bind (stable_changeState _) fun _ ↦ stable_start
  split
  · exact hagain s hs
  · exact hagain s hs
  · exact stable_changeState _ s hs
  · exact stable_changeState _ s hs
  · exact stable_changeState _ s hs
  · exact hs

theorem stable_onOpenTimerExpiration :
    Stable (fun s ↦ F (view s)) (Monitored.onOpenTimerExpiration : Op Unit) := by
  have htimeout : Stable (fun s ↦ F (view s)) (Monitored.onOpenTimeout : Op Unit) := by
    refine stable_get_bind fun s hs ↦ ?_
    split
    · exact stable_openInto _ s hs
    · exact stable_openInto _ s hs
    · exact hs
  refine stable_get_bind fun s hs ↦ ?_
  refine stable_ensure_bind (I := fun s ↦ F (view s)) ?_ hs
  exact stable_bind (stable_of_view fun _ ↦ rfl) fun _ ↦ htimeout

end Frame

/-! ## After a flush

The router empties the queue and closes the local connection. The router is called again by this,
and nothing that is called puts anything into the queue. -/

/-- **The queue is empty**, and the copies of the remote state are as they were. -/
def Flushed (r i : Bool) (v : VtoView) : Prop :=
  v.queue = [] ∧ v.remote = r ∧ v.inst = i ∧ (v.writing = true → v.isOpen = true)

section Flush

variable {r i : Bool} {kind : VtoRouterKind} {user : Callbacks VtoRouter}

/-- The operation leaves a flushed queue as it is. -/
abbrev KeepsFlushed {α : Type} (r i : Bool) (x : Op α) : Prop :=
    Stable (fun s ↦ Flushed r i (view s)) x

theorem keepsFlushed_startClose : KeepsFlushed r i (Monitored.startClose : Op Unit) := by
  refine stable_get_bind fun s hs ↦ ?_
  refine stable_ensure_bind (I := fun s ↦ Flushed r i (view s)) ?_ hs
  exact stable_modify fun _ h ↦ h

theorem keepsFlushed_checkForClose : KeepsFlushed r i (Monitored.checkForClose : Op Bool) := by
  rintro s ⟨hq, hr, hi, hw⟩
  rw [Monitored.wp_checkForClose]
  split
  · next hdue =>
    refine ⟨hq, hr, hi, fun hwriting ↦ ?_⟩
    have hwriting : s.mState.mWriting = true := hwriting
    simp [PhysState.callbacksPending, hwriting] at hdue
  · exact ⟨hq, hr, hi, hw⟩

theorem keepsFlushed_onLowerLayerDown (h : KeepsFlushed r i user.onPhysicalLayerCloseCallback) :
    KeepsFlushed r i (Monitored.onLowerLayerDown user) := by
  refine stable_get_bind fun s hs ↦ ?_
  refine stable_bind (stable_logged (F := Flushed r i) _)
    (fun _ ↦ stable_get_bind fun t ht ↦ ?_) s hs
  refine stable_ensure_bind (I := fun s ↦ Flushed r i (view s)) ?_ ht
  refine stable_bind (stable_of_view fun _ ↦ rfl) fun _ ↦ ?_
  exact stable_bind stable_onLayerClose fun _ ↦ h

theorem keepsFlushed_closeInto (h : KeepsFlushed r i user.onPhysicalLayerCloseCallback)
    (m : MonitorState) : KeepsFlushed r i (Monitored.closeInto user m) := by
  refine stable_bind (stable_changeState m) fun _ ↦ stable_bind keepsFlushed_startClose fun _ ↦ ?_
  exact stable_bind keepsFlushed_checkForClose fun c ↦
    stable_ite (keepsFlushed_onLowerLayerDown h) (stable_pure _)

theorem keepsFlushed_cancel (m : MonitorState) :
    KeepsFlushed r i (do Monitored.cancelOpenTimer; Monitored.changeState m : Op Unit) := by
  refine stable_bind ?_ fun _ ↦ stable_changeState m
  refine stable_get_bind fun s hs ↦ ?_
  refine stable_ensure_bind (I := fun s ↦ Flushed r i (view s)) ?_ hs
  exact stable_of_view fun _ ↦ rfl

theorem keepsFlushed_close (h : KeepsFlushed r i user.onPhysicalLayerCloseCallback) :
    KeepsFlushed r i (close user) := by
  refine stable_bind (stable_modify fun _ h ↦ h) fun _ ↦ stable_get_bind fun s hs ↦ ?_
  split
  · exact keepsFlushed_closeInto h _ s hs
  · exact keepsFlushed_closeInto h _ s hs
  · exact keepsFlushed_closeInto h _ s hs
  · exact keepsFlushed_closeInto h _ s hs
  · exact hs

theorem keepsFlushed_suspend (h : KeepsFlushed r i user.onPhysicalLayerCloseCallback) :
    KeepsFlushed r i (suspend user) := by
  refine stable_bind (stable_modify fun _ h ↦ h) fun _ ↦ stable_get_bind fun s hs ↦ ?_
  split
  · exact keepsFlushed_closeInto h _ s hs
  · exact keepsFlushed_closeInto h _ s hs
  · exact stable_changeState _ s hs
  · exact keepsFlushed_closeInto h _ s hs
  · exact keepsFlushed_closeInto h _ s hs
  · exact keepsFlushed_cancel _ s hs
  · exact keepsFlushed_cancel _ s hs
  · exact stable_changeState _ s hs
  · exact hs

theorem keepsFlushed_startOne : KeepsFlushed r i startOne :=
  stable_bind (stable_modify fun _ h ↦ h) fun _ ↦ stable_monitorStartOne

theorem keepsFlushed_closeAndFlushBuffers (h : KeepsFlushed r i user.onPhysicalLayerCloseCallback) :
    KeepsFlushed r i (closeAndFlushBuffers user) :=
  stable_bind (stable_modify fun _ h ↦ ⟨rfl, h.2⟩) fun _ ↦ keepsFlushed_close h

theorem keepsFlushed_handleSetLocalConnected
    (h : KeepsFlushed r i user.onPhysicalLayerCloseCallback) :
    KeepsFlushed r i (handleSetLocalConnected kind user) := by
  refine stable_get_bind fun s hs ↦ stable_ite ?_ (stable_pure _) s hs
  cases kind with
  | client => exact keepsFlushed_closeAndFlushBuffers h
  | server => exact stable_modify fun _ h ↦ ⟨rfl, h.2⟩

theorem keepsFlushed_notify (aConnected : Bool) :
    KeepsFlushed r i (notifyRemoteSideOfState aConnected) :=
  (total_notifyRemoteSideOfState (G := fun v ↦ Flushed r i v.1) aConnected).stable

theorem keepsFlushed_setLocalConnected (h : KeepsFlushed r i user.onPhysicalLayerCloseCallback)
    (aConnected : Bool) : KeepsFlushed r i (setLocalConnected kind user aConnected) := by
  refine stable_get_bind fun s hs ↦ stable_ite ?_ (stable_pure _) s hs
  refine stable_bind (stable_modify fun _ h ↦ h) fun _ ↦ ?_
  exact stable_bind (keepsFlushed_handleSetLocalConnected h) fun _ ↦ keepsFlushed_notify aConnected

theorem keepsFlushed_handleVtoRemoteConnectedChanged
    (h : KeepsFlushed r i user.onPhysicalLayerCloseCallback) :
    KeepsFlushed r i (handleVtoRemoteConnectedChanged kind user) := by
  cases kind with
  | client =>
    refine stable_get_bind fun s hs ↦ stable_ite ?_ ?_ s hs
    · exact stable_bind (keepsFlushed_setLocalConnected h true) fun _ ↦ keepsFlushed_startOne
    · exact stable_bind (stable_modify fun _ h ↦ ⟨rfl, h.2⟩) fun _ ↦ keepsFlushed_suspend h
  | server =>
    exact stable_get_bind fun s hs ↦
      stable_ite (keepsFlushed_closeAndFlushBuffers h) (stable_pure _) s hs

/-- There is nothing to take from an empty queue. -/
theorem keepsFlushed_checkForPhysWrite : KeepsFlushed r i (checkForPhysWrite kind user) := by
  refine stable_get_bind fun s hs ↦ ?_
  have hqueue : s.user.mPhysLayerTxBuffer = [] := hs.1
  simp only [hqueue]
  exact hs

/-- **The calls of the monitor leave an empty queue as it is**, at every depth. -/
theorem keepsFlushed_callbacks (apData : List Byte) (n : ℕ) :
    KeepsFlushed r i (callbacks kind apData n).onPhysicalLayerCloseCallback := by
  induction n with
  | zero => exact stable_throw _
  | succ n ih =>
    refine stable_bind (keepsFlushed_setLocalConnected ih false) fun _ ↦ ?_
    refine stable_bind keepsFlushed_checkForPhysWrite fun _ ↦ ?_
    exact (total_checkForVtoWrite (G := fun v ↦ Flushed r i v.1)).stable

end Flush

end VtoRouter

end OpenDNP3
