import OpenDNP3.Lib.Mirror
import OpenDNP3.Link.Monitor

/-!
# The router is a user of the monitor

`LinkRouter` has the monitor and the port in it, and `Monitored` is the monitor for any user.  They
are two models of the same class, and here it is shown that they do not differ: with the routing for
its user, the monitor does what the router does.  So what holds of every user of the monitor holds
of the router too.

* `Routing` — what `LinkLayerRouter` adds to the monitor.
* `LinkRouter.callbacks` — what it does when the monitor calls it.
* `LinkRouter.Watches` — the monitor beside the router: they agree in all but what only one of them
  records.
* `LinkRouter.mirrors_request`, `mirrors_onOpenCallback`, `mirrors_onWriteCallback`,
  `mirrors_onReadCallback`, `mirrors_onOpenTimerExpiration` — **every entry does the same on both**.
-/

set_option autoImplicit false

namespace OpenDNP3

open Handler

/-- `LinkLayerRouter` without the monitor that it extends. -/
structure Routing (κ α : Type) where
  mAddressMap : List (LinkRoute × κ)
  mTransmitQueue : List (Frame α)
  mTransmitting : Bool
  online : κ → Bool
  stack : List (Return κ)

namespace LinkRouter

variable {κ α : Type}

/-! ## The two side by side

What has been written to the port is recorded by the router only, and what has passed between the
port and the monitor by the monitor only.  No operation looks at either, so the relation leaves them
open. -/

/-- The monitor with the routing of a router, and a log. -/
def monitored (s : LinkRouter κ α) (aLog : List LifeEvent) : Monitored (Routing κ α) where
  mState := s.mState
  mpState := s.mpState
  mpOpenTimer := s.mpOpenTimer
  mIsLowerLayerUp := s.mIsLowerLayerUp
  log := aLog
  user := ⟨s.mAddressMap, s.mTransmitQueue, s.mTransmitting, s.online, s.stack⟩

theorem mpState_monitored (s : LinkRouter κ α) (aLog : List LifeEvent) :
    (s.monitored aLog).mpState = s.mpState := rfl

/-- The monitor and its user are those of the router. -/
def Watches (m : Monitored (Routing κ α)) (s : LinkRouter κ α) : Prop :=
  ∃ aLog, m = s.monitored aLog

/-- The routers differ at most in what has been written. -/
def Alike (s t : LinkRouter κ α) : Prop :=
  ∃ aStream aWrites, s = { t with stream := aStream, writes := aWrites }

/-- The router of a monitor, to which nothing has been written. -/
def ofMonitored (m : Monitored (Routing κ α)) : LinkRouter κ α where
  mState := m.mState
  stream := []
  writes := 0
  mpState := m.mpState
  mpOpenTimer := m.mpOpenTimer
  mIsLowerLayerUp := m.mIsLowerLayerUp
  mAddressMap := m.user.mAddressMap
  mTransmitQueue := m.user.mTransmitQueue
  mTransmitting := m.user.mTransmitting
  online := m.user.online
  stack := m.user.stack

/-- An operation of the router, on the monitor. -/
def routed (x : Op κ α Unit) : Monitored.Op (Routing κ α) Unit :=
  zoom ofMonitored (fun s m ↦ s.monitored m.log) x

/-- `LinkLayerRouter` as a user of the monitor.  When a read has ended, the receiver calls the
contexts and the next read is begun; here the contexts do nothing. -/
def callbacks [DecidableEq κ] : Callbacks (Routing κ α) where
  onPhysicalLayerOpenSuccessCallback := routed onPhysicalLayerOpenSuccessCallback
  onPhysicalLayerOpenFailureCallback := pure ()
  onPhysicalLayerCloseCallback := routed onPhysicalLayerCloseCallback
  onReceive := routed do
    if (← get).mState.canRead then asyncRead
  onSendSuccess := routed onSendSuccess

theorem mirrors_routed {x : Op κ α Unit} (h : Mirrors Alike x x) :
    Mirrors Watches (routed x) x := by
  refine mirrors_zoom (Q := Alike) ?_ ?_ h
  · rintro _ s ⟨aLog, rfl⟩
    exact ⟨[], 0, rfl⟩
  · rintro _ s _ u ⟨aLog, rfl⟩ ⟨aStream, aWrites, rfl⟩
    exact ⟨aLog, rfl⟩

/-! ## What the router does by itself -/

section Alike

theorem alike_asyncRead : Mirrors (Alike (κ := κ) (α := α)) asyncRead asyncRead := by
  refine mirrors_get ?_
  rintro _ t ⟨aStream, aWrites, rfl⟩
  refine mirrors_bind (mirrors_ensure _ _) fun _ ↦ mirrors_modify ?_
  rintro _ t ⟨aStream, aWrites, rfl⟩
  exact ⟨aStream, aWrites, rfl⟩

theorem alike_readIfPossible : Mirrors (Alike (κ := κ) (α := α))
    (do if (← get).mState.canRead then asyncRead)
    (do if (← get).mState.canRead then asyncRead) := by
  refine mirrors_get ?_
  rintro _ t ⟨aStream, aWrites, rfl⟩
  exact mirrors_ite alike_asyncRead (mirrors_pure _)

theorem alike_asyncWrite (fr : Frame α) :
    Mirrors (Alike (κ := κ)) (asyncWrite fr) (asyncWrite fr) := by
  refine mirrors_get ?_
  rintro _ t ⟨aStream, aWrites, rfl⟩
  refine mirrors_bind (mirrors_ensure _ _) fun _ ↦ mirrors_modify ?_
  rintro _ t ⟨aStream, aWrites, rfl⟩
  exact ⟨aStream ++ [fr], aWrites + 1, rfl⟩

theorem alike_modify {f : LinkRouter κ α → LinkRouter κ α}
    (h : ∀ (t : LinkRouter κ α) aStream aWrites,
      f { t with stream := aStream, writes := aWrites } =
        { f t with stream := aStream, writes := aWrites }) :
    Mirrors Alike (modify f : EStateM Exception _ PUnit) (modify f) := by
  refine mirrors_modify ?_
  rintro _ t ⟨aStream, aWrites, rfl⟩
  exact ⟨aStream, aWrites, h t aStream aWrites⟩

theorem alike_checkForSend : Mirrors (Alike (κ := κ) (α := α)) checkForSend checkForSend := by
  refine mirrors_get ?_
  rintro _ t ⟨aStream, aWrites, rfl⟩
  cases hq : t.mTransmitQueue with
  | nil => exact mirrors_pure _
  | cons fr q =>
    refine mirrors_ite ?_ (mirrors_pure _)
    exact mirrors_bind (alike_modify fun _ _ _ ↦ rfl) fun _ ↦ alike_asyncWrite fr

theorem alike_onSendSuccess : Mirrors (Alike (κ := κ) (α := α)) onSendSuccess onSendSuccess := by
  refine mirrors_get ?_
  rintro _ t ⟨aStream, aWrites, rfl⟩
  refine mirrors_bind (mirrors_ensure _ _) fun _ ↦ mirrors_bind (mirrors_ensure _ _) fun _ ↦ ?_
  refine mirrors_bind (mirrors_ensure _ _) fun _ ↦ ?_
  refine mirrors_bind (alike_modify fun _ _ _ ↦ rfl) fun _ ↦ ?_
  exact mirrors_bind (alike_modify fun _ _ _ ↦ rfl) fun _ ↦ alike_checkForSend

variable [DecidableEq κ]

theorem alike_contextUp (k : κ) : Mirrors (Alike (α := α)) (contextUp k) (contextUp k) := by
  refine mirrors_get ?_
  rintro _ t ⟨aStream, aWrites, rfl⟩
  exact mirrors_bind (mirrors_ensure _ _) fun _ ↦ alike_modify fun _ _ _ ↦ rfl

theorem alike_contextDown (k : κ) : Mirrors (Alike (α := α)) (contextDown k) (contextDown k) := by
  refine mirrors_get ?_
  rintro _ t ⟨aStream, aWrites, rfl⟩
  exact mirrors_bind (mirrors_ensure _ _) fun _ ↦ alike_modify fun _ _ _ ↦ rfl

theorem alike_tellOpened (ks : List κ) :
    Mirrors (Alike (α := α)) (tellOpened ks) (tellOpened ks) := by
  cases ks with
  | nil => exact mirrors_pure _
  | cons k rest => exact mirrors_bind (alike_contextUp k) fun _ ↦ alike_modify fun _ _ _ ↦ rfl

theorem alike_tellClosed (ks : List κ) :
    Mirrors (Alike (α := α)) (tellClosed ks) (tellClosed ks) := by
  cases ks with
  | nil => exact mirrors_pure _
  | cons k rest => exact mirrors_bind (alike_contextDown k) fun _ ↦ alike_modify fun _ _ _ ↦ rfl

theorem alike_onPhysicalLayerOpenSuccessCallback : Mirrors (Alike (κ := κ) (α := α))
    onPhysicalLayerOpenSuccessCallback onPhysicalLayerOpenSuccessCallback := by
  refine mirrors_get ?_
  rintro _ t ⟨aStream, aWrites, rfl⟩
  have hrest : Mirrors (Alike (κ := κ) (α := α)) (do tellOpened ((← get).mAddressMap.map (·.2)))
      (do tellOpened ((← get).mAddressMap.map (·.2))) := by
    refine mirrors_get ?_
    rintro _ t ⟨aStream, aWrites, rfl⟩
    exact alike_tellOpened _
  exact mirrors_ite (mirrors_bind alike_asyncRead fun _ ↦ hrest) hrest

theorem alike_onPhysicalLayerCloseCallback : Mirrors (Alike (κ := κ) (α := α))
    onPhysicalLayerCloseCallback onPhysicalLayerCloseCallback := by
  refine mirrors_bind (alike_modify fun _ _ _ ↦ rfl) fun _ ↦ ?_
  refine mirrors_bind (alike_modify fun _ _ _ ↦ rfl) fun _ ↦ mirrors_get ?_
  rintro _ t ⟨aStream, aWrites, rfl⟩
  exact alike_tellClosed _

end Alike

/-! ## The monitor of the router

One lemma for each operation that both models have, in the order of the monitor. -/

section Monitor

open Monitored (logged)

theorem mirrors_modify_watches {f : Monitored (Routing κ α) → Monitored (Routing κ α)}
    {g : LinkRouter κ α → LinkRouter κ α}
    (h : ∀ s aLog, ∃ aLog', f (s.monitored aLog) = (g s).monitored aLog') :
    Mirrors Watches (modify f : EStateM Exception _ PUnit) (modify g) := by
  refine mirrors_modify ?_
  rintro _ s ⟨aLog, rfl⟩
  exact h s aLog

theorem mirrors_changeState (m : MonitorState) : Mirrors (Watches (κ := κ) (α := α))
    (Monitored.changeState m) (changeState m) :=
  mirrors_modify_watches fun _ aLog ↦ ⟨aLog, rfl⟩

theorem mirrors_asyncOpen :
    Mirrors (Watches (κ := κ) (α := α)) Monitored.asyncOpen asyncOpen := by
  refine mirrors_get ?_
  rintro _ s ⟨aLog, rfl⟩
  refine mirrors_bind (mirrors_ensure _ _) fun _ ↦ ?_
  rintro _ s ⟨aLog, rfl⟩
  exact .ok _ ⟨aLog ++ [.asyncOpen], rfl⟩

theorem mirrors_startClose :
    Mirrors (Watches (κ := κ) (α := α)) Monitored.startClose startClose := by
  refine mirrors_get ?_
  rintro _ s ⟨aLog, rfl⟩
  exact mirrors_bind (mirrors_ensure _ _) fun _ ↦ mirrors_modify_watches fun _ aLog ↦ ⟨aLog, rfl⟩

theorem mirrors_checkForClose :
    Mirrors (Watches (κ := κ) (α := α)) Monitored.checkForClose checkForClose := by
  refine mirrors_get ?_
  rintro _ s ⟨aLog, rfl⟩
  refine mirrors_ite ?_ (mirrors_pure _)
  exact mirrors_bind (mirrors_modify_watches fun _ aLog ↦ ⟨aLog, rfl⟩) fun _ ↦ mirrors_pure _

theorem mirrors_startOpenTimer :
    Mirrors (Watches (κ := κ) (α := α)) Monitored.startOpenTimer startOpenTimer := by
  refine mirrors_get ?_
  rintro _ s ⟨aLog, rfl⟩
  exact mirrors_bind (mirrors_ensure _ _) fun _ ↦ mirrors_modify_watches fun _ aLog ↦ ⟨aLog, rfl⟩

theorem mirrors_cancelOpenTimer :
    Mirrors (Watches (κ := κ) (α := α)) Monitored.cancelOpenTimer cancelOpenTimer := by
  refine mirrors_get ?_
  rintro _ s ⟨aLog, rfl⟩
  exact mirrors_bind (mirrors_ensure _ _) fun _ ↦ mirrors_modify_watches fun _ aLog ↦ ⟨aLog, rfl⟩

theorem mirrors_openInto (m : MonitorState) : Mirrors (Watches (κ := κ) (α := α))
    (Monitored.openInto m) (do changeState m; asyncOpen) :=
  mirrors_bind (mirrors_changeState m) fun _ ↦ mirrors_asyncOpen

theorem mirrors_start : Mirrors (Watches (κ := κ) (α := α)) Monitored.start start := by
  refine mirrors_get ?_
  rintro _ s ⟨aLog, rfl⟩
  rw [mpState_monitored]
  cases s.mpState <;> first
    | exact mirrors_openInto _
    | exact mirrors_changeState _
    | exact mirrors_pure _

theorem mirrors_startOne : Mirrors (Watches (κ := κ) (α := α)) Monitored.startOne startOne := by
  refine mirrors_get ?_
  rintro _ s ⟨aLog, rfl⟩
  rw [mpState_monitored]
  cases s.mpState <;> first
    | exact mirrors_openInto _
    | exact mirrors_changeState _
    | exact mirrors_pure _

theorem mirrors_onLayerOpen :
    Mirrors (Watches (κ := κ) (α := α)) Monitored.onLayerOpen onLayerOpen := by
  refine mirrors_get ?_
  rintro _ s ⟨aLog, rfl⟩
  rw [mpState_monitored]
  cases s.mpState <;> first
    | exact mirrors_changeState _
    | exact mirrors_throw _

theorem mirrors_onOpenFailure :
    Mirrors (Watches (κ := κ) (α := α)) Monitored.onOpenFailure onOpenFailure := by
  refine mirrors_get ?_
  rintro _ s ⟨aLog, rfl⟩
  rw [mpState_monitored]
  cases s.mpState <;> first
    | exact mirrors_bind (mirrors_changeState _) fun _ ↦ mirrors_startOpenTimer
    | exact mirrors_changeState _
    | exact mirrors_throw _

theorem mirrors_onLayerClose :
    Mirrors (Watches (κ := κ) (α := α)) Monitored.onLayerClose onLayerClose := by
  refine mirrors_get ?_
  rintro _ s ⟨aLog, rfl⟩
  rw [mpState_monitored]
  cases s.mpState <;> first
    | exact mirrors_bind (mirrors_changeState _) fun _ ↦ mirrors_start
    | exact mirrors_changeState _
    | exact mirrors_throw _

theorem mirrors_onOpenTimeout :
    Mirrors (Watches (κ := κ) (α := α)) Monitored.onOpenTimeout onOpenTimeout := by
  refine mirrors_get ?_
  rintro _ s ⟨aLog, rfl⟩
  rw [mpState_monitored]
  cases s.mpState <;> first
    | exact mirrors_openInto _
    | exact mirrors_throw _

/-- **The timer of the monitor** expires. -/
theorem mirrors_onOpenTimerExpiration :
    Mirrors (Watches (κ := κ) (α := α)) Monitored.onOpenTimerExpiration onOpenTimerExpiration := by
  refine mirrors_get ?_
  rintro _ s ⟨aLog, rfl⟩
  refine mirrors_bind (mirrors_ensure _ _) fun _ ↦ ?_
  exact mirrors_bind (mirrors_modify_watches fun _ aLog ↦ ⟨aLog, rfl⟩) fun _ ↦
    mirrors_onOpenTimeout

/-- What the monitor alone records. -/
theorem mirrors_logged (e : LifeEvent) {x : Monitored.Op (Routing κ α) Unit} {y : Op κ α Unit}
    (h : Mirrors Watches x y) : Mirrors Watches (do logged e; x) y := by
  rintro _ s ⟨aLog, rfl⟩
  exact h _ _ ⟨aLog ++ [e], rfl⟩

end Monitor

/-! ## Calls of the router -/

section Entries

variable [DecidableEq κ]

theorem mirrors_onLowerLayerUp : Mirrors (Watches (κ := κ) (α := α))
    (Monitored.onLowerLayerUp callbacks) onLowerLayerUp := by
  refine mirrors_logged _ (mirrors_get ?_)
  rintro _ s ⟨aLog, rfl⟩
  refine mirrors_bind (mirrors_ensure _ _) fun _ ↦ ?_
  refine mirrors_bind (mirrors_modify_watches fun _ aLog ↦ ⟨aLog, rfl⟩) fun _ ↦ ?_
  exact mirrors_bind mirrors_onLayerOpen fun _ ↦
    mirrors_routed alike_onPhysicalLayerOpenSuccessCallback

theorem mirrors_onLowerLayerDown : Mirrors (Watches (κ := κ) (α := α))
    (Monitored.onLowerLayerDown callbacks) onLowerLayerDown := by
  have hrest : Mirrors (Watches (κ := κ) (α := α)) (do
      ensure ((← get).mIsLowerLayerUp = true) (.invalidState "LowerLayerDown")
      modify fun s ↦ { s with mIsLowerLayerUp := false }
      Monitored.onLayerClose
      callbacks.onPhysicalLayerCloseCallback) onLowerLayerDown := by
    refine mirrors_get ?_
    rintro _ s ⟨aLog, rfl⟩
    refine mirrors_bind (mirrors_ensure _ _) fun _ ↦ ?_
    refine mirrors_bind (mirrors_modify_watches fun _ aLog ↦ ⟨aLog, rfl⟩) fun _ ↦ ?_
    exact mirrors_bind mirrors_onLayerClose fun _ ↦
      mirrors_routed alike_onPhysicalLayerCloseCallback
  exact fun m s hw ↦
    mirrors_logged (.onLowerLayerDown (m.mState.mReading || m.mState.mWriting)) hrest m s hw

theorem mirrors_closeIfDue : Mirrors (Watches (κ := κ) (α := α))
    (Monitored.closeIfDue callbacks) closeIfDue := by
  refine mirrors_bind mirrors_checkForClose fun aClosed ↦ ?_
  exact mirrors_ite mirrors_onLowerLayerDown (mirrors_pure _)

theorem mirrors_asyncClose : Mirrors (Watches (κ := κ) (α := α))
    (Monitored.asyncClose callbacks) asyncClose :=
  mirrors_bind mirrors_startClose fun _ ↦ mirrors_closeIfDue

theorem mirrors_closeInto (m : MonitorState) : Mirrors (Watches (κ := κ) (α := α))
    (Monitored.closeInto callbacks m) (closeInto m) :=
  mirrors_bind (mirrors_changeState m) fun _ ↦ mirrors_asyncClose

omit [DecidableEq κ] in
theorem mirrors_closeOnError : Mirrors (Watches (κ := κ) (α := α))
    Monitored.closeOnError closeOnError := by
  refine mirrors_get ?_
  rintro _ s ⟨aLog, rfl⟩
  exact mirrors_ite mirrors_startClose (mirrors_pure _)

theorem mirrors_failOpening : Mirrors (Watches (κ := κ) (α := α))
    (Monitored.failOpening callbacks) failOpening := by
  refine mirrors_bind mirrors_checkForClose fun _ ↦ mirrors_logged _ ?_
  rw [← bind_pure (onOpenFailure (κ := κ) (α := α))]
  exact mirrors_bind mirrors_onOpenFailure fun _ ↦ mirrors_pure _

/-- **The port has opened**, or has failed to. -/
theorem mirrors_onOpenCallback (arErr : Bool) : Mirrors (Watches (κ := κ) (α := α))
    (Monitored.onOpenCallback callbacks arErr) (onOpenCallback arErr) := by
  refine mirrors_get ?_
  rintro _ s ⟨aLog, rfl⟩
  refine mirrors_bind (mirrors_ensure _ _) fun _ ↦ ?_
  refine mirrors_bind (mirrors_modify_watches fun _ aLog ↦ ⟨aLog, rfl⟩) fun _ ↦ ?_
  refine mirrors_ite mirrors_failOpening (mirrors_get ?_)
  rintro _ s ⟨aLog, rfl⟩
  refine mirrors_ite mirrors_failOpening ?_
  exact mirrors_bind (mirrors_modify_watches fun _ aLog ↦ ⟨aLog, rfl⟩) fun _ ↦
    mirrors_onLowerLayerUp

/-- A read has ended, and the contexts that it calls return. -/
def readAndReturned (arErr : Bool) : Op κ α Unit := do
  let p := (← get).mState
  onReadCallback arErr
  if !arErr && !p.mClosing then resume

theorem mirrors_readReturned : Mirrors (Watches (κ := κ) (α := α)) (do
    callbacks.onReceive
    Monitored.closeIfDue callbacks) (continuation .onReceive) := by
  have hcontinuation : (continuation .onReceive : Op κ α Unit) =
      (do if (← get).mState.canRead then asyncRead) >>= fun _ ↦ closeIfDue := by
    rw [continuation, bind_assoc]
    congr 1
    funext s
    split <;> simp
  rw [hcontinuation]
  exact mirrors_bind (mirrors_routed alike_readIfPossible) fun _ ↦ mirrors_closeIfDue

/-- What a read does depends on the state that the port had when the read ended. -/
def readFrom (arErr : Bool) (p : PhysState) : Op κ α Unit := do
  ensure (p.mReading = true) (.invalidState ("OnReadCallback: " ++ p.convertStateToString))
  modify fun s ↦ { s with mState := { s.mState with mReading := false } }
  if arErr then do
    closeOnError
    closeIfDue
  else if p.mClosing then closeIfDue
  else continuation .onReceive

theorem readAndReturned_eq (arErr : Bool) (s : LinkRouter κ α) :
    readAndReturned arErr s = readFrom arErr s.mState s := by
  obtain ⟨⟨o, p, r, w, c⟩, stream, writes, m, timer, up, map, q, t, online, stack⟩ := s
  cases r with
  | false => cases arErr <;> cases c <;> rfl
  | true =>
    cases arErr with
    | true => exact congrFun (bind_pure (closeOnError >>= fun _ ↦ closeIfDue)) _
    | false =>
      cases c with
      | true => exact congrFun (bind_pure closeIfDue) _
      | false => rfl

/-- **The port has read**, or has failed to. -/
theorem mirrors_onReadCallback (arErr : Bool) : Mirrors (Watches (κ := κ) (α := α))
    (Monitored.onReadCallback callbacks arErr) (readAndReturned arErr) := by
  have hrun (p : PhysState) : Mirrors (Watches (κ := κ) (α := α)) (do
      ensure (p.mReading = true) (.invalidState ("OnReadCallback: " ++ p.convertStateToString))
      modify fun s ↦ { s with mState := { s.mState with mReading := false } }
      if arErr then Monitored.closeOnError
      else if p.mClosing then pure ()
      else callbacks.onReceive
      Monitored.closeIfDue callbacks) (readFrom arErr p) := by
    refine mirrors_bind (mirrors_ensure _ _) fun _ ↦ ?_
    refine mirrors_bind (mirrors_modify_watches fun _ aLog ↦ ⟨aLog, rfl⟩) fun _ ↦ ?_
    refine mirrors_ite (mirrors_bind mirrors_closeOnError fun _ ↦ mirrors_closeIfDue) ?_
    exact mirrors_ite mirrors_closeIfDue mirrors_readReturned
  rintro _ s ⟨aLog, rfl⟩
  rw [readAndReturned_eq]
  exact hrun s.mState _ _ ⟨aLog, rfl⟩

/-- **The port has written**, or has failed to. -/
theorem mirrors_onWriteCallback (arErr : Bool) : Mirrors (Watches (κ := κ) (α := α))
    (Monitored.onWriteCallback callbacks arErr) (onWriteCallback arErr) := by
  refine mirrors_get ?_
  rintro _ s ⟨aLog, rfl⟩
  refine mirrors_bind (mirrors_ensure _ _) fun _ ↦ ?_
  refine mirrors_bind (mirrors_modify_watches fun _ aLog ↦ ⟨aLog, rfl⟩) fun _ ↦ ?_
  refine mirrors_ite (mirrors_bind mirrors_closeOnError fun _ ↦ mirrors_closeIfDue) ?_
  refine mirrors_ite mirrors_closeIfDue ?_
  exact mirrors_bind (mirrors_routed alike_onSendSuccess) fun _ ↦ mirrors_closeIfDue

theorem mirrors_close : Mirrors (Watches (κ := κ) (α := α)) (Monitored.close callbacks) close := by
  refine mirrors_get ?_
  rintro _ s ⟨aLog, rfl⟩
  rw [mpState_monitored]
  cases s.mpState <;> first
    | exact mirrors_closeInto _
    | exact mirrors_pure _

theorem mirrors_suspend :
    Mirrors (Watches (κ := κ) (α := α)) (Monitored.suspend callbacks) suspend := by
  refine mirrors_get ?_
  rintro _ s ⟨aLog, rfl⟩
  rw [mpState_monitored]
  cases s.mpState <;> first
    | exact mirrors_closeInto _
    | exact mirrors_changeState _
    | exact mirrors_bind mirrors_cancelOpenTimer fun _ ↦ mirrors_changeState _
    | exact mirrors_pure _

theorem mirrors_shutdown :
    Mirrors (Watches (κ := κ) (α := α)) (Monitored.shutdown callbacks) shutdown := by
  refine mirrors_logged _ (mirrors_get ?_)
  rintro _ s ⟨aLog, rfl⟩
  rw [mpState_monitored]
  cases s.mpState <;> first
    | exact mirrors_closeInto _
    | exact mirrors_changeState _
    | exact mirrors_bind mirrors_cancelOpenTimer fun _ ↦ mirrors_changeState _
    | exact mirrors_pure _

/-- **A request of the monitor does to the router what it does to the monitor.** -/
theorem mirrors_request (r : MonitorRequest) : Mirrors (Watches (κ := κ) (α := α))
    (Monitored.request callbacks r) (request r) := by
  cases r with
  | start => exact mirrors_start
  | startOne => exact mirrors_startOne
  | close => exact mirrors_close
  | suspend => exact mirrors_suspend
  | shutdown => exact mirrors_shutdown

end Entries

end LinkRouter

end OpenDNP3
