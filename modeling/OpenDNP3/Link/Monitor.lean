import OpenDNP3.Link.RouterRun

/-!
# The monitor of a port, for any user

`PhysicalLayerMonitor` opens a port, and opens it again when it fails or closes.  Its users extend
it: they are called when the port has opened, has failed to open, has closed, has read or has
written.  `LinkLayerRouter` is one of them, and its model contains the monitor.  Here is the monitor
for any user, which is given by what it does when it is called (`Callbacks`) and by its own state.

* `Monitored` — the port, the monitor and the state of the user.
* `LifeEvent` and `Life` — what passes between the monitor and the port: the calls that open the
  port and how they are answered.
* `Monitored.Sound` — the monitor knows what the port is doing, and what has passed between them is
  a life of the port.
-/

set_option autoImplicit false

namespace OpenDNP3

open Handler

/-! ## Lives

The monitor and the port have a protocol. A life is a state of it, and the log of a monitor is
accepted or not. -/

/-- What passes between the monitor and the port, and the request that ends it. -/
inductive LifeEvent where
  | asyncOpen
  | onOpenFailure
  | onLowerLayerUp
  /-- It says whether a read or a write is pending. -/
  | onLowerLayerDown (aPending : Bool)
  | shutdown
  deriving DecidableEq, Repr

/-- Where a port stands in its life. -/
structure Life where
  phase : PortPhase
  isShutdown : Bool
  deriving DecidableEq, Repr

namespace Life

/-- A port that has not been opened yet. -/
def start : Life := ⟨.idle, false⟩

/-- **The life of a port**: an opening is answered by a failure or by the layer going up, a layer
that is up goes down while nothing is pending, and after the shutdown there is no opening. -/
def step : Life → LifeEvent → Option Life
  | ⟨.idle, false⟩, .asyncOpen => some ⟨.opening, false⟩
  | ⟨.opening, b⟩, .onOpenFailure => some ⟨.idle, b⟩
  | ⟨.opening, false⟩, .onLowerLayerUp => some ⟨.opened, false⟩
  | ⟨.opened, b⟩, .onLowerLayerDown false => some ⟨.idle, b⟩
  | ⟨p, _⟩, .shutdown => some ⟨p, true⟩
  | _, _ => none

theorem step_shutdown (l : Life) : l.step .shutdown = some ⟨l.phase, true⟩ := by
  obtain ⟨p, b⟩ := l
  cases p <;> cases b <;> rfl

end Life

/-! ## The monitor -/

/-- `PhysicalLayerMonitor` with the port that it holds and the state of its user. -/
structure Monitored (υ : Type) where
  /-- `mState` of the port. -/
  mState : PhysState
  mpState : MonitorState
  /-- Of the timer only matters whether it is running. -/
  mpOpenTimer : Bool
  mIsLowerLayerUp : Bool
  /-- What has passed between the monitor and the port. -/
  log : List LifeEvent
  user : υ

/-- The operations of the monitor. -/
abbrev Monitored.Op (υ : Type) := EStateM Exception (Monitored υ)

/-- What a user does when it is called. -/
structure Callbacks (υ : Type) where
  onPhysicalLayerOpenSuccessCallback : Monitored.Op υ Unit
  onPhysicalLayerOpenFailureCallback : Monitored.Op υ Unit
  onPhysicalLayerCloseCallback : Monitored.Op υ Unit
  /-- `_OnReceive`; what has been read is not part of the monitor. -/
  onReceive : Monitored.Op υ Unit
  /-- `_OnSendSuccess` -/
  onSendSuccess : Monitored.Op υ Unit

namespace Monitored

variable {υ : Type}

/-- The constructor. -/
def init (aUser : υ) : Monitored υ where
  mState := {}
  mpState := .init
  mpOpenTimer := false
  mIsLowerLayerUp := false
  log := []
  user := aUser

/-- Something has passed between the monitor and the port. -/
def logged (e : LifeEvent) : Op υ Unit := modify fun s ↦ { s with log := s.log ++ [e] }

/-! ### Calls to the port -/

/-- `AsyncOpen` -/
def asyncOpen : Op υ Unit := do
  let p := (← get).mState
  ensure p.canOpen (.invalidState ("AsyncOpen: " ++ p.convertStateToString))
  modify fun s ↦ { s with mState := { s.mState with mOpening := true } }
  logged .asyncOpen

/-- `AsyncRead` into a buffer that is not empty. -/
def asyncRead : Op υ Unit := do
  let p := (← get).mState
  ensure p.canRead (.invalidState ("AsyncRead: " ++ p.convertStateToString))
  modify fun s ↦ { s with mState := { s.mState with mReading := true } }

/-- `AsyncWrite` of something that is not empty. -/
def asyncWrite : Op υ Unit := do
  let p := (← get).mState
  ensure p.canWrite (.invalidState ("AsyncWrite: " ++ p.convertStateToString))
  modify fun s ↦ { s with mState := { s.mState with mWriting := true } }

/-- `StartClose` -/
def startClose : Op υ Unit := do
  let p := (← get).mState
  ensure p.canClose (.invalidState ("StartClose: " ++ p.convertStateToString))
  modify fun s ↦ { s with mState := { s.mState with mClosing := true } }

/-- `CheckForClose`, which says whether the port has closed. -/
def checkForClose : Op υ Bool := do
  let p := (← get).mState
  if p.mClosing && !p.callbacksPending then
    modify fun s ↦ { s with mState := { s.mState with mClosing := false, mOpen := false } }
    return true
  else return false

/-! ### States -/

/-- `ChangeState` -/
def changeState (m : MonitorState) : Op υ Unit := modify fun s ↦ { s with mpState := m }

/-- `StartOpenTimer` -/
def startOpenTimer : Op υ Unit := do
  ensure ((← get).mpOpenTimer = false) (.assertion "mpOpenTimer == NULL")
  modify fun s ↦ { s with mpOpenTimer := true }

/-- `CancelOpenTimer` -/
def cancelOpenTimer : Op υ Unit := do
  ensure ((← get).mpOpenTimer = true) (.assertion "mpOpenTimer != NULL")
  modify fun s ↦ { s with mpOpenTimer := false }

/-- The monitor goes to `m` and opens the port. -/
def openInto (m : MonitorState) : Op υ Unit := do
  changeState m
  asyncOpen

/-- `OnStartRequest` -/
def start : Op υ Unit := do
  match (← get).mpState with
  | .suspended | .init => openInto .opening
  | .openingOne => changeState .opening
  | .openingSuspending => changeState .openingClosing
  | .openedOne => changeState .opened
  | .waitingOne => changeState .waiting
  | .suspending => changeState .closing
  | _ => pure ()

/-- `OnStartOneRequest` -/
def startOne : Op υ Unit := do
  match (← get).mpState with
  | .suspended | .init => openInto .openingOne
  | .opening => changeState .openingOne
  | .openingClosing => changeState .openingSuspending
  | .opened => changeState .openedOne
  | .waiting => changeState .waitingOne
  | .closing => changeState .suspending
  | _ => pure ()

/-- `OnLayerOpen` -/
def onLayerOpen : Op υ Unit := do
  match (← get).mpState with
  | .opening => changeState .opened
  | .openingOne => changeState .openedOne
  | m => throw (.invalidState ("Not opening: " ++ m.name))

/-- `OnOpenFailure` of the state. -/
def onOpenFailure : Op υ Unit := do
  match (← get).mpState with
  | .opening | .openingClosing => do
    changeState .waiting
    startOpenTimer
  | .openingOne | .openingSuspending => changeState .suspended
  | .openingStopping => changeState .shutdown
  | m => throw (.invalidState ("Not opening: " ++ m.name))

/-- `OnLayerClose` -/
def onLayerClose : Op υ Unit := do
  match (← get).mpState with
  | .opened | .closing => do
    changeState .suspended
    start
  | .openedOne | .suspending => changeState .suspended
  | .shutingDown => changeState .shutdown
  | m => throw (.invalidState ("Not open: " ++ m.name))

/-- `OnOpenTimeout` -/
def onOpenTimeout : Op υ Unit := do
  match (← get).mpState with
  | .waiting => openInto .opening
  | .waitingOne => openInto .openingOne
  | m => throw (.invalidState ("Not waiting for timer: " ++ m.name))

/-- `OnOpenTimerExpiration` -/
def onOpenTimerExpiration : Op υ Unit := do
  ensure ((← get).mpOpenTimer = true) (.assertion "mpOpenTimer != NULL")
  modify fun s ↦ { s with mpOpenTimer := false }
  onOpenTimeout

section User

variable (user : Callbacks υ)

/-! ### Calls from the port

What the port reports is passed on to the user after the monitor has changed its own state. -/

/-- `OnLowerLayerUp` and `_OnLowerLayerUp` -/
def onLowerLayerUp : Op υ Unit := do
  logged .onLowerLayerUp
  ensure ((← get).mIsLowerLayerUp = false) (.invalidState "LowerLayerUp")
  modify fun s ↦ { s with mIsLowerLayerUp := true }
  onLayerOpen
  user.onPhysicalLayerOpenSuccessCallback

/-- `OnLowerLayerDown` and `_OnLowerLayerDown` -/
def onLowerLayerDown : Op υ Unit := do
  let p := (← get).mState
  logged (.onLowerLayerDown (p.mReading || p.mWriting))
  ensure ((← get).mIsLowerLayerUp = true) (.invalidState "LowerLayerDown")
  modify fun s ↦ { s with mIsLowerLayerUp := false }
  onLayerClose
  user.onPhysicalLayerCloseCallback

/-- `OnOpenFailure` and `_OnOpenFailure`, after the port has looked whether it was to close. -/
def failOpening : Op υ Unit := do
  let _ ← checkForClose
  logged .onOpenFailure
  onOpenFailure
  user.onPhysicalLayerOpenFailureCallback

/-- The port goes down if it is to close and nothing is pending. -/
def closeIfDue : Op υ Unit := do
  if ← checkForClose then onLowerLayerDown user

/-- `AsyncClose` -/
def asyncClose : Op υ Unit := do
  startClose
  closeIfDue user

/-- An error is a reason to close. -/
def closeOnError : Op υ Unit := do
  if (← get).mState.canClose then startClose

/-- `OnOpenCallback` -/
def onOpenCallback (arErr : Bool) : Op υ Unit := do
  let p := (← get).mState
  ensure (p.mOpening = true) (.invalidState ("OnOpenCallback: " ++ p.convertStateToString))
  modify fun s ↦ { s with mState := { s.mState with mOpening := false } }
  if arErr then failOpening user
  else if (← get).mState.mClosing then failOpening user
  else do
    modify fun s ↦ { s with mState := { s.mState with mOpen := true } }
    onLowerLayerUp user

/-- `OnReadCallback` -/
def onReadCallback (arErr : Bool) : Op υ Unit := do
  let p := (← get).mState
  ensure (p.mReading = true) (.invalidState ("OnReadCallback: " ++ p.convertStateToString))
  modify fun s ↦ { s with mState := { s.mState with mReading := false } }
  if arErr then closeOnError
  else if p.mClosing then pure ()
  else user.onReceive
  closeIfDue user

/-- `OnWriteCallback` -/
def onWriteCallback (arErr : Bool) : Op υ Unit := do
  let p := (← get).mState
  ensure (p.mWriting = true) (.invalidState ("OnWriteCallback: " ++ p.convertStateToString))
  modify fun s ↦ { s with mState := { s.mState with mWriting := false } }
  if arErr then closeOnError
  else if p.mClosing then pure ()
  else user.onSendSuccess
  closeIfDue user

/-! ### Requests -/

/-- The state of the monitor changes, and the port is to close. -/
def closeInto (m : MonitorState) : Op υ Unit := do
  changeState m
  asyncClose user

/-- `OnCloseRequest` -/
def close : Op υ Unit := do
  match (← get).mpState with
  | .opening => closeInto user .openingClosing
  | .openingOne => closeInto user .openingSuspending
  | .opened => closeInto user .closing
  | .openedOne => closeInto user .suspending
  | _ => pure ()

/-- `OnSuspendRequest` -/
def suspend : Op υ Unit := do
  match (← get).mpState with
  | .opening | .openingOne => closeInto user .openingSuspending
  | .openingClosing => changeState .openingSuspending
  | .opened | .openedOne => closeInto user .suspending
  | .waiting | .waitingOne => do
    cancelOpenTimer
    changeState .suspended
  | .closing => changeState .suspending
  | _ => pure ()

/-- `OnShutdownRequest` -/
def onShutdownRequest : Op υ Unit := do
  match (← get).mpState with
  | .suspended | .init => changeState .shutdown
  | .opening | .openingOne => closeInto user .openingStopping
  | .openingClosing | .openingSuspending => changeState .openingStopping
  | .opened | .openedOne => closeInto user .shutingDown
  | .waiting | .waitingOne => do
    cancelOpenTimer
    changeState .shutdown
  | .closing | .suspending => changeState .shutingDown
  | _ => pure ()

/-- `Shutdown` -/
def shutdown : Op υ Unit := do
  logged .shutdown
  onShutdownRequest user

/-- `Start`, `StartOne`, `Close`, `Suspend` and `Shutdown` -/
def request : MonitorRequest → Op υ Unit
  | .start => start
  | .startOne => startOne
  | .close => close user
  | .suspend => suspend user
  | .shutdown => shutdown user

end User

end Monitored

end OpenDNP3
