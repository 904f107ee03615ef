import OpenDNP3.Lib.Handler
import OpenDNP3.APL.Exception
import OpenDNP3.Link.Frame

/-!
# The link router and its port

`LinkLayerRouter` shares one physical port between the link layers that are bound to it.  Frames
wait in a queue, and the frame at its head is being written.  The port is `PhysicalLayerAsyncBase`,
which works by callbacks: a read, a write or an opening is begun by a call and ends in a callback
later, and a port that is to close waits for the callbacks that are still due.  Between the two
stands `PhysicalLayerMonitor`, which opens the port, and opens it again.

* `PhysState` — what the port is doing.
* `MonitorState` — the states of the monitor and what each does with each request and event.
* `LinkRouter` — the three together, as one object, and its operations.

A bound context may do anything when it is called.  So an operation that calls one leaves behind, on
`stack`, what is left to do when the call returns (`Return`), and `resume` does it.
-/

set_option autoImplicit false

namespace OpenDNP3

open Handler

/-! ## Frames and routes -/

/-- `LinkRoute` -/
structure LinkRoute where
  remote : BitVec 16
  «local» : BitVec 16
  deriving DecidableEq, Repr

/-- `LinkRoute::ToString` -/
def LinkRoute.text (r : LinkRoute) : String :=
  " Local: " ++ toString r.local.toNat ++ " Remote: " ++ toString r.remote.toNat

/-- `LinkFrame::GetDest` -/
def Frame.getDest {α : Type} : Frame α → BitVec 16
  | .ack _ _ dest _ | .nack _ _ dest _ | .linkStatus _ _ dest _ | .notSupported _ _ dest _ => dest
  | .testLinkStatus _ _ dest _ | .resetLinkStates _ dest _ | .requestLinkStatus _ dest _ => dest
  | .confirmedUserData _ _ dest _ _ | .unconfirmedUserData _ dest _ _ => dest

/-- `LinkFrame::GetSrc` -/
def Frame.getSrc {α : Type} : Frame α → BitVec 16
  | .ack _ _ _ src | .nack _ _ _ src | .linkStatus _ _ _ src | .notSupported _ _ _ src => src
  | .testLinkStatus _ _ _ src | .resetLinkStates _ _ src | .requestLinkStatus _ _ src => src
  | .confirmedUserData _ _ _ src _ | .unconfirmedUserData _ _ src _ => src

/-- The route of a frame that is transmitted. -/
def Frame.route {α : Type} (fr : Frame α) : LinkRoute := ⟨fr.getDest, fr.getSrc⟩

/-! ## The port

Four flags say what the port is doing, and a fifth that it is to close. Whether a call is allowed
is decided by the flags. -/

/-- `PhysicalLayerAsyncBase::State` -/
structure PhysState where
  mOpen : Bool := false
  mOpening : Bool := false
  mReading : Bool := false
  mWriting : Bool := false
  mClosing : Bool := false
  deriving DecidableEq, Repr

namespace PhysState

variable (p : PhysState)

/-- `IsClosed` -/
def isClosed : Bool := !(p.mOpening || p.mOpen || p.mClosing || p.mReading || p.mWriting)

/-- `CanOpen` -/
def canOpen : Bool := p.isClosed

/-- `CanClose` -/
def canClose : Bool := (p.mOpen || p.mOpening) && !p.mClosing

/-- `CanRead` -/
def canRead : Bool := p.mOpen && !p.mClosing && !p.mReading

/-- `CanWrite` -/
def canWrite : Bool := p.mOpen && !p.mClosing && !p.mWriting

/-- `CallbacksPending` -/
def callbacksPending : Bool := p.mOpening || p.mReading || p.mWriting

/-- `ConvertStateToString` -/
def convertStateToString : String :=
  "Open: " ++ bit p.mOpen ++ " Opening: " ++ bit p.mOpening ++ " Reading: " ++ bit p.mReading ++
    " Writing: " ++ bit p.mWriting ++ " Closing: " ++ bit p.mClosing
where
  /-- A `bool` in a stream. -/
  bit (b : Bool) : String := if b then "1" else "0"

end PhysState

/-! ## The monitor

A state of the monitor knows whether the port is to be opened again after it has closed, and what
is to become of an opening that is under way. -/

/-- `PhysicalLayerState` -/
inductive PhysicalLayerState where
  | closed | opening | opened | waiting | shutdown
  deriving DecidableEq, Repr

/-- The states of the monitor, `IMonitorState` and its subclasses; `opened` and `openedOne` are
`MonitorStateOpen` and `MonitorStateOpenOne`. -/
inductive MonitorState where
  | shutdown | suspended | init
  | opening | openingOne | openingClosing | openingStopping | openingSuspending
  | opened | openedOne
  | waiting | waitingOne
  | closing | suspending | shutingDown
  deriving DecidableEq, Repr

namespace MonitorState

/-- `GetState` -/
def getState : MonitorState → PhysicalLayerState
  | .shutdown => .shutdown
  | .suspended | .init => .closed
  | .opening | .openingOne | .openingClosing | .openingStopping | .openingSuspending => .opening
  | .opened | .openedOne => .opened
  | .waiting | .waitingOne => .waiting
  | .closing | .suspending | .shutingDown => .closed

/-- `Name` -/
def name : MonitorState → String
  | .shutdown => "MonitorStateShutdown"
  | .suspended => "MonitorStateSuspended"
  | .init => "MonitorStateInit"
  | .opening => "MonitorStateOpening"
  | .openingOne => "MonitorStateOpeningOne"
  | .openingClosing => "MonitorStateOpeningClosing"
  | .openingStopping => "MonitorStateOpeningStopping"
  | .openingSuspending => "MonitorStateOpeningSuspending"
  | .opened => "MonitorStateOpen"
  | .openedOne => "MonitorStateOpenOne"
  | .waiting => "MonitorStateWaiting"
  | .waitingOne => "MonitorStateWaitingOne"
  | .closing => "MonitorStateClosing"
  | .suspending => "MonitorStateSuspending"
  | .shutingDown => "MonitorStateShutingDown"

end MonitorState

/-- The requests that a user makes of the monitor. -/
inductive MonitorRequest where
  | start | startOne | close | suspend | shutdown
  deriving DecidableEq, Repr

/-! ## The router -/

/-- What an operation still has to do when the context that it called returns. -/
inductive Return (κ : Type) where
  /-- `_OnReceive`, after `mReceiver.OnRead`, and `OnReadCallback` after it. -/
  | onReceive
  /-- `AddContext`, after `OnLowerLayerUp` of the context. -/
  | addContext
  /-- `RemoveContext`, after `OnLowerLayerDown` of the context. -/
  | removeContext
  /-- The loop of `OnPhysicalLayerOpenSuccessCallback`, with the contexts that come next. -/
  | opened (rest : List κ)
  /-- The loop of `OnPhysicalLayerCloseCallback`, with the contexts that come next. -/
  | closed (rest : List κ)
  deriving DecidableEq, Repr

/-- `LinkLayerRouter` with the monitor that it extends and the port that it holds; `κ` are the
contexts.  What reads and parses incoming frames is left out, since the writing does not depend on
it. -/
structure LinkRouter (κ α : Type) where
  /-- `mState` of the port. -/
  mState : PhysState
  /-- What has been written to the connection that is, or was last, open. -/
  stream : List (Frame α)
  /-- The writes that the port has begun and whose callbacks are due. -/
  writes : ℕ
  /-- The state of the monitor. -/
  mpState : MonitorState
  /-- Of the timer of the monitor only matters whether it is running. -/
  mpOpenTimer : Bool
  mIsLowerLayerUp : Bool
  mAddressMap : List (LinkRoute × κ)
  mTransmitQueue : List (Frame α)
  mTransmitting : Bool
  /-- `mIsOnline` of each context. -/
  online : κ → Bool
  stack : List (Return κ)

namespace LinkRouter

variable {κ α : Type}

/-- The operations of the router and what it consists of. -/
abbrev Op (κ α : Type) := EStateM Exception (LinkRouter κ α)

/-- The constructor. -/
def init : LinkRouter κ α where
  mState := {}
  stream := []
  writes := 0
  mpState := .init
  mpOpenTimer := false
  mIsLowerLayerUp := false
  mAddressMap := []
  mTransmitQueue := []
  mTransmitting := false
  online _ := false
  stack := []

/-- `GetContext` finds a context. -/
def isBound (s : LinkRouter κ α) (r : LinkRoute) : Prop := r ∈ s.mAddressMap.map (·.1)

instance (s : LinkRouter κ α) (r : LinkRoute) : Decidable (s.isBound r) := by
  unfold isBound
  infer_instance

/-! ### Contexts

A context is a link layer. What it does when it is called is not part of the router, so a call of
a context ends the operation here, and what is left of it is put on the stack. -/

/-- The rest of an operation waits for the context that it has called. -/
def called (r : Return κ) : Op κ α Unit := modify fun s ↦ { s with stack := r :: s.stack }

/-- `ILinkContext::OnLowerLayerUp` -/
def contextUp [DecidableEq κ] (k : κ) : Op κ α Unit := do
  ensure ((← get).online k = false) (.invalidState "LowerLayerUp")
  modify fun s ↦ { s with online := fun k' ↦ if k' = k then true else s.online k' }

/-- `ILinkContext::OnLowerLayerDown` -/
def contextDown [DecidableEq κ] (k : κ) : Op κ α Unit := do
  ensure ((← get).online k = true) (.invalidState "LowerLayerDown")
  modify fun s ↦ { s with online := fun k' ↦ if k' = k then false else s.online k' }

/-! ### Calls to the port -/

/-- `AsyncOpen` -/
def asyncOpen : Op κ α Unit := do
  let p := (← get).mState
  ensure p.canOpen (.invalidState ("AsyncOpen: " ++ p.convertStateToString))
  modify fun s ↦ { s with mState := { s.mState with mOpening := true } }

/-- `AsyncRead`; the buffer is never empty. -/
def asyncRead : Op κ α Unit := do
  let p := (← get).mState
  ensure p.canRead (.invalidState ("AsyncRead: " ++ p.convertStateToString))
  modify fun s ↦ { s with mState := { s.mState with mReading := true } }

/-- `AsyncWrite`; no frame is empty. -/
def asyncWrite (fr : Frame α) : Op κ α Unit := do
  let p := (← get).mState
  ensure p.canWrite (.invalidState ("AsyncWrite: " ++ p.convertStateToString))
  modify fun s ↦ { s with
    mState := { s.mState with mWriting := true }
    stream := s.stream ++ [fr]
    writes := s.writes + 1 }

/-- `StartClose` -/
def startClose : Op κ α Unit := do
  let p := (← get).mState
  ensure p.canClose (.invalidState ("StartClose: " ++ p.convertStateToString))
  modify fun s ↦ { s with mState := { s.mState with mClosing := true } }

/-- `CheckForClose`, which says whether the port has closed. -/
def checkForClose : Op κ α Bool := do
  let p := (← get).mState
  if p.mClosing && !p.callbacksPending then
    modify fun s ↦ { s with mState := { s.mState with mClosing := false, mOpen := false } }
    return true
  else return false

/-! ### The monitor -/

/-- `ChangeState` -/
def changeState (m : MonitorState) : Op κ α Unit := modify fun s ↦ { s with mpState := m }

/-- `StartOpenTimer` -/
def startOpenTimer : Op κ α Unit := do
  ensure ((← get).mpOpenTimer = false) (.assertion "mpOpenTimer == NULL")
  modify fun s ↦ { s with mpOpenTimer := true }

/-- `CancelOpenTimer` -/
def cancelOpenTimer : Op κ α Unit := do
  ensure ((← get).mpOpenTimer = true) (.assertion "mpOpenTimer != NULL")
  modify fun s ↦ { s with mpOpenTimer := false }

/-- `OnStartRequest` -/
def start : Op κ α Unit := do
  match (← get).mpState with
  | .suspended | .init => do
    changeState .opening
    asyncOpen
  | .openingOne => changeState .opening
  | .openingSuspending => changeState .openingClosing
  | .openedOne => changeState .opened
  | .waitingOne => changeState .waiting
  | .suspending => changeState .closing
  | _ => pure ()

/-- `OnLayerOpen` -/
def onLayerOpen : Op κ α Unit := do
  match (← get).mpState with
  | .opening => changeState .opened
  | .openingOne => changeState .openedOne
  | m => throw (.invalidState ("Not opening: " ++ m.name))

/-- `OnOpenFailure` -/
def onOpenFailure : Op κ α Unit := do
  match (← get).mpState with
  | .opening | .openingClosing => do
    changeState .waiting
    startOpenTimer
  | .openingOne | .openingSuspending => changeState .suspended
  | .openingStopping => changeState .shutdown
  | m => throw (.invalidState ("Not opening: " ++ m.name))

/-- `OnLayerClose` -/
def onLayerClose : Op κ α Unit := do
  match (← get).mpState with
  | .opened | .closing => do
    changeState .suspended
    start
  | .openedOne | .suspending => changeState .suspended
  | .shutingDown => changeState .shutdown
  | m => throw (.invalidState ("Not open: " ++ m.name))

/-- `OnOpenTimeout` -/
def onOpenTimeout : Op κ α Unit := do
  match (← get).mpState with
  | .waiting => do
    changeState .opening
    asyncOpen
  | .waitingOne => do
    changeState .openingOne
    asyncOpen
  | m => throw (.invalidState ("Not waiting for timer: " ++ m.name))

/-- `OnOpenTimerExpiration` -/
def onOpenTimerExpiration : Op κ α Unit := do
  ensure ((← get).mpOpenTimer = true) (.assertion "mpOpenTimer != NULL")
  modify fun s ↦ { s with mpOpenTimer := false }
  onOpenTimeout

/-! ### Writing -/

/-- `CheckForSend` -/
def checkForSend : Op κ α Unit := do
  let s ← get
  match s.mTransmitQueue with
  | fr :: _ =>
    if !s.mTransmitting then do
      modify fun s ↦ { s with mTransmitting := true }
      asyncWrite fr
    else pure ()
  | [] => pure ()

/-- `Transmit` -/
def transmit (arFrame : Frame α) : Op κ α Unit := do
  let s ← get
  if s.isBound arFrame.route then do
    ensure (s.mIsLowerLayerUp = true) (.invalidState "LowerLayerDown")
    modify fun s ↦ { s with mTransmitQueue := s.mTransmitQueue ++ [arFrame] }
    checkForSend
  else throw (.argument ("Unassociated context w/ route: " ++ arFrame.route.text))

/-- `_OnSendSuccess` -/
def onSendSuccess : Op κ α Unit := do
  let s ← get
  ensure (s.mTransmitQueue.length > 0) (.assertion "mTransmitQueue.size() > 0")
  ensure (s.mTransmitting = true) (.assertion "mTransmitting")
  ensure (∀ fr ∈ s.mTransmitQueue.head?, s.isBound fr.route) (.assertion "pContext != NULL")
  modify fun s ↦ { s with mTransmitting := false }
  modify fun s ↦ { s with mTransmitQueue := s.mTransmitQueue.tail }
  checkForSend

/-! ### Opening and closing -/

/-- The contexts are told that the layer is up. -/
def tellOpened [DecidableEq κ] : List κ → Op κ α Unit
  | [] => pure ()
  | k :: rest => do
    contextUp k
    called (.opened rest)

/-- `OnPhysicalLayerOpenSuccessCallback` -/
def onPhysicalLayerOpenSuccessCallback [DecidableEq κ] : Op κ α Unit := do
  if (← get).mState.canRead then asyncRead
  tellOpened ((← get).mAddressMap.map (·.2))

/-- The contexts are told that the layer is down. -/
def tellClosed [DecidableEq κ] : List κ → Op κ α Unit
  | [] => pure ()
  | k :: rest => do
    contextDown k
    called (.closed rest)

/-- `OnPhysicalLayerCloseCallback` -/
def onPhysicalLayerCloseCallback [DecidableEq κ] : Op κ α Unit := do
  modify fun s ↦ { s with mTransmitting := false }
  modify fun s ↦ { s with mTransmitQueue := [] }
  tellClosed ((← get).mAddressMap.map (·.2))

/-- `OnLowerLayerUp` of the router. -/
def onLowerLayerUp [DecidableEq κ] : Op κ α Unit := do
  ensure ((← get).mIsLowerLayerUp = false) (.invalidState "LowerLayerUp")
  modify fun s ↦ { s with mIsLowerLayerUp := true }
  onLayerOpen
  onPhysicalLayerOpenSuccessCallback

/-- `OnLowerLayerDown` of the router. -/
def onLowerLayerDown [DecidableEq κ] : Op κ α Unit := do
  ensure ((← get).mIsLowerLayerUp = true) (.invalidState "LowerLayerDown")
  modify fun s ↦ { s with mIsLowerLayerUp := false }
  onLayerClose
  onPhysicalLayerCloseCallback

/-- `AsyncClose` -/
def asyncClose [DecidableEq κ] : Op κ α Unit := do
  startClose
  if ← checkForClose then onLowerLayerDown

/-- The state of the monitor changes, and the port is to close. -/
def closeInto [DecidableEq κ] (m : MonitorState) : Op κ α Unit := do
  changeState m
  asyncClose

/-- `OnCloseRequest` -/
def close [DecidableEq κ] : Op κ α Unit := do
  match (← get).mpState with
  | .opening => closeInto .openingClosing
  | .openingOne => closeInto .openingSuspending
  | .opened => closeInto .closing
  | .openedOne => closeInto .suspending
  | _ => pure ()

/-- `OnStartOneRequest` -/
def startOne : Op κ α Unit := do
  match (← get).mpState with
  | .suspended | .init => do
    changeState .openingOne
    asyncOpen
  | .opening => changeState .openingOne
  | .openingClosing => changeState .openingSuspending
  | .opened => changeState .openedOne
  | .waiting => changeState .waitingOne
  | .closing => changeState .suspending
  | _ => pure ()

/-- `OnSuspendRequest` -/
def suspend [DecidableEq κ] : Op κ α Unit := do
  match (← get).mpState with
  | .opening | .openingOne => closeInto .openingSuspending
  | .openingClosing => changeState .openingSuspending
  | .opened | .openedOne => closeInto .suspending
  | .waiting | .waitingOne => do
    cancelOpenTimer
    changeState .suspended
  | .closing => changeState .suspending
  | _ => pure ()

/-- `OnShutdownRequest` -/
def shutdown [DecidableEq κ] : Op κ α Unit := do
  match (← get).mpState with
  | .suspended | .init => changeState .shutdown
  | .opening | .openingOne => closeInto .openingStopping
  | .openingClosing | .openingSuspending => changeState .openingStopping
  | .opened | .openedOne => closeInto .shutingDown
  | .waiting | .waitingOne => do
    cancelOpenTimer
    changeState .shutdown
  | .closing | .suspending => changeState .shutingDown
  | _ => pure ()

/-- `Start`, `StartOne`, `Close`, `Suspend` and `Shutdown` -/
def request [DecidableEq κ] : MonitorRequest → Op κ α Unit
  | .start => start
  | .startOne => startOne
  | .close => close
  | .suspend => suspend
  | .shutdown => shutdown

/-! ### Contexts come and go -/

/-- `AddContext` -/
def addContext [DecidableEq κ] (apContext : κ) (arRoute : LinkRoute) : Op κ α Unit := do
  let s ← get
  ensure (¬s.isBound arRoute) (.argument ("Route already in use: " ++ arRoute.text))
  match s.mAddressMap.find? (·.2 = apContext) with
  | some v => throw (.argument ("Context already is bound to route:  " ++ v.1.text))
  | none => do
    modify fun s ↦ { s with mAddressMap := s.mAddressMap ++ [(arRoute, apContext)] }
    if s.mpState.getState = .opened then do
      contextUp apContext
      called .addContext
    else start

/-- If no stacks are bound, `RemoveContext` suspends the router. -/
def suspendIfUnused [DecidableEq κ] : Op κ α Unit := do
  if (← get).mAddressMap.length = 0 then suspend

/-- `RemoveContext` -/
def removeContext [DecidableEq κ] (arRoute : LinkRoute) : Op κ α Unit := do
  let s ← get
  match s.mAddressMap.find? (·.1 = arRoute) with
  | none => throw (.argument ("LinkRoute not bound: " ++ arRoute.text))
  | some v => do
    modify fun s ↦ { s with mAddressMap := s.mAddressMap.filter (·.1 ≠ arRoute) }
    if s.mpState.getState = .opened then do
      contextDown v.2
      called .removeContext
    else suspendIfUnused

/-! ### Callbacks of the port -/

/-- `_OnOpenFailure` -/
def failOpening : Op κ α Unit := do
  let _ ← checkForClose
  onOpenFailure

/-- `OnOpenCallback` -/
def onOpenCallback [DecidableEq κ] (arErr : Bool) : Op κ α Unit := do
  let p := (← get).mState
  ensure (p.mOpening = true) (.invalidState ("OnOpenCallback: " ++ p.convertStateToString))
  modify fun s ↦ { s with mState := { s.mState with mOpening := false } }
  if arErr then failOpening
  else if (← get).mState.mClosing then failOpening
  else do
    modify fun s ↦ { s with mState := { s.mState with mOpen := true }, stream := [] }
    onLowerLayerUp

/-- The end of `OnReadCallback` and `OnWriteCallback`. -/
def closeIfDue [DecidableEq κ] : Op κ α Unit := do
  if ← checkForClose then onLowerLayerDown

/-- An error is a reason to close. -/
def closeOnError : Op κ α Unit := do
  if (← get).mState.canClose then startClose

/-- `OnReadCallback`; what has been read goes to the receiver, which calls a context for each
frame. -/
def onReadCallback [DecidableEq κ] (arErr : Bool) : Op κ α Unit := do
  let p := (← get).mState
  ensure (p.mReading = true) (.invalidState ("OnReadCallback: " ++ p.convertStateToString))
  modify fun s ↦ { s with mState := { s.mState with mReading := false } }
  if arErr then do
    closeOnError
    closeIfDue
  else if p.mClosing then closeIfDue
  else called .onReceive

/-- `OnWriteCallback` -/
def onWriteCallback [DecidableEq κ] (arErr : Bool) : Op κ α Unit := do
  let p := (← get).mState
  ensure (p.mWriting = true) (.invalidState ("OnWriteCallback: " ++ p.convertStateToString))
  modify fun s ↦ { s with mState := { s.mState with mWriting := false }, writes := s.writes - 1 }
  if arErr then closeOnError
  else if p.mClosing then pure ()
  else onSendSuccess
  closeIfDue

/-! ### Returns

The context that was called last returns first. Before it does so it may have called the router
again, which has put its own calls on the stack and taken them off. -/

/-- What is left of the operation. -/
def continuation [DecidableEq κ] : Return κ → Op κ α Unit
  | .onReceive => do
    if (← get).mState.canRead then asyncRead
    closeIfDue
  | .addContext => start
  | .removeContext => suspendIfUnused
  | .opened rest => tellOpened rest
  | .closed rest => tellClosed rest

/-- The context that was called last returns. -/
def resume [DecidableEq κ] : Op κ α Unit := do
  match (← get).stack with
  | [] => pure ()
  | r :: rest => do
    modify fun s ↦ { s with stack := rest }
    continuation r

/-- The context that was called last throws, and what called it does not catch. -/
def unwind : Op κ α Unit := modify fun s ↦ { s with stack := s.stack.tail }

end LinkRouter

end OpenDNP3
