import OpenDNP3.Slave.Slave

/-!
# The states of the outstation

The state of the slave decides what becomes of an event: it is handled, or a flag is set for it and
it is handled once the slave is idle, by `FlushDeferredEvents`, which ends every callback.

The application layer may call the slave back while the slave calls it: to cancel a response whose
confirmation is awaited reports its failure at once.  Everything else that the slave asks of the
layer is reported later.

`Slave.handle` is one event of the outstation: of its application layer, of its user or of one of
the two timers.
-/

set_option autoImplicit false

namespace OpenDNP3

open Handler

namespace Slave

variable {ν ρ υ : Type} [SetpointValue ν] (env : Environment ρ υ)

/-! ## Executing a request -/

/-- `SwitchOnFunction` -/
def switchOnFunction (apNext : AS) (arRequest : APDU) (aSeqInfo : SequenceInfo) : M ν ρ Unit := do
  match arRequest.getFunction with
  | .read =>
    changeState apNext
    resetRspContext env
    let (iin, r) := env.rspContext.configure arRequest (← get).mRspContext
    modify fun s ↦ { s with mRspContext := r }
    loadResponse env
    setRspIIN (·.bitwiseOR iin)
    send
  | .write =>
    changeState apNext
    if aSeqInfo ≠ .prev then
      note (.perform .write)
      handleWrite arRequest
    configureAndSendSimpleResponse
  | .proprietaryVtoTransfer =>
    changeState apNext
    if aSeqInfo ≠ .prev then
      note (.perform .proprietaryVtoTransfer)
      handleVtoTransfer arRequest
    configureAndSendSimpleResponse
  | .select =>
    changeState apNext
    handleSelect env arRequest aSeqInfo
    send
  | .operate =>
    changeState apNext
    handleOperate env arRequest aSeqInfo
    send
  | .directOperate =>
    changeState apNext
    note (.perform .directOperate)
    handleDirectOperate env arRequest aSeqInfo
    send
  | .directOperateNoAck =>
    note (.perform .directOperateNoAck)
    handleDirectOperate env arRequest aSeqInfo
  | .enableUnsolicited =>
    changeState apNext
    handleEnableUnsolicited arRequest true
    send
  | .disableUnsolicited =>
    changeState apNext
    handleEnableUnsolicited arRequest false
    send
  | .delayMeasure =>
    changeState apNext
    configureDelayMeasurement arRequest
    send
  | func => throw (.notSupported s!"Function not supported: {func.toNat}")

/-- `DoRequest`.  Nothing throws a `ParameterException`. -/
def doRequest (apNext : AS) (r : Request) : M ν ρ Unit := do
  modify fun s ↦ { s with mRspIIN := {}, executing := r.number }
  note (.process r.mRequest.getFunction)
  tryCatch (switchOnFunction env apNext r.mRequest r.mSeqInfo) fun ex ↦
    match ex with
    | .notSupported _ => do
      changeState apNext
      setRspIIN (·.setFuncNotSupported true)
      configureAndSendSimpleResponse
    | _ => throw ex
  modify fun s ↦ { s with mLastRequest := r.mRequest.mBuffer }

/-- A request is deferred; one that was deferred before is lost. -/
def deferRequest (r : Request) : M ν ρ Unit :=
  modify fun s ↦ { s with mDeferredRequest := some r }

/-! ## Events that wait until the slave is idle

An update, the timer of unsolicited responses and a request may come while a response is under
way. They are noted, and looked at again when the slave is idle. -/

/-- An unsolicited response of the events of the classes. -/
def startUnsolicited (aMask : ClassMask) : M ν ρ Unit := do
  changeState .waitForUnsolSuccess
  loadUnsol env aMask
  sendUnsolicited

/-- `AS_Idle::OnDataUpdate` -/
def idleOnDataUpdate : M ν ρ Unit := do
  flushUpdates env
  let s ← get
  if !s.mConfig.mDisableUnsol && s.mStartupNullUnsol &&
      env.rspContext.hasEvents s.mConfig.mUnsolMask s.mRspContext then
    if s.mConfig.mUnsolPackDelay = 0 then startUnsolicited env s.mConfig.mUnsolMask
    else if !s.mpUnsolTimer then startUnsolTimer

/-- `AS_Idle::OnUnsolExpiration` -/
def idleOnUnsolExpiration : M ν ρ Unit := do
  let s ← get
  if s.mStartupNullUnsol then
    if env.rspContext.hasEvents s.mConfig.mUnsolMask s.mRspContext then
      startUnsolicited env s.mConfig.mUnsolMask
  -- the unsolicited response without events that comes first
  else startUnsolicited env ⟨false, false, false⟩

/-- `AS_Idle::OnRequest` -/
def idleOnRequest (r : Request) : M ν ρ Unit := doRequest env .waitForRspSuccess r

/-- What `FlushDeferredEvents` does about updates.  Only `AS_Idle` accepts what was deferred. -/
def flushDeferredUpdate : M ν ρ Unit := do
  let s ← get
  if s.mpState = .idle ∧ s.mDeferredUpdate = true then
    modify fun s ↦ { s with mDeferredUpdate := false }
    idleOnDataUpdate env

/-- What `FlushDeferredEvents` does about a request. -/
def flushDeferredRequest : M ν ρ Unit := do
  let s ← get
  match s.mpState, s.mDeferredRequest with
  | .idle, some r =>
    modify fun s ↦ { s with mDeferredRequest := none }
    idleOnRequest env r
  | _, _ => pure ()

/-- What `FlushDeferredEvents` does about the timer of unsolicited responses. -/
def flushDeferredUnsol : M ν ρ Unit := do
  let s ← get
  if s.mpState = .idle ∧ s.mDeferredUnsol = true then
    modify fun s ↦ { s with mDeferredUnsol := false }
    idleOnUnsolExpiration env

/-- `FlushDeferredEvents`.  No state accepts a deferred unknown object. -/
def flushDeferredEvents : M ν ρ Unit := do
  flushDeferredUpdate env
  flushDeferredRequest env
  flushDeferredUnsol env

/-- `OnDataUpdate` of the state. -/
def stateOnDataUpdate : M ν ρ Unit := do
  match (← get).mpState with
  | .closed => flushUpdates env
  | .idle => idleOnDataUpdate env
  | _ => modify fun s ↦ { s with mDeferredUpdate := true }

/-- `OnDataUpdate`, and `OnVtoUpdate`. -/
def onDataUpdate : M ν ρ Unit := do
  stateOnDataUpdate env
  flushDeferredEvents env

/-- `OnUnsolExpiration` of the state. -/
def stateOnUnsolExpiration : M ν ρ Unit := do
  match (← get).mpState with
  | .idle => idleOnUnsolExpiration env
  | _ => modify fun s ↦ { s with mDeferredUnsol := true }

/-- `OnUnsolTimerExpiration` -/
def onUnsolTimerExpiration : M ν ρ Unit := do
  modify fun s ↦ { s with mpUnsolTimer := false }
  stateOnUnsolExpiration env
  flushDeferredEvents env

/-! ## Callbacks of the application layer -/

/-- `AS_Closed::OnLowerLayerUp`; no other state expects it. -/
def stateOnLowerLayerUp : M ν ρ Unit := do
  let s ← get
  ensure (s.mpState = .closed) s.mpState.invalidState
  if s.mConfig.mAllowTimeSync then
    if s.mConfig.mResetTimeSyncOnDown || !s.mFirstTimeSyncIssued then resetTimeIIN
    else restartTimeSyncTimer
  changeState .idle

/-- `OnLowerLayerUp` -/
def onLowerLayerUp : M ν ρ Unit := do
  stateOnLowerLayerUp
  flushDeferredEvents env

/-- `AS_OpenBase::OnLowerLayerDown` -/
def stateOnLowerLayerDown : M ν ρ Unit := do
  ensure ((← get).mpState ≠ .closed) AS.closed.invalidState
  changeState .closed

/-- `OnLowerLayerDown` -/
def onLowerLayerDown : M ν ρ Unit := do
  modify fun s ↦ { s with connection := s.connection + 1 }
  stateOnLowerLayerDown
  flushDeferredEvents env

/-- `OnSolSendSuccess` of the state. -/
def stateOnSolSendSuccess : M ν ρ Unit := do
  match (← get).mpState with
  | .waitForRspSuccess =>
    clearWritten env
    if env.rspContext.isComplete (← get).mRspContext then changeState .idle
    else
      loadResponse env
      send
  | .waitForSolUnsolSuccess => changeState .waitForUnsolSuccess
  | state => throw state.invalidState

/-- `OnSolSendSuccess` -/
def onSolSendSuccess : M ν ρ Unit := do
  stateOnSolSendSuccess env
  flushDeferredEvents env

/-- `OnSolFailure` of the state. -/
def stateOnSolFailure : M ν ρ Unit := do
  match (← get).mpState with
  | .waitForRspSuccess =>
    changeState .idle
    resetRspContext env
  | .waitForSolUnsolSuccess => changeState .waitForUnsolSuccess
  | state => throw state.invalidState

/-- `OnSolFailure` -/
def onSolFailure : M ν ρ Unit := do
  stateOnSolFailure env
  flushDeferredEvents env

/-- `DoUnsolSuccess` -/
def doUnsolSuccess : M ν ρ Unit := do
  modify fun s ↦ { s with mStartupNullUnsol := true }
  clearWritten env
  resetRspContext env
  modify fun s ↦ { s with mDeferredUnsol := true }

/-- `OnUnsolSendSuccess` of the state. -/
def stateOnUnsolSendSuccess : M ν ρ Unit := do
  match (← get).mpState with
  | .waitForUnsolSuccess =>
    changeState .idle
    doUnsolSuccess env
  | .waitForSolUnsolSuccess =>
    changeState .waitForRspSuccess
    doUnsolSuccess env
  | state => throw state.invalidState

/-- `OnUnsolSendSuccess` -/
def onUnsolSendSuccess : M ν ρ Unit := do
  stateOnUnsolSendSuccess env
  flushDeferredEvents env

/-- `OnUnsolFailure` of the state. -/
def stateOnUnsolFailure : M ν ρ Unit := do
  match (← get).mpState with
  | .waitForUnsolSuccess =>
    changeState .idle
    resetRspContext env
    startUnsolTimer
  | .waitForSolUnsolSuccess =>
    changeState .waitForRspSuccess
    resetRspContext env
    if (← get).mConfig.mUnsolRetryDelay > 0 then startUnsolTimer else onUnsolTimerExpiration env
  | state => throw state.invalidState

/-- `OnUnsolFailure` -/
def onUnsolFailure : M ν ρ Unit := do
  stateOnUnsolFailure env
  flushDeferredEvents env

/-- `CancelResponse` of the application layer, which may report the failure of the response. -/
def cancelResponse : M ν ρ Unit := do
  match ← onApp (AppLayer.cancel false) with
  | some _ => onSolFailure env
  | none => pure ()

/-- `OnRequest` of the state. -/
def stateOnRequest (r : Request) : M ν ρ Unit := do
  match (← get).mpState with
  | .closed => throw AS.closed.invalidState
  | .idle => idleOnRequest env r
  | .waitForRspSuccess =>
    cancelResponse env
    deferRequest r
  | .waitForUnsolSuccess =>
    if r.mRequest.getFunction = .read then
      onApp (AppLayer.cancelRetries true)
      deferRequest r
    else
      modify fun s ↦ { s with mDeferredRequest := none }
      doRequest env .waitForSolUnsolSuccess r
  | .waitForSolUnsolSuccess => deferRequest r

/-- `OnRequest` -/
def onRequest (r : Request) : M ν ρ Unit := do
  stateOnRequest env r
  flushDeferredEvents env

/-- `OnUnknown` of the state, for the request with the given number. -/
def stateOnUnknown (aNumber : ℕ) : M ν ρ Unit := do
  match (← get).mpState with
  | .idle =>
    modify fun s ↦ { s with executing := aNumber }
    handleUnknown
    changeState .waitForRspSuccess
    send
  | _ => modify fun s ↦ { s with mDeferredUnknown := true }

/-- `OnUnknownObject` -/
def onUnknownObject (aNumber : ℕ) : M ν ρ Unit := do
  stateOnUnknown aNumber
  flushDeferredEvents env

/-- A request is received; the value is its number. -/
def arrive (apdu : Option APDU) : M ν ρ ℕ := do
  let n := (← get).received.length
  modify fun s ↦ { s with received := s.received ++ [⟨apdu, s.connection⟩] }
  return n

/-- The calls of the application layer. -/
def user : UserCall → M ν ρ Unit
  | .onLowerLayerUp => onLowerLayerUp env
  | .onLowerLayerDown => onLowerLayerDown env
  | .onSendSuccess false => onSolSendSuccess env
  | .onSendSuccess true => onUnsolSendSuccess env
  | .onFailure false => onSolFailure env
  | .onFailure true => onUnsolFailure env
  | .onRequest arAPDU aSeqInfo => do
    let n ← arrive (some arAPDU)
    onRequest env ⟨arAPDU, aSeqInfo, n⟩
  | .onUnknownObject => do
    let n ← arrive none
    onUnknownObject env n
  | .onPartialResponse _ | .onFinalResponse _ | .onUnsolResponse _ =>
    throw (.general "Unhandled frame")

/-! ## Events -/

/-- The outstation, as the station of its application layer. -/
def station : Station (List Byte) (Slave ν ρ) where
  app := Slave.mpAppLayer
  setApp a s := { s with mpAppLayer := a }
  user := user env

end Slave

/-- What happens to an outstation. -/
inductive SlaveEvent (υ : Type) where
  /-- An event of the lower layer or of a timer of the application layer. -/
  | app (e : AppEvent)
  /-- The user adds updates. -/
  | update (aUpdate : υ)
  /-- The slave is told of updates. -/
  | onDataUpdate
  /-- One of the timers of the slave expires. -/
  | unsolTimer
  | timeTimer
  deriving DecidableEq, Repr

namespace Slave

variable {ν ρ υ : Type} [SetpointValue ν] (env : Environment ρ υ)

/-- **One event.**  A timer expires only if it is running. -/
def handle : SlaveEvent υ → M ν ρ Unit
  | .app e => do let _ ← (station env).handle e
  | .update aUpdate =>
    modify fun s ↦ { s with mRspContext := env.rspContext.update aUpdate s.mRspContext }
  | .onDataUpdate => onDataUpdate env
  | .unsolTimer => do
    if (← get).mpUnsolTimer then onUnsolTimerExpiration env
  | .timeTimer => do
    if (← get).mpTimeTimer then resetTimeIIN

/-- The state after an event, which may have ended with an exception. -/
def step (s : Slave ν ρ) (e : SlaveEvent υ) : Option (Slave ν ρ) := some (exec (handle env e) s).1

/-- The exception that an event ends with. -/
def thrown (s : Slave ν ρ) (e : SlaveEvent υ) : Option Exception := (exec (handle env e) s).2

end Slave

end OpenDNP3
