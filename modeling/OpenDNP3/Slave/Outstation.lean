import OpenDNP3.App.Reentry
import OpenDNP3.Slave.Handlers

/-!
# The outstation, piece by piece

In `States` the lower layer reports every send later, by an event of its own.  It may also do so at
once, from inside the send: the report ends the response, the slave handles what it has deferred,
possibly by the next send, and only then the first send returns.  Here a call of the slave or of its
application layer runs up to its call of the lower layer, and what is left of it is kept on a stack.

* `Slave.Piece` — the functions of `States` up to the first call that may lead to the lower layer.
* `SlaveRest` and `SlaveRest.perform` — what can be left of a call, and how it goes on.
* `Outstation.step` — one move: something comes in from outside, also from inside a call of the
  lower layer; the outstation goes on; or the call of the lower layer returns, or throws.

What the slave hands to its layer is recorded, each fragment with its sequence number and with the
slave as it was then.
-/

set_option autoImplicit false

namespace OpenDNP3

open Handler

/-! ## What is left of a call

The slave calls its application layer, which may call the slave again before it returns. So the
calls that are under way are a stack of what is left of them. -/

/-- The events that wait until the slave is idle, in the order in which `FlushDeferredEvents` looks
for them. -/
inductive Deferred where
  | update | request | unsol | unknown
  deriving DecidableEq, Repr

/-- **What is left of the calls that are under way**, of the slave and of its application layer. -/
inductive SlaveRest where
  /-- A call of the layer. -/
  | layer (op : AppLayer.Op (List Byte))
  /-- `_OnReceive` of the layer. -/
  | receive (apData : List Byte)
  /-- The rest of a call of the layer. -/
  | act (aAct : AppLayer.Act (List Byte))
  /-- A call of the slave by its layer, and the fragment that has led to it. -/
  | user (call : UserCall) (apData : List Byte)
  /-- `Send`, of `mResponse`, or `SendUnsolicited`, of `mUnsol`. -/
  | send (aUnsol : Bool)
  /-- The end of `OnRequest` in `AS_WaitForRspSuccess`. -/
  | deferRequest (r : Request)
  /-- The end of `DoRequest`. -/
  | setLastRequest (aBuffer : List Byte)
  | onDataUpdate
  | onUnsolTimerExpiration
  /-- `FlushDeferredEvents`, from one of its parts on. -/
  | flush (aDeferred : Deferred)
  /-- A callback of the slave returns. -/
  | handled
  /-- The end of the `try` in `_OnReceive`. -/
  | caught (apData : List Byte)
  /-- The call from outside returns. -/
  | returned

namespace Slave

variable {ν ρ υ : Type} [SetpointValue ν] (env : Environment ρ υ)

/-! ## Pieces of the slave -/

namespace Piece

/-- `FlushDeferredEvents`, which ends every callback. -/
def flushDeferredEvents : List SlaveRest := [.flush .update]

/-- What comes after a part of `FlushDeferredEvents`. -/
def next : Deferred → SlaveRest
  | .update => .flush .request
  | .request => .flush .unsol
  | .unsol => .flush .unknown
  | .unknown => .handled

/-- `ConfigureAndSendSimpleResponse` -/
def configureAndSendSimpleResponse : M ν ρ (List SlaveRest) := do
  setResponse
  return [.send false]

/-- `SwitchOnFunction` -/
def switchOnFunction (apNext : AS) (arRequest : APDU) (aSeqInfo : SequenceInfo) :
    M ν ρ (List SlaveRest) := do
  match arRequest.getFunction with
  | .read =>
    changeState apNext
    resetRspContext env
    let (iin, r) := env.rspContext.configure arRequest (← get).mRspContext
    modify fun s ↦ { s with mRspContext := r }
    loadResponse env
    setRspIIN (·.bitwiseOR iin)
    return [.send false]
  | .write =>
    changeState apNext
    if aSeqInfo ≠ .prev then
      note (.perform .write)
      handleWrite arRequest
    configureAndSendSimpleResponse
  | .proprietaryVtoTransfer =>
    changeState apNext
    if aSeqInfo ≠ .prev then
      note (.perform .proprietaryVtoTransfer)
      handleVtoTransfer arRequest
    configureAndSendSimpleResponse
  | .select =>
    changeState apNext
    handleSelect env arRequest aSeqInfo
    return [.send false]
  | .operate =>
    changeState apNext
    handleOperate env arRequest aSeqInfo
    return [.send false]
  | .directOperate =>
    changeState apNext
    note (.perform .directOperate)
    handleDirectOperate env arRequest aSeqInfo
    return [.send false]
  | .directOperateNoAck =>
    note (.perform .directOperateNoAck)
    handleDirectOperate env arRequest aSeqInfo
    return []
  | .enableUnsolicited =>
    changeState apNext
    handleEnableUnsolicited arRequest true
    return [.send false]
  | .disableUnsolicited =>
    changeState apNext
    handleEnableUnsolicited arRequest false
    return [.send false]
  | .delayMeasure =>
    changeState apNext
    configureDelayMeasurement arRequest
    return [.send false]
  | func => throw (.notSupported s!"Function not supported: {func.toNat}")

/-- `DoRequest` -/
def doRequest (apNext : AS) (r : Request) : M ν ρ (List SlaveRest) := do
  modify fun s ↦ { s with mRspIIN := {}, executing := r.number }
  note (.process r.mRequest.getFunction)
  let frames ← tryCatch (switchOnFunction env apNext r.mRequest r.mSeqInfo) fun ex ↦
    match ex with
    | .notSupported _ => do
      changeState apNext
      setRspIIN (·.setFuncNotSupported true)
      configureAndSendSimpleResponse
    | _ => throw ex
  return frames ++ [.setLastRequest r.mRequest.mBuffer]

/-- An unsolicited response of the events of the classes. -/
def startUnsolicited (aMask : ClassMask) : M ν ρ (List SlaveRest) := do
  changeState .waitForUnsolSuccess
  loadUnsol env aMask
  return [.send true]

/-- `AS_Idle::OnDataUpdate` -/
def idleOnDataUpdate : M ν ρ (List SlaveRest) := do
  flushUpdates env
  let s ← get
  if !s.mConfig.mDisableUnsol && s.mStartupNullUnsol &&
      env.rspContext.hasEvents s.mConfig.mUnsolMask s.mRspContext then
    if s.mConfig.mUnsolPackDelay = 0 then startUnsolicited env s.mConfig.mUnsolMask
    else if !s.mpUnsolTimer then do
      startUnsolTimer
      return []
    else return []
  else return []

/-- `AS_Idle::OnUnsolExpiration` -/
def idleOnUnsolExpiration : M ν ρ (List SlaveRest) := do
  let s ← get
  if s.mStartupNullUnsol then
    if env.rspContext.hasEvents s.mConfig.mUnsolMask s.mRspContext then
      startUnsolicited env s.mConfig.mUnsolMask
    else return []
  -- the unsolicited response without events that comes first
  else startUnsolicited env ⟨false, false, false⟩

/-- `AS_Idle::OnRequest` -/
def idleOnRequest (r : Request) : M ν ρ (List SlaveRest) := doRequest env .waitForRspSuccess r

/-- What `FlushDeferredEvents` does about one kind of event.  Only `AS_Idle` accepts what was
deferred, and it accepts no unknown object. -/
def flush : Deferred → M ν ρ (List SlaveRest)
  | .update => do
    let s ← get
    if s.mpState = .idle ∧ s.mDeferredUpdate = true then
      modify fun s ↦ { s with mDeferredUpdate := false }
      idleOnDataUpdate env
    else return []
  | .request => do
    let s ← get
    match s.mpState, s.mDeferredRequest with
    | .idle, some r =>
      modify fun s ↦ { s with mDeferredRequest := none }
      idleOnRequest env r
    | _, _ => return []
  | .unsol => do
    let s ← get
    if s.mpState = .idle ∧ s.mDeferredUnsol = true then
      modify fun s ↦ { s with mDeferredUnsol := false }
      idleOnUnsolExpiration env
    else return []
  | .unknown => return []

/-- `OnDataUpdate` of the state. -/
def stateOnDataUpdate : M ν ρ (List SlaveRest) := do
  match (← get).mpState with
  | .closed =>
    flushUpdates env
    return []
  | .idle => idleOnDataUpdate env
  | _ =>
    modify fun s ↦ { s with mDeferredUpdate := true }
    return []

/-- `OnUnsolExpiration` of the state. -/
def stateOnUnsolExpiration : M ν ρ (List SlaveRest) := do
  match (← get).mpState with
  | .idle => idleOnUnsolExpiration env
  | _ =>
    modify fun s ↦ { s with mDeferredUnsol := true }
    return []

/-- `OnUnsolTimerExpiration` -/
def onUnsolTimerExpiration : M ν ρ (List SlaveRest) := do
  modify fun s ↦ { s with mpUnsolTimer := false }
  let frames ← stateOnUnsolExpiration env
  return frames ++ flushDeferredEvents

/-- `OnSolSendSuccess` of the state. -/
def stateOnSolSendSuccess : M ν ρ (List SlaveRest) := do
  match (← get).mpState with
  | .waitForRspSuccess =>
    clearWritten env
    if env.rspContext.isComplete (← get).mRspContext then
      changeState .idle
      return []
    else
      loadResponse env
      return [.send false]
  | .waitForSolUnsolSuccess =>
    changeState .waitForUnsolSuccess
    return []
  | state => throw state.invalidState

/-- `OnUnsolFailure` of the state. -/
def stateOnUnsolFailure : M ν ρ (List SlaveRest) := do
  match (← get).mpState with
  | .waitForUnsolSuccess =>
    changeState .idle
    resetRspContext env
    startUnsolTimer
    return []
  | .waitForSolUnsolSuccess =>
    changeState .waitForRspSuccess
    resetRspContext env
    if (← get).mConfig.mUnsolRetryDelay > 0 then do
      startUnsolTimer
      return []
    else return [.onUnsolTimerExpiration]
  | state => throw state.invalidState

/-- A request is deferred, and its `OnRequest` goes on with `FlushDeferredEvents`. -/
def deferRequest (r : Request) : M ν ρ (List SlaveRest) := do
  Slave.deferRequest r
  return flushDeferredEvents

/-- `OnRequest` -/
def onRequest (r : Request) : M ν ρ (List SlaveRest) := do
  match (← get).mpState with
  | .closed => throw AS.closed.invalidState
  | .idle =>
    let frames ← idleOnRequest env r
    return frames ++ flushDeferredEvents
  | .waitForRspSuccess => return [.layer .cancelResponse, .deferRequest r]
  | .waitForUnsolSuccess =>
    if r.mRequest.getFunction = .read then
      onApp (AppLayer.cancelRetries true)
      deferRequest r
    else
      modify fun s ↦ { s with mDeferredRequest := none }
      let frames ← doRequest env .waitForSolUnsolSuccess r
      return frames ++ flushDeferredEvents
  | .waitForSolUnsolSuccess => deferRequest r

/-- `OnUnknown` of the state, for the request with the given number. -/
def stateOnUnknown (aNumber : ℕ) : M ν ρ (List SlaveRest) := do
  match (← get).mpState with
  | .idle =>
    modify fun s ↦ { s with executing := aNumber }
    handleUnknown
    changeState .waitForRspSuccess
    return [.send false]
  | _ =>
    modify fun s ↦ { s with mDeferredUnknown := true }
    return []

/-- The calls of the application layer. -/
def user : UserCall → M ν ρ (List SlaveRest)
  | .onLowerLayerUp => do
    stateOnLowerLayerUp
    return flushDeferredEvents
  | .onLowerLayerDown => do
    modify fun s ↦ { s with connection := s.connection + 1 }
    stateOnLowerLayerDown
    return flushDeferredEvents
  | .onSendSuccess false => do
    let frames ← stateOnSolSendSuccess env
    return frames ++ flushDeferredEvents
  | .onSendSuccess true => do
    stateOnUnsolSendSuccess env
    return flushDeferredEvents
  | .onFailure false => do
    stateOnSolFailure env
    return flushDeferredEvents
  | .onFailure true => do
    let frames ← stateOnUnsolFailure env
    return frames ++ flushDeferredEvents
  | .onRequest arAPDU aSeqInfo => do
    let n ← arrive (some arAPDU)
    onRequest env ⟨arAPDU, aSeqInfo, n⟩
  | .onUnknownObject => do
    let n ← arrive none
    let frames ← stateOnUnknown n
    return frames ++ flushDeferredEvents
  | .onPartialResponse _ | .onFinalResponse _ | .onUnsolResponse _ =>
    throw (.general "Unhandled frame")

/-- `OnDataUpdate`, and `OnVtoUpdate`. -/
def onDataUpdate : M ν ρ (List SlaveRest) := do
  let frames ← stateOnDataUpdate env
  return frames ++ flushDeferredEvents

end Piece

end Slave

/-! ## How a call goes on -/

namespace SlaveRest

open Slave

variable {ν ρ υ : Type} [SetpointValue ν] (env : Environment ρ υ)

/-- The call of the slave that its layer makes. -/
def ofCall (apData : List Byte) (call : Option UserCall) : List SlaveRest :=
  (call.map (.user · apData)).toList

/-- `Send` or `SendUnsolicited` up to the call of the lower layer. -/
def submit (aUnsol : Bool) : M ν ρ (List SlaveRest) := do
  setRspIIN (·.bitwiseOR (← get).mIIN)
  let s ← get
  let f ← Handler.lift ((if aUnsol then s.mUnsol else s.mResponse).setIIN s.mRspIIN)
  modify fun s ↦ if aUnsol then { s with mUnsol := f } else { s with mResponse := f }
  let (acts, call) ← onApp (AppLayer.enter (if aUnsol then .sendUnsolicited f else .sendResponse f))
  if !aUnsol then note .respond
  return ofCall [] call ++ acts.map .act

/-- **The call goes on**, up to the next call of the lower layer or of the slave; the value is what
is left of it then. -/
def perform : SlaveRest → M ν ρ (List SlaveRest)
  | .layer op => do
    let (acts, call) ← onApp (AppLayer.enter op)
    return ofCall [] call ++ acts.map .act
  | .receive apData => do
    ensure ((← get).mpAppLayer.mIsLowerLayerUp = true) (.invalidState "LowerLaterDown")
    tryCatch (do
      let (acts, call) ← onApp (AppLayer.enterReceive apData)
      return ofCall apData call ++ acts.map .act ++ [.caught apData]) fun ex ↦ do
        let call ← onApp (AppLayer.onCatch apData ex)
        return ofCall apData call
  | .act aAct => do
    let call ← onApp aAct.call
    return ofCall [] call
  | .user call _ => Piece.user env call
  | .send aUnsol => submit aUnsol
  | .deferRequest r => Piece.deferRequest r
  | .setLastRequest aBuffer => do
    modify fun s ↦ { s with mLastRequest := aBuffer }
    return []
  | .onDataUpdate => Piece.onDataUpdate env
  | .onUnsolTimerExpiration => Piece.onUnsolTimerExpiration env
  | .flush aDeferred => do
    let frames ← Piece.flush env aDeferred
    return frames ++ [Piece.next aDeferred]
  | .handled | .caught _ | .returned => return []

/-- The lower layer reports the result of a send. -/
def isResult : SlaveRest → Bool
  | .layer (.event (.sendResult _)) => true
  | _ => false

/-- The layer has called the lower layer: it has put `mSending` up. -/
def callsLower (frame : SlaveRest) (a t : AppLayer (List Byte)) : Bool :=
  t.mSending && (!a.mSending || frame.isResult)

/-- The request that is handed to the slave. -/
def request : SlaveRest → Option (List Byte)
  | .user (.onRequest _ _) apData | .user .onUnknownObject apData => some apData
  | _ => none

end SlaveRest

/-! ## Moves

The outstation makes a move when it is called from outside, and when a call that is under way
goes on. -/

/-- A fragment that the slave has handed to its layer, with its sequence number, and the slave as it
was then. -/
structure Sent (ν ρ : Type) where
  aUnsol : Bool
  fragment : OutAPDU (List Byte)
  slave : Slave ν ρ

/-- **The outstation**: the slave with its layer, and the calls that are under way.  `running` is
false while control is outside.  The other members record what happens: the octets of the requests
that the slave was handed, what it has sent, and whether anything was thrown since the outstation
was last at rest. -/
structure Outstation (ν ρ : Type) where
  slave : Slave ν ρ
  stack : List SlaveRest
  running : Bool
  arrived : List (List Byte)
  sent : List (Sent ν ρ)
  thrown : Bool

/-- What can happen next. -/
inductive OutstationMove (υ : Type) where
  /-- Something comes in from outside. -/
  | enter (e : SlaveEvent υ)
  /-- The outstation goes on. -/
  | go
  /-- The call of the lower layer returns. -/
  | resume
  /-- The call of the lower layer ends with an exception. -/
  | unwind (ex : Exception)
  deriving DecidableEq

namespace Outstation

open Slave

variable {ν ρ υ : Type} [SetpointValue ν] (env : Environment ρ υ)

omit [SetpointValue ν] in
/-- No call is under way. -/
def init (s : Slave ν ρ) : Outstation ν ρ := ⟨s, [], false, [], [], false⟩

/-- An exception ends calls up to the `try` that catches it, or up to the call from outside. -/
def throwTo (s : Slave ν ρ) (ex : Exception) : List SlaveRest → Slave ν ρ × List SlaveRest × Bool
  | [] => (s, [], false)
  | .returned :: rest => (s, rest, false)
  | .caught apData :: rest =>
    match onApp (AppLayer.onCatch apData ex) s with
    | .ok call t => (t, SlaveRest.ofCall apData call ++ rest, true)
    | .error ex t => throwTo t ex rest
  | _ :: rest => throwTo s ex rest

/-- **An exception** is thrown. -/
def raise (s : Outstation ν ρ) (ex : Exception) : Outstation ν ρ :=
  let (t, rest, running) := throwTo s.slave ex s.stack
  { s with slave := t, stack := rest, running := running, thrown := true }

/-- What the slave has handed to its layer. -/
def submitted : List SlaveRest → Option (Bool × OutAPDU (List Byte))
  | .act (.setSendAPDU aUnsol f) :: _ => some (aUnsol, f)
  | _ => none

/-- **The outstation goes on** with what is on top of the stack. -/
def advance (s : Outstation ν ρ) (frame : SlaveRest) (rest : List SlaveRest) : Outstation ν ρ :=
  let arrived := s.arrived ++ frame.request.toList
  match frame.perform env s.slave with
  | .ok frames t =>
    { s with
      slave := t
      stack := frames ++ rest
      running := !frame.callsLower s.slave.mpAppLayer t.mpAppLayer
      arrived := arrived
      sent := s.sent ++ ((submitted frames).map fun p ↦ ⟨p.1, p.2, s.slave⟩).toList }
  | .error ex t => raise { s with slave := t, stack := rest, arrived := arrived } ex

/-- What an event of the outstation calls. -/
def calls : SlaveEvent υ → List SlaveRest
  | .app (.receive apData) => [.receive apData]
  | .app e => [.layer (.event e)]
  | .onDataUpdate => [.onDataUpdate]
  | .unsolTimer => [.onUnsolTimerExpiration]
  | .update _ | .timeTimer => []

/-- A timer expires only if it is running. -/
def possible (s : Slave ν ρ) : SlaveEvent υ → Bool
  | .app (.timeout aUnsol) => (s.mpAppLayer.channel aUnsol).mpTimer
  | .unsolTimer => s.mpUnsolTimer
  | .timeTimer => s.mpTimeTimer
  | _ => true

/-- **One move**.  New updates and the timer of the clock end no callback. -/
def step (s : Outstation ν ρ) : OutstationMove υ → Option (Outstation ν ρ)
  | .enter e =>
    if s.running = false ∧ possible s.slave e = true then
      match calls e with
      | [] => some { s with slave := (exec (Slave.handle env e) s.slave).1 }
      | frames => some { s with
          stack := frames ++ .returned :: s.stack
          running := true
          thrown := s.thrown && !s.stack.isEmpty }
    else none
  | .go =>
    if s.running = true then
      match s.stack with
      | [] => none
      | .returned :: rest => some { s with stack := rest, running := false }
      | frame :: rest => some (s.advance env frame rest)
    else none
  | .resume => if s.running = false ∧ s.stack ≠ [] then some { s with running := true } else none
  | .unwind ex => if s.running = false ∧ s.stack ≠ [] then some (s.raise ex) else none

end Outstation

end OpenDNP3
