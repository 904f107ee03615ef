import OpenDNP3.App.Apdu
import OpenDNP3.App.OutApdu

/-!
# The application layer

`AppLayer` numbers, sends and retries the fragments of its user, a master or an outstation, and
matches them with what comes back.  It has two channels, for solicited and unsolicited fragments,
each with a sequence number, a timer and a state, and one queue for what waits for the lower layer.

An operation of the layer calls its user at most once; it returns the call, and the station that
the layer is a part of makes it.  The lower layer reports the result of every send as an event of
its own.

`Station.handle` is the layer together with its user: one event of the lower layer or of a timer,
with the `catch` of `_OnReceive` around what a fragment sets off.
-/

set_option autoImplicit false

namespace OpenDNP3

open Handler

/-! ## Channels

The states of a channel are classes of the source. A state has a method for each event, and most
methods throw. -/

/-- `ACS_Base` and its subclasses. -/
inductive ACS where
  | idle | send | sendConfirmed | sendExpectResponse | sendCanceled | waitForConfirm
  | waitForFirstResponse | waitForFinalResponse
  deriving DecidableEq, Repr

namespace ACS

/-- `Name` -/
def name : ACS → String
  | idle => "ACS_Idle"
  | send => "ACS_Send"
  | sendConfirmed => "ACS_SendConfirmed"
  | sendExpectResponse => "ACS_SendExpectResponse"
  | sendCanceled => "ACS_SendCanceled"
  | waitForConfirm => "ACS_WaitForConfirm"
  | waitForFirstResponse => "ACS_WaitForFirstResponse"
  | waitForFinalResponse => "ACS_WaitForFinalResponse"

/-- `AcceptsResponse` -/
def acceptsResponse : ACS → Bool
  | waitForFirstResponse | waitForFinalResponse => true
  | _ => false

/-- The fragment of the channel is with the lower layer, or waits for it. -/
def isSending : ACS → Bool
  | send | sendConfirmed | sendExpectResponse | sendCanceled => true
  | _ => false

/-- The channel waits for the other side. -/
def isWaiting : ACS → Bool
  | waitForConfirm | waitForFirstResponse | waitForFinalResponse => true
  | _ => false

/-- What `ThrowInvalidState` throws. -/
def invalidState (s : ACS) : Exception := .invalidState ("State: " ++ s.name)

end ACS

/-- `AppLayerChannel`; of the timer only matters whether it is running. -/
structure AppLayerChannel (ω : Type) where
  mpState : ACS
  mSequence : Int
  mpSendAPDU : Option (OutAPDU ω)
  mNumRetry : ℕ
  mpTimer : Bool

/-- `AppLayerChannel::NextSeq` -/
def nextSeq (s : Int) : Int := (s + 1) % 16

/-- `SequenceInfo` -/
inductive SequenceInfo where
  | other | prev | correct
  deriving DecidableEq, Repr

/-- The calls of `IAppUser`; those that either channel makes say which one it is. -/
inductive UserCall where
  | onLowerLayerUp
  | onLowerLayerDown
  | onSendSuccess (aUnsol : Bool)
  | onFailure (aUnsol : Bool)
  | onPartialResponse (arAPDU : APDU)
  | onFinalResponse (arAPDU : APDU)
  | onUnsolResponse (arAPDU : APDU)
  | onRequest (arAPDU : APDU) (aSeqInfo : SequenceInfo)
  | onUnknownObject

/-- `AppLayer`, with `IsLowerLayerUp`, the size of `mIncoming` and what `IsMaster` of the user
answers. -/
structure AppLayer (ω : Type) where
  isMaster : Bool
  fragSize : ℕ
  mNumRetry : ℕ
  mIsLowerLayerUp : Bool
  mSending : Bool
  mConfirmSending : Bool
  mSendQueue : List (OutAPDU ω)
  mSolicited : AppLayerChannel ω
  mUnsolicited : AppLayerChannel ω

/-- The constructor of a channel. -/
def AppLayerChannel.new {ω : Type} : AppLayerChannel ω where
  mpState := .idle
  mSequence := -1
  mpSendAPDU := none
  mNumRetry := 0
  mpTimer := false

namespace AppLayer

variable {ω : Type}

/-- The constructor. -/
def new (isMaster : Bool) (aFragSize aNumRetry : ℕ) : AppLayer ω where
  isMaster := isMaster
  fragSize := aFragSize
  mNumRetry := aNumRetry
  mIsLowerLayerUp := false
  mSending := false
  mConfirmSending := false
  mSendQueue := []
  mSolicited := .new
  mUnsolicited := .new

/-- One of the two channels. -/
def channel (a : AppLayer ω) (aUnsol : Bool) : AppLayerChannel ω :=
  if aUnsol then a.mUnsolicited else a.mSolicited

/-- The layer with another state of a channel. -/
def setChannel (a : AppLayer ω) (aUnsol : Bool) (c : AppLayerChannel ω) : AppLayer ω :=
  if aUnsol then { a with mUnsolicited := c } else { a with mSolicited := c }

@[simp] theorem channel_setChannel_self (a : AppLayer ω) (u : Bool) (c : AppLayerChannel ω) :
    (a.setChannel u c).channel u = c := by
  cases u <;> rfl

theorem channel_setChannel (a : AppLayer ω) (u v : Bool) (c : AppLayerChannel ω) :
    (a.setChannel u c).channel v = if v = u then c else a.channel v := by
  cases u <;> cases v <;> rfl

@[simp] theorem setChannel_setChannel (a : AppLayer ω) (u : Bool) (c d : AppLayerChannel ω) :
    (a.setChannel u c).setChannel u d = a.setChannel u d := by
  cases u <;> rfl

@[simp] theorem setChannel_mSendQueue (a : AppLayer ω) (u : Bool) (c : AppLayerChannel ω) :
    (a.setChannel u c).mSendQueue = a.mSendQueue := by
  cases u <;> rfl

@[simp] theorem setChannel_mSending (a : AppLayer ω) (u : Bool) (c : AppLayerChannel ω) :
    (a.setChannel u c).mSending = a.mSending := by
  cases u <;> rfl

@[simp] theorem setChannel_mConfirmSending (a : AppLayer ω) (u : Bool) (c : AppLayerChannel ω) :
    (a.setChannel u c).mConfirmSending = a.mConfirmSending := by
  cases u <;> rfl

@[simp] theorem setChannel_mIsLowerLayerUp (a : AppLayer ω) (u : Bool) (c : AppLayerChannel ω) :
    (a.setChannel u c).mIsLowerLayerUp = a.mIsLowerLayerUp := by
  cases u <;> rfl

@[simp] theorem setChannel_isMaster (a : AppLayer ω) (u : Bool) (c : AppLayerChannel ω) :
    (a.setChannel u c).isMaster = a.isMaster := by
  cases u <;> rfl

@[simp] theorem setChannel_fragSize (a : AppLayer ω) (u : Bool) (c : AppLayerChannel ω) :
    (a.setChannel u c).fragSize = a.fragSize := by
  cases u <;> rfl

@[simp] theorem setChannel_mNumRetry (a : AppLayer ω) (u : Bool) (c : AppLayerChannel ω) :
    (a.setChannel u c).mNumRetry = a.mNumRetry := by
  cases u <;> rfl

/-- An operation of the layer. -/
abbrev M (ω α : Type) := EStateM Exception (AppLayer ω) α

/-! ## The queue -/

/-- `CheckForSend` -/
def checkForSend : M ω Unit :=
  modify fun a ↦ { a with mSending := a.mSending || !a.mSendQueue.isEmpty }

/-- `QueueFrame` -/
def queueFrame (arAPDU : OutAPDU ω) : M ω Unit := do
  modify fun a ↦ { a with mSendQueue := a.mSendQueue ++ [arAPDU] }
  checkForSend

/-- `mConfirm`, as `QueueConfirm` sends it. -/
def confirmAPDU (aUnsol : Bool) (aSeq : ℕ) : OutAPDU ω :=
  ((OutAPDU.new 2).set .confirm true true false aUnsol).setControl ⟨true, true, false, aUnsol, aSeq⟩

/-- `QueueConfirm` -/
def queueConfirm (aUnsol : Bool) (aSeq : ℕ) : M ω Unit := do
  ensure ((← get).mConfirmSending = false) (.general "Unsol flood")
  modify fun a ↦ { a with mConfirmSending := true }
  queueFrame (confirmAPDU aUnsol aSeq)

/-! ## Operations of a channel -/

/-- `ChangeState` -/
def changeState (aUnsol : Bool) (apState : ACS) : M ω Unit :=
  modify fun a ↦ a.setChannel aUnsol { a.channel aUnsol with mpState := apState }

/-- `StartTimer` -/
def startTimer (aUnsol : Bool) : M ω Unit := do
  ensure (((← get).channel aUnsol).mpTimer = false) (.invalidState "")
  modify fun a ↦ a.setChannel aUnsol { a.channel aUnsol with mpTimer := true }

/-- `CancelTimer` -/
def cancelTimer (aUnsol : Bool) : M ω Unit := do
  ensure (((← get).channel aUnsol).mpTimer = true) (.invalidState "")
  modify fun a ↦ a.setChannel aUnsol { a.channel aUnsol with mpTimer := false }

/-- `IncrSequence` -/
def incrSequence (aUnsol : Bool) : M ω Unit :=
  modify fun a ↦ a.setChannel aUnsol
    { a.channel aUnsol with mSequence := nextSeq (a.channel aUnsol).mSequence }

/-- `Retry` -/
def retry (aUnsol : Bool) (apState : ACS) : M ω Bool := do
  let c := (← get).channel aUnsol
  if c.mNumRetry > 0 then
    modify fun a ↦ a.setChannel aUnsol { c with mNumRetry := c.mNumRetry - 1, mpState := apState }
    match c.mpSendAPDU with
    | some apdu => queueFrame apdu
    | none => throw (.nullPointer "mpSendAPDU")
    return true
  else return false

/-- `Retry`, or give up: what the states do when a send fails or a wait times out. -/
def retryOrFail (aUnsol : Bool) (apState : ACS) : M ω (Option UserCall) := do
  if ← retry aUnsol apState then return none
  else
    changeState aUnsol .idle
    return some (.onFailure aUnsol)

/-- `ACS_Idle::NextState` -/
def nextState (aSequence : Int) (aFunc : FunctionCodes) (aConfirm : Bool) : Except Exception ACS :=
  match aFunc with
  | .confirm => .error (.argument "Confirms are automatic only")
  | .response =>
    if aSequence < 0 then .error (.invalidState "Can't respond until we've received a request")
    else if aConfirm then .ok .sendConfirmed
    else .ok .send
  | .unsolicitedResponse => if aConfirm then .ok .sendConfirmed else .ok .send
  | .directOperateNoAck =>
    if aConfirm then .error (.argument "DO no ACK can't be confirmed") else .ok .send
  | _ =>
    if aConfirm then .error (.argument "Confirmation not allowed for requests")
    else .ok .sendExpectResponse

/-- `ACS_Idle::Send`; the control octet of the fragment gets its sequence number. -/
def idleSend (aUnsol : Bool) (arAPDU : OutAPDU ω) (aFunc : FunctionCodes) (aNumRetry : ℕ) :
    M ω (OutAPDU ω) := do
  -- the first fragment of a response answers with the sequence number of the request
  if !(arAPDU.control.fir && aFunc = .response) then incrSequence aUnsol
  let seq := ((← get).channel aUnsol).mSequence
  let arAPDU := arAPDU.setControl { arAPDU.control with seq := seq.toNat }
  let next ← Handler.lift (nextState seq aFunc arAPDU.control.con)
  modify fun a ↦ a.setChannel aUnsol { a.channel aUnsol with
    mpState := next, mNumRetry := aNumRetry }
  queueFrame arAPDU
  return arAPDU

/-- `AppLayerChannel::Send`, which only `ACS_Idle` allows. -/
def sendOn (aUnsol : Bool) (arAPDU : OutAPDU ω) (aFunc : FunctionCodes) (aNumRetry : ℕ) :
    M ω Unit := do
  let c := (← get).channel aUnsol
  ensure (c.mpState = .idle) c.mpState.invalidState
  let arAPDU ← idleSend aUnsol arAPDU aFunc aNumRetry
  modify fun a ↦ a.setChannel aUnsol { a.channel aUnsol with mpSendAPDU := some arAPDU }

/-- `OnSendSuccess` of a channel. -/
def channelOnSendSuccess (aUnsol : Bool) : M ω (Option UserCall) := do
  match ((← get).channel aUnsol).mpState with
  | .send =>
    changeState aUnsol .idle
    return some (.onSendSuccess aUnsol)
  | .sendConfirmed =>
    changeState aUnsol .waitForConfirm
    startTimer aUnsol
    return none
  | .sendExpectResponse =>
    changeState aUnsol .waitForFirstResponse
    startTimer aUnsol
    return none
  | .sendCanceled =>
    changeState aUnsol .idle
    return some (.onFailure aUnsol)
  | s => throw s.invalidState

/-- `OnSendFailure` of a channel. -/
def channelOnSendFailure (aUnsol : Bool) : M ω (Option UserCall) := do
  match ((← get).channel aUnsol).mpState with
  | .sendCanceled =>
    changeState aUnsol .idle
    return some (.onFailure aUnsol)
  | .send => retryOrFail aUnsol .send
  | .sendConfirmed => retryOrFail aUnsol .sendConfirmed
  | .sendExpectResponse => retryOrFail aUnsol .sendExpectResponse
  | s => throw s.invalidState

/-- `Cancel` of a channel. -/
def cancel (aUnsol : Bool) : M ω (Option UserCall) := do
  match ((← get).channel aUnsol).mpState with
  | .send | .sendConfirmed | .sendExpectResponse =>
    changeState aUnsol .sendCanceled
    return none
  | .sendCanceled => return none
  | .waitForConfirm =>
    changeState aUnsol .idle
    cancelTimer aUnsol
    return some (.onFailure aUnsol)
  | s => throw s.invalidState

/-- `CancelRetries` of a channel. -/
def cancelRetries (aUnsol : Bool) : M ω Unit :=
  modify fun a ↦ a.setChannel aUnsol { a.channel aUnsol with mNumRetry := 0 }

/-- `OnConfirm` of a channel. -/
def channelOnConfirm (aUnsol : Bool) (aSeq : ℕ) : M ω (Option UserCall) := do
  let c := (← get).channel aUnsol
  if c.mpState = .waitForConfirm ∧ c.mSequence = aSeq then
    cancelTimer aUnsol
    changeState aUnsol .idle
    return some (.onSendSuccess aUnsol)
  else return none

/-- `ProcessResponse` of the states in which the solicited channel waits for a response. -/
def processResponse (arAPDU : APDU) (aExpectFIR : Bool) : M ω (Option UserCall) := do
  let acf := arAPDU.getControl
  let c := (← get).channel false
  if (acf.seq : Int) = c.mSequence ∧ acf.fir = aExpectFIR then
    cancelTimer false
    if acf.fin then
      changeState false .idle
      return some (.onFinalResponse arAPDU)
    else
      incrSequence false
      changeState false .waitForFinalResponse
      startTimer false
      return some (.onPartialResponse arAPDU)
  else return none

/-- `OnResponse` of the solicited channel. -/
def channelOnResponse (arAPDU : APDU) : M ω (Option UserCall) := do
  match ((← get).channel false).mpState with
  | .waitForFirstResponse => processResponse arAPDU true
  | .waitForFinalResponse => processResponse arAPDU false
  | _ => return none

/-- `OnUnsol` of the unsolicited channel. -/
def onUnsol (arAPDU : APDU) : M ω (Option UserCall) := do
  let seq := arAPDU.getControl.seq
  if (seq : Int) = ((← get).channel true).mSequence then return none
  else
    -- only process the data if the sequence number is new
    modify fun a ↦ a.setChannel true { a.channel true with mSequence := seq }
    return some (.onUnsolResponse arAPDU)

/-- `OnTimeout` of a channel whose timer has expired. -/
def timeout (aUnsol : Bool) : M ω (Option UserCall) := do
  modify fun a ↦ a.setChannel aUnsol { a.channel aUnsol with mpTimer := false }
  match ((← get).channel aUnsol).mpState with
  | .waitForConfirm => retryOrFail aUnsol .sendConfirmed
  | .waitForFirstResponse | .waitForFinalResponse => retryOrFail aUnsol .sendExpectResponse
  | s => throw s.invalidState

/-! ## The interface to the user -/

/-- `GetRetries` -/
def getRetries (a : AppLayer ω) : FunctionCodes → ℕ
  | .directOperate | .directOperateNoAck | .response | .write => 0
  | _ => a.mNumRetry

/-- `Validate` -/
def validate (arCtrl : AppControlField) (aMaster aRequireFIRFIN aAllowCON aUNS : Bool) :
    M ω Unit := do
  let a ← get
  ensure (a.mIsLowerLayerUp = true) (.invalidState "LowerLaterDown")
  ensure (aMaster = true → a.isMaster = true)
    (.general "Only masters can perform this operation")
  ensure (a.isMaster = true → aMaster = true)
    (.general "Only slaves can perform this operation")
  ensure (aRequireFIRFIN = true → (arCtrl.fir && arCtrl.fin) = true)
    (.argument "Cannot be multi-fragmented")
  ensure (arCtrl.con = true → aAllowCON = true)
    (.argument "Confirmation not allowed for this operation")
  ensure (aUNS = arCtrl.uns) (.argument "Bad unsolicited bit")

/-- `GetFunction`, which asserts that there is a header. -/
def getFunction (arAPDU : OutAPDU ω) : Except Exception FunctionCodes :=
  match arAPDU.function with
  | some func => .ok func
  | none => .error (.assertion "mpAppHeader != NULL")

/-- `SendRequest` -/
def sendRequest (arAPDU : OutAPDU ω) : M ω Unit := do
  validate arAPDU.control true true false false
  let func ← Handler.lift (getFunction arAPDU)
  ensure (isRequest func = true) (.argument "Non-request function code")
  sendOn false arAPDU func ((← get).getRetries func)

/-- `SendResponse` -/
def sendResponse (arAPDU : OutAPDU ω) : M ω Unit := do
  validate arAPDU.control false false true false
  let func ← Handler.lift (getFunction arAPDU)
  ensure (func = .response) (.argument "Non-response function code")
  sendOn false arAPDU func ((← get).getRetries func)

/-- `SendUnsolicited` -/
def sendUnsolicited (arAPDU : OutAPDU ω) : M ω Unit := do
  validate arAPDU.control false true true true
  let func ← Handler.lift (getFunction arAPDU)
  ensure (func = .unsolicitedResponse) (.argument "Non-unsolicited function code")
  sendOn true arAPDU func ((← get).getRetries func)

/-! ## Received fragments -/

/-- `OnResponse` -/
def onResponse (arAPDU : APDU) : M ω (Option UserCall) := do
  let arCtrl := arAPDU.getControl
  ensure (arCtrl.uns = false) (.general "Bad unsol bit")
  -- a response that will not be handled is not confirmed
  if arCtrl.con && ((← get).channel false).mpState.acceptsResponse then
    queueConfirm false arCtrl.seq
  channelOnResponse arAPDU

/-- `OnUnsolResponse` -/
def onUnsolResponse (arAPDU : APDU) : M ω (Option UserCall) := do
  let arCtrl := arAPDU.getControl
  ensure (arCtrl.uns = true) (.general "ALERR_BAD_UNSOL_BIT")
  ensure ((← get).isMaster = true) (.general "SERR_FUNC_NOT_SUPPORTED")
  if arCtrl.con then queueConfirm true arCtrl.seq
  onUnsol arAPDU

/-- `OnConfirm` -/
def onConfirm (arAPDU : APDU) : M ω (Option UserCall) := do
  let arCtrl := arAPDU.getControl
  ensure (arCtrl.uns = true → (← get).isMaster = false) (.general "ALERR_UNEXPECTED_CONFIRM")
  channelOnConfirm arCtrl.uns arCtrl.seq

/-- `OnRequest`, with `SolicitedChannel::OnRequest`. -/
def onRequest (arAPDU : APDU) : M ω (Option UserCall) := do
  let arCtrl := arAPDU.getControl
  ensure (arCtrl.uns = false) (.general "Received request with UNS bit")
  ensure ((arCtrl.fir && arCtrl.fin) = true) (.general "Received non FIR/FIN request")
  ensure ((← get).isMaster = false) (.general "Master received request apdu")
  let sequence := ((← get).channel false).mSequence
  let seq : SequenceInfo :=
    if (arCtrl.seq : Int) = sequence then .prev
    else if (arCtrl.seq : Int) = nextSeq sequence then .correct
    else .other
  modify fun a ↦ a.setChannel false { a.channel false with mSequence := arCtrl.seq }
  return some (.onRequest arAPDU seq)

/-- `OnUnknownObject`, with `SolicitedChannel::OnUnknownObjectInRequest`. -/
def onUnknownObject (aCode : FunctionCodes) (arCtrl : AppControlField) :
    M ω (Option UserCall) := do
  if (← get).isMaster then return none
  else
    match aCode with
    | .confirm | .response | .unsolicitedResponse | .directOperateNoAck => return none
    | _ =>
      modify fun a ↦ a.setChannel false { a.channel false with mSequence := arCtrl.seq }
      return some .onUnknownObject

/-- What `_OnReceive` does with a fragment inside its `try`. -/
def receive (apData : List Byte) : M ω (Option UserCall) := do
  ensure (apData.length ≤ (← get).fragSize)
    (.argument s!"Size {apData.length} exceeds max fragment size of {(← get).fragSize}")
  let mIncoming ← Handler.lift (APDU.interpret apData)
  match mIncoming.getFunction with
  | .confirm => onConfirm mIncoming
  | .response => onResponse mIncoming
  | .unsolicitedResponse => onUnsolResponse mIncoming
  | _ => onRequest mIncoming

/-- What `_OnReceive` does with a fragment that has an unknown object. -/
def catchObject (apData : List Byte) : M ω (Option UserCall) := do
  let (control, function, _) ← Handler.lift (APDU.interpretHeader apData)
  onUnknownObject function control

/-! ## The lower layer -/

/-- `IUpDown::OnLowerLayerUp` -/
def onLowerLayerUp : M ω (Option UserCall) := do
  ensure ((← get).mIsLowerLayerUp = false) (.invalidState "LowerLayerUp")
  modify fun a ↦ { a with mIsLowerLayerUp := true }
  return some .onLowerLayerUp

/-- `AppLayerChannel::Reset` -/
def resetChannel (c : AppLayerChannel ω) : AppLayerChannel ω :=
  { c with mpState := .idle, mSequence := -1, mpTimer := false }

/-- `IUpDown::OnLowerLayerDown` -/
def onLowerLayerDown : M ω (Option UserCall) := do
  ensure ((← get).mIsLowerLayerUp = true) (.invalidState "LowerLayerDown")
  modify fun a ↦ { a with
    mIsLowerLayerUp := false
    mSolicited := resetChannel a.mSolicited
    mUnsolicited := resetChannel a.mUnsolicited
    mSendQueue := []
    mSending := false }
  return some .onLowerLayerDown

/-- `OnSendResult`, up to the `CheckForSend` at its end. -/
def onSendResult (aSuccess : Bool) : M ω (Option UserCall) := do
  ensure ((← get).mSending = true) (.invalidState "No Active Send")
  match (← get).mSendQueue with
  | [] => throw (.assertion "mSendQueue.size() > 0")
  | apdu :: queue =>
    modify fun a ↦ { a with mSending := false }
    let func ← Handler.lift (getFunction apdu)
    modify fun a ↦ { a with mSendQueue := queue }
    if func = .confirm then
      ensure ((← get).mConfirmSending = true) (.assertion "mConfirmSending")
      modify fun a ↦ { a with mConfirmSending := false }
      return none
    else if aSuccess then channelOnSendSuccess (func = .unsolicitedResponse)
    else channelOnSendFailure (func = .unsolicitedResponse)

end AppLayer

/-! ## A station -/

/-- What happens to an application layer: events of the lower layer and of the timers of the
channels. -/
inductive AppEvent where
  | lowerLayerUp
  | lowerLayerDown
  | sendResult (aSuccess : Bool)
  | receive (apData : List Byte)
  | timeout (aUnsol : Bool)
  deriving DecidableEq, Repr

/-- The application layer as a component of a station with states `σ`, and how the station answers
the calls of the layer. -/
structure Station (ω σ : Type) where
  app : σ → AppLayer ω
  setApp : AppLayer ω → σ → σ
  user : UserCall → EStateM Exception σ Unit

namespace Station

variable {ω σ : Type} (st : Station ω σ)

/-- An operation of the application layer. -/
def onApp {α : Type} (x : AppLayer.M ω α) : EStateM Exception σ α := zoom st.app st.setApp x

/-- An operation of the application layer, and the call that it makes. -/
def callBack (x : AppLayer.M ω (Option UserCall)) : EStateM Exception σ Unit := do
  match ← st.onApp x with
  | some call => st.user call
  | none => pure ()

/-- `_OnReceive`; the value is the exception that was caught, and logged. -/
def onReceive (apData : List Byte) : EStateM Exception σ (Option Exception) := do
  ensure ((st.app (← get)).mIsLowerLayerUp = true) (.invalidState "LowerLaterDown")
  tryCatch (do st.callBack (AppLayer.receive apData); return none) fun ex ↦
    match ex with
    | .object _ => do st.callBack (AppLayer.catchObject apData); return some ex
    | _ => if ex.isCaught then return some ex else throw ex

/-- **One event of the lower layer or of a timer.**  The timer of a channel expires only if it is
running. -/
def handle : AppEvent → EStateM Exception σ (Option Exception)
  | .lowerLayerUp => do st.callBack AppLayer.onLowerLayerUp; return none
  | .lowerLayerDown => do st.callBack AppLayer.onLowerLayerDown; return none
  | .sendResult aSuccess => do
    st.callBack (AppLayer.onSendResult aSuccess)
    st.onApp AppLayer.checkForSend
    return none
  | .receive apData => st.onReceive apData
  | .timeout aUnsol => do
    if ((st.app (← get)).channel aUnsol).mpTimer then st.callBack (AppLayer.timeout aUnsol)
    return none

end Station

end OpenDNP3
