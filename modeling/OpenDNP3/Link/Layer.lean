import OpenDNP3.Link.Frame

/-!
# The link layer

`LinkLayer` is both a primary station, which sends user data and waits for its confirmation, and a
secondary one, which answers the other side.  Each half has its own states, and the two share the
timer and the transmitter.

A frame is described by the call of `IFrameSink` that it becomes at the other end, and the type of
its payload is a parameter: nothing in this layer looks at user data.  An operation returns the
layer after it and what it does to the outside, in order, or the exception it throws.
-/

set_option autoImplicit false

namespace OpenDNP3

/-- `LinkConfig`, but for the length of the timeout. -/
structure LinkConfig where
  isMaster : Bool
  useConfirms : Bool
  numRetry : ℕ
  localAddr : BitVec 16
  remoteAddr : BitVec 16
  deriving DecidableEq, Repr

/-- The states of the primary station, `PriStateBase` and its subclasses. -/
inductive PLLS where
  | secNotReset | secReset | resetLinkWait | confDataWait
  deriving DecidableEq, Repr

/-- `Name` of a state of the primary station. -/
def PLLS.name : PLLS → String
  | .secNotReset => "PLLS_SecNotReset"
  | .secReset => "PLLS_SecReset"
  | .resetLinkWait => "PLLS_ResetLinkWait"
  | .confDataWait => "PLLS_ConfDataWait"

/-- The states of the secondary station, `SecStateBase` and its subclasses. -/
inductive SLLS where
  | notReset | reset
  deriving DecidableEq, Repr

/-- What a link layer does to the router below and the layer above. -/
inductive LinkAction (α : Type) where
  | transmit (arFrame : Frame α)
  | onReceive (aData : α)
  | onSendSuccess
  | onSendFailure
  | onLowerLayerUp
  | onLowerLayerDown
  deriving DecidableEq, Repr

/-- `LinkLayer`.  Of the timer only matters whether it is running, and `mPriFrame` and `mSecFrame`
are transmitted as soon as they are formatted. -/
structure LinkLayer (α : Type) where
  mCONFIG : LinkConfig
  mRetryRemaining : ℕ
  mpTimer : Bool
  mNextReadFCB : Bool
  mNextWriteFCB : Bool
  mIsOnline : Bool
  mpPriState : PLLS
  mpSecState : SLLS
  mDelayedPriFrame : Option (Frame α)

namespace LinkLayer

variable {α : Type}

/-- The constructor. -/
def init (arConfig : LinkConfig) : LinkLayer α where
  mCONFIG := arConfig
  mRetryRemaining := 0
  mpTimer := false
  mNextReadFCB := false
  mNextWriteFCB := false
  mIsOnline := false
  mpPriState := .secNotReset
  mpSecState := .notReset
  mDelayedPriFrame := none

/-- The layer after an operation, and what the operation did. -/
abbrev Outcome (α : Type) := LinkLayer α × List (LinkAction α)

/-! ## Helpers of the states -/

/-- `StartTimer` -/
def startTimer (ll : LinkLayer α) : Except Exception (LinkLayer α) := do
  assert "mpTimer == NULL" (ll.mpTimer = false)
  return { ll with mpTimer := true }

/-- `CancelTimer` -/
def cancelTimer (ll : LinkLayer α) : Except Exception (LinkLayer α) := do
  assert "mpTimer" (ll.mpTimer = true)
  return { ll with mpTimer := false }

/-- `ResetRetry` -/
def resetRetry (ll : LinkLayer α) : LinkLayer α :=
  { ll with mRetryRemaining := ll.mCONFIG.numRetry }

/-- `Retry` -/
def retry (ll : LinkLayer α) : Bool × LinkLayer α :=
  if ll.mRetryRemaining > 0 then (true, { ll with mRetryRemaining := ll.mRetryRemaining - 1 })
  else (false, ll)

/-- The frame that `SendAck` transmits. -/
def ackFrame (ll : LinkLayer α) : Frame α :=
  .ack ll.mCONFIG.isMaster false ll.mCONFIG.remoteAddr ll.mCONFIG.localAddr

/-- The frame that `SendLinkStatus` transmits. -/
def linkStatusFrame (ll : LinkLayer α) : Frame α :=
  .linkStatus ll.mCONFIG.isMaster false ll.mCONFIG.remoteAddr ll.mCONFIG.localAddr

/-- The frame that `SendResetLinks` transmits. -/
def resetLinksFrame (ll : LinkLayer α) : Frame α :=
  .resetLinkStates ll.mCONFIG.isMaster ll.mCONFIG.remoteAddr ll.mCONFIG.localAddr

/-- The frame of confirmed user data with the given frame count bit. -/
def confirmedFrame (ll : LinkLayer α) (aFCB : Bool) (aData : α) : Frame α :=
  .confirmedUserData ll.mCONFIG.isMaster aFCB ll.mCONFIG.remoteAddr ll.mCONFIG.localAddr aData

/-- `SendUnconfirmedUserData` -/
def sendUnconfirmedUserData (ll : LinkLayer α) (aData : α) : Except Exception (Outcome α) :=
  .ok (ll, [.transmit (.unconfirmedUserData ll.mCONFIG.isMaster ll.mCONFIG.remoteAddr
    ll.mCONFIG.localAddr aData), .onSendSuccess])

/-- `SendDelayedUserData` -/
def sendDelayedUserData (ll : LinkLayer α) (aFCB : Bool) : Outcome α :=
  let mDelayedPriFrame := ll.mDelayedPriFrame.map (·.withFcb aFCB)
  ({ ll with mDelayedPriFrame }, mDelayedPriFrame.toList.map .transmit)

/-! ## The states of the primary station

A state of the source is a class with a method for each event. Here each event is a function that
looks at the state. -/

/-- `SendConfirmed` -/
def priSendConfirmed (ll : LinkLayer α) (aData : α) : Except Exception (Outcome α) :=
  match ll.mpPriState with
  | .secNotReset => do
    let ll ← ll.resetRetry.startTimer
    let ll := { ll with
      mpPriState := .resetLinkWait
      -- what is sent once the link state has been reset
      mDelayedPriFrame := some (ll.confirmedFrame true aData) }
    return (ll, [.transmit ll.resetLinksFrame])
  | .secReset => do
    let ll ← ll.resetRetry.startTimer
    let ll := { ll with
      mpPriState := .confDataWait
      mDelayedPriFrame := some (ll.confirmedFrame ll.mNextWriteFCB aData) }
    return ll.sendDelayedUserData ll.mNextWriteFCB
  | s => throw (.invalidState s.name)

/-- `SendUnconfirmed` -/
def priSendUnconfirmed (ll : LinkLayer α) (aData : α) : Except Exception (Outcome α) :=
  match ll.mpPriState with
  | .secNotReset | .secReset => ll.sendUnconfirmedUserData aData
  | s => throw (.invalidState s.name)

/-- `Ack` of the primary states. -/
def priAck (ll : LinkLayer α) : Except Exception (Outcome α) :=
  match ll.mpPriState with
  | .resetLinkWait => do
    let ll := { ll with mNextWriteFCB := true }
    let ll ← ll.cancelTimer
    let ll ← ll.startTimer
    let ll := { ll with mpPriState := .confDataWait }
    return ll.sendDelayedUserData ll.mNextWriteFCB
  | .confDataWait => do
    let ll := { ll with mNextWriteFCB := !ll.mNextWriteFCB }
    let ll ← ll.cancelTimer
    return ({ ll with mpPriState := .secReset }, [.onSendSuccess])
  | _ => return (ll, [])

/-- `Nack`, `LinkStatus` and `NotSupported` of the primary states, which all fail what is being
sent. -/
def priFailure (ll : LinkLayer α) : Except Exception (Outcome α) :=
  match ll.mpPriState with
  | .resetLinkWait | .confDataWait => do
    let ll ← ll.cancelTimer
    return ({ ll with mpPriState := .secNotReset }, [.onSendFailure])
  | _ => return (ll, [])

/-- `OnTimeout` of the primary states. -/
def priOnTimeout (ll : LinkLayer α) : Except Exception (Outcome α) :=
  match ll.mpPriState with
  | .resetLinkWait => do
    let (again, ll) := ll.retry
    if again then
      let ll ← ll.startTimer
      return (ll, [.transmit ll.resetLinksFrame])
    else
      return ({ ll with mpPriState := .secNotReset }, [.onSendFailure])
  | .confDataWait => do
    let (again, ll) := ll.retry
    if again then
      let ll ← ll.startTimer
      return ll.sendDelayedUserData ll.mNextWriteFCB
    else
      return ({ ll with mpPriState := .secNotReset }, [.onSendFailure])
  | s => throw (.invalidState s.name)

/-! ## The states of the secondary station

A secondary station is reset or not, and expects the next frame to have the other frame count
bit. -/

/-- `ResetLinkStates` of the secondary states. -/
def secResetLinkStates (ll : LinkLayer α) : Except Exception (Outcome α) :=
  .ok ({ ll with mNextReadFCB := true, mpSecState := .reset }, [.transmit ll.ackFrame])

/-- `RequestLinkStatus` of the secondary states. -/
def secRequestLinkStatus (ll : LinkLayer α) : Except Exception (Outcome α) :=
  .ok (ll, [.transmit ll.linkStatusFrame])

/-- `TestLinkStatus` of the secondary states. -/
def secTestLinkStatus (ll : LinkLayer α) (aFcb : Bool) : Except Exception (Outcome α) :=
  match ll.mpSecState with
  | .notReset => .ok (ll, [])
  | .reset =>
    if ll.mNextReadFCB = aFcb then
      .ok ({ ll with mNextReadFCB := !ll.mNextReadFCB }, [.transmit ll.ackFrame])
    else .ok (ll, [])

/-- `ConfirmedUserData` of the secondary states. -/
def secConfirmedUserData (ll : LinkLayer α) (aFcb : Bool) (aData : α) :
    Except Exception (Outcome α) :=
  match ll.mpSecState with
  | .notReset => .ok (ll, [])
  | .reset =>
    if ll.mNextReadFCB = aFcb then
      .ok ({ ll with mNextReadFCB := !ll.mNextReadFCB }, [.transmit ll.ackFrame, .onReceive aData])
    else .ok (ll, [.transmit ll.ackFrame])

/-! ## The interfaces of the layer -/

/-- `Validate` -/
def validate (ll : LinkLayer α) (aIsMaster : Bool) (aSrc aDest : BitVec 16) :
    Except Exception Bool :=
  if !ll.mIsOnline then .error (.invalidState "LowerLayerDown")
  else if aIsMaster = ll.mCONFIG.isMaster then .ok false
  else if aDest ≠ ll.mCONFIG.localAddr then .ok false
  else if aSrc ≠ ll.mCONFIG.remoteAddr then .ok false
  else .ok true

/-- The methods of `IFrameSink`: each validates the frame and passes it to one of the two states. -/
def onFrame (ll : LinkLayer α) (fr : Frame α) : Except Exception (Outcome α) := do
  match fr with
  | .ack m _ dest src => if ← ll.validate m src dest then ll.priAck else return (ll, [])
  | .nack m _ dest src | .linkStatus m _ dest src | .notSupported m _ dest src =>
    if ← ll.validate m src dest then ll.priFailure else return (ll, [])
  | .testLinkStatus m fcb dest src =>
    if ← ll.validate m src dest then ll.secTestLinkStatus fcb else return (ll, [])
  | .resetLinkStates m dest src =>
    if ← ll.validate m src dest then ll.secResetLinkStates else return (ll, [])
  | .requestLinkStatus m dest src =>
    if ← ll.validate m src dest then ll.secRequestLinkStatus else return (ll, [])
  | .confirmedUserData m fcb dest src data =>
    if ← ll.validate m src dest then ll.secConfirmedUserData fcb data else return (ll, [])
  | .unconfirmedUserData m dest src data =>
    if ← ll.validate m src dest then return (ll, [.onReceive data]) else return (ll, [])

/-- `_Send` -/
def send (ll : LinkLayer α) (aData : α) : Except Exception (Outcome α) :=
  if !ll.mIsOnline then .error (.invalidState "LowerLayerDown")
  else if ll.mCONFIG.useConfirms then ll.priSendConfirmed aData
  else ll.priSendUnconfirmed aData

/-- `OnTimeout` -/
def onTimeout (ll : LinkLayer α) : Except Exception (Outcome α) := do
  assert "mpTimer" (ll.mpTimer = true)
  { ll with mpTimer := false }.priOnTimeout

/-- `OnLowerLayerUp` -/
def onLowerLayerUp (ll : LinkLayer α) : Except Exception (Outcome α) :=
  if ll.mIsOnline then .error (.invalidState "LowerLayerUp")
  else .ok ({ ll with mIsOnline := true }, [.onLowerLayerUp])

/-- `OnLowerLayerDown` -/
def onLowerLayerDown (ll : LinkLayer α) : Except Exception (Outcome α) := do
  if !ll.mIsOnline then throw (.invalidState "LowerLayerDown")
  let ll ← if ll.mpTimer then ll.cancelTimer else pure ll
  return ({ ll with mIsOnline := false, mpPriState := .secNotReset, mpSecState := .notReset },
    [.onLowerLayerDown])

/-! ## What the operations do -/

variable {ll : LinkLayer α}

/-- A frame of the peer is for this layer. -/
theorem validate_of_peer (honline : ll.mIsOnline = true) {m : Bool}
    (hm : m = !ll.mCONFIG.isMaster) :
    ll.validate m ll.mCONFIG.remoteAddr ll.mCONFIG.localAddr = .ok true := by
  subst hm
  simp [validate, honline]

/-- The first send on a link, and the first after a failure: the link states are reset before the
data are sent. -/
theorem send_secNotReset (honline : ll.mIsOnline = true) (hconf : ll.mCONFIG.useConfirms = true)
    (hs : ll.mpPriState = .secNotReset) (ht : ll.mpTimer = false) (aData : α) :
    ll.send aData = .ok ({ ll with
      mRetryRemaining := ll.mCONFIG.numRetry, mpTimer := true, mpPriState := .resetLinkWait
      mDelayedPriFrame := some (ll.confirmedFrame true aData) },
      [.transmit ll.resetLinksFrame]) := by
  simp only [send, honline, hconf, priSendConfirmed, hs, startTimer, resetRetry, ht]
  rfl

/-- A send on a link that has been reset. -/
theorem send_secReset (honline : ll.mIsOnline = true) (hconf : ll.mCONFIG.useConfirms = true)
    (hs : ll.mpPriState = .secReset) (ht : ll.mpTimer = false) (aData : α) :
    ll.send aData = .ok ({ ll with
      mRetryRemaining := ll.mCONFIG.numRetry, mpTimer := true, mpPriState := .confDataWait
      mDelayedPriFrame := some (ll.confirmedFrame ll.mNextWriteFCB aData) },
      [.transmit (ll.confirmedFrame ll.mNextWriteFCB aData)]) := by
  simp only [send, honline, hconf, priSendConfirmed, hs, startTimer, resetRetry, ht]
  rfl

/-- The link states have been reset, and the delayed data are sent. -/
theorem priAck_resetLinkWait (hs : ll.mpPriState = .resetLinkWait) (ht : ll.mpTimer = true)
    {b : Bool} {aData : α} (hd : ll.mDelayedPriFrame = some (ll.confirmedFrame b aData)) :
    ll.priAck = .ok ({ ll with
      mNextWriteFCB := true, mpPriState := .confDataWait
      mDelayedPriFrame := some (ll.confirmedFrame true aData) },
      [.transmit (ll.confirmedFrame true aData)]) := by
  simp only [priAck, hs, cancelTimer, startTimer, ht, sendDelayedUserData, hd]
  simp [assert, pure, Except.pure, bind, Except.bind, confirmedFrame, Frame.withFcb]

/-- The data have been confirmed. -/
theorem priAck_confDataWait (hs : ll.mpPriState = .confDataWait) (ht : ll.mpTimer = true) :
    ll.priAck = .ok ({ ll with
      mNextWriteFCB := !ll.mNextWriteFCB, mpTimer := false, mpPriState := .secReset },
      [.onSendSuccess]) := by
  simp only [priAck, hs, cancelTimer, ht]
  rfl

/-- Nothing is waited for. -/
theorem priAck_of_idle (hs : ll.mpPriState = .secNotReset ∨ ll.mpPriState = .secReset) :
    ll.priAck = .ok (ll, []) := by
  rcases hs with hs | hs <;> simp only [priAck, hs] <;> rfl

/-- The timer expires with a retry left: the reset is sent again. -/
theorem onTimeout_resetLinkWait (hs : ll.mpPriState = .resetLinkWait) (ht : ll.mpTimer = true)
    (hr : 0 < ll.mRetryRemaining) :
    ll.onTimeout = .ok ({ ll with mRetryRemaining := ll.mRetryRemaining - 1 },
      [.transmit ll.resetLinksFrame]) := by
  simp only [onTimeout, ht, priOnTimeout, hs, retry, if_pos hr, startTimer]
  rfl

/-- The timer expires with a retry left: the data are sent again. -/
theorem onTimeout_confDataWait (hs : ll.mpPriState = .confDataWait) (ht : ll.mpTimer = true)
    (hr : 0 < ll.mRetryRemaining) {b : Bool} {aData : α}
    (hd : ll.mDelayedPriFrame = some (ll.confirmedFrame b aData)) :
    ll.onTimeout = .ok ({ ll with
      mRetryRemaining := ll.mRetryRemaining - 1
      mDelayedPriFrame := some (ll.confirmedFrame ll.mNextWriteFCB aData) },
      [.transmit (ll.confirmedFrame ll.mNextWriteFCB aData)]) := by
  simp only [onTimeout, ht, priOnTimeout, hs, retry, if_pos hr, startTimer, sendDelayedUserData,
    hd]
  rfl

/-- The timer expires without a retry left: the send has failed. -/
theorem onTimeout_failure
    (hs : ll.mpPriState = .resetLinkWait ∨ ll.mpPriState = .confDataWait)
    (ht : ll.mpTimer = true) (hr : ll.mRetryRemaining = 0) :
    ll.onTimeout = .ok ({ ll with mpTimer := false, mpPriState := .secNotReset },
      [.onSendFailure]) := by
  have hr' : ¬ ll.mRetryRemaining > 0 := by omega
  rcases hs with hs | hs <;>
    simp only [onTimeout, ht, priOnTimeout, hs, retry, if_neg hr'] <;> rfl

end LinkLayer

end OpenDNP3
