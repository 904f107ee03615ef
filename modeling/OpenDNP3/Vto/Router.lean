import OpenDNP3.APL.Bytes
import OpenDNP3.Link.Monitor

/-!
# The routers of virtual terminal channels

A `VtoRouter` passes octets between a local connection, which it opens with the monitor that it
extends, and a channel to the remote side.  What comes from the remote side waits in
`mPhysLayerTxBuffer` until the local connection takes it, and between the data are the messages that
the remote connection has opened or closed.  What goes to the remote side waits in `mVtoTxBuffer`.

`EnhancedVtoRouter` keeps two copies of the state of the remote connection: `mRemoteConnected` is
what the messages that have been taken from the queue say, and `mInstRemoteConnected` is what all
messages that have been accepted say.  Its two subclasses (`VtoRouterKind`) decide what is done with
the local connection.

* `VtoRouter` and its operations — the three classes, as the user of a `Monitored` port.
* `VtoRouter.callbacks` — the calls that the monitor makes.
-/

set_option autoImplicit false

namespace OpenDNP3

open Handler

/-! ## Messages -/

/-- `VtoDataType` -/
inductive VtoDataType where
  | remoteClosed | remoteOpened | data
  deriving DecidableEq, Repr

/-- `VtoData`, and `VtoMessage` with it. -/
structure VtoData where
  mType : VtoDataType
  mpData : List Byte
  deriving DecidableEq, Repr

namespace VtoData

/-- `GetSize` -/
def getSize (d : VtoData) : ℕ := d.mpData.length

/-- It is about the connection. -/
def isConnection (d : VtoData) : Bool := d.mType ≠ .data

end VtoData

/-- The two enhanced routers. -/
inductive VtoRouterKind where
  /-- `ClientSocketVtoRouter` -/
  | client
  /-- `ServerSocketVtoRouter` -/
  | server
  deriving DecidableEq, Repr

/-! ## The router -/

/-- `EnhancedVtoRouter`, without the monitor. -/
structure VtoRouter where
  mPhysLayerTxBuffer : List VtoData
  mVtoTxBuffer : List VtoData
  mRemoteConnected : Bool
  mLocalConnected : Bool
  mInstRemoteConnected : Bool
  /-- `NumBytesAvailable` of the writer. -/
  available : ℕ
  /-- What becomes of it after each of the next writes, when others empty the queue of the
  writer. -/
  refills : List ℕ := []
  /-- What the writer has been given. -/
  written : List VtoData
  /-- The requests that the router has made of its monitor. -/
  requested : List MonitorRequest

namespace VtoRouter

/-- The operations of the router. -/
abbrev Op := Monitored.Op VtoRouter

/-- The constructor, when the writer has room for so much. -/
def init (aAvailable : ℕ) : VtoRouter where
  mPhysLayerTxBuffer := []
  mVtoTxBuffer := []
  mRemoteConnected := false
  mLocalConnected := false
  mInstRemoteConnected := false
  available := aAvailable
  written := []
  requested := []

/-- A part of the router changes. -/
def update (f : VtoRouter → VtoRouter) : Op Unit := modify fun s ↦ { s with user := f s.user }

/-! ### To the remote side

What is read from the local connection, and what is to be said about it, goes to the writer, as
far as the writer has room. The rest waits in a queue. -/

/-- `CheckForPhysRead` -/
def checkForPhysRead : Op Unit := do
  let s ← get
  if s.mState.canRead && s.user.mVtoTxBuffer.length < 3 then Monitored.asyncRead

/-- `Write` of the writer, which takes as much as it has room for and says how much. -/
def write (apData : List Byte) : Op ℕ := do
  let n := min (← get).user.available apData.length
  update fun u ↦ { u with
    available := u.refills.headD (u.available - n)
    refills := u.refills.tail
    written := u.written ++ [⟨.data, apData.take n⟩] }
  return n

/-- `CheckForVtoWrite` of a message; `again` is its call of itself. -/
def writeMessage (again : Op Unit) (msg : VtoData) : Op Unit := do
  if msg.mType = .data then do
    let numWritten ← write msg.mpData
    if numWritten < msg.getSize then
      update fun u ↦ { u
        with mVtoTxBuffer := ⟨.data, msg.mpData.drop numWritten⟩ :: u.mVtoTxBuffer }
    else again
  else do
    -- `SetLocalVtoState`
    update fun u ↦ { u with written := u.written ++ [msg] }
    again

/-- `CheckForVtoWrite` of the message at the front. -/
def writeFront (again : Op Unit) : Op Unit := do
  match (← get).user.mVtoTxBuffer with
  | [] => pure ()
  | msg :: rest => do
    update fun u ↦ { u with mVtoTxBuffer := rest }
    writeMessage again msg

/-- `CheckForVtoWrite`, with the length of the queue. -/
def checkForVtoWriteOf : ℕ → Op Unit
  | 0 => checkForPhysRead
  | k + 1 => do
    writeFront (checkForVtoWriteOf k)
    checkForPhysRead

/-- `CheckForVtoWrite` -/
def checkForVtoWrite : Op Unit := do
  checkForVtoWriteOf (← get).user.mVtoTxBuffer.length

/-- The message about a connection. -/
def connection (aConnected : Bool) : VtoData :=
  ⟨if aConnected then .remoteOpened else .remoteClosed, []⟩

/-- `NotifyRemoteSideOfState` -/
def notifyRemoteSideOfState (aConnected : Bool) : Op Unit := do
  update fun u ↦ { u with mVtoTxBuffer := u.mVtoTxBuffer ++ [connection aConnected] }
  checkForVtoWrite

/-- `_OnReceive` of these octets. -/
def onReceive (apData : List Byte) : Op Unit := do
  update fun u ↦ { u with mVtoTxBuffer := u.mVtoTxBuffer ++ [⟨.data, apData⟩] }
  checkForVtoWrite
  checkForPhysRead

/-- `FlushBuffers` -/
def flushBuffers : Op Unit := update fun u ↦ { u with mPhysLayerTxBuffer := [] }

section Policy

/- The calls that the monitor makes when the router closes the local connection. -/
variable (kind : VtoRouterKind) (user : Callbacks VtoRouter)

/-- `Close` -/
def close : Op Unit := do
  update fun u ↦ { u with requested := u.requested ++ [.close] }
  Monitored.close user

/-- `Suspend` -/
def suspend : Op Unit := do
  update fun u ↦ { u with requested := u.requested ++ [.suspend] }
  Monitored.suspend user

/-- `StartOne` -/
def startOne : Op Unit := do
  update fun u ↦ { u with requested := u.requested ++ [.startOne] }
  Monitored.startOne

/-- `CloseAndFlushBuffers`, which is also what the server does where it flushes and closes. -/
def closeAndFlushBuffers : Op Unit := do
  flushBuffers
  close user

/-- `HandleSetLocalConnected` -/
def handleSetLocalConnected : Op Unit := do
  if !(← get).user.mLocalConnected then
    match kind with
    | .client => closeAndFlushBuffers user
    | .server => flushBuffers

/-- `SetLocalConnected` -/
def setLocalConnected (aConnected : Bool) : Op Unit := do
  if (← get).user.mLocalConnected ≠ aConnected then do
    update fun u ↦ { u with mLocalConnected := aConnected }
    handleSetLocalConnected kind user
    notifyRemoteSideOfState aConnected

/-- `HandleVtoRemoteConnectedChanged` -/
def handleVtoRemoteConnectedChanged : Op Unit := do
  match kind with
  | .client =>
    if (← get).user.mRemoteConnected then do
      setLocalConnected kind user true
      startOne
    else do
      flushBuffers
      suspend user
  | .server =>
    if !(← get).user.mRemoteConnected then closeAndFlushBuffers user

/-- `DoVtoRemoteConnectedChanged` -/
def doVtoRemoteConnectedChanged (aOpened : Bool) : Op Unit := do
  if (← get).user.mRemoteConnected ≠ aOpened then do
    update fun u ↦ { u with mRemoteConnected := aOpened }
    handleVtoRemoteConnectedChanged kind user

/-- `HandleReceivingDataWhenRemoteClosed` -/
def handleReceivingDataWhenRemoteClosed : Op Unit := do
  if (← get).user.mLocalConnected then closeAndFlushBuffers user
  else notifyRemoteSideOfState false

/-- `HandleDuplicateOpen` -/
def handleDuplicateOpen : Op Unit := do
  if (← get).user.mLocalConnected then closeAndFlushBuffers user

/-- `HandleDuplicateClose` -/
def handleDuplicateClose : Op Unit := do
  match kind with
  | .client => pure ()
  | .server => if (← get).user.mLocalConnected then closeAndFlushBuffers user

/-- `CheckIncomingVtoData` -/
def checkIncomingVtoData (arData : VtoData) : Op Bool := do
  let u := (← get).user
  match arData.mType with
  | .data =>
    if u.mInstRemoteConnected then return true
    else do
      handleReceivingDataWhenRemoteClosed user
      return false
  | .remoteOpened =>
    if u.mInstRemoteConnected then do
      handleDuplicateOpen user
      return false
    else do
      update fun u ↦ { u with mInstRemoteConnected := true }
      return true
  | .remoteClosed =>
    if u.mInstRemoteConnected then do
      update fun u ↦ { u with mInstRemoteConnected := false }
      return true
    else do
      handleDuplicateClose kind user
      return false

/-- `AsyncWrite` -/
def asyncWrite (apBuff : List Byte) : Op Unit := do
  ensure (¬apBuff.length < 1) (.argument "aNumBytes must be > 0")
  Monitored.asyncWrite

/-- `CheckForPhysWrite`, which looks at the front of the queue only. -/
def checkForPhysWrite : Op Unit := do
  let s ← get
  match s.user.mPhysLayerTxBuffer with
  | [] => pure ()
  | d :: rest =>
    if d.mType = .data then
      if s.mState.canWrite then do
        update fun u ↦ { u with mPhysLayerTxBuffer := rest }
        asyncWrite d.mpData
      else pure ()
    else do
      update fun u ↦ { u with mPhysLayerTxBuffer := rest }
      doVtoRemoteConnectedChanged kind user (d.mType = .remoteOpened)

/-- `OnVtoDataReceived` -/
def onVtoDataReceived (arData : VtoData) : Op Unit := do
  if ← checkIncomingVtoData kind user arData then do
    update fun u ↦ { u with mPhysLayerTxBuffer := u.mPhysLayerTxBuffer ++ [arData] }
    checkForPhysWrite kind user

/-! ### Calls of the monitor -/

/-- `OnPhysicalLayerOpenSuccessCallback` -/
def onPhysicalLayerOpenSuccessCallback : Op Unit := do
  setLocalConnected kind user true
  checkForPhysRead
  checkForPhysWrite kind user
  checkForVtoWrite

/-- `OnPhysicalLayerOpenFailureCallback` and `OnPhysicalLayerCloseCallback` -/
def onPhysicalLayerCloseCallback : Op Unit := do
  setLocalConnected kind user false
  checkForPhysWrite kind user
  checkForVtoWrite

end Policy

/-- The calls of the monitor, up to a depth: the router may close the local connection within a
call, and then is called while it closes.  What has been read are `apData`. -/
def callbacks (kind : VtoRouterKind) (apData : List Byte) : ℕ → Callbacks VtoRouter
  | 0 =>
    let tooDeep : Op Unit := throw (.assertion "depth")
    ⟨tooDeep, tooDeep, tooDeep, tooDeep, tooDeep⟩
  | n + 1 => {
      onPhysicalLayerOpenSuccessCallback :=
        onPhysicalLayerOpenSuccessCallback kind (callbacks kind apData n)
      onPhysicalLayerOpenFailureCallback := onPhysicalLayerCloseCallback kind
        (callbacks kind apData n)
      onPhysicalLayerCloseCallback := onPhysicalLayerCloseCallback kind (callbacks kind apData n)
      onReceive := onReceive apData
      onSendSuccess := checkForPhysWrite kind (callbacks kind apData n) }

end VtoRouter

end OpenDNP3
