import OpenDNP3.Slave.Command

/-!
# The outstation

`Slave` is the user of the application layer of an outstation: it executes the requests of the
master and reports events.  This file has its members and the functions that execute a request; the
states in which a request is executed at once or deferred are in `States`.

What the slave draws on is given by an `Environment`: the clock, the answers of the user to
commands, and a `ResponseContext`, which stands for the selection of events and static data for a
response, with the database, the event buffer and the updates behind it.  Of these only the
interface that the slave uses is spelled out.

Some members are not in the source.  They record what an observer of the slave sees: the requests
that it is handed, numbered from 0, how often its link has gone down, and in `history` what it does,
each time with the number of the request that it is executing.
-/

set_option autoImplicit false

namespace OpenDNP3

open Handler

/-! ## What the slave draws on -/

/-- `ClassMask` -/
structure ClassMask where
  class1 : Bool
  class2 : Bool
  class3 : Bool
  deriving DecidableEq, Repr

/-- What `LoadResponse` and `LoadUnsol` put into a fragment: blocks, the octets that they take, and
whether it is the first and the final fragment and has to be confirmed. -/
structure LoadedData where
  blocks : List (Block (List Byte))
  size : ℕ
  fir : Bool
  fin : Bool
  con : Bool

/-- `ResponseContext`, with the database, the event buffer and the updates that it draws on, all of
which are in a state of type `ρ`. -/
structure ResponseContext (ρ υ : Type) where
  /-- `Reset` -/
  reset : ρ → ρ
  /-- `Configure`, of a read request. -/
  configure : APDU → ρ → IINField × ρ
  /-- `LoadResponse`, into so many octets. -/
  loadResponse : ℕ → ρ → LoadedData × ρ
  /-- `LoadUnsol`, into so many octets. -/
  loadUnsol : ClassMask → ℕ → ρ → LoadedData × ρ
  /-- `HasEvents` -/
  hasEvents : ClassMask → ρ → Bool
  /-- `IsComplete` -/
  isComplete : ρ → Bool
  /-- `ClearWritten` -/
  clearWritten : ρ → ρ
  /-- `FlushUpdates` of the slave; whether there was no room for some of the updates. -/
  flushUpdates : ρ → Bool × ρ
  /-- The user adds updates. -/
  update : υ → ρ → ρ

/-- What the slave draws on; `clock n` is the time that is read for the `n`-th time, and `answer n`
what the user says to the command with the number `n`. -/
structure Environment (ρ υ : Type) where
  rspContext : ResponseContext ρ υ
  clock : ℕ → Int
  answer : ℕ → CommandStatus

/-! ## Members -/

/-- `SlaveConfig`, the members that the slave reads. -/
structure SlaveConfig where
  mMaxControls : ℕ
  mDisableUnsol : Bool
  mUnsolMask : ClassMask
  mAllowTimeSync : Bool
  mResetTimeSyncOnDown : Bool
  mUnsolPackDelay : Int
  mUnsolRetryDelay : Int
  mMaxFragSize : ℕ
  deriving DecidableEq, Repr

/-- `AS_Base` and its subclasses. -/
inductive AS where
  | closed | idle | waitForRspSuccess | waitForUnsolSuccess | waitForSolUnsolSuccess
  deriving DecidableEq, Repr

namespace AS

/-- `Name` -/
def name : AS → String
  | closed => "AS_Closed"
  | idle => "AS_Idle"
  | waitForRspSuccess => "AS_WaitForRspSuccess"
  | waitForUnsolSuccess => "AS_WaitForUnsolSuccess"
  | waitForSolUnsolSuccess => "AS_WaitForSolUnsolSuccess"

/-- What a state throws that does not expect an event. -/
def invalidState (s : AS) : Exception := .invalidState s.name

/-- The slave waits for its last response. -/
def isResponding : AS → Bool
  | waitForRspSuccess | waitForSolUnsolSuccess => true
  | _ => false

end AS

/-- A request as it is handed to the slave, with its number. -/
structure Request where
  mRequest : APDU
  mSeqInfo : SequenceInfo
  number : ℕ
  deriving DecidableEq, Repr

/-- A request that was received: what it was, unless it had an unknown object, and how often the
link had gone down. -/
structure Received where
  apdu : Option APDU
  connection : ℕ
  deriving DecidableEq, Repr

/-- What an observer sees the slave do. -/
inductive SlaveAct where
  /-- A request is looked at. -/
  | process (aFunction : FunctionCodes)
  /-- A request with side effects is performed, and not skipped. -/
  | perform (aFunction : FunctionCodes)
  /-- A command is passed to `AcceptCommand`. -/
  | execute (aType : CommandTypes) (aIndex : ℕ)
  /-- Data is written: to the clock, to a virtual terminal, to the internal indications. -/
  | setTime (aTime : ℕ)
  | updateVto (aChannel : ℕ) (aData : List Byte)
  | clearIIN (aIndex : ℕ)
  /-- A fragment of a response is passed to the application layer, which accepts it. -/
  | respond
  deriving DecidableEq, Repr

/-- An entry of the history: what was done for which request, and how often the link had gone
down. -/
structure SlaveEntry where
  request : ℕ
  connection : ℕ
  act : SlaveAct
  deriving DecidableEq, Repr

/-- `Slave`.  Of a timer only matters whether it is running; `mDeferredRequest` is `mRequest` and
`mSeqInfo` while the flag of that name is set, and `mLastRequest` has the octets of the request. -/
structure Slave (ν ρ : Type) where
  mpAppLayer : AppLayer (List Byte)
  mpState : AS
  mConfig : SlaveConfig
  mpCmdMaster : DNPCommandMaster ν
  mSequence : ℕ
  mpUnsolTimer : Bool
  mpTimeTimer : Bool
  mIIN : IINField
  mRspIIN : IINField
  mResponse : OutAPDU (List Byte)
  mUnsol : OutAPDU (List Byte)
  mRspContext : ρ
  mLastRequest : List Byte
  mFirstTimeSyncIssued : Bool
  mDeferredUpdate : Bool
  mDeferredRequest : Option Request
  mDeferredUnsol : Bool
  mDeferredUnknown : Bool
  mStartupNullUnsol : Bool
  /-- How often the clock has been read. -/
  timesRead : ℕ
  received : List Received
  /-- How often the link has gone down. -/
  connection : ℕ
  /-- The number of the request that is being executed, or was the last to be. -/
  executing : ℕ
  history : List SlaveEntry

namespace Slave

variable {ν ρ υ : Type}

/-- The constructor, for an application layer and a command master. -/
def new (arCfg : SlaveConfig) (apAppLayer : AppLayer (List Byte))
    (apCmdMaster : DNPCommandMaster ν) (aRspContext : ρ) : Slave ν ρ where
  mpAppLayer := apAppLayer
  mpState := .closed
  mConfig := arCfg
  mpCmdMaster := apCmdMaster
  mSequence := 0
  mpUnsolTimer := false
  mpTimeTimer := false
  mIIN := ({} : IINField).setDeviceRestart true
  mRspIIN := {}
  mResponse := .new arCfg.mMaxFragSize
  mUnsol := .new arCfg.mMaxFragSize
  mRspContext := aRspContext
  mLastRequest := []
  mFirstTimeSyncIssued := false
  mDeferredUpdate := false
  mDeferredRequest := none
  mDeferredUnsol := !arCfg.mDisableUnsol
  mDeferredUnknown := false
  mStartupNullUnsol := false
  timesRead := 0
  received := []
  connection := 0
  executing := 0
  history := []

/-- A function of the slave. -/
abbrev M (ν ρ α : Type) := EStateM Exception (Slave ν ρ) α

/-- What the slave does is recorded. -/
def note (aAct : SlaveAct) : M ν ρ Unit :=
  modify fun s ↦ { s with history := s.history ++ [⟨s.executing, s.connection, aAct⟩] }

/-- An operation of the application layer. -/
def onApp {α : Type} (x : AppLayer.M (List Byte) α) : M ν ρ α :=
  zoom Slave.mpAppLayer (fun a s ↦ { s with mpAppLayer := a }) x

/-- `ChangeState` -/
def changeState (apState : AS) : M ν ρ Unit :=
  modify fun s ↦ { s with
    mpState := apState
    mpTimeTimer := s.mpTimeTimer && apState ≠ .closed }

/-- `mRspIIN` is changed. -/
def setRspIIN (f : IINField → IINField) : M ν ρ Unit :=
  modify fun s ↦ { s with mRspIIN := f s.mRspIIN }

/-! ## Sending -/

/-- The octets of blocks are added to a fragment. -/
def addData (f : OutAPDU (List Byte)) (l : LoadedData) : OutAPDU (List Byte) :=
  { f with mFragmentSize := f.mFragmentSize + l.size, blocks := f.blocks ++ l.blocks }

/-- `mResponse.Set(FC_RESPONSE)` -/
def setResponse : M ν ρ Unit :=
  modify fun s ↦ { s with mResponse := s.mResponse.set .response true true false false }

/-- `Send`, of `mResponse`. -/
def send : M ν ρ Unit := do
  setRspIIN (·.bitwiseOR (← get).mIIN)
  let f ← Handler.lift ((← get).mResponse.setIIN (← get).mRspIIN)
  modify fun s ↦ { s with mResponse := f }
  onApp (AppLayer.sendResponse f)
  note .respond

/-- `ConfigureAndSendSimpleResponse` -/
def configureAndSendSimpleResponse : M ν ρ Unit := do
  setResponse
  send

/-- `SendUnsolicited`, of `mUnsol`. -/
def sendUnsolicited : M ν ρ Unit := do
  setRspIIN (·.bitwiseOR (← get).mIIN)
  let f ← Handler.lift ((← get).mUnsol.setIIN (← get).mRspIIN)
  modify fun s ↦ { s with mUnsol := f }
  onApp (AppLayer.sendUnsolicited f)

/-! ## Timers -/

/-- `StartUnsolTimer` -/
def startUnsolTimer : M ν ρ Unit := do
  ensure ((← get).mpUnsolTimer = false) (.assertion "mpUnsolTimer == NULL")
  modify fun s ↦ { s with mpUnsolTimer := true }

/-- `RestartTimeSyncTimer` -/
def restartTimeSyncTimer : M ν ρ Unit :=
  modify fun s ↦ { s with mpTimeTimer := true }

/-- `ResetTimeIIN` -/
def resetTimeIIN : M ν ρ Unit := do
  modify fun s ↦ { s with
    mpTimeTimer := false
    mIIN := s.mIIN.setNeedTime true
    mFirstTimeSyncIssued := true }
  restartTimeSyncTimer

section Environment

variable (env : Environment ρ υ)

/-! ## The response context -/

/-- `mRspContext.LoadResponse(mResponse)` -/
def loadResponse : M ν ρ Unit :=
  modify fun s ↦
    let f := s.mResponse.set .response true true false false
    let l := env.rspContext.loadResponse f.remainder s.mRspContext
    { s with
      mResponse := (addData f l.1).setControl ⟨l.1.fir, l.1.fin, l.1.con, false, 0⟩
      mRspContext := l.2 }

/-- `mRspContext.LoadUnsol(mUnsol, mIIN, aMask)` -/
def loadUnsol (aMask : ClassMask) : M ν ρ Unit :=
  modify fun s ↦
    let f := s.mUnsol.set .unsolicitedResponse true true true true
    let l := env.rspContext.loadUnsol aMask f.remainder s.mRspContext
    { s with mUnsol := addData f l.1, mRspContext := l.2 }

/-- `mRspContext.Reset` -/
def resetRspContext : M ν ρ Unit :=
  modify fun s ↦ { s with mRspContext := env.rspContext.reset s.mRspContext }

/-- `mRspContext.ClearWritten` -/
def clearWritten : M ν ρ Unit :=
  modify fun s ↦ { s with mRspContext := env.rspContext.clearWritten s.mRspContext }

/-- `FlushUpdates`, with `FlushVtoUpdates`. -/
def flushUpdates : M ν ρ Unit :=
  modify fun s ↦
    let l := env.rspContext.flushUpdates s.mRspContext
    { s with mRspContext := l.2, mDeferredUpdate := s.mDeferredUpdate || l.1 }

/-- `GetTimeStamp` -/
def getTimeStamp : M ν ρ Int := do
  let n := (← get).timesRead
  modify fun s ↦ { s with timesRead := n + 1 }
  return env.clock n

end Environment

/-! ## Writing -/

/-- `HeaderReadIterator::BeginRead`, of a header of a request. -/
def beginRead (arRequest : APDU) (arHdr : HeaderInfo) : M ν ρ ObjectReadIterator :=
  Handler.lift (ObjectReadIterator.beginRead arHdr arRequest.mBuffer
    (hasData arRequest.getFunction))

/-- `HandleWriteVto` -/
def handleWriteVto (arRequest : APDU) (arHdr : HeaderInfo) : M ν ρ Unit := do
  let obj ← beginRead arRequest arHdr
  obj.forEachObject fun obj ↦ do
    -- a larger index is ignored
    if obj.mIndex ≤ 0xFF then
      let pos ← Handler.lift obj.deref
      note (.updateVto obj.mIndex ((arRequest.mBuffer.drop pos).take arHdr.mVariation))

/-- `BitfieldObject::StaticRead` -/
def bitfieldRead (aBuffer : List Byte) (aPos aStartIndex aIndex : ℕ) : Except Exception Bool := do
  assert "aIndex >= aStartIndex" (aIndex ≥ aStartIndex)
  let pos := aIndex - aStartIndex
  return (readUInt aBuffer 1 (aPos + pos / 8)).testBit (pos % 8)

/-- The position of `IINI_NEED_TIME` among the internal indications. -/
def needTimeIndex : ℕ := 4
/-- The position of `IINI_DEVICE_RESTART`. -/
def deviceRestartIndex : ℕ := 7

/-- `HandleWriteIIN` -/
def handleWriteIIN (arRequest : APDU) (arHdr : HeaderInfo) : M ν ρ Unit := do
  let obj ← beginRead arRequest arHdr
  obj.forEachObject fun obj ↦ do
    if obj.mIndex = deviceRestartIndex then
      let pos ← Handler.lift obj.deref
      let value ← Handler.lift (bitfieldRead arRequest.mBuffer pos obj.mStart obj.mIndex)
      if !value then
        modify fun s ↦ { s with mIIN := s.mIIN.setDeviceRestart false }
        note (.clearIIN obj.mIndex)
      else setRspIIN (·.setParameterError true)
    else if obj.mIndex = needTimeIndex then
      ensure ((← get).mpTimeTimer = true) (.nullPointer "mpTimeTimer")
      modify fun s ↦ { s with mpTimeTimer := false, mIIN := s.mIIN.setNeedTime false }
      note (.clearIIN obj.mIndex)
    else setRspIIN (·.setParameterError true)

/-- `HandleWriteTimeDate` -/
def handleWriteTimeDate (arRequest : APDU) (arHdr : HeaderInfo) : M ν ρ Unit := do
  if (← get).mIIN.getNeedTime then
    let obj ← beginRead arRequest arHdr
    if obj.count ≠ 1 then setRspIIN (·.setParameterError true)
    else
      let pos ← Handler.lift obj.deref
      note (.setTime (readUInt arRequest.mBuffer 6 pos))
      modify fun s ↦ { s with mIIN := s.mIIN.setNeedTime false }

/-- `HandleVtoTransfer` -/
def handleVtoTransfer (arRequest : APDU) : M ν ρ Unit :=
  arRequest.mObjectHeaders.forM fun hdr ↦
    if hdr.mGroup = 112 then handleWriteVto arRequest hdr
    else setRspIIN (·.setFuncNotSupported true)

/-- `HandleWrite` -/
def handleWrite (arRequest : APDU) : M ν ρ Unit :=
  arRequest.mObjectHeaders.forM fun hdr ↦
    if hdr.mGroup = 112 then handleWriteVto arRequest hdr
    else if hdr.radix = radix 80 1 then handleWriteIIN arRequest hdr
    else if hdr.radix = radix 50 1 then handleWriteTimeDate arRequest hdr
    else setRspIIN (·.setFuncNotSupported true)

/-! ## Controls

The five kinds of commands differ in their octets. What is done with them is the same, and is
written once. -/

/-- A number in so many octets, least significant first. -/
def writeUInt : (aSize aValue : ℕ) → List Byte
  | 0, _ => []
  | n + 1, v => BitVec.ofNat 8 v :: writeUInt n (v / 256)

/-- `Group12Var1::Read` -/
def readBinaryOutput (aBuffer : List Byte) (aPos : ℕ) : BinaryOutput where
  mRawCode := readUInt aBuffer 1 aPos
  mCount := readUInt aBuffer 1 (aPos + 1)
  mOnTimeMS := readUInt aBuffer 4 (aPos + 2)
  mOffTimeMS := readUInt aBuffer 4 (aPos + 6)

/-- `Group12Var1::Write`, up to the status. -/
def writeBinaryOutput (arControl : BinaryOutput) : List Byte :=
  writeUInt 1 arControl.mRawCode ++ writeUInt 1 arControl.mCount ++
    writeUInt 4 arControl.mOnTimeMS ++ writeUInt 4 arControl.mOffTimeMS

/-- A `CommandObject`: its class, the octets of an object, and the type of the command in it. -/
structure CommandObject where
  base : ObjectBase
  size : ℕ
  type : CommandTypes
  deriving DecidableEq, Repr

namespace CommandObject

/-- `Group12Var1`, and `Group41Var1` to `Group41Var4`. -/
def known : List CommandObject :=
  [⟨⟨12, 1, .fixed 11⟩, 11, .binaryOutput⟩, ⟨⟨41, 1, .fixed 5⟩, 5, .setpoint⟩,
   ⟨⟨41, 2, .fixed 3⟩, 3, .setpoint⟩, ⟨⟨41, 3, .fixed 5⟩, 5, .setpoint⟩,
   ⟨⟨41, 4, .fixed 9⟩, 9, .setpoint⟩]

/-- The `switch` of the handlers over the objects of commands. -/
def get (aRadix : ℕ) : Option CommandObject :=
  known.find? fun o ↦ radix o.base.getGroup o.base.getVariation = aRadix

/-- `Read`; the last octet of an object is the status. -/
def read [SetpointValue ν] (o : CommandObject) (aBuffer : List Byte) (aPos : ℕ) : Command ν :=
  match o.type with
  | .binaryOutput => .binaryOutput (readBinaryOutput aBuffer aPos)
  | .setpoint =>
    .setpoint (SetpointValue.read o.base.getVariation ((aBuffer.drop aPos).take (o.size - 1)))

/-- `Write` -/
def write [SetpointValue ν] (o : CommandObject) (arVal : Command ν) (aStatus : CommandStatus) :
    List Byte :=
  (match arVal with
  | .binaryOutput b => writeBinaryOutput b
  | .setpoint v => SetpointValue.write o.base.getVariation v) ++ [aStatus.toByte]

end CommandObject

/-- The value of `ObjectTypes`, which the handlers take for the group of a command. -/
def objectTypeNumber : ObjectTypes → ℕ
  | .placeholder => 0
  | .fixed _ => 1
  | .bitfield => 2
  | .variable => 3
  | .sizeByVariation => 4

section Controls

variable [SetpointValue ν] (env : Environment ρ υ)

/-- `CommandRequestInfo` of a command behind a header. -/
def commandRequestInfo (arCmd : Command ν) (aHdr : HeaderInfo) (aSeqInfo : SequenceInfo)
    (aSeqNum : ℕ) : CommandRequestInfo ν where
  cmd := arCmd
  group := objectTypeNumber aHdr.mObjectBase.getType
  var := aHdr.mVariation
  qual := aHdr.mQualifier
  seqInfo := aSeqInfo
  seqAPDU := aSeqNum

/-- `Slave::Select` -/
def select (aType : CommandTypes) (arCmd : CommandRequestInfo ν) (aIndex : ℕ) :
    M ν ρ CommandStatus := do
  let now ← getTimeStamp env
  let (selected, m) := (← get).mpCmdMaster.select aType arCmd aIndex now
  modify fun s ↦ { s with mpCmdMaster := m }
  let res : CommandStatus := if selected then .success else .notSupported
  if res = .notSupported then setRspIIN (·.setParameterError true)
  if res = .tooManyOps then
    modify fun s ↦ { s with mpCmdMaster := s.mpCmdMaster.deselectAll }
  return res

/-- `Slave::Operate` -/
def operate (aType : CommandTypes) (arCmd : CommandRequestInfo ν) (aDirect : Bool) (aIndex : ℕ) :
    M ν ρ CommandStatus := do
  modify fun s ↦ { s with mSequence := s.mSequence + 1 }
  let now ← getTimeStamp env
  let s ← get
  let (res, m) :=
    if aDirect then s.mpCmdMaster.directOperate aType arCmd aIndex now s.mSequence
    else s.mpCmdMaster.operate aType arCmd aIndex now s.mSequence
  modify fun s ↦ { s with mpCmdMaster := m }
  if res ≠ .success then
    if res = .notSupported then setRspIIN (·.setParameterError true)
    return res
  else
    note (.execute aType aIndex)
    -- the slave waits until the user has answered
    return env.answer (← get).mSequence

/-- The loop of `RespondToCommands`, over so many objects. -/
def respondLoop (apObj : CommandObject) (arFunc : Command ν → ℕ → M ν ρ CommandStatus) :
    ℕ → ObjectReadIterator → IndexedWriteIterator → M ν ρ Unit
  | 0, _, _ => pure ()
  | n + 1, arIter, i => do
    let pos ← Handler.lift arIter.deref
    let val := apObj.read arIter.mpBuffer pos
    let index := arIter.mIndex
    let max := (← get).mConfig.mMaxControls
    let status ←
      (if arIter.mCurrentObjectNum + 1 > max then pure .tooManyOps else arFunc val index)
    let i ← Handler.lift (i.setIndex index)
    Handler.lift i.deref
    modify fun s ↦ { s with mResponse := s.mResponse.pushObject index (apObj.write val status) }
    let i ← Handler.lift i.next
    let arIter ← Handler.lift arIter.next
    respondLoop apObj arFunc n arIter i

/-- `RespondToCommands` -/
def respondToCommands (apObj : CommandObject) (arIter : ObjectReadIterator)
    (arFunc : Command ν → ℕ → M ν ρ CommandStatus) : M ν ρ Unit := do
  let (f, i) ← Handler.lift ((← get).mResponse.writeIndexed apObj.base apObj.size arIter.count
    arIter.mHeaderInfo.mQualifier)
  modify fun s ↦ { s with mResponse := f }
  respondLoop apObj arFunc arIter.count arIter i

/-- The loop of the handlers of controls over the headers of a request. -/
def forEachCommand (arRequest : APDU)
    (arFunc : HeaderInfo → CommandTypes → Command ν → ℕ → M ν ρ CommandStatus) : M ν ρ Unit := do
  setResponse
  arRequest.mObjectHeaders.forM fun hdr ↦ do
    let i ← beginRead arRequest hdr
    match CommandObject.get hdr.radix with
    | some obj => respondToCommands obj i (arFunc hdr obj.type)
    | none => setRspIIN (·.setFuncNotSupported true)

/-- `HandleSelect` -/
def handleSelect (arRequest : APDU) (aSeqInfo : SequenceInfo) : M ν ρ Unit := do
  modify fun s ↦ { s with mpCmdMaster := s.mpCmdMaster.deselectAll }
  forEachCommand arRequest fun hdr aType val index ↦
    select env aType (commandRequestInfo val hdr aSeqInfo arRequest.getControl.seq) index

/-- `HandleOperate` -/
def handleOperate (arRequest : APDU) (aSeqInfo : SequenceInfo) : M ν ρ Unit := do
  if aSeqInfo = .prev ∧ (← get).mLastRequest = arRequest.mBuffer then pure ()
  else
    note (.perform .operate)
    forEachCommand arRequest fun hdr aType val index ↦
      operate env aType (commandRequestInfo val hdr aSeqInfo arRequest.getControl.seq) false index

/-- `HandleDirectOperate` -/
def handleDirectOperate (arRequest : APDU) (aSeqInfo : SequenceInfo) : M ν ρ Unit :=
  forEachCommand arRequest fun hdr aType val index ↦
    operate env aType (commandRequestInfo val hdr aSeqInfo arRequest.getControl.seq) true index

end Controls

/-! ## Other requests -/

/-- `HandleEnableUnsolicited` -/
def handleEnableUnsolicited (arRequest : APDU) (aIsEnable : Bool) : M ν ρ Unit := do
  setResponse
  if (← get).mConfig.mDisableUnsol then setRspIIN (·.setFuncNotSupported true)
  else
    if aIsEnable then modify fun s ↦ { s with mDeferredUnsol := true }
    arRequest.mObjectHeaders.forM fun hdr ↦
      let setMask (f : ClassMask → ClassMask) : M ν ρ Unit :=
        modify fun s ↦ { s with
          mConfig := { s.mConfig with mUnsolMask := f s.mConfig.mUnsolMask } }
      if hdr.radix = radix 60 2 then setMask fun m ↦ { m with class1 := aIsEnable }
      else if hdr.radix = radix 60 3 then setMask fun m ↦ { m with class2 := aIsEnable }
      else if hdr.radix = radix 60 4 then setMask fun m ↦ { m with class3 := aIsEnable }
      else setRspIIN (·.setFuncNotSupported true)

/-- `ConfigureDelayMeasurement` -/
def configureDelayMeasurement (arRequest : APDU) : M ν ρ Unit := do
  if arRequest.mObjectHeaders.length > 0 then setRspIIN (·.setFuncNotSupported true)
  setResponse
  -- `Group52Var2`, with a delay of 0
  let (f, i) ← Handler.lift ((← get).mResponse.writeIndexed ⟨52, 2, .fixed 2⟩ 2 1 .cnt1B)
  modify fun s ↦ { s with mResponse := f }
  let i ← Handler.lift (i.setIndex 0)
  Handler.lift i.deref
  modify fun s ↦ { s with mResponse := s.mResponse.pushObject 0 (writeUInt 2 0) }

/-- `HandleUnknown` -/
def handleUnknown : M ν ρ Unit := do
  setResponse
  setRspIIN (·.setObjectUnknown true)

end Slave

end OpenDNP3
