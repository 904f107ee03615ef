import OpenDNP3.APL.ShiftableBuffer
import OpenDNP3.Link.Frame

/-!
# The link receiver

`LinkLayerReceiver` turns the octets of a stream into calls of the frame sink.  It is a machine of
three states: `LRS_Sync` looks for the start octets, `LRS_Header` waits for ten octets and checks
them, `LRS_Body` waits for the whole frame and checks its blocks.  A frame that fails either check
costs one octet and a new search.

`OnRead` runs the machine until it makes no more progress.  That it ever stops is the content of
`parse_measure`: a state that reports progress has consumed an octet or moved on to the next state,
and the search for the next frame starts over only after an octet has gone.
-/

set_option autoImplicit false

namespace OpenDNP3

/-- The states of the receiver, `LRS_Base` and its subclasses. -/
inductive LRS where
  | sync | header | body
  deriving DecidableEq, Repr

/-- `LinkLayerReceiver` -/
structure LinkLayerReceiver where
  mHeader : LinkHeader
  mFrameSize : ℕ
  mpState : LRS
  mBuffer : ShiftableBuffer

namespace LinkLayerReceiver

/-- `BUFFER_SIZE` -/
def bufferSize : ℕ := (4096 / 249 + 1) * 292

/-- `M_SYNC_PATTERN` -/
def syncPattern : List Byte := [0x05, 0x64]

/-- The constructor. -/
def init : LinkLayerReceiver where
  mHeader := ⟨0, 0, 0, 0⟩
  mFrameSize := 0
  mpState := .sync
  mBuffer := .init bufferSize

/-- `ValidateFunctionCode` -/
def validateFunctionCode (mHeader : LinkHeader) : Bool :=
  if mHeader.isPriToSec then
    match mHeader.getFuncEnum with
    | .priConfirmedUserData | .priTestLinkStates => mHeader.isFcvDfcSet
    | .priRequestLinkStatus | .priResetLinkStates | .priUnconfirmedUserData =>
      !mHeader.isFcvDfcSet
    | _ => false
  else
    match mHeader.getFuncEnum with
    | .secAck | .secNack | .secLinkStatus | .secNotSupported => !mHeader.isFcbSet
    | _ => false

/-- `ValidateHeader` -/
def validateHeader (r : LinkLayerReceiver) : Bool × LinkLayerReceiver :=
  if !DNPCrc.isCorrectCRC r.mBuffer.readBuff liCrc then (false, r)
  else if !r.mHeader.validLength then (false, r)
  else if !validateFunctionCode r.mHeader then (false, r)
  else
    let user_data_length := r.mHeader.userDataLength
    let func := r.mHeader.getFuncEnum
    let r := { r with mFrameSize := calcFrameSize user_data_length }
    if func.hasUserData && user_data_length == 0 then (false, r)
    else if !func.hasUserData && user_data_length > 0 then (false, r)
    -- the source makes the two checks once more, the other way round
    else if user_data_length > 0 && !func.hasUserData then (false, r)
    else if user_data_length == 0 && func.hasUserData then (false, r)
    else (true, r)

/-- `ReadHeader` -/
def readHeader (r : LinkLayerReceiver) : Bool × LinkLayerReceiver :=
  validateHeader { r with mHeader := LinkHeader.read r.mBuffer.readBuff }

/-- `ValidateBody` -/
def validateBody (r : LinkLayerReceiver) : Bool :=
  validateBodyCRC (r.mBuffer.readBuff.drop lsHeaderSize) r.mHeader.userDataLength

/-- `FailFrame` -/
def failFrame (r : LinkLayerReceiver) : Except Exception LinkLayerReceiver := do
  return { r with mBuffer := ← r.mBuffer.advanceRead 1 }

/-- The call of `IFrameSink` that `PushFrame` makes, if any. -/
def sinkCall (mHeader : LinkHeader) (data : List Byte) : Option (Frame (List Byte)) :=
  let m := mHeader.isFromMaster
  let dest := mHeader.dest
  let src := mHeader.src
  match mHeader.getFuncEnum with
  | .priResetLinkStates => some (.resetLinkStates m dest src)
  | .priTestLinkStates => some (.testLinkStatus m mHeader.isFcbSet dest src)
  | .priConfirmedUserData => some (.confirmedUserData m mHeader.isFcbSet dest src data)
  | .priUnconfirmedUserData => some (.unconfirmedUserData m dest src data)
  | .priRequestLinkStatus => some (.requestLinkStatus m dest src)
  | .secAck => some (.ack m mHeader.isFcvDfcSet dest src)
  | .secNack => some (.nack m mHeader.isFcvDfcSet dest src)
  | .secLinkStatus => some (.linkStatus m mHeader.isFcvDfcSet dest src)
  | .secNotSupported => some (.notSupported m mHeader.isFcvDfcSet dest src)
  | .invalid => none

/-- `TransferUserData` -/
def transferUserData (r : LinkLayerReceiver) : List Byte :=
  readUserData (r.mBuffer.readBuff.drop lsHeaderSize) r.mHeader.userDataLength

/-- `PushFrame` -/
def pushFrame (r : LinkLayerReceiver) :
    Except Exception (LinkLayerReceiver × List (Frame (List Byte))) := do
  let call := sinkCall r.mHeader r.transferUserData
  return ({ r with mBuffer := ← r.mBuffer.advanceRead r.mFrameSize }, call.toList)

/-- `Parse` of the current state: whether it made progress, the receiver, the calls of the sink. -/
def parse (r : LinkLayerReceiver) :
    Except Exception (Bool × LinkLayerReceiver × List (Frame (List Byte))) := do
  match r.mpState with
  | .sync =>
    if r.mBuffer.numReadBytes < 2 then
      return (false, r, [])
    else
      let (found, mBuffer) ← r.mBuffer.sync syncPattern
      return (true, { r with mBuffer, mpState := if found then .header else .sync }, [])
  | .header =>
    if r.mBuffer.numReadBytes < 10 then
      return (false, r, [])
    else
      let (valid, r) := r.readHeader
      if valid then
        return (true, { r with mpState := .body }, [])
      else
        let r ← r.failFrame
        return (true, { r with mpState := .sync }, [])
  | .body =>
    if r.mBuffer.numReadBytes < r.mFrameSize then
      return (false, r, [])
    else if r.validateBody then
      let (r, frames) ← r.pushFrame
      return (true, { r with mpState := .sync }, frames)
    else
      let r ← r.failFrame
      return (true, { r with mpState := .sync }, [])

/-- How far a receiver is from having to wait: the unread octets, and for one position the states
that are still to come.  In `LRS_Body` without a frame size a header is still to be read. -/
def measure (r : LinkLayerReceiver) : ℕ :=
  4 * r.mBuffer.numReadBytes +
    match r.mpState with
    | .sync => 2
    | .header => 1
    | .body => if r.mFrameSize = 0 then 3 else 0

/-! ## One step of each state

`ParseUntilComplete` goes on until a state does not ask to be called again. Each state looks at
the unread octets only, and says whether it has enough of them. -/

/-- `ValidateFunctionCode` decides what a well-formed header asks of the control octet. -/
theorem validateFunctionCode_iff (h : LinkHeader) :
    validateFunctionCode h = true ↔ h.getFuncEnum ≠ .invalid ∧
      (h.isPriToSec = true → h.isFcvDfcSet = h.getFuncEnum.usesFcb) ∧
      (h.isPriToSec = false → h.isFcbSet = false) := by
  unfold validateFunctionCode
  by_cases hinv : h.getFuncEnum = .invalid
  · simp [hinv]
  · rw [LinkHeader.isPriToSec_eq h hinv]
    cases hf : h.getFuncEnum <;> simp_all [FuncCodes.toByte, FuncCodes.usesFcb, maskPrm]

/-- `ValidateHeader` decides whether the header is well formed. -/
theorem validateHeader_iff (r : LinkLayerReceiver) :
    r.validateHeader.1 = true ↔
      DNPCrc.isCorrectCRC r.mBuffer.readBuff liCrc = true ∧ r.mHeader.WellFormed := by
  unfold validateHeader
  cases hcrc : DNPCrc.isCorrectCRC r.mBuffer.readBuff liCrc with
  | false => simp
  | true =>
    have hlen : r.mHeader.validLength = true ↔ lsMinLength ≤ r.mHeader.length.toNat := by
      rw [LinkHeader.validLength, lsMinLength, decide_eq_true_eq]
      omega
    cases hl : r.mHeader.validLength with
    | false =>
      have hbad : ¬ r.mHeader.WellFormed := fun h ↦ by simp [hlen.mpr h.length] at hl
      simpa using hbad
    | true =>
      cases hf : validateFunctionCode r.mHeader with
      | false =>
        have hbad : ¬ r.mHeader.WellFormed := fun h ↦ by
          simp [(validateFunctionCode_iff _).mpr ⟨h.func, h.fcv, h.fcb⟩] at hf
        simpa using hbad
      | true =>
        obtain ⟨h1, h2, h3⟩ := (validateFunctionCode_iff _).mp hf
        have hiff : r.mHeader.WellFormed ↔
            (0 < r.mHeader.userDataLength ↔ r.mHeader.getFuncEnum.hasUserData = true) :=
          ⟨fun h ↦ h.data, fun h ↦ ⟨hlen.mp hl, h1, h2, h3, h⟩⟩
        rw [hiff]
        rcases Nat.eq_zero_or_pos r.mHeader.userDataLength with h0 | h0
        · cases hu : r.mHeader.getFuncEnum.hasUserData <;> simp [h0, hu]
        · cases hu : r.mHeader.getFuncEnum.hasUserData <;> simp [h0, hu, Nat.ne_of_gt h0]

/-- What `ValidateHeader` may change is the frame size. -/
theorem validateHeader_snd (r : LinkLayerReceiver) :
    ∃ n, r.validateHeader.2 = { r with mFrameSize := n } ∧
      (r.validateHeader.1 = true → n = calcFrameSize r.mHeader.userDataLength) := by
  unfold validateHeader
  split
  · exact ⟨r.mFrameSize, rfl, fun h ↦ nomatch h⟩
  · split
    · exact ⟨r.mFrameSize, rfl, fun h ↦ nomatch h⟩
    · split
      · exact ⟨r.mFrameSize, rfl, fun h ↦ nomatch h⟩
      · refine ⟨calcFrameSize r.mHeader.userDataLength, ?_, fun _ ↦ rfl⟩
        simp only
        split
        · rfl
        · split
          · rfl
          · split
            · rfl
            · split <;> rfl

/-- `LRS_Sync::Parse` waits for two octets, and then moves to where a frame may start. -/
theorem parse_sync {r : LinkLayerReceiver} (hs : r.mpState = .sync) :
    (r.mBuffer.readBuff.length < 2 ∧ r.parse = .ok (false, r, [])) ∨
    (2 ≤ r.mBuffer.readBuff.length ∧ ∃ b,
      b.readBuff = r.mBuffer.readBuff.drop
        (ShiftableBuffer.syncSubsequence syncPattern 2 r.mBuffer.readBuff 0) ∧
      b.mSize = r.mBuffer.mSize ∧
      r.parse = .ok (true, { r with
        mBuffer := b, mpState := if 2 ≤ b.readBuff.length then .header else .sync }, [])) := by
  simp only [parse, hs, ShiftableBuffer.numReadBytes_eq]
  by_cases hlen : r.mBuffer.readBuff.length < 2
  · rw [if_pos hlen]
    exact .inl ⟨hlen, rfl⟩
  · obtain ⟨b, hb, hbuf, hsize⟩ :=
      ShiftableBuffer.sync_ok r.mBuffer syncPattern (List.cons_ne_nil _ _)
    refine .inr ⟨by omega, b, hbuf, hsize, ?_⟩
    rw [if_neg hlen, hb, hbuf]
    simp [syncPattern, pure, Except.pure]

/-- `LRS_Header::Parse` waits for ten octets, and then accepts the header or skips one octet. -/
theorem parse_header {r : LinkLayerReceiver} (hs : r.mpState = .header) :
    (r.mBuffer.readBuff.length < lsHeaderSize ∧ r.parse = .ok (false, r, [])) ∨
    (lsHeaderSize ≤ r.mBuffer.readBuff.length ∧ r.readHeader.1 = true ∧
      r.parse = .ok (true, { r with
        mHeader := LinkHeader.read r.mBuffer.readBuff
        mFrameSize := calcFrameSize (LinkHeader.read r.mBuffer.readBuff).userDataLength
        mpState := .body }, [])) ∨
    (lsHeaderSize ≤ r.mBuffer.readBuff.length ∧ r.readHeader.1 = false ∧ ∃ b n,
      b.readBuff = r.mBuffer.readBuff.drop 1 ∧ b.mSize = r.mBuffer.mSize ∧
      r.parse = .ok (true, { r with
        mHeader := LinkHeader.read r.mBuffer.readBuff
        mFrameSize := n, mBuffer := b, mpState := .sync }, [])) := by
  simp only [parse, hs, ShiftableBuffer.numReadBytes_eq]
  by_cases hlen : r.mBuffer.readBuff.length < 10
  · rw [if_pos hlen]
    exact .inl ⟨hlen, rfl⟩
  · obtain ⟨n, hsnd, hn⟩ :=
      validateHeader_snd { r with mHeader := LinkHeader.read r.mBuffer.readBuff }
    have hread : r.readHeader = (r.readHeader.1,
        { r with mHeader := LinkHeader.read r.mBuffer.readBuff, mFrameSize := n }) :=
      Prod.ext rfl hsnd
    refine .inr ?_
    rw [if_neg hlen]
    cases hok : r.readHeader.1 with
    | true =>
      refine .inl ⟨by rw [lsHeaderSize]; omega, rfl, ?_⟩
      rw [hread, hok, hn hok]
      simp [pure, Except.pure]
    | false =>
      obtain ⟨b, hb, hbuf, hsize⟩ :=
        ShiftableBuffer.advanceRead_ok (b := r.mBuffer) (n := 1) (by omega)
      refine .inr ⟨by rw [lsHeaderSize]; omega, rfl, b, n, hbuf, hsize, ?_⟩
      rw [hread, hok]
      simp [pure, Except.pure, failFrame, hb]

/-- `LRS_Body::Parse` waits for the frame, and then pushes it or skips one octet.  It throws only
when there is no octet to skip, which takes a receiver that has never read a header. -/
theorem parse_body {r : LinkLayerReceiver} (hs : r.mpState = .body) :
    (r.mBuffer.readBuff.length < r.mFrameSize ∧ r.parse = .ok (false, r, [])) ∨
    (r.mFrameSize ≤ r.mBuffer.readBuff.length ∧ r.validateBody = true ∧ ∃ b,
      b.readBuff = r.mBuffer.readBuff.drop r.mFrameSize ∧ b.mSize = r.mBuffer.mSize ∧
      r.parse = .ok (true, { r with mBuffer := b, mpState := .sync },
        (sinkCall r.mHeader r.transferUserData).toList)) ∨
    (r.mFrameSize ≤ r.mBuffer.readBuff.length ∧ r.validateBody = false ∧
      ((r.mFrameSize = 0 ∧ ∃ e, r.parse = .error e) ∨ ∃ b,
        r.mBuffer.readBuff ≠ [] ∧
        b.readBuff = r.mBuffer.readBuff.drop 1 ∧ b.mSize = r.mBuffer.mSize ∧
        r.parse = .ok (true, { r with mBuffer := b, mpState := .sync }, []))) := by
  simp only [parse, hs, ShiftableBuffer.numReadBytes_eq]
  by_cases hlen : r.mBuffer.readBuff.length < r.mFrameSize
  · rw [if_pos hlen]
    exact .inl ⟨hlen, rfl⟩
  · refine .inr ?_
    rw [if_neg hlen]
    have hle : r.mFrameSize ≤ r.mBuffer.readBuff.length := by omega
    cases hok : r.validateBody with
    | true =>
      obtain ⟨b, hb, hbuf, hsize⟩ := ShiftableBuffer.advanceRead_ok hle
      refine .inl ⟨hle, rfl, b, hbuf, hsize, ?_⟩
      simp [pure, Except.pure, pushFrame, hb]
    | false =>
      refine .inr ⟨hle, rfl, ?_⟩
      by_cases hnil : r.mBuffer.readBuff = []
      · refine .inl ⟨by simpa [hnil] using hle, ?_⟩
        rw [failFrame, ShiftableBuffer.advanceRead, dif_pos]
        · exact ⟨_, rfl⟩
        · rw [ShiftableBuffer.numReadBytes_eq, hnil]
          exact Nat.zero_lt_one
      · obtain ⟨b, hb, hbuf, hsize⟩ :=
          ShiftableBuffer.advanceRead_ok (b := r.mBuffer) (List.length_pos_of_ne_nil hnil)
        refine .inr ⟨b, hnil, hbuf, hsize, ?_⟩
        simp [pure, Except.pure, failFrame, hb]

/-! ## The loop of `OnRead` -/

/-- **Progress is progress**: a state that asks to be called again has brought the receiver closer
to having to wait. -/
theorem parse_measure {r r' : LinkLayerReceiver} {frames : List (Frame (List Byte))}
    (h : r.parse = .ok (true, r', frames)) : r'.measure < r.measure := by
  simp only [measure, ShiftableBuffer.numReadBytes_eq]
  cases hs : r.mpState with
  | sync =>
    obtain ⟨-, hp⟩ | ⟨hlen, b, hbuf, -, hp⟩ := parse_sync hs
    · rw [hp] at h
      cases h
    · rw [hp] at h
      cases h
      have hle : b.readBuff.length ≤ r.mBuffer.readBuff.length := by
        rw [hbuf, List.length_drop]
        omega
      by_cases hfound : 2 ≤ b.readBuff.length
      · simp only [if_pos hfound]
        omega
      · simp only [if_neg hfound]
        omega
  | header =>
    obtain ⟨-, hp⟩ | ⟨hlen, -, hp⟩ | ⟨hlen, -, b, n, hbuf, -, hp⟩ := parse_header hs
    · rw [hp] at h
      cases h
    · rw [hp] at h
      cases h
      have hpos : calcFrameSize (LinkHeader.read r.mBuffer.readBuff).userDataLength ≠ 0 := by
        rw [calcFrameSize, lsHeaderSize]
        omega
      simp only [if_neg hpos]
      omega
    · rw [hp] at h
      cases h
      rw [lsHeaderSize] at hlen
      simp only [hbuf, List.length_drop]
      omega
  | body =>
    obtain ⟨-, hp⟩ | ⟨hlen, -, b, hbuf, -, hp⟩ | ⟨hlen, -, ⟨-, e, hp⟩ | ⟨b, hne, hbuf, -, hp⟩⟩ :=
      parse_body hs
    · rw [hp] at h
      cases h
    · rw [hp] at h
      cases h
      simp only [hbuf, List.length_drop]
      split <;> omega
    · rw [hp] at h
      cases h
    · rw [hp] at h
      cases h
      have := List.length_pos_of_ne_nil hne
      simp only [hbuf, List.length_drop]
      omega

/-- `while(mpState->Parse(this));` with the calls of the sink collected. -/
def parseLoop (r : LinkLayerReceiver) :
    Except Exception (LinkLayerReceiver × List (Frame (List Byte))) :=
  match _h : r.parse with
  | .error e => .error e
  | .ok (false, r', frames) => .ok (r', frames)
  | .ok (true, r', frames) =>
    match r'.parseLoop with
    | .error e => .error e
    | .ok (r'', frames') => .ok (r'', frames ++ frames')
termination_by r.measure
decreasing_by exact parse_measure ‹_›

theorem parseLoop_of_false {r r' : LinkLayerReceiver} {frames : List (Frame (List Byte))}
    (h : r.parse = .ok (false, r', frames)) : r.parseLoop = .ok (r', frames) := by
  rw [parseLoop]
  split <;> simp_all

theorem parseLoop_of_true {r r' : LinkLayerReceiver} {frames : List (Frame (List Byte))}
    (h : r.parse = .ok (true, r', frames)) :
    r.parseLoop = r'.parseLoop.map fun p ↦ (p.1, frames ++ p.2) := by
  rw [parseLoop]
  split
  · next h' => simp [h] at h'
  · next h' => simp [h] at h'
  · next h' =>
    rw [h] at h'
    cases h'
    cases r'.parseLoop <;> rfl

/-- `OnRead`, after `aBytes` have been read into `WriteBuff`. -/
def onRead (r : LinkLayerReceiver) (aBytes : List Byte) :
    Except Exception (LinkLayerReceiver × List (Frame (List Byte))) := do
  assert "aNumBytes <= mBuffer.NumWriteBytes()" (aBytes.length ≤ r.mBuffer.numWriteBytes)
  let mBuffer ← r.mBuffer.advanceWrite aBytes
  let (r, frames) ← parseLoop { r with mBuffer }
  return ({ r with mBuffer := r.mBuffer.shift }, frames)

/-- One `OnRead` after the other. -/
def onReads (r : LinkLayerReceiver) :
    List (List Byte) → Except Exception (LinkLayerReceiver × List (Frame (List Byte)))
  | [] => .ok (r, [])
  | c :: cs => do
    let p ← r.onRead c
    let q ← p.1.onReads cs
    return (q.1, p.2 ++ q.2)

end LinkLayerReceiver

end OpenDNP3
