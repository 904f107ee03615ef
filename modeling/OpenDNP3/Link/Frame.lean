import OpenDNP3.APL.Exception
import OpenDNP3.Link.Header

/-!
# Link frames

`LinkFrame` formats an outgoing frame: a header, and the user data in blocks of sixteen octets that
each carry their own CRC.  The nine `Format*` functions ask for exactly what the nine methods of
`IFrameSink` report at the other end, so both are described by one type, `Frame`: a value of it is
a request to `LinkFrame.format` and a call that the receiver makes.

* `readUserData_writeUserData` and `validateBodyCRC_writeUserData` — user data that was written in
  blocks passes the block check and is read back.
* `length_writeUserData` — the blocks take as many octets as `CalcFrameSize` computes for them.
-/

set_option autoImplicit false

namespace OpenDNP3

/-! ## The calls of `IFrameSink` -/

/-- `IFrameSink`: one constructor for each method, with the payload in a type of its own. -/
inductive Frame (α : Type) where
  | ack (aIsMaster aIsRcvBuffFull : Bool) (aDest aSrc : BitVec 16)
  | nack (aIsMaster aIsRcvBuffFull : Bool) (aDest aSrc : BitVec 16)
  | linkStatus (aIsMaster aIsRcvBuffFull : Bool) (aDest aSrc : BitVec 16)
  | notSupported (aIsMaster aIsRcvBuffFull : Bool) (aDest aSrc : BitVec 16)
  | testLinkStatus (aIsMaster aFcb : Bool) (aDest aSrc : BitVec 16)
  | resetLinkStates (aIsMaster : Bool) (aDest aSrc : BitVec 16)
  | requestLinkStatus (aIsMaster : Bool) (aDest aSrc : BitVec 16)
  | confirmedUserData (aIsMaster aFcb : Bool) (aDest aSrc : BitVec 16) (aData : α)
  | unconfirmedUserData (aIsMaster : Bool) (aDest aSrc : BitVec 16) (aData : α)
  deriving DecidableEq, Repr

/-- The call with another frame count bit, where it has one. -/
def Frame.withFcb {α : Type} (fr : Frame α) (aFCB : Bool) : Frame α :=
  match fr with
  | .testLinkStatus m _ dest src => .testLinkStatus m aFCB dest src
  | .confirmedUserData m _ dest src data => .confirmedUserData m aFCB dest src data
  | fr => fr

/-! ## User data in blocks

The payload is cut into blocks of sixteen octets, each followed by its checksum; the last block
may be shorter. -/

/-- `LinkFrame::WriteUserData` -/
def writeUserData (apSrc : List Byte) (aLength : ℕ) : List Byte :=
  if aLength = 0 then []
  else
    let num := min aLength lsDataBlockSize
    DNPCrc.addCrc (apSrc.take num) ++ writeUserData (apSrc.drop num) (aLength - num)
termination_by aLength
decreasing_by
  simp only [lsDataBlockSize]
  omega

/-- `LinkFrame::ReadUserData` -/
def readUserData (apSrc : List Byte) (aLength : ℕ) : List Byte :=
  if aLength = 0 then []
  else
    let num := min aLength lsDataBlockSize
    apSrc.take num ++ readUserData (apSrc.drop (num + 2)) (aLength - num)
termination_by aLength
decreasing_by
  simp only [lsDataBlockSize]
  omega

/-- `LinkFrame::ValidateBodyCRC` -/
def validateBodyCRC (apBody : List Byte) (aLength : ℕ) : Bool :=
  if aLength = 0 then true
  else
    let num := min aLength lsDataBlockSize
    if !DNPCrc.isCorrectCRC apBody num then false
    else validateBodyCRC (apBody.drop (num + 2)) (aLength - num)
termination_by aLength
decreasing_by
  simp only [lsDataBlockSize]
  omega

/-- The octets that `n` octets of user data take in a frame. -/
def bodySize (n : ℕ) : ℕ :=
  (n / lsDataBlockSize) * lsDataPlusCrcSize +
    (if n % lsDataBlockSize = 0 then 0 else n % lsDataBlockSize + lsCrcSize)

/-- `LinkFrame::CalcFrameSize`.  What it asserts, that there are at most 250 octets, holds at each
of its calls. -/
def calcFrameSize (aDataLength : ℕ) : ℕ := lsHeaderSize + bodySize aDataLength

/-- The size of the first block of the user data. -/
private def blockSize (n : ℕ) : ℕ := min n lsDataBlockSize

private theorem blockSize_pos {n : ℕ} (h : n ≠ 0) : 0 < blockSize n := by
  simp only [blockSize, lsDataBlockSize]
  omega

private theorem blockSize_le (n : ℕ) : blockSize n ≤ n := Nat.min_le_left _ _

@[simp] theorem bodySize_zero : bodySize 0 = 0 := rfl

private theorem bodySize_step {n : ℕ} (h : n ≠ 0) :
    bodySize n = blockSize n + 2 + bodySize (n - blockSize n) := by
  have hb : blockSize n = min n 16 := rfl
  rw [bodySize, bodySize, hb, show lsDataBlockSize = 16 from rfl,
    show lsDataPlusCrcSize = 18 from rfl, show lsCrcSize = 2 from rfl]
  split <;> split <;> omega

/-- No frame is larger than `LS_MAX_FRAME_SIZE`. -/
theorem calcFrameSize_le {n : ℕ} (h : n ≤ lsMaxUserDataSize) :
    calcFrameSize n ≤ lsMaxFrameSize := by
  rw [lsMaxUserDataSize] at h
  rw [calcFrameSize, bodySize, lsMaxFrameSize, show lsDataBlockSize = 16 from rfl,
    show lsDataPlusCrcSize = 18 from rfl, show lsCrcSize = 2 from rfl,
    show lsHeaderSize = 10 from rfl]
  split <;> omega

theorem writeUserData_zero (bs : List Byte) : writeUserData bs 0 = [] := by
  rw [writeUserData, if_pos rfl]

private theorem writeUserData_step (bs : List Byte) {n : ℕ} (h : n ≠ 0) :
    writeUserData bs n = DNPCrc.addCrc (bs.take (blockSize n)) ++
      writeUserData (bs.drop (blockSize n)) (n - blockSize n) := by
  rw [writeUserData, if_neg h]
  rfl

theorem readUserData_zero (bs : List Byte) : readUserData bs 0 = [] := by
  rw [readUserData, if_pos rfl]

private theorem readUserData_step (bs : List Byte) {n : ℕ} (h : n ≠ 0) :
    readUserData bs n = bs.take (blockSize n) ++
      readUserData (bs.drop (blockSize n + 2)) (n - blockSize n) := by
  rw [readUserData, if_neg h]
  rfl

theorem validateBodyCRC_zero (bs : List Byte) : validateBodyCRC bs 0 = true := by
  rw [validateBodyCRC, if_pos rfl]

private theorem validateBodyCRC_step (bs : List Byte) {n : ℕ} (h : n ≠ 0) :
    validateBodyCRC bs n = (DNPCrc.isCorrectCRC bs (blockSize n) &&
      validateBodyCRC (bs.drop (blockSize n + 2)) (n - blockSize n)) := by
  rw [validateBodyCRC, if_neg h]
  change (if !DNPCrc.isCorrectCRC bs (blockSize n) then false else _) = _
  cases DNPCrc.isCorrectCRC bs (blockSize n) <;> rfl

/-- The first block of user data, with its CRC. -/
private theorem length_block {bs : List Byte} {n : ℕ} (hn : n ≤ bs.length) :
    (DNPCrc.addCrc (bs.take (blockSize n))).length = blockSize n + 2 := by
  have := blockSize_le n
  rw [DNPCrc.length_addCrc, List.length_take, Nat.min_eq_left (by omega)]

theorem length_writeUserData {bs : List Byte} {n : ℕ} (hn : n ≤ bs.length) :
    (writeUserData bs n).length = bodySize n := by
  induction n using Nat.strongRecOn generalizing bs with
  | _ n ih =>
    by_cases h : n = 0
    · rw [h, writeUserData_zero]
      rfl
    · have hpos := blockSize_pos h
      have hle := blockSize_le n
      rw [writeUserData_step bs h, bodySize_step h, List.length_append, length_block hn,
        ih (n - blockSize n) (by omega) (by rw [List.length_drop]; omega)]

/-- **User data that was written passes the block check**, whatever follows it. -/
theorem validateBodyCRC_writeUserData {bs : List Byte} {n : ℕ} (cs : List Byte)
    (hn : n ≤ bs.length) : validateBodyCRC (writeUserData bs n ++ cs) n = true := by
  induction n using Nat.strongRecOn generalizing bs with
  | _ n ih =>
    by_cases h : n = 0
    · rw [h, validateBodyCRC_zero]
    · have hpos := blockSize_pos h
      have hle := blockSize_le n
      have hcrc := DNPCrc.isCorrectCRC_addCrc (bs.take (blockSize n))
        (writeUserData (bs.drop (blockSize n)) (n - blockSize n) ++ cs)
      rw [List.length_take, Nat.min_eq_left (by omega)] at hcrc
      rw [validateBodyCRC_step _ h, writeUserData_step bs h, List.append_assoc, hcrc,
        List.drop_left' (length_block hn), Bool.true_and]
      exact ih (n - blockSize n) (by omega) (by rw [List.length_drop]; omega)

/-- **User data that was written is read back**, whatever follows it. -/
theorem readUserData_writeUserData {bs : List Byte} {n : ℕ} (cs : List Byte)
    (hn : n ≤ bs.length) : readUserData (writeUserData bs n ++ cs) n = bs.take n := by
  induction n using Nat.strongRecOn generalizing bs with
  | _ n ih =>
    by_cases h : n = 0
    · rw [h, readUserData_zero, List.take_zero]
    · have hpos := blockSize_pos h
      have hle := blockSize_le n
      have hblock : (DNPCrc.addCrc (bs.take (blockSize n))).take (blockSize n) =
          bs.take (blockSize n) := by
        rw [DNPCrc.addCrc_eq, List.take_left' (by rw [List.length_take]; omega)]
      rw [readUserData_step _ h, writeUserData_step bs h, List.append_assoc,
        List.drop_left' (length_block hn),
        List.take_append_of_le_length (by rw [length_block hn]; omega), hblock,
        ih (n - blockSize n) (by omega) (by rw [List.length_drop]; omega), ← List.take_add,
        Nat.add_sub_cancel' hle]

/-- The block check looks at the blocks only. -/
theorem validateBodyCRC_append {bs : List Byte} {n : ℕ} (cs : List Byte)
    (hn : bodySize n ≤ bs.length) : validateBodyCRC (bs ++ cs) n = validateBodyCRC bs n := by
  induction n using Nat.strongRecOn generalizing bs with
  | _ n ih =>
    by_cases h : n = 0
    · rw [h, validateBodyCRC_zero, validateBodyCRC_zero]
    · have hpos := blockSize_pos h
      rw [bodySize_step h] at hn
      rw [validateBodyCRC_step _ h, validateBodyCRC_step _ h,
        DNPCrc.isCorrectCRC_append cs (by omega), List.drop_append_of_le_length (by omega),
        ih (n - blockSize n) (by omega) (by rw [List.length_drop]; omega)]

/-- Reading user data looks at its blocks only. -/
theorem readUserData_append {bs : List Byte} {n : ℕ} (cs : List Byte)
    (hn : bodySize n ≤ bs.length) : readUserData (bs ++ cs) n = readUserData bs n := by
  induction n using Nat.strongRecOn generalizing bs with
  | _ n ih =>
    by_cases h : n = 0
    · rw [h, readUserData_zero, readUserData_zero]
    · have hpos := blockSize_pos h
      rw [bodySize_step h] at hn
      rw [readUserData_step _ h, readUserData_step _ h,
        List.take_append_of_le_length (by omega), List.drop_append_of_le_length (by omega),
        ih (n - blockSize n) (by omega) (by rw [List.length_drop]; omega)]

/-- The user data that is read is as long as it should be. -/
theorem length_readUserData {bs : List Byte} {n : ℕ} (hn : bodySize n ≤ bs.length) :
    (readUserData bs n).length = n := by
  induction n using Nat.strongRecOn generalizing bs with
  | _ n ih =>
    by_cases h : n = 0
    · rw [h, readUserData_zero]
      rfl
    · have hpos := blockSize_pos h
      have hle := blockSize_le n
      rw [bodySize_step h] at hn
      have hrest := ih (n - blockSize n) (by omega)
        (show bodySize (n - blockSize n) ≤ (bs.drop (blockSize n + 2)).length by
          rw [List.length_drop]
          omega)
      rw [readUserData_step _ h, List.length_append, hrest, List.length_take]
      omega

/-! ## Formatting

The nine `Format*` functions differ in the function code and in whether they have a payload. -/

/-- `LinkFrame`: the header and the octets that the last `Format*` has written. -/
structure LinkFrame where
  mIsComplete : Bool
  mSize : ℕ
  mHeader : LinkHeader
  mpBuffer : List Byte

namespace LinkFrame

/-- What is sent: `GetSize` octets of `GetBuffer`. -/
def bytes (f : LinkFrame) : List Byte := f.mpBuffer.take f.mSize

/-- `FormatHeader` -/
def formatHeader (aDataLength : ℕ) (aIsMaster aFcb aFcvDfc : Bool) (aFuncCode : FuncCodes)
    (aDest aSrc : BitVec 16) : LinkFrame :=
  let mHeader := LinkHeader.set (BitVec.ofNat 8 (aDataLength + lsMinLength)) aSrc aDest aIsMaster
    aFcvDfc aFcb aFuncCode
  { mIsComplete := true
    mSize := calcFrameSize aDataLength
    mHeader
    mpBuffer := mHeader.write }

/-- `FormatAck` -/
def formatAck (aIsMaster aIsRcvBuffFull : Bool) (aDest aSrc : BitVec 16) : LinkFrame :=
  formatHeader 0 aIsMaster false aIsRcvBuffFull .secAck aDest aSrc

/-- `FormatNack` -/
def formatNack (aIsMaster aIsRcvBuffFull : Bool) (aDest aSrc : BitVec 16) : LinkFrame :=
  formatHeader 0 aIsMaster false aIsRcvBuffFull .secNack aDest aSrc

/-- `FormatLinkStatus` -/
def formatLinkStatus (aIsMaster aIsRcvBuffFull : Bool) (aDest aSrc : BitVec 16) : LinkFrame :=
  formatHeader 0 aIsMaster false aIsRcvBuffFull .secLinkStatus aDest aSrc

/-- `FormatNotSupported` -/
def formatNotSupported (aIsMaster aIsRcvBuffFull : Bool) (aDest aSrc : BitVec 16) : LinkFrame :=
  formatHeader 0 aIsMaster false aIsRcvBuffFull .secNotSupported aDest aSrc

/-- `FormatResetLinkStates` -/
def formatResetLinkStates (aIsMaster : Bool) (aDest aSrc : BitVec 16) : LinkFrame :=
  formatHeader 0 aIsMaster false false .priResetLinkStates aDest aSrc

/-- `FormatRequestLinkStatus` -/
def formatRequestLinkStatus (aIsMaster : Bool) (aDest aSrc : BitVec 16) : LinkFrame :=
  formatHeader 0 aIsMaster false false .priRequestLinkStatus aDest aSrc

/-- `FormatTestLinkStatus` -/
def formatTestLinkStatus (aIsMaster aFcb : Bool) (aDest aSrc : BitVec 16) : LinkFrame :=
  formatHeader 0 aIsMaster aFcb true .priTestLinkStates aDest aSrc

/-- `FormatConfirmedUserData` -/
def formatConfirmedUserData (aIsMaster aFcb : Bool) (aDest aSrc : BitVec 16)
    (apData : List Byte) : Except Exception LinkFrame := do
  assert "aDataLength > 0" (apData.length > 0)
  assert "aDataLength <= 250" (apData.length ≤ 250)
  let f := formatHeader apData.length aIsMaster aFcb true .priConfirmedUserData aDest aSrc
  return { f with mpBuffer := f.mpBuffer ++ writeUserData apData apData.length }

/-- `FormatUnconfirmedUserData` -/
def formatUnconfirmedUserData (aIsMaster : Bool) (aDest aSrc : BitVec 16)
    (apData : List Byte) : Except Exception LinkFrame := do
  assert "aDataLength > 0" (apData.length > 0)
  assert "aDataLength <= 250" (apData.length ≤ 250)
  let f := formatHeader apData.length aIsMaster false false .priUnconfirmedUserData aDest aSrc
  return { f with mpBuffer := f.mpBuffer ++ writeUserData apData apData.length }

/-- `ChangeFCB`: the header is written over the first ten octets. -/
def changeFCB (f : LinkFrame) (aFCB : Bool) : LinkFrame :=
  if f.mHeader.isFcbSet ≠ aFCB then
    let mHeader := f.mHeader.changeFCB aFCB
    { f with mHeader, mpBuffer := mHeader.write ++ f.mpBuffer.drop lsHeaderSize }
  else f

/-- The `Format*` function for a call of the frame sink. -/
def format : Frame (List Byte) → Except Exception LinkFrame
  | .ack m dfc dest src => .ok (formatAck m dfc dest src)
  | .nack m dfc dest src => .ok (formatNack m dfc dest src)
  | .linkStatus m dfc dest src => .ok (formatLinkStatus m dfc dest src)
  | .notSupported m dfc dest src => .ok (formatNotSupported m dfc dest src)
  | .testLinkStatus m fcb dest src => .ok (formatTestLinkStatus m fcb dest src)
  | .resetLinkStates m dest src => .ok (formatResetLinkStates m dest src)
  | .requestLinkStatus m dest src => .ok (formatRequestLinkStatus m dest src)
  | .confirmedUserData m fcb dest src data => formatConfirmedUserData m fcb dest src data
  | .unconfirmedUserData m dest src data => formatUnconfirmedUserData m dest src data

end LinkFrame

end OpenDNP3
