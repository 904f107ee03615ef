import OpenDNP3.APL.Crc

/-!
# The link header

The ten octets at the start of every link frame: the start octets `05 64`, the length, the control
octet, the two addresses and a CRC.  The control octet packs the direction, the frame count bit
(FCB), the bit that is the FCV of a primary frame and the DFC of a secondary one, and the function
code, which in this library includes the PRM bit.

* `LinkHeader.read_write` — a header that has been written is read back.
* `LinkHeader.WellFormed` — what the standard asks of a header once its CRC is right, which
  `LinkLayerReceiver::ValidateHeader` turns out to decide.
-/

set_option autoImplicit false

namespace OpenDNP3

/-! ## Function codes -/

/-- `FuncCodes` -/
inductive FuncCodes where
  | priResetLinkStates | priTestLinkStates | priConfirmedUserData | priUnconfirmedUserData
  | priRequestLinkStatus | secAck | secNack | secLinkStatus | secNotSupported | invalid
  deriving DecidableEq, Repr

/-- The values of the enumeration. -/
def FuncCodes.toByte : FuncCodes → Byte
  | .priResetLinkStates => 0x40
  | .priTestLinkStates => 0x42
  | .priConfirmedUserData => 0x43
  | .priUnconfirmedUserData => 0x44
  | .priRequestLinkStatus => 0x49
  | .secAck => 0x00
  | .secNack => 0x01
  | .secLinkStatus => 0x0B
  | .secNotSupported => 0x0F
  | .invalid => 0xFF

/-- `ByteToFuncCode` -/
def byteToFuncCode (aCode : Byte) : FuncCodes :=
  if aCode = FuncCodes.priResetLinkStates.toByte then .priResetLinkStates
  else if aCode = FuncCodes.priTestLinkStates.toByte then .priTestLinkStates
  else if aCode = FuncCodes.priConfirmedUserData.toByte then .priConfirmedUserData
  else if aCode = FuncCodes.priUnconfirmedUserData.toByte then .priUnconfirmedUserData
  else if aCode = FuncCodes.priRequestLinkStatus.toByte then .priRequestLinkStatus
  else if aCode = FuncCodes.secAck.toByte then .secAck
  else if aCode = FuncCodes.secNack.toByte then .secNack
  else if aCode = FuncCodes.secLinkStatus.toByte then .secLinkStatus
  else if aCode = FuncCodes.secNotSupported.toByte then .secNotSupported
  else .invalid

/-- The functions whose frames carry user data. -/
def FuncCodes.hasUserData : FuncCodes → Bool
  | .priConfirmedUserData | .priUnconfirmedUserData => true
  | _ => false

/-- The functions whose frames use the frame count bit. -/
def FuncCodes.usesFcb : FuncCodes → Bool
  | .priConfirmedUserData | .priTestLinkStates => true
  | _ => false

/-! ## Sizes and masks -/

/-- `LS_MIN_LENGTH` -/
def lsMinLength : ℕ := 5
/-- `LS_HEADER_SIZE` -/
def lsHeaderSize : ℕ := 10
/-- `LS_DATA_BLOCK_SIZE` -/
def lsDataBlockSize : ℕ := 16
/-- `LS_CRC_SIZE` -/
def lsCrcSize : ℕ := 2
/-- `LS_DATA_PLUS_CRC_SIZE` -/
def lsDataPlusCrcSize : ℕ := 18
/-- `LS_MAX_USER_DATA_SIZE` -/
def lsMaxUserDataSize : ℕ := 250
/-- `LS_MAX_FRAME_SIZE` -/
def lsMaxFrameSize : ℕ := 292
/-- `LI_CRC` -/
def liCrc : ℕ := 8

/-- `MASK_DIR` -/
def maskDir : Byte := 0x80
/-- `MASK_PRM` -/
def maskPrm : Byte := 0x40
/-- `MASK_FCB` -/
def maskFcb : Byte := 0x20
/-- `MASK_FCV` -/
def maskFcv : Byte := 0x10
/-- `MASK_FUNC` -/
def maskFunc : Byte := 0x0F
/-- `MASK_FUNC_OR_PRM` -/
def maskFuncOrPrm : Byte := maskPrm ||| maskFunc

/-! ## The header -/

/-- `LinkHeader` -/
structure LinkHeader where
  length : Byte
  src : BitVec 16
  dest : BitVec 16
  ctrl : Byte
  deriving DecidableEq, Repr

namespace LinkHeader

/-- `ControlByte` -/
def controlByte (aIsMaster aFcb aFcvDfc : Bool) (aFunc : FuncCodes) : Byte :=
  let ret := aFunc.toByte
  let ret := if aIsMaster then ret ||| maskDir else ret
  let ret := if aFcb then ret ||| maskFcb else ret
  if aFcvDfc then ret ||| maskFcv else ret

/-- `Set` -/
def set (aLen : Byte) (aSrc aDest : BitVec 16) (aFromMaster aFcvDfc aFcb : Bool)
    (aCode : FuncCodes) : LinkHeader where
  length := aLen
  src := aSrc
  dest := aDest
  ctrl := controlByte aFromMaster aFcb aFcvDfc aCode

/-- `ChangeFCB` -/
def changeFCB (h : LinkHeader) (aFCB : Bool) : LinkHeader :=
  if aFCB then { h with ctrl := h.ctrl ||| maskFcb } else { h with ctrl := h.ctrl &&& ~~~maskFcb }

/-- `IsFromMaster` -/
def isFromMaster (h : LinkHeader) : Bool := h.ctrl &&& maskDir != 0
/-- `IsPriToSec` -/
def isPriToSec (h : LinkHeader) : Bool := h.ctrl &&& maskPrm != 0
/-- `IsFcbSet` -/
def isFcbSet (h : LinkHeader) : Bool := h.ctrl &&& maskFcb != 0
/-- `IsFcvDfcSet` -/
def isFcvDfcSet (h : LinkHeader) : Bool := h.ctrl &&& maskFcv != 0
/-- `GetFuncEnum` -/
def getFuncEnum (h : LinkHeader) : FuncCodes := byteToFuncCode (h.ctrl &&& maskFuncOrPrm)
/-- `ValidLength` -/
def validLength (h : LinkHeader) : Bool := h.length.toNat > 4

/-- The number of octets of user data that the length announces. -/
def userDataLength (h : LinkHeader) : ℕ := h.length.toNat - lsMinLength

/-- `Read` -/
def read (apBuff : List Byte) : LinkHeader where
  length := apBuff.getD 2 0
  ctrl := apBuff.getD 3 0
  dest := UInt16LE.read (apBuff.drop 4)
  src := UInt16LE.read (apBuff.drop 6)

/-- The octets of `Write` that the CRC is taken over. -/
def fields (h : LinkHeader) : List Byte :=
  [0x05, 0x64, h.length, h.ctrl] ++ UInt16LE.write h.dest ++ UInt16LE.write h.src

/-- `Write` -/
def write (h : LinkHeader) : List Byte := DNPCrc.addCrc h.fields

/-- What the standard asks of a header: a length that counts the header itself, a known function
code, an FCV that fits the function of a primary frame, no FCB in a secondary frame, and user data
exactly where the function has them. -/
structure WellFormed (h : LinkHeader) : Prop where
  length : lsMinLength ≤ h.length.toNat
  func : h.getFuncEnum ≠ .invalid
  fcv : h.isPriToSec = true → h.isFcvDfcSet = h.getFuncEnum.usesFcb
  fcb : h.isPriToSec = false → h.isFcbSet = false
  data : 0 < h.userDataLength ↔ h.getFuncEnum.hasUserData = true

/-! ## Reading back what was written

The ten octets of a header determine it, with its checksum and whatever comes after them. -/

@[simp] theorem length_fields (h : LinkHeader) : h.fields.length = 8 := rfl

@[simp] theorem length_write (h : LinkHeader) : h.write.length = lsHeaderSize := by
  rw [write, DNPCrc.length_addCrc, length_fields]
  rfl

/-- The octets of a written header, spelled out up to its CRC. -/
theorem write_eq (h : LinkHeader) :
    h.write = [0x05, 0x64, h.length, h.ctrl] ++ (UInt16LE.write h.dest ++ (UInt16LE.write h.src ++
      UInt16LE.write ((DNPCrc.calcCrc h.fields).setWidth 16))) := by
  rw [write, DNPCrc.addCrc_eq]
  rfl

/-- **A header is read back from what was written**, whatever follows it. -/
theorem read_write (h : LinkHeader) (bs : List Byte) : read (h.write ++ bs) = h := by
  have hdest : UInt16LE.read ((h.write ++ bs).drop 4) = h.dest := by
    rw [write_eq]
    exact UInt16LE.read_write_append _ _
  have hsrc : UInt16LE.read ((h.write ++ bs).drop 6) = h.src := by
    rw [write_eq]
    exact UInt16LE.read_write_append _ _
  rw [read, hdest, hsrc, write_eq]
  rfl

/-- The CRC of a written header is right. -/
theorem isCorrectCRC_write (h : LinkHeader) (bs : List Byte) :
    DNPCrc.isCorrectCRC (h.write ++ bs) liCrc = true :=
  DNPCrc.isCorrectCRC_addCrc h.fields bs

/-- Reading a header looks at its first eight octets only. -/
theorem read_append {bs : List Byte} (cs : List Byte) (h : 8 ≤ bs.length) :
    read (bs ++ cs) = read bs := by
  match bs, h with
  | _ :: _ :: _ :: _ :: _ :: _ :: _ :: _ :: _, _ => rfl

/-! ## The control octet -/

/-- The fields of the control octet are read back from what `ControlByte` packs. -/
theorem controlByte_fields (m fcb fcv : Bool) {f : FuncCodes} (hf : f ≠ .invalid) :
    (controlByte m fcb fcv f &&& maskDir != 0) = m ∧
    (controlByte m fcb fcv f &&& maskPrm != 0) = (f.toByte &&& maskPrm != 0) ∧
    (controlByte m fcb fcv f &&& maskFcb != 0) = fcb ∧
    (controlByte m fcb fcv f &&& maskFcv != 0) = fcv ∧
    byteToFuncCode (controlByte m fcb fcv f &&& maskFuncOrPrm) = f := by
  cases m <;> cases fcb <;> cases fcv <;> cases f <;> first | decide | exact absurd rfl hf

/-- Changing the FCB of a control octet gives the octet packed with that FCB. -/
theorem controlByte_changeFCB (m fcb fcv b : Bool) {f : FuncCodes} (hf : f ≠ .invalid) :
    (if b then controlByte m fcb fcv f ||| maskFcb else controlByte m fcb fcv f &&& ~~~maskFcb) =
      controlByte m b fcv f := by
  cases m <;> cases fcb <;> cases fcv <;> cases b <;> cases f <;>
    first | decide | exact absurd rfl hf

theorem changeFCB_set {aLen : Byte} {aSrc aDest : BitVec 16} {m fcv fcb : Bool} {f : FuncCodes}
    (hf : f ≠ .invalid) (b : Bool) :
    (set aLen aSrc aDest m fcv fcb f).changeFCB b = set aLen aSrc aDest m fcv b f := by
  have h := controlByte_changeFCB m fcb fcv b hf
  cases b with
  | false => simpa [changeFCB, set] using h
  | true => simpa [changeFCB, set] using h

/-- A length octet cannot announce more than 250 octets of user data. -/
theorem userDataLength_le (h : LinkHeader) : h.userDataLength ≤ lsMaxUserDataSize := by
  have := h.length.isLt
  rw [userDataLength, lsMinLength, lsMaxUserDataSize]
  omega

/-- The PRM bit is part of the function code, so it tells which codes are possible. -/
theorem isPriToSec_eq (h : LinkHeader) (hf : h.getFuncEnum ≠ .invalid) :
    h.isPriToSec = (h.getFuncEnum.toByte &&& maskPrm != 0) := by
  have key : ∀ c : Byte, byteToFuncCode (c &&& maskFuncOrPrm) ≠ .invalid →
      (c &&& maskPrm != 0) = ((byteToFuncCode (c &&& maskFuncOrPrm)).toByte &&& maskPrm != 0) := by
    decide +kernel
  exact key h.ctrl hf

end LinkHeader

end OpenDNP3
