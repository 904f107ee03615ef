import OpenDNP3.APL.Bytes

/-!
# The header of an application fragment

Every fragment starts with the control octet, which holds the sequence number and the bits FIR
(first), FIN (final), CON (a confirmation is wanted) and UNS (unsolicited), and the function code.
A response adds the two octets of internal indications.
-/

set_option autoImplicit false

namespace OpenDNP3

/-! ## Function codes -/

/-- `FunctionCodes` -/
inductive FunctionCodes where
  | confirm | read | write | select | operate | directOperate | directOperateNoAck
  | freeze | freezeNoAck | freezeClear | freezeClearNoAck | freezeAtTime | freezeAtTimeNoAck
  | coldRestart | warmRestart | initializeData | initializeApplication | startApplication
  | stopApplication | saveConfiguration | enableUnsolicited | disableUnsolicited | assignClass
  | delayMeasure | recordTime
  | fileOpen | fileClose | fileDelete | fileInfo | fileAuthenticate | fileAbort
  | proprietaryVtoTransfer | response | unsolicitedResponse | unknown
  deriving DecidableEq, Repr

/-- The function codes with the values of the enumeration, but for `FC_UNKNOWN`. -/
def FunctionCodes.values : List (ℕ × FunctionCodes) :=
  [(0, .confirm), (1, .read), (2, .write), (3, .select), (4, .operate), (5, .directOperate),
   (6, .directOperateNoAck), (7, .freeze), (8, .freezeNoAck), (9, .freezeClear),
   (10, .freezeClearNoAck), (11, .freezeAtTime), (12, .freezeAtTimeNoAck), (13, .coldRestart),
   (14, .warmRestart), (15, .initializeData), (16, .initializeApplication),
   (17, .startApplication), (18, .stopApplication), (19, .saveConfiguration),
   (20, .enableUnsolicited), (21, .disableUnsolicited), (22, .assignClass), (23, .delayMeasure),
   (24, .recordTime), (25, .fileOpen), (26, .fileClose), (27, .fileDelete), (28, .fileInfo),
   (29, .fileAuthenticate), (30, .fileAbort), (100, .proprietaryVtoTransfer), (129, .response),
   (130, .unsolicitedResponse)]

/-- `IntToFunction` -/
def intToFunction (aFunction : ℕ) : FunctionCodes :=
  (FunctionCodes.values.lookup aFunction).getD .unknown

/-- The value of a function code. -/
def FunctionCodes.toNat (aCode : FunctionCodes) : ℕ :=
  ((FunctionCodes.values.find? fun p ↦ p.2 = aCode).map Prod.fst).getD 255

theorem FunctionCodes.intToFunction_toNat (aCode : FunctionCodes) :
    intToFunction aCode.toNat = aCode := by
  cases aCode <;> decide

theorem FunctionCodes.toNat_lt (aCode : FunctionCodes) : aCode.toNat < 256 := by
  cases aCode <;> decide

/-- `IsResponse` -/
def isResponse : FunctionCodes → Bool
  | .response | .unsolicitedResponse => true
  | _ => false

/-- `IsRequest` -/
def isRequest : FunctionCodes → Bool
  | .confirm | .response | .unsolicitedResponse => false
  | _ => true

/-- `APDU::HasData`: the objects of the fragment carry data, and not only indices. -/
def hasData : FunctionCodes → Bool
  | .read | .assignClass => false
  | _ => true

/-! ## The control octet -/

/-- `AppControlField` -/
structure AppControlField where
  fir : Bool
  fin : Bool
  con : Bool
  uns : Bool
  seq : ℕ
  deriving DecidableEq, Repr

/-- `IAppHeader::GetControl` -/
def AppControlField.ofByte (b : Byte) : AppControlField where
  fir := b &&& 0x80 != 0
  fin := b &&& 0x40 != 0
  con := b &&& 0x20 != 0
  uns := b &&& 0x10 != 0
  seq := (b &&& 0x0F).toNat

/-- `IAppHeader::SetControl` -/
def AppControlField.toByte (arControl : AppControlField) : Byte :=
  (if arControl.fir then 0x80 else 0) ||| (if arControl.fin then 0x40 else 0) |||
    (if arControl.con then 0x20 else 0) ||| (if arControl.uns then 0x10 else 0) |||
      BitVec.ofNat 8 (arControl.seq % 16)

/-- The control octet is read as it was written, with the sequence number modulo 16. -/
theorem AppControlField.ofByte_toByte (c : AppControlField) :
    AppControlField.ofByte c.toByte = { c with seq := c.seq % 16 } := by
  have hall : ∀ n < 16, ∀ fir fin con uns : Bool,
      AppControlField.ofByte ((if fir then 0x80 else 0) ||| (if fin then 0x40 else 0) |||
        (if con then 0x20 else 0) ||| (if uns then 0x10 else 0) ||| BitVec.ofNat 8 n) =
      ⟨fir, fin, con, uns, n⟩ := by decide
  exact hall (c.seq % 16) (Nat.mod_lt _ (by decide)) c.fir c.fin c.con c.uns

/-! ## Internal indications -/

/-- `IINField` -/
structure IINField where
  mLSB : Byte := 0
  mMSB : Byte := 0
  deriving DecidableEq, Repr

namespace IINField

/-- `MACRO_SET_BIT` -/
def setBit (value mask : Byte) (aVal : Bool) : Byte :=
  if aVal then value ||| mask else value &&& ~~~mask

/-- `GetNeedTime` -/
def getNeedTime (f : IINField) : Bool := f.mLSB &&& 0x10 != 0
/-- `GetDeviceRestart` -/
def getDeviceRestart (f : IINField) : Bool := f.mLSB &&& 0x80 != 0
/-- `GetFuncNotSupported` -/
def getFuncNotSupported (f : IINField) : Bool := f.mMSB &&& 0x01 != 0
/-- `GetParameterError` -/
def getParameterError (f : IINField) : Bool := f.mMSB &&& 0x04 != 0
/-- `SetNeedTime` -/
def setNeedTime (f : IINField) (aVal : Bool) : IINField :=
  { f with mLSB := setBit f.mLSB 0x10 aVal }
/-- `SetDeviceRestart` -/
def setDeviceRestart (f : IINField) (aVal : Bool) : IINField :=
  { f with mLSB := setBit f.mLSB 0x80 aVal }
/-- `SetFuncNotSupported` -/
def setFuncNotSupported (f : IINField) (aVal : Bool) : IINField :=
  { f with mMSB := setBit f.mMSB 0x01 aVal }
/-- `SetObjectUnknown` -/
def setObjectUnknown (f : IINField) (aVal : Bool) : IINField :=
  { f with mMSB := setBit f.mMSB 0x02 aVal }
/-- `SetParameterError` -/
def setParameterError (f : IINField) (aVal : Bool) : IINField :=
  { f with mMSB := setBit f.mMSB 0x04 aVal }
/-- `SetEventBufferOverflow` -/
def setEventBufferOverflow (f : IINField) (aVal : Bool) : IINField :=
  { f with mMSB := setBit f.mMSB 0x08 aVal }

/-- `BitwiseOR` -/
def bitwiseOR (f arIIN : IINField) : IINField where
  mLSB := f.mLSB ||| arIIN.mLSB
  mMSB := f.mMSB ||| arIIN.mMSB

end IINField

end OpenDNP3
