import OpenDNP3.Link.FrameScan

/-!
# Link frames round trip

What `LinkFrame` formats, `LinkLayerReceiver` turns back into the call it was formatted for.  The
two sides were written apart, and they meet in the header: `Frame.header` is the header of a frame
whatever its function, `LinkFrame.bytes_ofFrame` says that the encoder sends that header and the
blocks of the payload, and `onRead_frame` that the decoder takes such octets as one frame as soon as
the header is well formed.

The one thing a sender can do to a formatted frame is `ChangeFCB`.  On the frames of a primary it
changes the frame count bit and nothing else.  A secondary frame has no such bit, and the receiver
refuses it with the bit set (`pushes_nothing_of_secToPri`).
-/

set_option autoImplicit false

namespace OpenDNP3

open Scan

/-- User data that a frame can carry: what the `Format*` functions assert. -/
def UserData : Type := { data : List Byte // 0 < data.length ∧ data.length ≤ 250 }

namespace Frame

variable {α β : Type}

/-- The same call with another payload. -/
def map (g : α → β) : Frame α → Frame β
  | .ack m dfc dest src => .ack m dfc dest src
  | .nack m dfc dest src => .nack m dfc dest src
  | .linkStatus m dfc dest src => .linkStatus m dfc dest src
  | .notSupported m dfc dest src => .notSupported m dfc dest src
  | .testLinkStatus m fcb dest src => .testLinkStatus m fcb dest src
  | .resetLinkStates m dest src => .resetLinkStates m dest src
  | .requestLinkStatus m dest src => .requestLinkStatus m dest src
  | .confirmedUserData m fcb dest src data => .confirmedUserData m fcb dest src (g data)
  | .unconfirmedUserData m dest src data => .unconfirmedUserData m dest src (g data)

/-- The call with its payload as octets. -/
def octets (fr : Frame UserData) : Frame (List Byte) := fr.map Subtype.val

/-- The frame is one that a primary sends. -/
def isPriToSec : Frame α → Bool
  | .ack .. | .nack .. | .linkStatus .. | .notSupported .. => false
  | _ => true

/-- The user data of a frame, empty where it has none. -/
def payload : Frame (List Byte) → List Byte
  | .confirmedUserData _ _ _ _ data | .unconfirmedUserData _ _ _ data => data
  | _ => []

/-- The frame count bit a frame is formatted with. -/
def fcb : Frame α → Bool
  | .testLinkStatus _ fcb _ _ | .confirmedUserData _ fcb _ _ _ => fcb
  | _ => false

/-- The header of a frame with the given frame count bit. -/
def header (fr : Frame (List Byte)) (aFCB : Bool) : LinkHeader :=
  let len := BitVec.ofNat 8 (fr.payload.length + lsMinLength)
  match fr with
  | .ack m dfc dest src => .set len src dest m dfc aFCB .secAck
  | .nack m dfc dest src => .set len src dest m dfc aFCB .secNack
  | .linkStatus m dfc dest src => .set len src dest m dfc aFCB .secLinkStatus
  | .notSupported m dfc dest src => .set len src dest m dfc aFCB .secNotSupported
  | .testLinkStatus m _ dest src => .set len src dest m true aFCB .priTestLinkStates
  | .resetLinkStates m dest src => .set len src dest m false aFCB .priResetLinkStates
  | .requestLinkStatus m dest src => .set len src dest m false aFCB .priRequestLinkStatus
  | .confirmedUserData m _ dest src _ => .set len src dest m true aFCB .priConfirmedUserData
  | .unconfirmedUserData m dest src _ => .set len src dest m false aFCB .priUnconfirmedUserData

end Frame

/-! ## The header of a formatted frame -/

namespace LinkHeader

/-- The fields of a header that was set. -/
theorem set_fields (aLen : Byte) (aSrc aDest : BitVec 16) (m fcv fcb : Bool) {f : FuncCodes}
    (hf : f ≠ .invalid) :
    (set aLen aSrc aDest m fcv fcb f).isFromMaster = m ∧
    (set aLen aSrc aDest m fcv fcb f).isPriToSec = (f.toByte &&& maskPrm != 0) ∧
    (set aLen aSrc aDest m fcv fcb f).isFcbSet = fcb ∧
    (set aLen aSrc aDest m fcv fcb f).isFcvDfcSet = fcv ∧
    (set aLen aSrc aDest m fcv fcb f).getFuncEnum = f :=
  controlByte_fields m fcb fcv hf

/-- The length octet announces the user data it was computed from. -/
theorem userDataLength_set {n : ℕ} (hn : n ≤ 250) (aSrc aDest : BitVec 16) (m fcv fcb : Bool)
    (f : FuncCodes) :
    (set (BitVec.ofNat 8 (n + lsMinLength)) aSrc aDest m fcv fcb f).userDataLength = n := by
  rw [userDataLength, lsMinLength]
  change (BitVec.ofNat 8 (n + 5)).toNat - 5 = n
  rw [BitVec.toNat_ofNat]
  omega

theorem lsMinLength_le {n : ℕ} (hn : n ≤ 250) :
    lsMinLength ≤ (BitVec.ofNat 8 (n + lsMinLength)).toNat := by
  rw [lsMinLength, BitVec.toNat_ofNat]
  omega

/-- A primary header that was set is well formed when its FCV and its length fit its function. -/
theorem wellFormed_set_pri {n : ℕ} (hn : n ≤ 250) (aSrc aDest : BitVec 16) (m fcb : Bool)
    {fcv : Bool} {f : FuncCodes} (hprm : (f.toByte &&& maskPrm != 0) = true)
    (hf : f ≠ .invalid) (hfcv : fcv = f.usesFcb) (hdata : 0 < n ↔ f.hasUserData = true) :
    (set (BitVec.ofNat 8 (n + lsMinLength)) aSrc aDest m fcv fcb f).WellFormed := by
  obtain ⟨-, h2, h3, h4, h5⟩ :=
    set_fields (BitVec.ofNat 8 (n + lsMinLength)) aSrc aDest m fcv fcb hf
  refine ⟨lsMinLength_le hn, by rw [h5]; exact hf, ?_, ?_, ?_⟩
  · rw [h4, h5]
    exact fun _ ↦ hfcv
  · rw [h2, hprm]
    exact fun h ↦ nomatch h
  · rw [userDataLength_set hn, h5]
    exact hdata

/-- A secondary header that was set without FCB is well formed when it announces no user data. -/
theorem wellFormed_set_sec (aSrc aDest : BitVec 16) (m fcv : Bool) {f : FuncCodes}
    (hprm : (f.toByte &&& maskPrm != 0) = false) (hf : f ≠ .invalid)
    (hdata : f.hasUserData = false) :
    (set (BitVec.ofNat 8 (0 + lsMinLength)) aSrc aDest m fcv false f).WellFormed := by
  obtain ⟨-, h2, h3, -, h5⟩ :=
    set_fields (BitVec.ofNat 8 (0 + lsMinLength)) aSrc aDest m fcv false hf
  refine ⟨lsMinLength_le (Nat.zero_le _), by rw [h5]; exact hf, ?_, ?_, ?_⟩
  · rw [h2, hprm]
    exact fun h ↦ nomatch h
  · rw [h3]
    exact fun _ ↦ rfl
  · rw [userDataLength_set (Nat.zero_le _), h5, hdata]
    decide

end LinkHeader

namespace Frame

/-- The header of a frame announces its payload. -/
theorem userDataLength_header (fr : Frame UserData) (b : Bool) :
    (fr.octets.header b).userDataLength = fr.octets.payload.length := by
  cases fr with
  | confirmedUserData m fcb dest src data | unconfirmedUserData m dest src data =>
    exact LinkHeader.userDataLength_set data.2.2 _ _ _ _ _ _
  | _ => exact LinkHeader.userDataLength_set (Nat.zero_le _) _ _ _ _ _ _

/-- The header is well formed, whatever the frame count bit of a primary frame. -/
theorem wellFormed_header (fr : Frame UserData) {b : Bool} (hb : fr.isPriToSec = true ∨ b = false) :
    (fr.octets.header b).WellFormed := by
  cases fr with
  | confirmedUserData m fcb dest src data | unconfirmedUserData m dest src data =>
    refine LinkHeader.wellFormed_set_pri data.2.2 _ _ _ _ (by decide) (by decide) rfl ?_
    exact iff_of_true data.2.1 rfl
  | ack m dfc dest src | nack m dfc dest src | linkStatus m dfc dest src
  | notSupported m dfc dest src =>
    obtain rfl : b = false := hb.resolve_left fun h ↦ nomatch h
    exact LinkHeader.wellFormed_set_sec _ _ _ _ (by decide) (by decide) rfl
  | testLinkStatus m fcb dest src | resetLinkStates m dest src | requestLinkStatus m dest src =>
    refine LinkHeader.wellFormed_set_pri (Nat.zero_le _) _ _ _ _ (by decide) (by decide) rfl ?_
    decide

/-- The call of a header that `Set` has built. -/
theorem sinkCall_set (aLen : Byte) (aSrc aDest : BitVec 16) (m fcv b : Bool) {f : FuncCodes}
    (hf : f ≠ .invalid) (data : List Byte) :
    LinkLayerReceiver.sinkCall (.set aLen aSrc aDest m fcv b f) data =
      match f with
      | .priResetLinkStates => some (.resetLinkStates m aDest aSrc)
      | .priTestLinkStates => some (.testLinkStatus m b aDest aSrc)
      | .priConfirmedUserData => some (.confirmedUserData m b aDest aSrc data)
      | .priUnconfirmedUserData => some (.unconfirmedUserData m aDest aSrc data)
      | .priRequestLinkStatus => some (.requestLinkStatus m aDest aSrc)
      | .secAck => some (.ack m fcv aDest aSrc)
      | .secNack => some (.nack m fcv aDest aSrc)
      | .secLinkStatus => some (.linkStatus m fcv aDest aSrc)
      | .secNotSupported => some (.notSupported m fcv aDest aSrc)
      | .invalid => none := by
  obtain ⟨h1, -, h3, h4, h5⟩ := LinkHeader.set_fields aLen aSrc aDest m fcv b hf
  rw [LinkLayerReceiver.sinkCall, h1, h3, h4, h5]
  cases f <;> rfl

/-- The receiver calls the sink with what the frame was formatted for. -/
theorem sinkCall_header (fr : Frame UserData) (b : Bool) :
    LinkLayerReceiver.sinkCall (fr.octets.header b) fr.octets.payload =
      some ((fr.withFcb b).octets) := by
  cases fr <;> exact sinkCall_set _ _ _ _ _ _ (by decide) _

end Frame

/-! ## What the encoder sends -/

namespace LinkFrame

/-- The frame that `Format*` makes, with the given frame count bit in its header. -/
def ofFrame (fr : Frame (List Byte)) (aFCB : Bool) : LinkFrame where
  mIsComplete := true
  mSize := calcFrameSize fr.payload.length
  mHeader := fr.header aFCB
  mpBuffer := (fr.header aFCB).write ++ writeUserData fr.payload fr.payload.length

/-- **The nine `Format*` functions**: a header for the function, and the payload in blocks. -/
theorem format_eq (fr : Frame UserData) : format fr.octets = .ok (ofFrame fr.octets fr.fcb) := by
  have hnil : writeUserData [] 0 = [] := writeUserData_zero []
  cases fr with
  | confirmedUserData m fcb dest src data =>
    simp only [Frame.octets, Frame.map, format, formatConfirmedUserData]
    rw [assert_of _ data.2.1, assert_of _ data.2.2]
    rfl
  | unconfirmedUserData m dest src data =>
    simp only [Frame.octets, Frame.map, format, formatUnconfirmedUserData]
    rw [assert_of _ data.2.1, assert_of _ data.2.2]
    rfl
  | _ =>
    simp only [ofFrame, Frame.octets, Frame.map, Frame.payload, List.length_nil, hnil,
      List.append_nil]
    rfl

/-- `ChangeFCB` gives the frame with that frame count bit. -/
theorem changeFCB_ofFrame (fr : Frame UserData) (b : Bool) :
    (ofFrame fr.octets fr.fcb).changeFCB b = ofFrame fr.octets b := by
  have hset : (fr.octets.header fr.fcb).isFcbSet = fr.fcb ∧
      (fr.octets.header fr.fcb).changeFCB b = fr.octets.header b := by
    cases fr <;>
      exact ⟨(LinkHeader.set_fields _ _ _ _ _ _ (by decide)).2.2.1,
        LinkHeader.changeFCB_set (by decide) b⟩
  rw [changeFCB]
  change (if (fr.octets.header fr.fcb).isFcbSet ≠ b then _ else _) = _
  rw [hset.1]
  by_cases hb : fr.fcb = b
  · rw [if_neg (not_not.mpr hb), hb]
  · rw [if_pos hb]
    simp only [ofFrame, hset.2]
    rw [List.drop_left' (LinkHeader.length_write _)]

/-- **What is sent** is the header and the blocks: as many octets as the frame announces. -/
theorem bytes_ofFrame (fr : Frame UserData) (b : Bool) :
    (ofFrame fr.octets b).bytes = (fr.octets.header b).write ++
      writeUserData fr.octets.payload fr.octets.payload.length := by
  apply List.take_of_length_le
  refine Nat.le_of_eq ?_
  rw [ofFrame, List.length_append, LinkHeader.length_write,
    length_writeUserData (Nat.le_refl _), calcFrameSize]

end LinkFrame

/-! ## What the decoder makes of it

The receiver goes through its three states once for a whole frame, and then waits for the next
start octets. -/

namespace LinkLayerReceiver

/-- The octets `bs`, read into a new receiver at once, make exactly these calls and leave it as it
was. -/
def Pushes (bs : List Byte) (calls : List (Frame (List Byte))) : Prop :=
  ∃ r, init.onRead bs = .ok (r, calls) ∧ r.mpState = .sync ∧ r.unread = []

/-- A receiver that waits for the body of a frame and has the whole of it pushes the frame and is
done. -/
theorem parseLoop_of_take_body {r : LinkLayerReceiver} (hr : r.Inv) (hs : r.mpState = .body)
    {f : Frame (List Byte)} (hl : frameScanner.look r.unread = .take r.unread.length f) :
    ∃ r', r.parseLoop = .ok (r', [f]) ∧ r'.mpState = .sync ∧ r'.unread = [] := by
  have hbody := look_body hr hs
  rw [hl] at hbody
  obtain ⟨-, hhead, hvalid, hheader, hframe⟩ :
      (∃ bs, r.unread = 0x05 :: 0x64 :: bs) ∧ lsHeaderSize ≤ r.unread.length ∧
      validHeaderAt r.unread = true ∧ r.mHeader = LinkHeader.read r.unread ∧
      r.mFrameSize = frameSizeAt r.unread := by simpa only [Inv, hs] using hr
  obtain ⟨f', hf'⟩ := frameAt_isSome hvalid
  obtain ⟨hlen, -⟩ | ⟨hlen, hok, b, hbuf, -, hp⟩ | ⟨hlen, hok, -⟩ := parse_body hs
  · rw [if_pos hlen] at hbody
    cases hbody
  · rw [if_neg (Nat.not_lt.mpr hlen), hok, hf'] at hbody
    obtain ⟨hsize, rfl⟩ := Verdict.take.inj hbody
    have hcall : sinkCall r.mHeader r.transferUserData = some f := by
      rw [transferUserData, hheader]
      exact hf'
    rw [hcall] at hp
    have hnil : b.readBuff = [] := by rw [hbuf, ← hsize, List.drop_length]
    obtain ⟨-, hp'⟩ | ⟨hlen', -⟩ := parse_sync (r := { r with mBuffer := b, mpState := .sync }) rfl
    · refine ⟨{ r with mBuffer := b, mpState := .sync }, ?_, rfl, hnil⟩
      rw [parseLoop_of_true hp, parseLoop_of_false hp']
      rfl
    · rw [hnil] at hlen'
      cases hlen'
  · rw [if_neg (Nat.not_lt.mpr hlen), hok] at hbody
    cases hbody

/-- A receiver that looks for start octets and has one whole frame pushes the frame and is done. -/
theorem parseLoop_of_take {r : LinkLayerReceiver} (hs : r.mpState = .sync)
    {f : Frame (List Byte)} (hstart : ∃ cs, r.unread = 0x05 :: 0x64 :: cs)
    (hl : frameScanner.look r.unread = .take r.unread.length f) :
    ∃ r', r.parseLoop = .ok (r', [f]) ∧ r'.mpState = .sync ∧ r'.unread = [] := by
  have hat := lookAt_eq_take hl
  have hhead : lsHeaderSize ≤ r.unread.length := by
    rw [(lookAtStart_eq_take hat).1]
    exact lsHeaderSize_le_frameSizeAt _
  have hvalid : validHeaderAt r.unread = true := by
    rw [lookAtStart, if_neg (Nat.not_lt.mpr hhead)] at hat
    by_contra h
    rw [if_pos (by simpa using h)] at hat
    cases hat
  have hsync : ShiftableBuffer.syncSubsequence syncPattern 2 r.mBuffer.readBuff 0 = 0 := by
    obtain ⟨cs, hcs⟩ := hstart
    change ShiftableBuffer.syncSubsequence syncPattern 2 r.unread 0 = 0
    rw [hcs, ShiftableBuffer.syncSubsequence, List.length_cons, Nat.min_eq_left (by omega)]
    rfl
  obtain ⟨hlen, -⟩ | ⟨hlen, b, hbuf, -, hp⟩ := parse_sync hs
  · exact absurd (Nat.le_trans (by decide) hhead) (Nat.not_le.mpr hlen)
  · rw [hsync] at hbuf
    change b.readBuff = r.unread at hbuf
    rw [hbuf, if_pos hlen] at hp
    obtain ⟨hlen', -⟩ | ⟨-, -, hp'⟩ | ⟨-, hbad, -⟩ :=
      parse_header (r := { r with mBuffer := b, mpState := .header }) rfl
    · rw [hbuf] at hlen'
      exact absurd hhead (Nat.not_le.mpr hlen')
    · obtain ⟨r', hr', hsync', hnil⟩ := parseLoop_of_take_body (f := f)
        (r := { r with
          mHeader := LinkHeader.read b.readBuff
          mFrameSize := calcFrameSize (LinkHeader.read b.readBuff).userDataLength
          mpState := .body, mBuffer := b })
        ⟨by rw [unread, hbuf]; exact hstart, by rw [unread, hbuf]; exact hhead,
          by rw [unread, hbuf]; exact hvalid, rfl, rfl⟩ rfl (by rw [unread, hbuf]; exact hl)
      refine ⟨r', ?_, hsync', hnil⟩
      rw [parseLoop_of_true hp, parseLoop_of_true hp', hr']
      rfl
    · rw [readHeader_eq, unread, hbuf] at hbad
      rw [hvalid] at hbad
      cases hbad

/-- A well-formed header and the blocks of its user data are taken as one frame. -/
theorem onRead_frame {h : LinkHeader} {data : List Byte} {call : Frame (List Byte)}
    (hwf : h.WellFormed) (hlen : h.userDataLength = data.length)
    (hcall : sinkCall h data = some call) :
    Pushes (h.write ++ writeUserData data data.length) [call] := by
  obtain ⟨bs, hbs⟩ : ∃ bs, bs = h.write ++ writeUserData data data.length := ⟨_, rfl⟩
  have hread : LinkHeader.read bs = h := by rw [hbs, LinkHeader.read_write]
  have hdrop : bs.drop lsHeaderSize = writeUserData data data.length := by
    rw [hbs, List.drop_left' (LinkHeader.length_write h)]
  have hvalid : validHeaderAt bs = true := by
    rw [validHeaderAt, hread, hbs, LinkHeader.isCorrectCRC_write, decide_eq_true hwf]
    rfl
  have hsize : bs.length = calcFrameSize h.userDataLength := by
    rw [hbs, List.length_append, LinkHeader.length_write, length_writeUserData (Nat.le_refl _),
      hlen, calcFrameSize]
  have hstart : ∃ cs, bs = 0x05 :: 0x64 :: cs := ⟨_, by rw [hbs, LinkHeader.write_eq]; rfl⟩
  have hlook : frameScanner.look bs = .take bs.length call := by
    have hblocks := validateBodyCRC_writeUserData [] (Nat.le_refl data.length)
    have huser := readUserData_writeUserData [] (Nat.le_refl data.length)
    rw [List.append_nil] at hblocks huser
    rw [look_start hstart, lookAtStart, if_neg, hvalid, frameSizeAt, hread, ← hsize,
      validBodyAt, hdrop, hread, hlen, hblocks, frameAt, hread, hdrop, hlen, huser,
        List.take_length,
      hcall, if_neg (Nat.lt_irrefl _)]
    · rfl
    · rw [hsize, calcFrameSize]
      omega
  have hfit : bs.length ≤ init.mBuffer.numWriteBytes := by
    rw [hsize]
    exact Nat.le_trans (calcFrameSize_le h.userDataLength_le) (by decide)
  obtain ⟨b, hb, hbuf, -⟩ := ShiftableBuffer.advanceWrite_ok hfit
  replace hbuf : b.readBuff = bs := hbuf
  obtain ⟨r, hr, hsync, hnil⟩ := parseLoop_of_take (r := { init with mBuffer := b }) (f := call) rfl
    (by rw [unread, hbuf]; exact hstart) (by rw [unread, hbuf]; exact hlook)
  refine ⟨{ r with mBuffer := r.mBuffer.shift }, ?_, hsync, hnil⟩
  rw [← hbs, onRead, assert_of _ hfit, except_ok_bind, hb, except_ok_bind, hr]
  rfl

end LinkLayerReceiver

open LinkLayerReceiver

/-- **A formatted frame is received as the call it was formatted for.** -/
theorem pushes_ofFrame (fr : Frame UserData) {b : Bool} (hb : fr.isPriToSec = true ∨ b = false) :
    Pushes (LinkFrame.ofFrame fr.octets b).bytes [(fr.withFcb b).octets] := by
  rw [LinkFrame.bytes_ofFrame]
  exact onRead_frame (fr.wellFormed_header hb) (fr.userDataLength_header b) (fr.sinkCall_header b)

/-- **Link frames round trip.**  Every frame that a `Format*` function makes is received as the one
call it was formatted for, and leaves the receiver as it was.  After `ChangeFCB` only the frame
count bit of the call has changed, if the call has one.  This leaves out a secondary frame in which
the bit was set, which is not a frame at all. -/
theorem linkFrame_round_trip (fr : Frame UserData) :
    ∃ f, LinkFrame.format fr.octets = .ok f ∧ Pushes f.bytes [fr.octets] ∧
      ∀ b, fr.isPriToSec = true ∨ b = false →
        Pushes (f.changeFCB b).bytes [(fr.withFcb b).octets] := by
  refine ⟨LinkFrame.ofFrame fr.octets fr.fcb, LinkFrame.format_eq fr, ?_, fun b hb ↦ ?_⟩
  · have h := pushes_ofFrame fr (b := fr.fcb) (by cases fr <;> simp [Frame.isPriToSec, Frame.fcb])
    have hfcb : fr.withFcb fr.fcb = fr := by cases fr <;> rfl
    rwa [hfcb] at h
  · rw [LinkFrame.changeFCB_ofFrame]
    exact pushes_ofFrame fr hb

/-- **A secondary frame with the frame count bit set is refused**: `ValidateFunctionCode` asks for a
zero there, and nothing else in the ten octets is a frame. -/
theorem pushes_nothing_of_secToPri (fr : Frame UserData) (hfr : fr.isPriToSec = false) :
    ∃ r, init.onRead (LinkFrame.ofFrame fr.octets true).bytes = .ok (r, []) := by
  have hbytes := LinkFrame.bytes_ofFrame fr true
  have hpay : writeUserData fr.octets.payload fr.octets.payload.length = [] := by
    cases fr <;> first | exact writeUserData_zero _ | cases hfr
  rw [hpay, List.append_nil] at hbytes
  rw [hbytes]
  have hlen := LinkHeader.length_write (fr.octets.header true)
  have hread : LinkHeader.read (fr.octets.header true).write = fr.octets.header true := by
    have h := LinkHeader.read_write (fr.octets.header true) []
    rwa [List.append_nil] at h
  have hbad : ¬ (fr.octets.header true).WellFormed := by
    intro h
    have h1 : (fr.octets.header true).isPriToSec = false ∧
        (fr.octets.header true).isFcbSet = true := by
      cases fr <;> first
        | exact ⟨(LinkHeader.set_fields _ _ _ _ _ _ (by decide)).2.1,
            (LinkHeader.set_fields _ _ _ _ _ _ (by decide)).2.2.1⟩
        | cases hfr
    exact absurd (h.fcb h1.1) (by simp [h1.2])
  have hskip : frameScanner.look (fr.octets.header true).write = .skip := by
    rw [look_start ⟨_, LinkHeader.write_eq _⟩, lookAtStart, if_neg (by rw [hlen]; decide),
      validHeaderAt, hread, decide_eq_false hbad, Bool.and_false]
    rfl
  have hitems : frameScanner.items (fr.octets.header true).write = [] := by
    rw [Scanner.items, Scanner.scan_of_skip hskip]
    exact items_of_length_lt (by rw [List.length_drop, hlen]; decide)
  obtain ⟨r, frames, hr, -, hf⟩ := onRead_spec waits_init
    (c := (fr.octets.header true).write) (by rw [hlen]; decide)
  rw [List.nil_append, hitems, items_of_length_lt (by decide)] at hf
  exact ⟨r, by rw [hr, show frames = [] from hf.symm]⟩

theorem linkFrame_round_trip_ack_changeFCB :
    ∃ f, LinkFrame.format (Frame.octets (.ack true false 1 1024)) = .ok f ∧
      ¬ Pushes (f.changeFCB true).bytes
        [(Frame.withFcb (.ack true false 1 1024) true : Frame UserData).octets] := by
  refine ⟨_, LinkFrame.format_eq (.ack true false 1 1024), ?_⟩
  rintro ⟨r, hr, -⟩
  obtain ⟨r', hr'⟩ := pushes_nothing_of_secToPri (.ack true false 1 1024) rfl
  rw [LinkFrame.changeFCB_ofFrame, hr'] at hr
  cases hr

end OpenDNP3
