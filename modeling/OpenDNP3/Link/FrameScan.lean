import OpenDNP3.Lib.Scan
import OpenDNP3.Link.Receiver

/-!
# The receiver is the greedy frame scanner

What a link receiver is for can be said without states, buffers or reads: go through the stream
from left to right, and at each position take the frame that starts there, if there is one.
`frameScanner` is that definition.  It asks one question of the octets at a position, and answers
`wait` exactly when too few of them have arrived.

`LinkLayerReceiver` computes the same thing with a search for start octets, a three-state machine
and a buffer that is shifted after each read.  `parse_spec` relates one step of the machine to the
scanner, `parseLoop_spec` and `onRead_spec` follow by induction, and `onReads_eq_items` is the
result: **however the stream is cut into reads, the receiver pushes the frames of the scan.**
-/

set_option autoImplicit false

namespace OpenDNP3

open Scan

/-! ## The reference scan

What the receiver should find in a stream, as a function of the whole stream: at each position a
frame is taken, or the octet is skipped, or more octets have to come before this can be told. -/

instance (h : LinkHeader) : Decidable h.WellFormed :=
  decidable_of_iff (lsMinLength ≤ h.length.toNat ∧ h.getFuncEnum ≠ .invalid ∧
      (h.isPriToSec = true → h.isFcvDfcSet = h.getFuncEnum.usesFcb) ∧
      (h.isPriToSec = false → h.isFcbSet = false) ∧
      (0 < h.userDataLength ↔ h.getFuncEnum.hasUserData = true))
    ⟨fun ⟨h1, h2, h3, h4, h5⟩ ↦ ⟨h1, h2, h3, h4, h5⟩,
      fun h ↦ ⟨h.length, h.func, h.fcv, h.fcb, h.data⟩⟩

/-- The header at the start of `bs` is valid: its CRC is right and it is well formed. -/
def validHeaderAt (bs : List Byte) : Bool :=
  DNPCrc.isCorrectCRC bs liCrc && decide (LinkHeader.read bs).WellFormed

/-- The size of the frame whose header is at the start of `bs`. -/
def frameSizeAt (bs : List Byte) : ℕ := calcFrameSize (LinkHeader.read bs).userDataLength

/-- The blocks of the frame at the start of `bs` are valid. -/
def validBodyAt (bs : List Byte) : Bool :=
  validateBodyCRC (bs.drop lsHeaderSize) (LinkHeader.read bs).userDataLength

/-- The frame at the start of `bs`. -/
def frameAt (bs : List Byte) : Option (Frame (List Byte)) :=
  let h := LinkHeader.read bs
  LinkLayerReceiver.sinkCall h (readUserData (bs.drop lsHeaderSize) h.userDataLength)

/-- What there is at a position with the start octets `05 64`. -/
def lookAtStart (bs : List Byte) : Verdict (Frame (List Byte)) :=
  if bs.length < lsHeaderSize then .wait
  else if !validHeaderAt bs then .skip
  else if bs.length < frameSizeAt bs then .wait
  else if !validBodyAt bs then .skip
  else match frameAt bs with
    | some f => .take (frameSizeAt bs) f
    | none => .skip

/-- What there is at a position of the stream. -/
def lookAt : List Byte → Verdict (Frame (List Byte))
  | [] => .wait
  | [b] => if b = 0x05 then .wait else .skip
  | b :: c :: bs => if b = 0x05 ∧ c = 0x64 then lookAtStart (b :: c :: bs) else .skip

theorem lsHeaderSize_le_frameSizeAt (bs : List Byte) : lsHeaderSize ≤ frameSizeAt bs :=
  Nat.le_add_right _ _

/-- The only way to take a frame. -/
theorem lookAtStart_eq_take {bs : List Byte} {n : ℕ} {f : Frame (List Byte)}
    (h : lookAtStart bs = .take n f) : n = frameSizeAt bs ∧ n ≤ bs.length ∧
    frameAt bs = some f := by
  unfold lookAtStart at h
  split at h
  · cases h
  · split at h
    · cases h
    · split at h
      · cases h
      · split at h
        · cases h
        · split at h
          · next hf =>
            cases h
            exact ⟨rfl, by omega, hf⟩
          · cases h

theorem lookAt_eq_take {bs : List Byte} {n : ℕ} {f : Frame (List Byte)}
    (h : lookAt bs = .take n f) : lookAtStart bs = .take n f := by
  match bs, h with
  | [], h => cases h
  | [b], h =>
    rw [lookAt] at h
    split at h <;> cases h
  | b :: c :: bs, h =>
    rw [lookAt] at h
    split at h
    · exact h
    · cases h

theorem validHeaderAt_append {bs : List Byte} (cs : List Byte) (h : lsHeaderSize ≤ bs.length) :
    validHeaderAt (bs ++ cs) = validHeaderAt bs := by
  rw [lsHeaderSize] at h
  rw [validHeaderAt, validHeaderAt, LinkHeader.read_append cs (by omega),
    DNPCrc.isCorrectCRC_append cs (by rw [liCrc]; omega)]

theorem frameSizeAt_append {bs : List Byte} (cs : List Byte) (h : lsHeaderSize ≤ bs.length) :
    frameSizeAt (bs ++ cs) = frameSizeAt bs := by
  rw [lsHeaderSize] at h
  rw [frameSizeAt, frameSizeAt, LinkHeader.read_append cs (by omega)]

theorem validBodyAt_append {bs : List Byte} (cs : List Byte) (h : frameSizeAt bs ≤ bs.length) :
    validBodyAt (bs ++ cs) = validBodyAt bs := by
  have hlen := Nat.le_trans (lsHeaderSize_le_frameSizeAt bs) h
  have hbody : bodySize (LinkHeader.read bs).userDataLength ≤ (bs.drop lsHeaderSize).length := by
    rw [List.length_drop]
    rw [frameSizeAt, calcFrameSize] at h
    omega
  rw [validBodyAt, validBodyAt, List.drop_append_of_le_length hlen,
    LinkHeader.read_append cs (by rw [lsHeaderSize] at hlen; omega),
    validateBodyCRC_append cs hbody]

theorem frameAt_append {bs : List Byte} (cs : List Byte) (h : frameSizeAt bs ≤ bs.length) :
    frameAt (bs ++ cs) = frameAt bs := by
  have hlen := Nat.le_trans (lsHeaderSize_le_frameSizeAt bs) h
  have hbody : bodySize (LinkHeader.read bs).userDataLength ≤ (bs.drop lsHeaderSize).length := by
    rw [List.length_drop]
    rw [frameSizeAt, calcFrameSize] at h
    omega
  rw [frameAt, frameAt, List.drop_append_of_le_length hlen,
    LinkHeader.read_append cs (by rw [lsHeaderSize] at hlen; omega),
    readUserData_append cs hbody]

/-- More octets do not change what there is at a position. -/
theorem lookAtStart_append {bs : List Byte} (cs : List Byte) (h : lookAtStart bs ≠ .wait) :
    lookAtStart (bs ++ cs) = lookAtStart bs := by
  unfold lookAtStart at h ⊢
  by_cases h1 : bs.length < lsHeaderSize
  · exact absurd (if_pos h1) h
  · have h1' : ¬ (bs ++ cs).length < lsHeaderSize := by
      rw [List.length_append]
      omega
    rw [if_neg h1] at h ⊢
    rw [if_neg h1', validHeaderAt_append cs (by omega), frameSizeAt_append cs (by omega)]
    by_cases h2 : (!validHeaderAt bs) = true
    · rw [if_pos h2, if_pos h2]
    · rw [if_neg h2] at h ⊢
      rw [if_neg h2]
      by_cases h3 : bs.length < frameSizeAt bs
      · exact absurd (if_pos h3) h
      · have h3' : ¬ (bs ++ cs).length < frameSizeAt bs := by
          rw [List.length_append]
          omega
        rw [if_neg h3, if_neg h3', validBodyAt_append cs (by omega), frameAt_append cs (by omega)]

/-- The reference scanner of link frames. -/
def frameScanner : Scanner Byte (Frame (List Byte)) where
  look := lookAt
  take_pos h := by
    rw [(lookAtStart_eq_take (lookAt_eq_take h)).1]
    exact Nat.lt_of_lt_of_le (by decide) (lsHeaderSize_le_frameSizeAt _)
  take_le h := (lookAtStart_eq_take (lookAt_eq_take h)).2.1
  skip_ne_nil h := by
    rintro rfl
    cases h
  look_append := by
    intro bs cs h
    match bs, h with
    | [], h => exact absurd rfl h
    | [b], h =>
      by_cases hb : b = 0x05
      · exact absurd (by rw [lookAt, if_pos hb]) h
      · cases cs with
        | nil => rfl
        | cons c cs =>
          change lookAt (b :: c :: cs) = lookAt [b]
          rw [lookAt, lookAt, if_neg hb, if_neg (fun h ↦ hb h.1)]
    | b :: c :: bs, h =>
      change lookAt (b :: c :: (bs ++ cs)) = lookAt (b :: c :: bs)
      rw [lookAt] at h ⊢
      rw [lookAt]
      by_cases hb : b = 0x05 ∧ c = 0x64
      · rw [if_pos hb] at h ⊢
        rw [if_pos hb]
        exact lookAtStart_append cs h
      · rw [if_neg hb, if_neg hb]

/-! ## The search for the start octets -/

/-- **`Sync` skips what the scan skips.**  It stops at the first position where a frame may start:
at the start octets, at a last octet that may be the first of them, or at the end. -/
theorem syncSubsequence_start (bs : List Byte) (k : ℕ) :
    ∃ m, ShiftableBuffer.syncSubsequence LinkLayerReceiver.syncPattern 2 bs k = k + m ∧
      frameScanner.scan bs = frameScanner.scan (bs.drop m) ∧
      (bs.drop m = [] ∨ bs.drop m = [0x05] ∨ ∃ cs, bs.drop m = 0x05 :: 0x64 :: cs) := by
  induction bs generalizing k with
  | nil => exact ⟨0, rfl, rfl, .inl rfl⟩
  | cons b bs ih =>
    cases bs with
    | nil =>
      rw [ShiftableBuffer.syncSubsequence]
      by_cases hb : b = 0x05
      · subst hb
        exact ⟨0, rfl, rfl, .inr (.inl rfl)⟩
      · have hne : ¬ LinkLayerReceiver.syncPattern.take 1 = [b].take 1 :=
          fun h ↦ hb (List.cons.inj h).1.symm
        refine ⟨1, if_neg hne, Scanner.scan_of_skip ?_, .inl rfl⟩
        change lookAt [b] = .skip
        rw [lookAt, if_neg hb]
    | cons c cs =>
      rw [ShiftableBuffer.syncSubsequence]
      have hn : min 2 ((c :: cs).length + 1) = 2 := by
        rw [List.length_cons]
        omega
      by_cases hb : b = 0x05 ∧ c = 0x64
      · obtain ⟨rfl, rfl⟩ := hb
        exact ⟨0, by rw [hn]; rfl, rfl, .inr (.inr ⟨cs, rfl⟩)⟩
      · have hne : ¬ LinkLayerReceiver.syncPattern.take 2 = (b :: c :: cs).take 2 := by
          intro h
          have h1 := List.cons.inj h
          exact hb ⟨h1.1.symm, (List.cons.inj h1.2).1.symm⟩
        obtain ⟨m, hm, hscan, hrest⟩ := ih (k + 1)
        refine ⟨m + 1, ?_, ?_, hrest⟩
        · rw [hn]
          change (if _ then _ else _) = _
          rw [if_neg hne, hm]
          omega
        · rw [Scanner.scan_of_skip (show frameScanner.look (b :: c :: cs) = .skip from ?_)]
          · exact hscan
          · change lookAt (b :: c :: cs) = .skip
            rw [lookAt, if_neg hb]

/-! ## The refinement

The octets that the receiver has not read are the ones that the scan has not decided on, whatever
state the receiver is in. -/

namespace LinkLayerReceiver

/-- The unread octets. -/
abbrev unread (r : LinkLayerReceiver) : List Byte := r.mBuffer.readBuff

/-- What the receiver knows of the unread octets in each of its states. -/
def Inv (r : LinkLayerReceiver) : Prop :=
  match r.mpState with
  | .sync => True
  | .header => ∃ bs, r.unread = 0x05 :: 0x64 :: bs
  | .body => (∃ bs, r.unread = 0x05 :: 0x64 :: bs) ∧ lsHeaderSize ≤ r.unread.length ∧
      validHeaderAt r.unread = true ∧ r.mHeader = LinkHeader.read r.unread ∧
      r.mFrameSize = frameSizeAt r.unread

/-- `ReadHeader` decides whether there is a valid header. -/
theorem readHeader_eq (r : LinkLayerReceiver) : r.readHeader.1 = validHeaderAt r.unread := by
  rw [Bool.eq_iff_iff, readHeader, validateHeader_iff, validHeaderAt, Bool.and_eq_true,
    decide_eq_true_eq]

/-- In less than a header there is nothing to find. -/
theorem items_of_length_lt {bs : List Byte} (h : bs.length < lsHeaderSize) :
    frameScanner.items bs = [] := by
  refine Scanner.items_of_length_lt (fun {cs n f} hl ↦ ?_) h
  rw [(lookAtStart_eq_take (lookAt_eq_take hl)).1]
  exact lsHeaderSize_le_frameSizeAt cs

theorem look_start {bs : List Byte} (h : ∃ cs, bs = 0x05 :: 0x64 :: cs) :
    frameScanner.look bs = lookAtStart bs := by
  obtain ⟨cs, rfl⟩ := h
  change lookAt (0x05 :: 0x64 :: cs) = _
  rw [lookAt, if_pos ⟨rfl, rfl⟩]

/-- A valid header has a call of the sink. -/
theorem frameAt_isSome {bs : List Byte} (h : validHeaderAt bs = true) :
    ∃ f, frameAt bs = some f := by
  rw [validHeaderAt, Bool.and_eq_true, decide_eq_true_eq] at h
  have hf := h.2.func
  unfold frameAt sinkCall
  simp only
  split <;> first | exact ⟨_, rfl⟩ | contradiction

/-- In `LRS_Body` the receiver has decided all that there is to decide but the blocks. -/
theorem look_body {r : LinkLayerReceiver} (hr : r.Inv) (hs : r.mpState = .body) :
    frameScanner.look r.unread = if r.unread.length < r.mFrameSize then .wait
      else if !r.validateBody then .skip
      else match frameAt r.unread with
        | some f => .take r.mFrameSize f
        | none => .skip := by
  simp only [Inv, hs] at hr
  obtain ⟨hstart, hhead, hvalid, hheader, hframe⟩ := hr
  have hbody : r.validateBody = validBodyAt r.unread := by
    rw [validateBody, hheader]
    rfl
  rw [look_start hstart, lookAtStart, if_neg (Nat.not_lt.mpr hhead), hvalid, hframe, hbody]
  rfl

/-- A receiver that cannot go on has nothing to push, and one that can pushes what the scan finds
at the position and stands where the scan goes on. -/
theorem parse_spec {r : LinkLayerReceiver} (hr : r.Inv) :
    (r.parse = .ok (false, r, []) ∧ frameScanner.items r.unread = [] ∧
      r.unread.length < lsMaxFrameSize) ∨
    ∃ r' frames, r.parse = .ok (true, r', frames) ∧ r'.Inv ∧
      r'.mBuffer.mSize = r.mBuffer.mSize ∧
      frameScanner.items r.unread = frames ++ frameScanner.items r'.unread ∧
      frameScanner.rest r.unread = frameScanner.rest r'.unread := by
  -- a position that is skipped leaves the rest of the scan to the receiver after it
  have hskip : ∀ {b : ShiftableBuffer}, b.readBuff = r.unread.drop 1 →
      frameScanner.look r.unread = .skip →
      frameScanner.items r.unread = frameScanner.items b.readBuff ∧
        frameScanner.rest r.unread = frameScanner.rest b.readBuff := by
    intro b hb hl
    rw [Scanner.items, Scanner.rest, Scanner.scan_of_skip hl, hb]
    exact ⟨rfl, rfl⟩
  cases hs : r.mpState with
  | sync =>
    obtain ⟨hlen, hp⟩ | ⟨-, b, hbuf, hsize, hp⟩ := parse_sync hs
    · exact .inl ⟨hp, items_of_length_lt (Nat.lt_trans hlen (by decide)), Nat.lt_trans hlen
        (by decide)⟩
    · obtain ⟨m, hm, hscan, hrest⟩ := syncSubsequence_start r.unread 0
      have hm' : b.readBuff = r.unread.drop m := by
        rw [hbuf]
        change r.unread.drop (ShiftableBuffer.syncSubsequence syncPattern 2 r.unread 0) = _
        rw [hm, Nat.zero_add]
      refine .inr ⟨_, [], hp, ?_, hsize, ?_, ?_⟩
      · by_cases h2 : 2 ≤ b.readBuff.length
        · simp only [Inv, if_pos h2]
          rw [← hm'] at hrest
          obtain hnil | hone | hstart := hrest
          · simp [hnil] at h2
          · simp [hone] at h2
          · exact hstart
        · simp only [Inv, if_neg h2]
      · change _ = frameScanner.items b.readBuff
        rw [hm', Scanner.items, hscan]
        rfl
      · change _ = frameScanner.rest b.readBuff
        rw [hm', Scanner.rest, hscan]
        rfl
  | header =>
    have hstart : ∃ bs, r.unread = 0x05 :: 0x64 :: bs := by simpa only [Inv, hs] using hr
    obtain ⟨hlen, hp⟩ | ⟨hlen, hok, hp⟩ | ⟨hlen, hok, b, n, hbuf, hsize, hp⟩ := parse_header hs
    · refine .inl ⟨hp, ?_, Nat.lt_trans hlen (by decide)⟩
      rw [Scanner.items, Scanner.scan_of_wait (by rw [look_start hstart]; exact if_pos hlen)]
    · rw [readHeader_eq] at hok
      exact .inr ⟨_, [], hp, ⟨hstart, hlen, hok, rfl, rfl⟩, rfl, rfl, rfl⟩
    · rw [readHeader_eq] at hok
      have hl : frameScanner.look r.unread = .skip := by
        rw [look_start hstart, lookAtStart, if_neg (Nat.not_lt.mpr hlen), hok]
        rfl
      exact .inr ⟨_, [], hp, trivial, hsize, hskip hbuf hl⟩
  | body =>
    obtain ⟨hstart, hhead, hvalid, hheader, hframe⟩ :
        (∃ bs, r.unread = 0x05 :: 0x64 :: bs) ∧ lsHeaderSize ≤ r.unread.length ∧
        validHeaderAt r.unread = true ∧ r.mHeader = LinkHeader.read r.unread ∧
        r.mFrameSize = frameSizeAt r.unread := by simpa only [Inv, hs] using hr
    have hl := look_body hr hs
    obtain ⟨hlen, hp⟩ | ⟨hlen, hok, b, hbuf, hsize, hp⟩ |
      ⟨hlen, hok, ⟨h0, -⟩ | ⟨b, -, hbuf, hsize, hp⟩⟩ := parse_body hs
    · refine .inl ⟨hp, ?_, ?_⟩
      · rw [Scanner.items, Scanner.scan_of_wait (by rw [hl]; exact if_pos hlen)]
      · rw [hframe] at hlen
        exact Nat.lt_of_lt_of_le hlen (calcFrameSize_le (LinkHeader.userDataLength_le _))
    · obtain ⟨f, hf⟩ := frameAt_isSome hvalid
      have hcall : sinkCall r.mHeader r.transferUserData = some f := by
        rw [transferUserData, hheader]
        exact hf
      rw [if_neg (Nat.not_lt.mpr hlen), hok, hf] at hl
      rw [hcall] at hp
      refine .inr ⟨_, [f], hp, trivial, hsize, ?_, ?_⟩
      · change _ = [f] ++ frameScanner.items b.readBuff
        rw [Scanner.items, Scanner.scan_of_take hl, hbuf]
        rfl
      · change _ = frameScanner.rest b.readBuff
        rw [Scanner.rest, Scanner.scan_of_take hl, hbuf]
    · have := lsHeaderSize_le_frameSizeAt r.unread
      rw [← hframe, h0] at this
      cases this
    · rw [if_neg (Nat.not_lt.mpr hlen), hok] at hl
      exact .inr ⟨_, [], hp, trivial, hsize, hskip hbuf hl⟩

/-- The loop pushes all that the scan finds in the unread octets. -/
theorem parseLoop_spec {r : LinkLayerReceiver} (hr : r.Inv) :
    ∃ r', r.parseLoop = .ok (r', frameScanner.items r.unread) ∧ r'.Inv ∧
      r'.mBuffer.mSize = r.mBuffer.mSize ∧ r'.unread.length < lsMaxFrameSize ∧
      frameScanner.Keeps r'.unread r.unread := by
  induction hn : r.measure using Nat.strongRecOn generalizing r with
  | _ n ih =>
    obtain ⟨hp, hi, hshort⟩ | ⟨r', frames, hp, hr', hsize, hi, hrest⟩ := parse_spec hr
    · exact ⟨r, by rw [parseLoop_of_false hp, hi], hr, rfl, hshort, hi, rfl⟩
    · obtain ⟨r'', hl, hr'', hsize', hshort, hkeeps⟩ :=
        ih r'.measure (hn ▸ parse_measure hp) hr' rfl
      refine ⟨r'', ?_, hr'', by rw [hsize', hsize], hshort, hkeeps.items, ?_⟩
      · rw [parseLoop_of_true hp, hl, hi]
        rfl
      · rw [hkeeps.rest, hrest]

/-- Octets that arrive do not change what the receiver knows of those that are there. -/
theorem Inv.append {r : LinkLayerReceiver} (hr : r.Inv) {b : ShiftableBuffer} {c : List Byte}
    (hb : b.readBuff = r.unread ++ c) : Inv { r with mBuffer := b } := by
  revert hr
  simp only [Inv, unread, hb]
  cases r.mpState with
  | sync => exact id
  | header =>
    rintro ⟨cs, hcs⟩
    exact ⟨cs ++ c, by rw [hcs]; rfl⟩
  | body =>
    rintro ⟨⟨cs, hcs⟩, hlen, hvalid, hheader, hframe⟩
    refine ⟨⟨cs ++ c, by rw [hcs]; rfl⟩, ?_, ?_, ?_, ?_⟩
    · rw [List.length_append]
      omega
    · rw [validHeaderAt_append c hlen, hvalid]
    · rw [LinkHeader.read_append c (by rw [lsHeaderSize] at hlen; omega), hheader]
    · rw [frameSizeAt_append c hlen, hframe]

/-- A receiver between two reads, after it has read `bs`. -/
structure Waits (r : LinkLayerReceiver) (bs : List Byte) : Prop where
  inv : r.Inv
  room : bufferSize - lsMaxFrameSize < r.mBuffer.numWriteBytes
  size : r.mBuffer.mSize = bufferSize
  keeps : frameScanner.Keeps r.unread bs

theorem waits_init : init.Waits [] where
  inv := trivial
  room := by decide
  size := rfl
  keeps := ⟨items_of_length_lt (by decide), rfl⟩

/-- **A read** of octets that fit pushes what they complete. -/
theorem onRead_spec {r : LinkLayerReceiver} {bs : List Byte} (hr : r.Waits bs) {c : List Byte}
    (hc : c.length ≤ r.mBuffer.numWriteBytes) :
    ∃ r' frames, r.onRead c = .ok (r', frames) ∧ r'.Waits (bs ++ c) ∧
      frameScanner.items (bs ++ c) = frameScanner.items bs ++ frames := by
  obtain ⟨b, hb, hbuf, hsize⟩ := ShiftableBuffer.advanceWrite_ok hc
  obtain ⟨r', hl, hr', hsize', hshort, hkeeps⟩ := parseLoop_spec (hr.inv.append hbuf)
  rw [hsize, hr.size] at hsize'
  refine ⟨{ r' with mBuffer := r'.mBuffer.shift }, frameScanner.items b.readBuff, ?_, ?_, ?_⟩
  · rw [onRead, assert_of _ hc, except_ok_bind, hb, except_ok_bind, hl]
    rfl
  · refine ⟨hr', ?_, hsize', hkeeps.items, ?_⟩
    · rw [ShiftableBuffer.numWriteBytes_shift, hsize']
      have hlt : r'.mBuffer.readBuff.length < 292 := hshort
      rw [bufferSize, lsMaxFrameSize]
      omega
    · change frameScanner.rest r'.unread = _
      rw [hkeeps.rest, ← hr.keeps.rest_append c, ← hbuf]
  · rw [hr.keeps.items_append c, ← hbuf]

/-! ## The receiver and the scan

A stream may be read in pieces of any size that the buffer has room for. What is found does not
depend on where it is cut. -/

/-- Each read fits in what the receiver offers of its buffer at that moment. -/
def Fits (r : LinkLayerReceiver) : List (List Byte) → Prop
  | [] => True
  | c :: cs => c.length ≤ r.mBuffer.numWriteBytes ∧
      ∀ r' frames, r.onRead c = .ok (r', frames) → r'.Fits cs

/-- Between two reads there is room for sixteen frames, so short reads always fit. -/
theorem fits_of_length_le {r : LinkLayerReceiver} {bs : List Byte} (hr : r.Waits bs)
    {chunks : List (List Byte)} (h : ∀ c ∈ chunks, c.length ≤ bufferSize - lsMaxFrameSize) :
    r.Fits chunks := by
  induction chunks generalizing r bs with
  | nil => trivial
  | cons c cs ih =>
    have hc : c.length ≤ r.mBuffer.numWriteBytes :=
      Nat.le_of_lt (Nat.lt_of_le_of_lt (h c (List.mem_cons_self ..)) hr.room)
    refine ⟨hc, fun r' frames h' ↦ ?_⟩
    obtain ⟨r₁, f₁, h₁, hw, -⟩ := onRead_spec hr hc
    rw [h₁] at h'
    cases h'
    exact ih hw fun c' hc' ↦ h c' (List.mem_cons_of_mem c hc')

theorem onReads_of_waits {r : LinkLayerReceiver} {bs : List Byte} (hr : r.Waits bs)
    {chunks : List (List Byte)} (hfit : r.Fits chunks) :
    ∃ r' frames, r.onReads chunks = .ok (r', frames) ∧
      frameScanner.items (bs ++ chunks.flatten) = frameScanner.items bs ++ frames := by
  induction chunks generalizing r bs with
  | nil => exact ⟨r, [], rfl, by simp⟩
  | cons c cs ih =>
    obtain ⟨r₁, f₁, h₁, hw, hi₁⟩ := onRead_spec hr hfit.1
    obtain ⟨r₂, f₂, h₂, hi₂⟩ := ih hw (hfit.2 _ _ h₁)
    refine ⟨r₂, f₁ ++ f₂, ?_, ?_⟩
    · rw [onReads, h₁, except_ok_bind, h₂]
      rfl
    · rw [List.flatten_cons, ← List.append_assoc, hi₂, hi₁, List.append_assoc]

/-- **The receiver is the greedy frame scanner.**  Whatever a stream is and however it is cut into
reads that fit the buffer, every read returns, and the frames pushed are those of the scan of the
whole stream. -/
theorem onReads_eq_items (chunks : List (List Byte)) (hfit : init.Fits chunks) :
    ∃ r, init.onReads chunks = .ok (r, frameScanner.items chunks.flatten) := by
  obtain ⟨r, frames, h, hi⟩ := onReads_of_waits waits_init hfit
  have h0 : frameScanner.items [] = [] := items_of_length_lt (by decide)
  rw [List.nil_append, h0, List.nil_append] at hi
  exact ⟨r, by rw [hi, h]⟩

theorem onReads_eq_items_split :
    ∃ r, init.onReads [[0xFF, 0x05, 0x64, 0x05, 0xC0], [0x01, 0x00, 0x00, 0x04, 0xE9, 0x21]] =
      .ok (r, frameScanner.items
        [0xFF, 0x05, 0x64, 0x05, 0xC0, 0x01, 0x00, 0x00, 0x04, 0xE9, 0x21]) :=
  onReads_eq_items [[0xFF, 0x05, 0x64, 0x05, 0xC0], [0x01, 0x00, 0x00, 0x04, 0xE9, 0x21]]
    (fits_of_length_le waits_init (by decide))

end LinkLayerReceiver

end OpenDNP3
