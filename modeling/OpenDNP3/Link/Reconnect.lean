import OpenDNP3.Link.RoundTrip
import OpenDNP3.Link.Router

/-!
# What a closed connection leaves behind

`LinkLayerRouter` receives through one `LinkLayerReceiver` for all connections of its port.  When
the port closes, the router empties its transmit queue; the receiver is left as it is, with its
state and the octets that it has not decided on.

* `LinkReader` — the receiving side of the router, with the routes that frames are handed on to.
* `forgets_iff` — when the octets left over do not matter: **whatever ten octets follow, no frame
  starts in them**.
* `LinkReader.reopened_clean_iff` — then, and only then, a reopened connection delivers what a fresh
  receiver would.
-/

set_option autoImplicit false

namespace OpenDNP3

open Scan LinkLayerReceiver

/-! ## Where frames start

Facts about a frame that the scanner takes: how long it is, that it starts with the two start
octets, and that the octets after it are not looked at. -/

theorem lookAtStart_take_spec {bs : List Byte} {n : ℕ} {f : Frame (List Byte)}
    (h : lookAtStart bs = .take n f) :
    validHeaderAt bs = true ∧ n = frameSizeAt bs ∧ n ≤ bs.length ∧ frameAt bs = some f := by
  obtain ⟨hn, hle, -⟩ := lookAtStart_eq_take h
  unfold lookAtStart at h
  split at h
  · cases h
  · split at h
    · cases h
    · next hvalid =>
      have hvalid : validHeaderAt bs = true := by simpa using hvalid
      split at h
      · cases h
      · split at h
        · cases h
        · split at h
          · next g hg =>
            cases h
            exact ⟨hvalid, hn, hle, hg⟩
          · cases h

/-- The only way to take a frame: its header is valid, and it has arrived. -/
theorem look_take_spec {bs : List Byte} {n : ℕ} {f : Frame (List Byte)}
    (h : frameScanner.look bs = .take n f) :
    (∃ cs, bs = 0x05 :: 0x64 :: cs) ∧ validHeaderAt bs = true ∧ n = frameSizeAt bs ∧
      n ≤ bs.length ∧ frameAt bs = some f := by
  have hat := lookAtStart_take_spec (lookAt_eq_take h)
  refine ⟨?_, hat⟩
  match bs, h with
  | [b], h =>
    have hone : lookAt [b] = .take n f := h
    rw [lookAt] at hone
    split at hone <;> cases hone
  | b :: c :: bs, h =>
    have hmany : lookAt (b :: c :: bs) = .take n f := h
    rw [lookAt] at hmany
    split at hmany
    · next hstart =>
      obtain ⟨rfl, rfl⟩ := hstart
      exact ⟨bs, rfl⟩
    · cases hmany

/-- A frame is as long as its user data makes it. -/
theorem size_of_take {bs : List Byte} {n : ℕ} {f : Frame (List Byte)}
    (h : frameScanner.look bs = .take n f) : n = calcFrameSize f.payload.length := by
  obtain ⟨-, hvalid, hn, hle, hf⟩ := look_take_spec h
  rw [validHeaderAt, Bool.and_eq_true, decide_eq_true_eq] at hvalid
  have hdata := hvalid.2.data
  have hbody : bodySize (LinkHeader.read bs).userDataLength ≤ (bs.drop lsHeaderSize).length := by
    rw [List.length_drop]
    rw [hn, frameSizeAt, calcFrameSize] at hle
    omega
  have hread := length_readUserData hbody
  rw [hn, frameSizeAt]
  congr 1
  rw [frameAt] at hf
  -- a frame without user data announces none
  cases hfunc : (LinkHeader.read bs).getFuncEnum <;>
    simp only [sinkCall, hfunc, Option.some.injEq, reduceCtorEq] at hf <;> subst hf <;>
    simp only [Frame.payload, List.length_nil, hread] <;>
    simpa [hfunc, FuncCodes.hasUserData] using hdata

/-- No frame is shorter than a header. -/
theorem lsHeaderSize_le_of_take {bs : List Byte} {n : ℕ} {f : Frame (List Byte)}
    (h : frameScanner.look bs = .take n f) : lsHeaderSize ≤ n := by
  rw [(look_take_spec h).2.2.1]
  exact lsHeaderSize_le_frameSizeAt bs

/-- A frame that is found fits in the octets. -/
theorem size_le_of_mem_items {bs : List Byte} {f : Frame (List Byte)}
    (h : f ∈ frameScanner.items bs) : calcFrameSize f.payload.length ≤ bs.length := by
  obtain ⟨v, n, hv, hl⟩ := Scanner.exists_of_mem_items h
  rw [← size_of_take hl]
  exact Nat.le_trans (frameScanner.take_le hl) hv.length_le

/-- A receiver that waits with a whole header waits for the rest of the frame. -/
theorem look_wait_spec {bs : List Byte} (h : frameScanner.look bs = .wait)
    (hlen : lsHeaderSize ≤ bs.length) :
    (∃ cs, bs = 0x05 :: 0x64 :: cs) ∧ validHeaderAt bs = true ∧ bs.length < frameSizeAt bs := by
  match bs, h, hlen with
  | [], _, hlen => exact absurd hlen (by simp [lsHeaderSize])
  | [b], _, hlen => exact absurd hlen (by simp [lsHeaderSize])
  | b :: c :: bs, h, hlen =>
    have hmany : lookAt (b :: c :: bs) = .wait := h
    rw [lookAt] at hmany
    split at hmany
    · next hstart =>
      obtain ⟨rfl, rfl⟩ := hstart
      rw [lookAtStart, if_neg (Nat.not_lt.mpr hlen)] at hmany
      split at hmany
      · cases hmany
      · next hvalid =>
        split at hmany
        · next hwait => exact ⟨⟨bs, rfl⟩, by simpa using hvalid, hwait⟩
        · split at hmany
          · cases hmany
          · split at hmany <;> cases hmany
    · cases hmany

/-- A frame does not need the octets after it. -/
theorem look_take {bs : List Byte} {n : ℕ} {f : Frame (List Byte)}
    (h : frameScanner.look bs = .take n f) : frameScanner.look (bs.take n) = .take n f := by
  obtain ⟨⟨cs, hcs⟩, hvalid, hn, hle, -⟩ := look_take_spec h
  have hhead := lsHeaderSize_le_of_take h
  have hlen : (bs.take n).length = n := by simp [hle]
  have hwhole : bs.take n ++ bs.drop n = bs := List.take_append_drop n bs
  have hsize : frameSizeAt (bs.take n) = n := by
    have hsame := frameSizeAt_append (bs.drop n) (Nat.le_trans hhead (Nat.le_of_eq hlen.symm))
    rw [hwhole] at hsame
    exact hsame.symm.trans hn.symm
  have hnow : frameScanner.look (bs.take n) ≠ .wait := by
    intro hw
    have hlt := (look_wait_spec hw (by rw [hlen]; exact hhead)).2.2
    rw [hlen, hsize] at hlt
    exact Nat.lt_irrefl n hlt
  rw [← frameScanner.look_append (bs.drop n) hnow, hwhole, h]

theorem look_wait_of {bs : List Byte} (hstart : ∃ cs, bs = 0x05 :: 0x64 :: cs)
    (hvalid : validHeaderAt bs = true) (hlen : bs.length < frameSizeAt bs) :
    frameScanner.look bs = .wait := by
  rw [look_start hstart, lookAtStart]
  by_cases hhead : bs.length < lsHeaderSize
  · rw [if_pos hhead]
  · simp [hhead, hvalid, hlen]

/-- **A valid header can be completed to a frame.** -/
theorem exists_take_of_validHeader {bs : List Byte} (hstart : ∃ cs, bs = 0x05 :: 0x64 :: cs)
    (hlen : bs.length = lsHeaderSize) (hvalid : validHeaderAt bs = true) :
    ∃ cs f, frameScanner.look (bs ++ cs) = .take (frameSizeAt bs) f ∧
      (bs ++ cs).length = frameSizeAt bs := by
  obtain ⟨data, hdata⟩ : ∃ data : List Byte, data.length = (LinkHeader.read bs).userDataLength :=
    ⟨List.replicate _ 0, List.length_replicate⟩
  have hle := Nat.le_of_eq hdata.symm
  have hblocks := validateBodyCRC_writeUserData [] hle
  rw [List.append_nil] at hblocks
  have hbody := length_writeUserData hle
  generalize writeUserData data (LinkHeader.read bs).userDataLength = body at hblocks hbody
  have hread : LinkHeader.read (bs ++ body) = LinkHeader.read bs :=
    LinkHeader.read_append body (by rw [hlen]; decide)
  have hdrop : (bs ++ body).drop lsHeaderSize = body := List.drop_left' hlen
  have hvalid' : validHeaderAt (bs ++ body) = true := by
    rw [validHeaderAt_append body (Nat.le_of_eq hlen.symm), hvalid]
  have hsize : frameSizeAt (bs ++ body) = frameSizeAt bs :=
    frameSizeAt_append body (Nat.le_of_eq hlen.symm)
  have hlength : (bs ++ body).length = frameSizeAt bs := by
    rw [List.length_append, hlen, hbody]
    rfl
  have hvalidBody : validBodyAt (bs ++ body) = true := by
    rw [validBodyAt, hdrop, hread, hblocks]
  obtain ⟨f, hf⟩ := frameAt_isSome hvalid'
  refine ⟨body, f, ?_, hlength⟩
  have hstart' : ∃ cs, bs ++ body = 0x05 :: 0x64 :: cs := by
    obtain ⟨cs, rfl⟩ := hstart
    exact ⟨cs ++ body, rfl⟩
  have hhead := lsHeaderSize_le_frameSizeAt bs
  rw [look_start hstart', lookAtStart, hvalid', hsize, hvalidBody, hf, hlength]
  simp [hhead]

theorem UInt16LE.read_ne : ∀ x : Byte,
    (UInt16LE.read [x, 0]).setWidth 32 ≠ (UInt16LE.read [x, 1]).setWidth 32 := by decide

/-- The last octet of a CRC is determined by the octets before it. -/
theorem isCorrectCRC_last {l : List Byte} (hl : l.length = 9)
    (h : DNPCrc.isCorrectCRC (l ++ [0]) liCrc = true) :
    DNPCrc.isCorrectCRC (l ++ [1]) liCrc = false := by
  have hdrop : (l.drop liCrc).length = 1 := by simp [hl, liCrc]
  obtain ⟨x, hx⟩ := List.length_eq_one_iff.mp hdrop
  have htail (b : Byte) : (l ++ [b]).drop liCrc = [x, b] := by
    rw [List.drop_append_of_le_length (by rw [hl]; decide), hx]
    rfl
  have htake (b : Byte) : (l ++ [b]).take liCrc = l.take liCrc :=
    List.take_append_of_le_length (by rw [hl]; decide)
  rw [DNPCrc.isCorrectCRC, htake, htail, beq_iff_eq] at h
  rw [DNPCrc.isCorrectCRC, htake, htail, h, beq_eq_false_iff_ne]
  exact UInt16LE.read_ne x

/-- What is shorter than a header can be continued to octets that are none. -/
theorem exists_invalid {l : List Byte} (hl : l.length < lsHeaderSize) :
    ∃ p, (l ++ p).length = lsHeaderSize ∧ validHeaderAt (l ++ p) = false := by
  have hl : l.length < 10 := hl
  obtain ⟨q, hq⟩ : ∃ q : List Byte, (l ++ q).length = 9 :=
    ⟨List.replicate (9 - l.length) 0, by simp; omega⟩
  cases hcrc : DNPCrc.isCorrectCRC (l ++ q ++ [0]) liCrc with
  | false =>
    refine ⟨q ++ [0], ?_, ?_⟩
    · rw [← List.append_assoc, List.length_append, hq]
      rfl
    · rw [← List.append_assoc, validHeaderAt, hcrc]
      rfl
  | true =>
    refine ⟨q ++ [1], ?_, ?_⟩
    · rw [← List.append_assoc, List.length_append, hq]
      rfl
    · rw [← List.append_assoc, validHeaderAt, isCorrectCRC_last hq hcrc]
      rfl

/-- Ten octets that are no header hold no frame. -/
theorem items_of_invalid {bs : List Byte} (hlen : bs.length = lsHeaderSize)
    (hvalid : validHeaderAt bs = false) : frameScanner.items bs = [] := by
  rw [List.eq_nil_iff_forall_not_mem]
  intro f hf
  obtain ⟨v, n, hv, hl⟩ := Scanner.exists_of_mem_items hf
  have hle := Nat.le_trans (lsHeaderSize_le_of_take hl) (frameScanner.take_le hl)
  have heq := hv.eq_of_length (Nat.le_antisymm hv.length_le (hlen ▸ hle))
  rw [← heq, (look_take_spec hl).2.1] at hvalid
  exact Bool.noConfusion hvalid

/-! ## When the octets left over do not matter

The octets that a closed connection leaves behind are the beginning of the next stream. They are
harmless if no frame can start in them, whatever ten octets come next. -/

/-- `RESET_LINK_STATES`, the frame that a master begins with. -/
def resetLink : List Byte := [0x05, 0x64, 0x05, 0xC0, 0x01, 0x00, 0x00, 0x04, 0xE9, 0x21]

theorem look_resetLink : frameScanner.look resetLink = .take 10 (.resetLinkStates true 1 1024) := by
  have hbody : validBodyAt resetLink = true := by
    have hlen : (LinkHeader.read resetLink).userDataLength = 0 := by decide
    rw [validBodyAt, hlen, validateBodyCRC_zero]
  have hvalid : validHeaderAt resetLink = true := by decide +kernel
  have hsize : frameSizeAt resetLink = 10 := by decide
  have hf : frameAt resetLink = some (.resetLinkStates true 1 1024) := rfl
  have hstart : ∃ cs, resetLink = 0x05 :: 0x64 :: cs := ⟨_, rfl⟩
  rw [look_start hstart, lookAtStart, hvalid, hsize, hbody, hf]
  rfl

theorem scan_nil : frameScanner.scan [] = ([], []) := Scanner.scan_of_wait rfl

theorem items_resetLink : frameScanner.items resetLink = [.resetLinkStates true 1 1024] := by
  have hnil : frameScanner.items (resetLink.drop 10) = [] := congrArg Prod.fst scan_nil
  rw [Scanner.items, Scanner.scan_of_take look_resetLink, hnil]

theorem rest_resetLink : frameScanner.rest resetLink = [] := by
  have hnil : frameScanner.rest (resetLink.drop 10) = [] := congrArg Prod.snd scan_nil
  rw [Scanner.rest, Scanner.scan_of_take look_resetLink, hnil]

/-- The start octets are the first two. -/
theorem start_of_append {bs cs : List Byte} (h : ∃ ds, bs ++ cs = 0x05 :: 0x64 :: ds)
    (hlen : 2 ≤ bs.length) : ∃ ds, bs = 0x05 :: 0x64 :: ds := by
  obtain ⟨ds, hds⟩ := h
  match bs, hlen with
  | b :: c :: bs, _ =>
    simp only [List.cons_append, List.cons.injEq] at hds
    exact ⟨bs, by rw [hds.1, hds.2.1]⟩

/-- A frame that starts in the octets `v` needs only so many of the octets after them. -/
theorem look_take_append {v ds : List Byte} {n : ℕ} {f : Frame (List Byte)}
    (hl : frameScanner.look (v ++ ds) = .take n f) :
    ∃ ds, frameScanner.look (v ++ ds) = .take n f ∧ ds.length ≤ n - v.length := by
  have htake := look_take hl
  rcases Nat.le_total v.length n with hle | hle
  · refine ⟨ds.take (n - v.length), ?_, List.length_take_le _ _⟩
    rw [List.take_append, List.take_of_length_le hle] at htake
    exact htake
  · refine ⟨[], ?_, Nat.zero_le _⟩
    rw [List.take_append_of_le_length hle] at htake
    rw [List.append_nil, ← List.take_append_drop n v,
      frameScanner.look_append _ (by rw [htake]; simp), htake]

/-- **If they matter, it can be seen**: some octets hold a frame only after them, or only without
them. -/
theorem exists_differs {u : List Byte} (h : ¬frameScanner.Forgets lsHeaderSize u) :
    ∃ cs f, cs.length ≤ lsMaxFrameSize ∧
      (f ∈ frameScanner.items (u ++ cs) ∧ f ∉ frameScanner.items cs ∨
        f ∉ frameScanner.items (u ++ cs) ∧ f ∈ frameScanner.items cs) := by
  obtain ⟨v, hne, hv, ⟨cs, hcs, hmatters⟩, hscan⟩ := Scanner.exists_of_not_forgets h
  have hitems {ds : List Byte} (hds : lsHeaderSize ≤ ds.length) :
      frameScanner.items (u ++ ds) = frameScanner.items (v ++ ds) := by
    rw [Scanner.items, hscan ds hds]
    rfl
  have hpos := List.length_pos_of_ne_nil hne
  -- a frame that starts in the octets left over is found with them, and not without them
  have htakes {ds : List Byte} {n : ℕ} {f : Frame (List Byte)}
      (hl : frameScanner.look (v ++ ds) = .take n f) : ∃ cs f, cs.length ≤ lsMaxFrameSize ∧
        f ∈ frameScanner.items (u ++ cs) ∧ f ∉ frameScanner.items cs := by
    obtain ⟨ds, hl, hlen⟩ := look_take_append hl
    have hn : n ≤ lsMaxFrameSize := by
      rw [(look_take_spec hl).2.2.1]
      exact calcFrameSize_le (LinkHeader.userDataLength_le _)
    rcases Nat.lt_or_ge ds.length lsHeaderSize with hshort | hlong
    · obtain ⟨p, hp, hinvalid⟩ := exists_invalid hshort
      have hl' : frameScanner.look (v ++ (ds ++ p)) = .take n f := by
        rw [← List.append_assoc, frameScanner.look_append p (by rw [hl]; simp), hl]
      refine ⟨ds ++ p, f, by rw [hp]; decide, ?_, ?_⟩
      · rw [hitems (Nat.le_of_eq hp.symm), Scanner.items, Scanner.scan_of_take hl']
        exact List.mem_cons_self
      · rw [items_of_invalid hp hinvalid]
        exact List.not_mem_nil
    · refine ⟨ds, f, by omega, ?_, fun hf ↦ ?_⟩
      · rw [hitems hlong, Scanner.items, Scanner.scan_of_take hl]
        exact List.mem_cons_self
      · have hsize := size_le_of_mem_items hf
        have hpos' := frameScanner.take_pos hl
        rw [← size_of_take hl] at hsize
        omega
  cases hl : frameScanner.look (v ++ cs) with
  | skip => exact absurd hl hmatters
  | take n f =>
    obtain ⟨cs', f', hlen, hin, hout⟩ := htakes hl
    exact ⟨cs', f', hlen, .inl ⟨hin, hout⟩⟩
  | wait =>
    obtain ⟨hstart, hvalid, hlt⟩ := look_wait_spec hl (by simp; omega)
    rcases Nat.lt_or_ge v.length lsHeaderSize with hshort | hlong
    · -- the header is not yet whole, and some octets complete it to a frame
      obtain ⟨hd, rest, hhd, hlen⟩ : ∃ hd rest, v ++ cs = v ++ hd ++ rest ∧
          (v ++ hd).length = lsHeaderSize :=
        ⟨cs.take (lsHeaderSize - v.length), cs.drop (lsHeaderSize - v.length),
          by simp, by simp; omega⟩
      have hvalid' : validHeaderAt (v ++ hd) = true := by
        rw [← validHeaderAt_append rest (Nat.le_of_eq hlen.symm), ← hhd, hvalid]
      obtain ⟨ds, f, htake, -⟩ :=
        exists_take_of_validHeader (start_of_append (hhd ▸ hstart) (by rw [hlen]; decide))
          hlen hvalid'
      rw [List.append_assoc] at htake
      obtain ⟨cs', f', hlen', hin, hout⟩ := htakes htake
      exact ⟨cs', f', hlen', .inl ⟨hin, hout⟩⟩
    · -- the rest of a frame hides the next one
      have hvalid' : validHeaderAt v = true := by rw [← validHeaderAt_append cs hlong, hvalid]
      rw [← validHeaderAt_append resetLink hlong] at hvalid'
      have hwait : frameScanner.look (v ++ resetLink) = .wait := by
        obtain ⟨w, hw⟩ := start_of_append hstart (Nat.le_trans (by decide) hlong)
        refine look_wait_of ⟨w ++ resetLink, by rw [hw]; rfl⟩ hvalid' ?_
        rw [frameSizeAt_append cs hlong, List.length_append] at hlt
        rw [frameSizeAt_append resetLink hlong, List.length_append]
        have hten : resetLink.length = lsHeaderSize := rfl
        omega
      refine ⟨resetLink, .resetLinkStates true 1 1024, by decide, .inr ⟨?_, ?_⟩⟩
      swap
      · rw [items_resetLink]
        exact List.mem_cons_self
      rw [hitems (Nat.le_of_eq rfl), Scanner.items, Scanner.scan_of_wait hwait]
      exact List.not_mem_nil

/-- **When the octets left over do not matter.** -/
theorem forgets_iff (u : List Byte) :
    (∀ cs, frameScanner.items (u ++ cs) = frameScanner.items cs) ↔
      frameScanner.Forgets lsHeaderSize u := by
  refine ⟨fun h ↦ ?_, fun h ↦ h.items_append lsHeaderSize_le_of_take⟩
  by_contra hn
  obtain ⟨cs, f, -, ⟨hin, hout⟩ | ⟨hout, hin⟩⟩ := exists_differs hn
  · exact hout (h cs ▸ hin)
  · exact hout (h cs ▸ hin)

/-! ## The receiving side of the router -/

/-- `LinkLayerRouter`, the members that receive; `κ` are the contexts. -/
structure LinkReader (κ : Type) where
  mReceiver : LinkLayerReceiver
  mAddressMap : List (LinkRoute × κ)

/-- What the port reports to the router. -/
inductive ReaderEvent where
  | opened
  | read (aBytes : List Byte)
  | closed

namespace LinkReader

variable {κ : Type}

/-- A router that has not received anything. -/
def new (aRoutes : List (LinkRoute × κ)) : LinkReader κ := ⟨.init, aRoutes⟩

/-- `GetDestination` -/
def getDestination (s : LinkReader κ) (aDest aSrc : BitVec 16) : Option κ :=
  s.mAddressMap.lookup ⟨aSrc, aDest⟩

/-- A frame that is received finds a context if and only if one that is transmitted on its route
would. -/
theorem isSome_getDestination_iff {α : Type} (s : LinkRouter κ α) (r : LinkLayerReceiver)
    (aDest aSrc : BitVec 16) :
    ((⟨r, s.mAddressMap⟩ : LinkReader κ).getDestination aDest aSrc).isSome ↔
      s.isBound ⟨aSrc, aDest⟩ := by
  simp [getDestination, LinkRouter.isBound]

/-- The methods of `IFrameSink`: a frame is handed on to the context of its route, if there is
one. -/
def deliver (s : LinkReader κ) (f : Frame (List Byte)) : Option (κ × Frame (List Byte)) :=
  (s.getDestination f.getDest f.getSrc).map (·, f)

/-- `_OnReceive`, up to the next `AsyncRead`. -/
def onReceive (s : LinkReader κ) (aBytes : List Byte) :
    Except Exception (LinkReader κ × List (κ × Frame (List Byte))) := do
  let (r, frames) ← s.mReceiver.onRead aBytes
  return ({ s with mReceiver := r }, frames.filterMap s.deliver)

/-- **What the router does about an event**.  `OnPhysicalLayerOpenSuccessCallback` begins a read,
and `OnPhysicalLayerCloseCallback` empties the transmit queue; neither touches the receiver. -/
def handle (s : LinkReader κ) :
    ReaderEvent → Except Exception (LinkReader κ × List (κ × Frame (List Byte)))
  | .opened | .closed => .ok (s, [])
  | .read aBytes => s.onReceive aBytes

/-- One event after the other, with what is delivered. -/
def run (s : LinkReader κ) :
    List ReaderEvent → Except Exception (LinkReader κ × List (κ × Frame (List Byte)))
  | [] => .ok (s, [])
  | e :: es => do
    let p ← s.handle e
    let q ← p.1.run es
    return (q.1, p.2 ++ q.2)

/-- A connection: the port opens, and octets are read. -/
def session (aReads : List (List Byte)) : List ReaderEvent := .opened :: aReads.map .read

/-- `AsyncRead` offers the free octets of the buffer: a read does not exceed them. -/
def Fits (s : LinkReader κ) : List ReaderEvent → Prop
  | [] => True
  | .read aBytes :: es => aBytes.length ≤ s.mReceiver.mBuffer.numWriteBytes ∧
      ∀ t frames, s.handle (.read aBytes) = .ok (t, frames) → t.Fits es
  | _ :: es => s.Fits es

/-- The octets of the reads. -/
def received : List ReaderEvent → List Byte
  | [] => []
  | .read aBytes :: es => aBytes ++ received es
  | _ :: es => received es

theorem received_session (aReads : List (List Byte)) :
    received (session aReads) = aReads.flatten := by
  induction aReads with
  | nil => rfl
  | cons c cs ih =>
    rw [List.flatten_cons, ← ih]
    rfl

/-- **A run** delivers the frames that the octets read complete, to the contexts of their routes. -/
theorem run_of_waits {s : LinkReader κ} {bs : List Byte} (hs : s.mReceiver.Waits bs)
    {es : List ReaderEvent} (hfit : s.Fits es) :
    ∃ t frames, s.run es = .ok (t, frames.filterMap s.deliver) ∧
      t.mAddressMap = s.mAddressMap ∧ t.mReceiver.Waits (bs ++ received es) ∧
      frameScanner.items (bs ++ received es) = frameScanner.items bs ++ frames := by
  induction es generalizing s bs with
  | nil => exact ⟨s, [], rfl, rfl, by rwa [received, List.append_nil], by simp [received]⟩
  | cons e es ih =>
    cases e with
    | opened =>
      obtain ⟨t, frames, hrun, hmap, hw, hitems⟩ := ih hs hfit
      refine ⟨t, frames, ?_, hmap, hw, hitems⟩
      rw [run, handle, except_ok_bind, hrun]
      rfl
    | closed =>
      obtain ⟨t, frames, hrun, hmap, hw, hitems⟩ := ih hs hfit
      refine ⟨t, frames, ?_, hmap, hw, hitems⟩
      rw [run, handle, except_ok_bind, hrun]
      rfl
    | read c =>
      obtain ⟨hc, hrest⟩ := hfit
      obtain ⟨r, f, hread, hw₁, hi₁⟩ := onRead_spec hs hc
      have hstep : s.handle (.read c) = .ok ({ s with mReceiver := r }, f.filterMap s.deliver) := by
        rw [handle, onReceive, hread]
        rfl
      obtain ⟨t, frames, hrun, hmap, hw, hitems⟩ := ih hw₁ (hrest _ _ hstep)
      refine ⟨t, f ++ frames, ?_, hmap, ?_, ?_⟩
      · rw [run, hstep, except_ok_bind, hrun, List.filterMap_append]
        rfl
      · rw [received, ← List.append_assoc]
        exact hw
      · rw [received, ← List.append_assoc, hitems, hi₁, List.append_assoc]

/-- What a run delivers. -/
def deliveries (s : LinkReader κ) (es : List ReaderEvent) :
    Except Exception (List (κ × Frame (List Byte))) := (s.run es).map (·.2)

/-- **What is delivered** are the frames in what was left over and what is read. -/
theorem deliveries_eq {s : LinkReader κ} {bs : List Byte} (hs : s.mReceiver.Waits bs)
    {es : List ReaderEvent} (hfit : s.Fits es) :
    s.deliveries es =
      .ok ((frameScanner.items (frameScanner.rest bs ++ received es)).filterMap s.deliver) := by
  obtain ⟨t, frames, hrun, -, -, hitems⟩ := run_of_waits hs hfit
  rw [Scanner.items_append, List.append_cancel_left_eq] at hitems
  rw [deliveries, hrun, hitems]
  rfl

theorem mem_deliver {s : LinkReader κ} {k : κ} {f : Frame (List Byte)}
    {frames : List (Frame (List Byte))} (hk : s.getDestination f.getDest f.getSrc = some k) :
    (k, f) ∈ frames.filterMap s.deliver ↔ f ∈ frames := by
  rw [List.mem_filterMap]
  constructor
  · rintro ⟨g, hg, hdeliver⟩
    obtain ⟨k', -, heq⟩ := Option.map_eq_some_iff.mp hdeliver
    cases heq
    exact hg
  · intro hf
    exact ⟨f, hf, by rw [deliver, hk]; rfl⟩

theorem fits_one {s : LinkReader κ} {bs cs : List Byte} (hs : s.mReceiver.Waits bs)
    (hlen : cs.length ≤ lsMaxFrameSize) : s.Fits (session [cs]) := by
  have hroom := hs.room
  have hlarge : lsMaxFrameSize ≤ bufferSize - lsMaxFrameSize := by decide
  exact ⟨by omega, fun _ _ _ ↦ trivial⟩

/-- Other contexts are bound. -/
def rebound (s : LinkReader κ) (aRoutes : List (LinkRoute × κ)) : LinkReader κ :=
  { s with mAddressMap := aRoutes }

/-- **A reconnection starts with a clean receiver exactly if nothing was left over that matters.**
After any events, and whatever contexts are bound when the port opens again, the reopened connection
delivers what a fresh receiver would, for all that is read and all ways to read it, exactly if no
frame can start in the octets that the receiver has not decided on. -/
theorem reopened_clean_iff [Inhabited κ] {aRoutes : List (LinkRoute × κ)}
    {before : List ReaderEvent}
    (hfit : (new aRoutes).Fits before) {s : LinkReader κ} {frames : List (κ × Frame (List Byte))}
    (hrun : (new aRoutes).run before = .ok (s, frames)) :
    (∀ (aRoutes : List (LinkRoute × κ)) (reads : List (List Byte)),
      (s.rebound aRoutes).Fits (session reads) → (new aRoutes).Fits (session reads) →
      (s.rebound aRoutes).deliveries (.closed :: session reads) =
        (new aRoutes).deliveries (session reads)) ↔
    frameScanner.Forgets lsHeaderSize (frameScanner.rest (received before)) := by
  have hw : s.mReceiver.Waits (received before) := by
    obtain ⟨t, _, ht, -, hw, -⟩ := run_of_waits (s := new aRoutes) waits_init hfit
    rw [hrun] at ht
    cases ht
    exact hw
  have hstale (aRoutes : List (LinkRoute × κ)) (reads : List (List Byte))
      (h : (s.rebound aRoutes).Fits (session reads)) :
      (s.rebound aRoutes).deliveries (.closed :: session reads) =
        .ok ((frameScanner.items (frameScanner.rest (received before) ++ reads.flatten)).filterMap
          (new aRoutes).deliver) := by
    have hclosed : received (.closed :: session reads) = reads.flatten := received_session reads
    have hfit : (s.rebound aRoutes).Fits (.closed :: session reads) := h
    have hw' : (s.rebound aRoutes).mReceiver.Waits (received before) := hw
    rw [deliveries_eq hw' hfit, hclosed]
    rfl
  have hfresh (aRoutes : List (LinkRoute × κ)) (reads : List (List Byte))
      (h : (new aRoutes).Fits (session reads)) :
      (new aRoutes).deliveries (session reads) =
        .ok ((frameScanner.items reads.flatten).filterMap (new aRoutes).deliver) := by
    rw [deliveries_eq waits_init h, received_session, Scanner.rest, scan_nil, List.nil_append]
  constructor
  · intro h
    by_contra hn
    obtain ⟨cs, f, hlen, hdiffers⟩ := exists_differs hn
    -- a context is bound to the route of the frame that makes the difference
    have hcs : [cs].flatten = cs := by simp
    have hk : (new [(⟨f.getSrc, f.getDest⟩, (default : κ))]).getDestination f.getDest f.getSrc =
        some default := by simp [new, getDestination]
    have hs := fits_one (s := s.rebound [(⟨f.getSrc, f.getDest⟩, default)]) hw hlen
    have hn := fits_one (s := new [(⟨f.getSrc, f.getDest⟩, (default : κ))]) waits_init hlen
    have heq := h _ _ hs hn
    rw [hstale _ _ hs, hfresh _ _ hn, hcs, Except.ok.injEq] at heq
    have hmem : f ∈ frameScanner.items (frameScanner.rest (received before) ++ cs) ↔
        f ∈ frameScanner.items cs := by
      rw [← mem_deliver hk, heq, mem_deliver hk]
    rcases hdiffers with ⟨hin, hout⟩ | ⟨hout, hin⟩
    · exact hout (hmem.mp hin)
    · exact hout (hmem.mpr hin)
  · intro h aRoutes reads hs hn
    rw [hstale aRoutes reads hs, hfresh aRoutes reads hn, h.items_append lsHeaderSize_le_of_take]

/-- A whole frame is read before the port closes. -/
theorem reopened_clean_whole : ∃ s frames,
    (new [(⟨1024, 1⟩, 'a')]).run [.opened, .read resetLink] = .ok (s, frames) ∧
    ∀ (aRoutes : List (LinkRoute × Char)) (reads : List (List Byte)),
      (s.rebound aRoutes).Fits (session reads) → (new aRoutes).Fits (session reads) →
      (s.rebound aRoutes).deliveries (.closed :: session reads) =
        (new aRoutes).deliveries (session reads) := by
  have hfit : (new [(⟨1024, 1⟩, 'a')]).Fits [.opened, .read resetLink] :=
    ⟨by decide, fun _ _ _ ↦ trivial⟩
  obtain ⟨s, frames, hrun, -⟩ := run_of_waits waits_init hfit
  refine ⟨s, _, hrun, (reopened_clean_iff hfit hrun).mpr ?_⟩
  have hrest : frameScanner.rest (received [.opened, .read resetLink]) = [] := rest_resetLink
  rw [hrest]
  exact Scanner.forgets_nil lsHeaderSize

/-- The header of a frame with ten octets of user data. -/
def announcedFrame : List Byte := [0x05, 0x64, 0x0F, 0xC4, 0x01, 0x00, 0x00, 0x04, 0x9A, 0x11]

/-- **The first frame of a connection is lost in what the last one has left**: the port closes after
the header of a frame, and the next connection begins with a reset of the link. -/
theorem reopened_swallows : ∃ s frames,
    (new [(⟨1024, 1⟩, 'a')]).run [.opened, .read announcedFrame] = .ok (s, frames) ∧
    s.deliveries (.closed :: session [resetLink]) = .ok [] ∧
    (new [(⟨1024, 1⟩, 'a')]).deliveries (session [resetLink]) =
      .ok [('a', .resetLinkStates true 1 1024)] := by
  have hfit : (new [(⟨1024, 1⟩, 'a')]).Fits [.opened, .read announcedFrame] :=
    ⟨by decide, fun _ _ _ ↦ trivial⟩
  obtain ⟨s, frames, hrun, hmap, hw, -⟩ := run_of_waits waits_init hfit
  have hlook : frameScanner.look announcedFrame = .wait :=
    look_wait_of ⟨_, rfl⟩ (by decide +kernel) (by decide)
  have hmore : frameScanner.look (announcedFrame ++ resetLink) = .wait :=
    look_wait_of ⟨_, rfl⟩ (by decide +kernel) (by decide)
  have hrest : frameScanner.rest (received [.opened, .read announcedFrame]) = announcedFrame := by
    have hreceived : received [.opened, .read announcedFrame] = announcedFrame := rfl
    rw [hreceived, Scanner.rest, Scanner.scan_of_wait hlook]
  have hreceived : received (.closed :: session [resetLink]) = resetLink := rfl
  have hone : received (session [resetLink]) = resetLink := rfl
  have hstale : s.Fits (.closed :: session [resetLink]) := fits_one hw (by decide)
  refine ⟨s, _, hrun, ?_, ?_⟩
  · have hnothing : frameScanner.items (announcedFrame ++ resetLink) = [] := by
      rw [Scanner.items, Scanner.scan_of_wait hmore]
    have hw' : s.mReceiver.Waits (received [.opened, .read announcedFrame]) := hw
    rw [deliveries_eq hw' hstale, hrest, hreceived, hnothing]
    rfl
  · rw [deliveries_eq waits_init (fits_one waits_init (by decide)), hone, Scanner.rest, scan_nil,
      List.nil_append, items_resetLink]
    rfl

end LinkReader

end OpenDNP3
