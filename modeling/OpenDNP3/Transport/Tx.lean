import OpenDNP3.APL.Bytes
import OpenDNP3.APL.Exception

/-!
# The transport transmitter

`TransportTx` cuts an APDU into TPDUs of at most 249 octets, each behind one octet that carries the
FIR and FIN flags and a sequence number modulo 64.  It hands them out one at a time: `Send` gives
the first, and each `SendSuccess` of the link layer the next.

`segments` is the same cutting written as one function of the APDU, and `transmit_eq` says that this
is what the transmitter emits.
-/

set_option autoImplicit false

namespace OpenDNP3

/-- `TL_MAX_TPDU_LENGTH` -/
def tlMaxTpduLength : ℕ := 250
/-- `TL_MAX_TPDU_PAYLOAD` -/
def tlMaxTpduPayload : ℕ := 249

/-- `TL_HDR_FIN` -/
def tlHdrFin : Byte := 0x80
/-- `TL_HDR_FIR` -/
def tlHdrFir : Byte := 0x40
/-- `TL_HDR_SEQ` -/
def tlHdrSeq : Byte := 0x3F

/-- `TransportTx::GetHeader` -/
def getHeader (aFir aFin : Bool) (aSeq : ℕ) : Byte :=
  let hdr : Byte := 0
  let hdr := if aFir then hdr ||| tlHdrFir else hdr
  let hdr := if aFin then hdr ||| tlHdrFin else hdr
  hdr ||| (tlHdrSeq &&& BitVec.ofNat 8 aSeq)

/-- Only the lower six bits of the sequence number are sent. -/
theorem getHeader_mod (fir fin : Bool) (seq : ℕ) :
    getHeader fir fin (seq % 64) = getHeader fir fin seq := by
  have hmask : ∀ n : ℕ, tlHdrSeq &&& BitVec.ofNat 8 n = BitVec.ofNat 8 (n % 64) := by
    intro n
    apply BitVec.eq_of_toNat_eq
    rw [BitVec.toNat_and, BitVec.toNat_ofNat, BitVec.toNat_ofNat,
      show tlHdrSeq.toNat = 2 ^ 6 - 1 from rfl, Nat.and_comm, Nat.and_two_pow_sub_one_eq_mod]
    omega
  simp only [getHeader, hmask, Nat.mod_mod]

/-- The fields of a TPDU header, as `TransportRx::HandleReceive` reads them. -/
theorem getHeader_fields (fir fin : Bool) (seq : ℕ) :
    (getHeader fir fin seq &&& tlHdrFir != 0) = fir ∧
    (getHeader fir fin seq &&& tlHdrFin != 0) = fin ∧
    (getHeader fir fin seq &&& tlHdrSeq).toNat = seq % 64 := by
  have key : ∀ (fir fin : Bool) (s : Fin 64),
      (getHeader fir fin s &&& tlHdrFir != 0) = fir ∧
      (getHeader fir fin s &&& tlHdrFin != 0) = fin ∧
      (getHeader fir fin s &&& tlHdrSeq).toNat = s := by
    decide +kernel
  rw [← getHeader_mod]
  exact key fir fin ⟨seq % 64, Nat.mod_lt seq (by decide)⟩

/-- `TransportTx`: the APDU in `mBufferAPDU`, how much of it there is and how much has been sent. -/
structure TransportTx (aFragSize : ℕ) where
  mBufferAPDU : List Byte
  mNumBytesSent : ℕ
  mNumBytesToSend : ℕ
  mSeq : ℕ
  sent_le : mNumBytesSent ≤ mNumBytesToSend
  toSend_le : mNumBytesToSend ≤ mBufferAPDU.length

namespace TransportTx

variable {aFragSize : ℕ}

/-- The constructor. -/
def init : TransportTx aFragSize where
  mBufferAPDU := []
  mNumBytesSent := 0
  mNumBytesToSend := 0
  mSeq := 0
  sent_le := Nat.le_refl .zero
  toSend_le := Nat.le_refl .zero

/-- `BytesRemaining` -/
def bytesRemaining (tx : TransportTx aFragSize) : ℕ := tx.mNumBytesToSend - tx.mNumBytesSent

/-- `CheckForSend`: whether the APDU is done, and otherwise the TPDU that is transmitted. -/
def checkForSend (tx : TransportTx aFragSize) :
    Bool × TransportTx aFragSize × Option (List Byte) :=
  let remainder := tx.bytesRemaining
  if remainder > 0 then
    let num_to_send := min remainder tlMaxTpduPayload
    let payload := (tx.mBufferAPDU.drop tx.mNumBytesSent).take num_to_send
    let fir := tx.mNumBytesSent == 0
    let sent := tx.mNumBytesSent + num_to_send
    let fin := sent == tx.mNumBytesToSend
    (false,
      { tx with
        mNumBytesSent := sent
        sent_le := by
          have : tx.mNumBytesSent ≤ tx.mNumBytesToSend := tx.sent_le
          simp only [sent, num_to_send, remainder, bytesRemaining]
          omega },
      some (getHeader fir fin tx.mSeq :: payload))
  else
    (true,
      { tx with
        mNumBytesSent := 0
        mNumBytesToSend := 0
        sent_le := Nat.le_refl .zero
        toSend_le := Nat.zero_le _ },
      none)

/-- `Send` -/
def send (tx : TransportTx aFragSize) (apData : List Byte) :
    Except Exception (TransportTx aFragSize × Option (List Byte)) := do
  assert "aNumBytes > 0" (apData.length > 0)
  assert "aNumBytes <= mBufferAPDU.Size()" (apData.length ≤ aFragSize)
  let tx : TransportTx aFragSize := { tx with
    mBufferAPDU := apData
    mNumBytesToSend := apData.length
    mNumBytesSent := 0
    sent_le := Nat.zero_le _
    toSend_le := Nat.le_refl _ }
  return tx.checkForSend.2

/-- `SendSuccess` -/
def sendSuccess (tx : TransportTx aFragSize) :
    Bool × TransportTx aFragSize × Option (List Byte) :=
  checkForSend { tx with mSeq := (tx.mSeq + 1) % 64 }

/-- While some of the APDU is left, the next 249 octets of it are sent. -/
theorem checkForSend_of_lt (tx : TransportTx aFragSize)
    (h : tx.mNumBytesSent < tx.mNumBytesToSend) :
    ∃ tx', tx.checkForSend = (false, tx',
        some (getHeader (tx.mNumBytesSent == 0)
            (decide (tx.mNumBytesToSend ≤ tx.mNumBytesSent + tlMaxTpduPayload)) tx.mSeq ::
          (tx.mBufferAPDU.drop tx.mNumBytesSent).take
            (min (tx.mNumBytesToSend - tx.mNumBytesSent) tlMaxTpduPayload))) ∧
      tx'.mBufferAPDU = tx.mBufferAPDU ∧ tx'.mNumBytesToSend = tx.mNumBytesToSend ∧
      tx'.mSeq = tx.mSeq ∧
      tx'.mNumBytesSent = min tx.mNumBytesToSend (tx.mNumBytesSent + tlMaxTpduPayload) := by
  have hpos : tx.bytesRemaining > 0 := by
    rw [bytesRemaining]
    omega
  have hsent : tx.mNumBytesSent + min tx.bytesRemaining tlMaxTpduPayload =
      min tx.mNumBytesToSend (tx.mNumBytesSent + tlMaxTpduPayload) := by
    rw [bytesRemaining]
    omega
  have hfin : (tx.mNumBytesSent + min tx.bytesRemaining tlMaxTpduPayload == tx.mNumBytesToSend) =
      decide (tx.mNumBytesToSend ≤ tx.mNumBytesSent + tlMaxTpduPayload) := by
    rw [Bool.eq_iff_iff, beq_iff_eq, decide_eq_true_eq, hsent]
    omega
  have heq : tx.checkForSend = _ := if_pos hpos
  rw [heq]
  refine ⟨_, Prod.ext rfl (Prod.ext rfl ?_), rfl, rfl, rfl, hsent⟩
  rw [← hfin]
  rfl

/-- When nothing is left the APDU is done. -/
theorem checkForSend_of_eq (tx : TransportTx aFragSize)
    (h : tx.mNumBytesSent = tx.mNumBytesToSend) :
    ∃ tx', tx.checkForSend = (true, tx', none) ∧ tx'.mSeq = tx.mSeq := by
  have hpos : ¬ tx.bytesRemaining > 0 := by
    rw [bytesRemaining]
    omega
  exact ⟨_, if_neg hpos, rfl⟩

theorem sendSuccess_of_lt {tx : TransportTx aFragSize} (h : tx.mNumBytesSent < tx.mNumBytesToSend) :
    ∃ tx', tx.sendSuccess = (false, tx',
        some (getHeader (tx.mNumBytesSent == 0)
            (decide (tx.mNumBytesToSend ≤ tx.mNumBytesSent + tlMaxTpduPayload))
            ((tx.mSeq + 1) % 64) ::
          (tx.mBufferAPDU.drop tx.mNumBytesSent).take
            (min (tx.mNumBytesToSend - tx.mNumBytesSent) tlMaxTpduPayload))) ∧
      tx'.mBufferAPDU = tx.mBufferAPDU ∧ tx'.mNumBytesToSend = tx.mNumBytesToSend ∧
      tx'.mSeq = (tx.mSeq + 1) % 64 ∧
      tx'.mNumBytesSent = min tx.mNumBytesToSend (tx.mNumBytesSent + tlMaxTpduPayload) :=
  checkForSend_of_lt { tx with mSeq := (tx.mSeq + 1) % 64 } h

theorem sendSuccess_of_eq {tx : TransportTx aFragSize} (h : tx.mNumBytesSent = tx.mNumBytesToSend) :
    ∃ tx', tx.sendSuccess = (true, tx', none) ∧ tx'.mSeq = (tx.mSeq + 1) % 64 :=
  checkForSend_of_eq { tx with mSeq := (tx.mSeq + 1) % 64 } h

/-- A transmitter that is not done has sent some of what was left. -/
theorem bytesRemaining_sendSuccess {tx tx' : TransportTx aFragSize} {tpdu : Option (List Byte)}
    (h : tx.sendSuccess = (false, tx', tpdu)) : tx'.bytesRemaining < tx.bytesRemaining := by
  rcases Nat.lt_or_eq_of_le tx.sent_le with hlt | heq
  · obtain ⟨tx₁, h₁, -, hto, -, hsent⟩ := sendSuccess_of_lt hlt
    rw [h₁] at h
    cases h
    rw [bytesRemaining, bytesRemaining, hto, hsent, tlMaxTpduPayload]
    omega
  · obtain ⟨tx₁, h₁, -⟩ := sendSuccess_of_eq heq
    rw [h₁] at h
    cases h

/-- The TPDUs of the `SendSuccess` calls up to the one that says that the APDU is done. -/
def sendSuccesses (tx : TransportTx aFragSize) : TransportTx aFragSize × List (List Byte) :=
  match _h : tx.sendSuccess with
  | (true, tx', tpdu) => (tx', tpdu.toList)
  | (false, tx', tpdu) =>
    let r := tx'.sendSuccesses
    (r.1, tpdu.toList ++ r.2)
termination_by tx.bytesRemaining
decreasing_by exact bytesRemaining_sendSuccess ‹_›

theorem sendSuccesses_of_true {tx tx' : TransportTx aFragSize} {tpdu : Option (List Byte)}
    (h : tx.sendSuccess = (true, tx', tpdu)) : tx.sendSuccesses = (tx', tpdu.toList) := by
  rw [sendSuccesses]
  split <;> simp_all

theorem sendSuccesses_of_false {tx tx' : TransportTx aFragSize} {tpdu : Option (List Byte)}
    (h : tx.sendSuccess = (false, tx', tpdu)) :
    tx.sendSuccesses = (tx'.sendSuccesses.1, tpdu.toList ++ tx'.sendSuccesses.2) := by
  rw [sendSuccesses]
  split
  · next h' => simp [h] at h'
  · next h' =>
    rw [h] at h'
    cases h'
    rfl

/-- One APDU: `Send`, and `SendSuccess` until it is done. -/
def transmit (tx : TransportTx aFragSize) (apData : List Byte) :
    Except Exception (TransportTx aFragSize × List (List Byte)) := do
  let p ← tx.send apData
  let q := p.1.sendSuccesses
  return (q.1, p.2.toList ++ q.2)

/-- One APDU after the other. -/
def transmits (tx : TransportTx aFragSize) :
    List (List Byte) → Except Exception (TransportTx aFragSize × List (List Byte))
  | [] => .ok (tx, [])
  | f :: fs => do
    let p ← tx.transmit f
    let q ← p.1.transmits fs
    return (q.1, p.2 ++ q.2)

end TransportTx

/-! ## Segmentation as a function -/

/-- The TPDU with the number `seq` that starts at the offset `k` of an APDU. -/
def segmentAt (apdu : List Byte) (seq k : ℕ) : List Byte :=
  getHeader (k == 0) (decide (apdu.length ≤ k + tlMaxTpduPayload)) seq ::
    (apdu.drop k).take tlMaxTpduPayload

/-- The TPDUs of an APDU from the offset `k` on, the first of them with the number `seq`. -/
def segments (apdu : List Byte) (seq k : ℕ) : List (List Byte) :=
  (List.range ((apdu.length - k + tlMaxTpduPayload - 1) / tlMaxTpduPayload)).map fun i ↦
    segmentAt apdu (seq + i) (k + tlMaxTpduPayload * i)

/-- The TPDUs of APDUs sent one after the other. -/
def stream : ℕ → List (List Byte) → List (List Byte)
  | _, [] => []
  | seq, apdu :: apdus =>
    segments apdu seq 0 ++ stream (seq + (segments apdu seq 0).length) apdus

theorem segments_of_lt {apdu : List Byte} {seq k : ℕ} (h : k < apdu.length) :
    segments apdu seq k =
      segmentAt apdu seq k :: segments apdu (seq + 1) (k + tlMaxTpduPayload) := by
  have hcount : (apdu.length - k + tlMaxTpduPayload - 1) / tlMaxTpduPayload =
      (apdu.length - (k + tlMaxTpduPayload) + tlMaxTpduPayload - 1) / tlMaxTpduPayload + 1 := by
    rw [tlMaxTpduPayload]
    omega
  rw [segments, segments, hcount, List.range_succ_eq_map, List.map_cons, List.map_map]
  congr 1
  apply List.map_congr_left
  intro i _
  simp only [Function.comp_apply, Nat.succ_eq_add_one]
  congr 1
  · omega
  · rw [Nat.mul_add]
    omega

theorem segments_of_le {apdu : List Byte} {seq k : ℕ} (h : apdu.length ≤ k) :
    segments apdu seq k = [] := by
  have hcount : (apdu.length - k + tlMaxTpduPayload - 1) / tlMaxTpduPayload = 0 := by
    rw [tlMaxTpduPayload]
    omega
  rw [segments, hcount]
  rfl

/-- Only the lower six bits of the first number matter. -/
theorem segments_mod (apdu : List Byte) {seq seq' : ℕ} (h : seq % 64 = seq' % 64) (k : ℕ) :
    segments apdu seq k = segments apdu seq' k := by
  induction hn : apdu.length - k using Nat.strongRecOn generalizing seq seq' k with
  | _ n ih =>
    rcases Nat.lt_or_ge k apdu.length with hk | hk
    · have hnext : (seq + 1) % 64 = (seq' + 1) % 64 := by omega
      rw [segments_of_lt hk, segments_of_lt hk, segmentAt, segmentAt, ← getHeader_mod, h,
        getHeader_mod, ih (apdu.length - (k + tlMaxTpduPayload))
          (by rw [tlMaxTpduPayload]; omega) hnext _ rfl]
    · rw [segments_of_le hk, segments_of_le hk]

theorem segments_min (apdu : List Byte) (seq k : ℕ) :
    segments apdu seq (min apdu.length k) = segments apdu seq k := by
  rcases Nat.le_total apdu.length k with h | h
  · rw [Nat.min_eq_left h, segments_of_le (Nat.le_refl _), segments_of_le h]
  · rw [Nat.min_eq_right h]

theorem stream_mod {seq seq' : ℕ} (h : seq % 64 = seq' % 64) (apdus : List (List Byte)) :
    stream seq apdus = stream seq' apdus := by
  induction apdus generalizing seq seq' with
  | nil => rfl
  | cons apdu apdus ih =>
    have hnext : (seq + (segments apdu seq' 0).length) % 64 =
        (seq' + (segments apdu seq' 0).length) % 64 := by omega
    rw [stream, stream, segments_mod apdu h 0, ih hnext]

/-- The transmitter asks for no more than is left, which a prefix does anyway. -/
theorem min_payload (apdu : List Byte) (k : ℕ) :
    (apdu.drop k).take (min (apdu.length - k) tlMaxTpduPayload) =
      (apdu.drop k).take tlMaxTpduPayload := by
  rw [List.take_eq_take_min (i := tlMaxTpduPayload), List.length_drop, Nat.min_comm]

namespace TransportTx

variable {aFragSize : ℕ}

/-- What is left of an APDU is cut as `segments` says. -/
theorem sendSuccesses_eq (tx : TransportTx aFragSize)
    (hto : tx.mNumBytesToSend = tx.mBufferAPDU.length) :
    ∃ tx', tx.sendSuccesses = (tx', segments tx.mBufferAPDU (tx.mSeq + 1) tx.mNumBytesSent) ∧
      tx'.mSeq % 64 =
        (tx.mSeq + 1 + (segments tx.mBufferAPDU (tx.mSeq + 1) tx.mNumBytesSent).length) % 64 := by
  induction hn : tx.bytesRemaining using Nat.strongRecOn generalizing tx with
  | _ n ih =>
    rcases Nat.lt_or_eq_of_le tx.sent_le with hlt | heq
    · obtain ⟨tx₁, h₁, hbuf, hto', hseq, hsent⟩ := sendSuccess_of_lt hlt
      have hrem := bytesRemaining_sendSuccess h₁
      obtain ⟨tx', htx', hseq'⟩ :=
        ih tx₁.bytesRemaining (by omega) tx₁ (by rw [hto', hbuf, hto]) rfl
      have hrest : segments tx₁.mBufferAPDU (tx₁.mSeq + 1) tx₁.mNumBytesSent =
          segments tx.mBufferAPDU (tx.mSeq + 1 + 1) (tx.mNumBytesSent + tlMaxTpduPayload) := by
        rw [hbuf, hsent, hto, segments_min]
        exact segments_mod _ (by rw [hseq]; omega) _
      rw [hrest] at htx' hseq'
      rw [hto, min_payload, getHeader_mod] at h₁
      refine ⟨tx', ?_, ?_⟩
      · rw [sendSuccesses_of_false h₁, htx', segments_of_lt (k := tx.mNumBytesSent) (by omega)]
        rfl
      · rw [hseq', segments_of_lt (k := tx.mNumBytesSent) (by omega), List.length_cons, hseq]
        omega
    · obtain ⟨tx₁, h₁, hseq⟩ := sendSuccess_of_eq heq
      refine ⟨tx₁, ?_, ?_⟩
      · rw [sendSuccesses_of_true h₁, segments_of_le (by omega)]
        rfl
      · rw [hseq, segments_of_le (by omega)]
        exact Nat.mod_mod _ _

/-- **The transmitter emits the segments** of an APDU that it accepts. -/
theorem transmit_eq (tx : TransportTx aFragSize) {apdu : List Byte} (hpos : 0 < apdu.length)
    (hle : apdu.length ≤ aFragSize) :
    ∃ tx', tx.transmit apdu = .ok (tx', segments apdu tx.mSeq 0) ∧
      tx'.mSeq % 64 = (tx.mSeq + (segments apdu tx.mSeq 0).length) % 64 := by
  obtain ⟨tx₁, h₁, hbuf, hto, hseq, hsent⟩ := checkForSend_of_lt ({ tx with
    mBufferAPDU := apdu, mNumBytesToSend := apdu.length, mNumBytesSent := 0
    sent_le := Nat.zero_le _, toSend_le := Nat.le_refl _ } : TransportTx aFragSize) hpos
  simp only [Nat.sub_zero] at h₁ hbuf hto hseq hsent
  obtain ⟨tx', htx', hseq'⟩ := tx₁.sendSuccesses_eq (by rw [hto, hbuf])
  have hrest : segments tx₁.mBufferAPDU (tx₁.mSeq + 1) tx₁.mNumBytesSent =
      segments apdu (tx.mSeq + 1) (0 + tlMaxTpduPayload) := by
    rw [hbuf, hsent, segments_min, hseq]
  rw [hrest] at htx' hseq'
  have hpay := min_payload apdu 0
  rw [Nat.sub_zero] at hpay
  rw [hpay] at h₁
  refine ⟨tx', ?_, ?_⟩
  · rw [transmit, send, assert_of _ hpos, except_ok_bind, assert_of _ hle, except_ok_bind]
    simp only [pure, Except.pure, except_ok_bind, h₁, htx', segments_of_lt hpos]
    rfl
  · rw [hseq', hseq, segments_of_lt hpos, List.length_cons]
    omega

/-- **The transmitter emits the stream** of the APDUs that it is given. -/
theorem transmits_eq (tx : TransportTx aFragSize) {apdus : List (List Byte)}
    (h : ∀ f ∈ apdus, 0 < f.length ∧ f.length ≤ aFragSize) :
    ∃ tx', tx.transmits apdus = .ok (tx', stream tx.mSeq apdus) := by
  induction apdus generalizing tx with
  | nil => exact ⟨tx, rfl⟩
  | cons f fs ih =>
    obtain ⟨hpos, hle⟩ := h f (List.mem_cons_self ..)
    obtain ⟨tx₁, h₁, hseq⟩ := tx.transmit_eq hpos hle
    obtain ⟨tx', h'⟩ := ih tx₁ fun g hg ↦ h g (List.mem_cons_of_mem f hg)
    refine ⟨tx', ?_⟩
    rw [transmits, h₁, except_ok_bind, h', stream, stream_mod hseq]
    rfl

/-! ## One TPDU after the other

The layer sends the next segment when the one before it was sent, so the segments are the cutting
of the APDU, in order. -/

/-- The transmitter has sent the TPDUs of an APDU up to the one with the index `k`. -/
structure At (tx : TransportTx aFragSize) (apdu : List Byte) (seq k : ℕ) : Prop where
  buffer : tx.mBufferAPDU = apdu
  toSend : tx.mNumBytesToSend = apdu.length
  sent : tx.mNumBytesSent = min apdu.length (tlMaxTpduPayload * (k + 1))
  number : tx.mSeq % 64 = (seq + k) % 64

theorem lt_length_segments {apdu : List Byte} {seq k : ℕ} :
    k < (segments apdu seq 0).length ↔ tlMaxTpduPayload * k < apdu.length := by
  rw [segments, List.length_map, List.length_range, tlMaxTpduPayload]
  omega

theorem getElem?_segments {apdu : List Byte} {seq k : ℕ} (h : k < (segments apdu seq 0).length) :
    (segments apdu seq 0)[k]? = some (segmentAt apdu (seq + k) (tlMaxTpduPayload * k)) := by
  rw [segments, List.length_map, List.length_range] at h
  rw [segments, List.getElem?_map, List.getElem?_range h, Option.map_some, Nat.zero_add]

/-- **The first TPDU is sent.** -/
theorem send_at (tx : TransportTx aFragSize) {apdu : List Byte} (hpos : 0 < apdu.length)
    (hle : apdu.length ≤ aFragSize) :
    ∃ tx', tx.send apdu = .ok (tx', some (segmentAt apdu tx.mSeq 0)) ∧ tx'.At apdu tx.mSeq 0 := by
  obtain ⟨tx₁, h₁, hbuf, hto, hseq, hsent⟩ := checkForSend_of_lt ({ tx with
    mBufferAPDU := apdu, mNumBytesToSend := apdu.length, mNumBytesSent := 0
    sent_le := Nat.zero_le _, toSend_le := Nat.le_refl _ } : TransportTx aFragSize) hpos
  simp only [Nat.sub_zero] at h₁ hbuf hto hseq hsent
  have hpay := min_payload apdu 0
  rw [Nat.sub_zero] at hpay
  rw [hpay] at h₁
  refine ⟨tx₁, ?_, hbuf, hto, ?_, ?_⟩
  · rw [send, assert_of _ hpos, except_ok_bind, assert_of _ hle, except_ok_bind]
    simp only [pure, Except.pure, h₁]
    rfl
  · rw [hsent, Nat.zero_add, Nat.zero_add, Nat.mul_one]
  · rw [hseq, Nat.add_zero]

/-- **The next TPDU is sent**, when there is one. -/
theorem sendSuccess_at_of_lt {tx : TransportTx aFragSize} {apdu : List Byte} {seq k : ℕ}
    (h : tx.At apdu seq k) (hk : k + 1 < (segments apdu seq 0).length) :
    ∃ tx' tpdu, tx.sendSuccess = (false, tx', some tpdu) ∧
      (segments apdu seq 0)[k + 1]? = some tpdu ∧ tx'.At apdu seq (k + 1) := by
  have hlt : tlMaxTpduPayload * (k + 1) < apdu.length := lt_length_segments.mp hk
  have hsent : tx.mNumBytesSent = tlMaxTpduPayload * (k + 1) :=
    h.sent.trans (Nat.min_eq_right (Nat.le_of_lt hlt))
  obtain ⟨tx', htx', hbuf, hto, hseq, hsent'⟩ :=
    sendSuccess_of_lt (show tx.mNumBytesSent <
      tx.mNumBytesToSend by rw [hsent, h.toSend]; exact hlt)
  have hnumber : ((tx.mSeq + 1) % 64) % 64 = (seq + (k + 1)) % 64 := by
    have := h.number
    omega
  rw [h.toSend, hsent, h.buffer, min_payload, ← getHeader_mod, hnumber, getHeader_mod] at htx'
  refine ⟨tx', _, htx', getElem?_segments hk, hbuf.trans h.buffer, hto.trans h.toSend, ?_, ?_⟩
  · rw [hsent', h.toSend, hsent, ← Nat.mul_add_one]
  · rw [hseq]
    exact hnumber

/-- **The APDU is done** when there is none. -/
theorem sendSuccess_at_of_eq {tx : TransportTx aFragSize} {apdu : List Byte} {seq k : ℕ}
    (h : tx.At apdu seq k) (hk : (segments apdu seq 0).length ≤ k + 1) :
    ∃ tx', tx.sendSuccess = (true, tx', none) := by
  have hle : apdu.length ≤ tlMaxTpduPayload * (k + 1) := by
    by_contra hn
    exact absurd (lt_length_segments.mpr (Nat.lt_of_not_le hn)) (Nat.not_lt_of_le hk)
  obtain ⟨tx', htx', -⟩ := sendSuccess_of_eq <| show tx.mNumBytesSent = tx.mNumBytesToSend by
    rw [h.sent, h.toSend, Nat.min_eq_left hle]
  exact ⟨tx', htx'⟩

end TransportTx

end OpenDNP3
