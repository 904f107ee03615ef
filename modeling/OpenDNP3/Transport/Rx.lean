import OpenDNP3.Transport.Tx

/-!
# The transport receiver

`TransportRx` puts APDUs together again.  A TPDU with FIR starts a new APDU whatever came before;
any other is added to what is there if it has the next sequence number, and ignored if not.

* `handleReceive_first` and `handleReceive_next` — what a segment of an APDU does to a receiver that
  waits for it.
* `transport_round_trip` — the TPDUs that a transmitter emits are put together to what it was
  given, whatever the two sides did before.
-/

set_option autoImplicit false

namespace OpenDNP3

/-- `TransportRx`: the first `mNumBytesRead` octets of `mBuffer`, and the expected number. -/
structure TransportRx (aFragSize : ℕ) where
  mBuffer : List Byte
  mSeq : ℕ
  length_le : mBuffer.length ≤ aFragSize

namespace TransportRx

variable {aFragSize : ℕ}

/-- `mNumBytesRead` -/
def mNumBytesRead (rx : TransportRx aFragSize) : ℕ := rx.mBuffer.length

/-- `mNumBytesRead = 0;` -/
def discard (rx : TransportRx aFragSize) : TransportRx aFragSize :=
  { rx with mBuffer := [], length_le := Nat.zero_le _ }

/-- `Reset`, and the state a receiver is constructed in. -/
def reset : TransportRx aFragSize where
  mBuffer := []
  mSeq := 0
  length_le := Nat.zero_le _

/-- `BufferRemaining` -/
def bufferRemaining (rx : TransportRx aFragSize) : ℕ := aFragSize - rx.mNumBytesRead

/-- `ValidateHeader` -/
def validateHeader (rx : TransportRx aFragSize) (aFir aFin : Bool) (aSeq aPayloadSize : ℕ) :
    Bool × TransportRx aFragSize :=
  if !aFir && rx.mNumBytesRead == 0 then (false, rx)
  else
    -- a new APDU starts with the number it comes with, and what was there is gone
    let rx := if aFir then { rx with mSeq := aSeq }.discard else rx
    if !aFin && aPayloadSize != tlMaxTpduPayload then (false, rx)
    else if aSeq != rx.mSeq then (false, rx)
    else (true, rx)

/-- What `BufferRemaining` allows fits. -/
theorem length_append_le {rx : TransportRx aFragSize} {payload : List Byte}
    (h : ¬ rx.bufferRemaining < payload.length) : (rx.mBuffer ++ payload).length ≤ aFragSize := by
  have := rx.length_le
  rw [bufferRemaining, mNumBytesRead] at h
  rw [List.length_append]
  omega

/-- `HandleReceive`: the receiver, and the APDU that goes to `ReceiveAPDU`, if one is complete. -/
def handleReceive (rx : TransportRx aFragSize) (apData : List Byte) :
    Except Exception (TransportRx aFragSize × Option (List Byte)) :=
  if apData.length = 1 then .ok (rx, none)
  else if apData.length = 0 then .error (.argument "Zero length invalid")
  else if apData.length > tlMaxTpduLength then
    .error (.argument
      s!"Illegal arg: {apData.length} exceeds max tpdu size of {tlMaxTpduLength}")
  else
    let hdr := apData.headD 0
    let payload := apData.drop 1
    let first := hdr &&& tlHdrFir != 0
    let last := hdr &&& tlHdrFin != 0
    let seq := (hdr &&& tlHdrSeq).toNat
    match rx.validateHeader first last seq payload.length with
    | (false, rx) => .ok (rx, none)
    | (true, rx) =>
      if h : rx.bufferRemaining < payload.length then .ok (rx.discard, none)
      else
        let rx : TransportRx aFragSize := { rx with
          mBuffer := rx.mBuffer ++ payload
          mSeq := (rx.mSeq + 1) % 64
          length_le := length_append_le h }
        if last then .ok (rx.discard, some rx.mBuffer)
        else .ok (rx, none)

/-- One TPDU after the other, with the APDUs that are handed up. -/
def receives (rx : TransportRx aFragSize) :
    List (List Byte) → Except Exception (TransportRx aFragSize × List (List Byte))
  | [] => .ok (rx, [])
  | t :: ts => do
    let p ← rx.handleReceive t
    let q ← p.1.receives ts
    return (q.1, p.2.toList ++ q.2)

/-! ## What a segment does -/

/-- The receiver waits for the TPDU at the offset `k` of an APDU.  At the start of an APDU every
receiver does. -/
def Expects (rx : TransportRx aFragSize) (apdu : List Byte) (seq k : ℕ) : Prop :=
  k = 0 ∨ 0 < k ∧ rx.mBuffer = apdu.take k ∧ rx.mSeq = seq % 64

theorem length_segmentAt {apdu : List Byte} {seq k : ℕ} :
    (segmentAt apdu seq k).length = 1 + min tlMaxTpduPayload (apdu.length - k) := by
  rw [segmentAt, List.length_cons, List.length_take, List.length_drop, Nat.add_comm]

/-- A segment passes the checks of the length, and its header is read as it was written. -/
theorem handleReceive_segmentAt (rx : TransportRx aFragSize) {apdu : List Byte} (seq : ℕ) {k : ℕ}
    (hk : k < apdu.length) :
    rx.handleReceive (segmentAt apdu seq k) =
      match rx.validateHeader (k == 0) (decide (apdu.length ≤ k + tlMaxTpduPayload)) (seq % 64)
          ((apdu.drop k).take tlMaxTpduPayload).length with
      | (false, rx) => .ok (rx, none)
      | (true, rx) =>
        if h : rx.bufferRemaining < ((apdu.drop k).take tlMaxTpduPayload).length then
          .ok (rx.discard, none)
        else
          let rx : TransportRx aFragSize := { rx with
            mBuffer := rx.mBuffer ++ (apdu.drop k).take tlMaxTpduPayload
            mSeq := (rx.mSeq + 1) % 64
            length_le := length_append_le h }
          if decide (apdu.length ≤ k + tlMaxTpduPayload) then .ok (rx.discard, some rx.mBuffer)
          else .ok (rx, none) := by
  have hlen := @length_segmentAt apdu seq k
  rw [tlMaxTpduPayload] at hlen
  obtain ⟨h1, h2, h3⟩ := getHeader_fields (k == 0)
    (decide (apdu.length ≤ k + tlMaxTpduPayload)) seq
  rw [handleReceive, if_neg (by omega), if_neg (by omega), if_neg (by rw [tlMaxTpduLength]; omega)]
  simp only [segmentAt, List.headD_cons, List.drop_succ_cons, List.drop_zero, h1, h2, h3]

theorem validateHeader_expected {rx : TransportRx aFragSize} {apdu : List Byte} {seq k : ℕ}
    (h : rx.Expects apdu seq k) (hk : k < apdu.length) :
    ∃ rx', rx.validateHeader (k == 0) (decide (apdu.length ≤ k + tlMaxTpduPayload)) (seq % 64)
        ((apdu.drop k).take tlMaxTpduPayload).length = (true, rx') ∧
      rx'.mBuffer = apdu.take k ∧ rx'.mSeq = seq % 64 := by
  -- only the last segment is short
  have hsize : (!decide (apdu.length ≤ k + tlMaxTpduPayload) &&
      ((apdu.drop k).take tlMaxTpduPayload).length != tlMaxTpduPayload) = false := by
    rw [List.length_take, List.length_drop, tlMaxTpduPayload]
    by_cases hlast : apdu.length ≤ k + 249
    · rw [decide_eq_true hlast]
      rfl
    · rw [decide_eq_false hlast, Nat.min_eq_left (by omega)]
      rfl
  rcases h with rfl | ⟨hpos, hbuf, hseq⟩
  · refine ⟨{ rx with mSeq := seq % 64 }.discard, ?_, rfl, rfl⟩
    rw [validateHeader, hsize]
    simp [discard]
  · have hne : rx.mNumBytesRead ≠ 0 := by
      rw [mNumBytesRead, hbuf, List.length_take]
      omega
    refine ⟨rx, ?_, hbuf, hseq⟩
    rw [validateHeader, hsize]
    simp [hne, Nat.ne_of_gt hpos, hseq]

/-- **The segment that is waited for** is added, and completes the APDU if it is its last. -/
theorem handleReceive_expected {rx : TransportRx aFragSize} {apdu : List Byte} {seq k : ℕ}
    (h : rx.Expects apdu seq k) (hk : k < apdu.length) (hle : apdu.length ≤ aFragSize) :
    ∃ rx', rx.handleReceive (segmentAt apdu seq k) =
        .ok (rx', if apdu.length ≤ k + tlMaxTpduPayload then some apdu else none) ∧
      rx'.mSeq = (seq + 1) % 64 ∧
      rx'.mBuffer =
        if apdu.length ≤ k + tlMaxTpduPayload then [] else apdu.take (k + tlMaxTpduPayload) := by
  obtain ⟨rx₀, hv, hbuf, hseq⟩ := validateHeader_expected h hk
  have hroom : ¬ rx₀.bufferRemaining < ((apdu.drop k).take tlMaxTpduPayload).length := by
    rw [bufferRemaining, mNumBytesRead, hbuf, List.length_take, List.length_take, List.length_drop]
    omega
  have hnext : (rx₀.mSeq + 1) % 64 = (seq + 1) % 64 := by
    rw [hseq]
    omega
  have happ : rx₀.mBuffer ++ (apdu.drop k).take tlMaxTpduPayload =
      apdu.take (k + tlMaxTpduPayload) := by
    rw [hbuf, List.take_add]
  rw [handleReceive_segmentAt rx seq hk, hv]
  simp only [dif_neg hroom]
  by_cases hlast : apdu.length ≤ k + tlMaxTpduPayload
  · rw [if_pos (decide_eq_true hlast)]
    refine ⟨_, congrArg Except.ok (Prod.ext rfl ?_), hnext, ?_⟩
    · rw [if_pos hlast]
      exact congrArg some (happ.trans (List.take_of_length_le hlast))
    · rw [if_pos hlast]
      rfl
  · rw [if_neg (by simpa using hlast)]
    refine ⟨_, congrArg Except.ok (Prod.ext rfl ?_), hnext, ?_⟩
    · rw [if_neg hlast]
    · rw [if_neg hlast]
      exact happ

/-- A segment that is not waited for, in the middle of an APDU, is ignored. -/
theorem handleReceive_unexpected {rx : TransportRx aFragSize} {apdu : List Byte} {seq k : ℕ}
    (h : rx.mBuffer = [] ∨ rx.mSeq ≠ seq % 64) (hpos : 0 < k) (hk : k < apdu.length) :
    rx.handleReceive (segmentAt apdu seq k) = .ok (rx, none) := by
  have hv : rx.validateHeader (k == 0) (decide (apdu.length ≤ k + tlMaxTpduPayload)) (seq % 64)
      ((apdu.drop k).take tlMaxTpduPayload).length = (false, rx) := by
    unfold validateHeader
    rcases h with h | h
    · simp [Nat.ne_of_gt hpos, mNumBytesRead, h]
    · simp [Nat.ne_of_gt hpos, Ne.symm h]
  rw [handleReceive_segmentAt rx seq hk, hv]

/-- The rest of an APDU, from the segment that is waited for on, completes it. -/
theorem receives_segments {rx : TransportRx aFragSize} {apdu : List Byte} {seq k : ℕ}
    (h : rx.Expects apdu seq k) (hk : k < apdu.length) (hle : apdu.length ≤ aFragSize) :
    ∃ rx', rx.receives (segments apdu seq k) = .ok (rx', [apdu]) := by
  induction hn : apdu.length - k using Nat.strongRecOn generalizing rx seq k with
  | _ n ih =>
    obtain ⟨rx₁, h₁, hseq, hbuf⟩ := handleReceive_expected h hk hle
    rw [segments_of_lt hk]
    by_cases hlast : apdu.length ≤ k + tlMaxTpduPayload
    · rw [if_pos hlast] at h₁
      refine ⟨rx₁, ?_⟩
      rw [segments_of_le hlast, receives, h₁]
      rfl
    · rw [if_neg hlast] at h₁ hbuf
      have hpos : 0 < k + tlMaxTpduPayload := Nat.lt_add_left k (by decide)
      have hshort : apdu.length - (k + tlMaxTpduPayload) < n := by
        rw [tlMaxTpduPayload] at hpos ⊢
        omega
      obtain ⟨rx', h'⟩ := ih (apdu.length - (k + tlMaxTpduPayload)) hshort
        (.inr ⟨hpos, hbuf, hseq⟩ : rx₁.Expects apdu (seq + 1) (k + tlMaxTpduPayload)) (by omega) rfl
      refine ⟨rx', ?_⟩
      rw [receives, h₁, except_ok_bind, h']
      rfl

theorem receives_append (rx : TransportRx aFragSize) (ts us : List (List Byte)) :
    rx.receives (ts ++ us) = do
      let p ← rx.receives ts
      let q ← p.1.receives us
      return (q.1, p.2 ++ q.2) := by
  induction ts generalizing rx with
  | nil =>
    rw [List.nil_append, receives, except_ok_bind]
    cases rx.receives us <;> rfl
  | cons t ts ih =>
    rw [List.cons_append, receives, receives]
    cases rx.handleReceive t with
    | error e => rfl
    | ok p =>
      rw [except_ok_bind, except_ok_bind, ih]
      cases p.1.receives ts with
      | error e => rfl
      | ok q =>
        rw [except_ok_bind, except_ok_bind]
        cases h : q.1.receives us with
        | error e => simp [bind, Except.bind, pure, Except.pure, h]
        | ok r => simp [bind, Except.bind, pure, Except.pure, h]

/-- Whole APDUs are put together again. -/
theorem receives_stream (rx : TransportRx aFragSize) (seq : ℕ) {apdus : List (List Byte)}
    (h : ∀ f ∈ apdus, 0 < f.length ∧ f.length ≤ aFragSize) :
    ∃ rx', rx.receives (stream seq apdus) = .ok (rx', apdus) := by
  induction apdus generalizing rx seq with
  | nil => exact ⟨rx, rfl⟩
  | cons f fs ih =>
    obtain ⟨hpos, hle⟩ := h f (List.mem_cons_self ..)
    obtain ⟨rx₁, h₁⟩ := receives_segments (.inl rfl : rx.Expects f seq 0) hpos hle
    obtain ⟨rx', h'⟩ := ih rx₁ (seq + (segments f seq 0).length)
      fun g hg ↦ h g (List.mem_cons_of_mem f hg)
    refine ⟨rx', ?_⟩
    rw [stream, receives_append, h₁, except_ok_bind, h']
    rfl

end TransportRx

/-- A fragment that the application layer may hand down: what `TransportTx::Send` asserts. -/
def Fragment (aFragSize : ℕ) : Type :=
  { apdu : List Byte // 0 < apdu.length ∧ apdu.length ≤ aFragSize }

/-- **Segmentation round trips.**  The TPDUs that a transmitter in any state emits for a sequence of
fragments are put together by a receiver in any state to exactly these fragments, in order. -/
theorem transport_round_trip {aFragSize : ℕ} (tx : TransportTx aFragSize)
    (rx : TransportRx aFragSize) (fragments : List (Fragment aFragSize)) :
    ∃ tx' tpdus rx', tx.transmits (fragments.map Subtype.val) = .ok (tx', tpdus) ∧
      rx.receives tpdus = .ok (rx', fragments.map Subtype.val) := by
  have h : ∀ f ∈ fragments.map Subtype.val, 0 < f.length ∧ f.length ≤ aFragSize := by
    intro f hf
    obtain ⟨g, -, rfl⟩ := List.mem_map.mp hf
    exact g.2
  obtain ⟨tx', htx⟩ := tx.transmits_eq h
  obtain ⟨rx', hrx⟩ := rx.receives_stream tx.mSeq h
  exact ⟨tx', _, rx', htx, hrx⟩

end OpenDNP3
