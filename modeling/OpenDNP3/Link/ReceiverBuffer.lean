import OpenDNP3.Link.RoundTrip

/-!
# The receiver's buffer never fills up

`LinkLayerRouter` reads into what `NumWriteBytes` offers of the receiver's buffer, and a read of no
octets would be the last one.  So the receiver must give up octets whatever arrives: each of its
states waits for less than a frame of the largest size, since a header is checked before its length
is believed, and after the loop `Shift` moves what is left to the front.

* `onReads_bounded` — **after each read less than a frame is left**, at the start of the buffer, and
  nothing has been thrown on the way.
* `readUserData_length_le` — what is copied to `mpUserData` is no more than the header says.
-/

set_option autoImplicit false

namespace OpenDNP3

open Scan

/-- `ReadUserData` copies no more than it is asked for. -/
theorem readUserData_length_le (apSrc : List Byte) (aLength : ℕ) :
    (readUserData apSrc aLength).length ≤ aLength := by
  induction aLength using Nat.strongRecOn generalizing apSrc with
  | _ n ih =>
    rw [readUserData]
    split
    · exact Nat.zero_le n
    · next hne =>
      have hnum : 0 < min n lsDataBlockSize := by
        rw [lsDataBlockSize]
        omega
      have hrest := ih (n - min n lsDataBlockSize) (by omega)
        (apSrc.drop (min n lsDataBlockSize + 2))
      rw [List.length_append, List.length_take]
      omega

/-- The user data of a call is what was copied for it. -/
theorem LinkLayerReceiver.length_payload_le {mHeader : LinkHeader} {data : List Byte}
    {f : Frame (List Byte)}
    (h : LinkLayerReceiver.sinkCall mHeader data = some f) : f.payload.length ≤ data.length := by
  unfold LinkLayerReceiver.sinkCall at h
  simp only at h
  split at h <;> cases h <;> simp [Frame.payload]

/-- A frame that is found has no more user data than a header can announce. -/
theorem length_payload_le_of_lookAt {bs : List Byte} {n : ℕ} {f : Frame (List Byte)}
    (h : lookAt bs = .take n f) : f.payload.length ≤ lsMaxUserDataSize := by
  obtain ⟨-, -, hf⟩ := lookAtStart_eq_take (lookAt_eq_take h)
  calc
    f.payload.length ≤
        (readUserData (bs.drop lsHeaderSize) (LinkHeader.read bs).userDataLength).length :=
      LinkLayerReceiver.length_payload_le hf
    _ ≤ (LinkHeader.read bs).userDataLength := readUserData_length_le _ _
    _ ≤ lsMaxUserDataSize := LinkHeader.userDataLength_le _

namespace LinkLayerReceiver

/-- A buffer in which less than a frame waits, at its start. -/
structure Bounded (r : LinkLayerReceiver) : Prop where
  unread_lt : r.mBuffer.readBuff.length < lsMaxFrameSize
  atStart : r.mBuffer.mReadPos = 0
  room : 0 < r.mBuffer.numWriteBytes

theorem bounded_init : init.Bounded where
  unread_lt := by decide
  atStart := rfl
  room := by decide

/-- What `OnRead` returns has been shifted. -/
theorem mReadPos_of_onRead {r r' : LinkLayerReceiver} {c : List Byte}
    {frames : List (Frame (List Byte))}
    (h : r.onRead c = .ok (r', frames)) : r'.mBuffer.mReadPos = 0 ∧
    r'.mBuffer.mpBuffer = r'.unread := by
  rw [onRead, except_bind_eq_ok] at h
  obtain ⟨-, -, h⟩ := h
  rw [except_bind_eq_ok] at h
  obtain ⟨b, -, h⟩ := h
  rw [except_bind_eq_ok] at h
  obtain ⟨⟨r₁, frames₁⟩, -, h⟩ := h
  cases h
  exact ⟨rfl, rfl⟩

/-- **A read** of octets that fit leaves less than a frame, and the calls of the sink have user data
that fits. -/
theorem onRead_bounded {r : LinkLayerReceiver} {bs : List Byte} (hr : r.Waits bs) {c : List Byte}
    (hc : c.length ≤ r.mBuffer.numWriteBytes) :
    ∃ r' frames, r.onRead c = .ok (r', frames) ∧ r'.Waits (bs ++ c) ∧ r'.Bounded ∧
      ∀ f ∈ frames, f.payload.length ≤ lsMaxUserDataSize := by
  obtain ⟨r', frames, h, hr', hitems⟩ := onRead_spec hr hc
  obtain ⟨hpos, hbuf⟩ := mReadPos_of_onRead h
  refine ⟨r', frames, h, hr', ⟨?_, hpos, ?_⟩, fun f hf ↦ ?_⟩
  · have hroom := hr'.room
    rw [ShiftableBuffer.numWriteBytes, hr'.size, hbuf] at hroom
    change r'.unread.length < lsMaxFrameSize
    have hmax : lsMaxFrameSize ≤ bufferSize := by decide
    omega
  · exact Nat.lt_of_le_of_lt (Nat.zero_le _) hr'.room
  · have hmem : f ∈ frameScanner.items (bs ++ c) := by
      rw [hitems]
      exact List.mem_append_right _ hf
    obtain ⟨v, n, -, hlook⟩ := Scanner.exists_of_mem_items hmem
    exact length_payload_le_of_lookAt hlook

theorem onReads_bounded_of_waits {r : LinkLayerReceiver} {bs : List Byte} (hr : r.Waits bs)
    (hb : r.Bounded) {chunks : List (List Byte)} (hfit : r.Fits chunks) :
    ∃ r' frames, r.onReads chunks = .ok (r', frames) ∧ r'.Bounded ∧
      ∀ f ∈ frames, f.payload.length ≤ lsMaxUserDataSize := by
  induction chunks generalizing r bs with
  | nil => exact ⟨r, [], rfl, hb, fun f hf ↦ absurd hf List.not_mem_nil⟩
  | cons c cs ih =>
    obtain ⟨r₁, frames₁, h₁, hw, hb₁, hdata₁⟩ := onRead_bounded hr hfit.1
    obtain ⟨r₂, frames₂, h₂, hb₂, hdata₂⟩ := ih hw hb₁ (hfit.2 _ _ h₁)
    refine ⟨r₂, frames₁ ++ frames₂, ?_, hb₂, fun f hf ↦ ?_⟩
    · rw [onReads, h₁, except_ok_bind, h₂]
      rfl
    · exact (List.mem_append.mp hf).elim (hdata₁ f) (hdata₂ f)

/-- **The buffer never fills up.**  However a stream is cut into reads of what is offered of the
buffer, no read throws, and after each of them less than a frame waits at the start of the
buffer. -/
theorem onReads_bounded (chunks : List (List Byte)) (hfit : init.Fits chunks) :
    ∃ r frames, init.onReads chunks = .ok (r, frames) ∧ r.Bounded ∧
      ∀ f ∈ frames, f.payload.length ≤ lsMaxUserDataSize :=
  onReads_bounded_of_waits waits_init bounded_init hfit

/-- Noise, and then a header that is cut in two. -/
theorem onReads_bounded_split :
    ∃ r frames, init.onReads
      [[0xFF, 0x05, 0x64, 0x05, 0xC0], [0x01, 0x00, 0x00, 0x04, 0xE9, 0x21]] = .ok (r, frames) ∧
      r.Bounded ∧ ∀ f ∈ frames, f.payload.length ≤ lsMaxUserDataSize :=
  onReads_bounded _ (fits_of_length_le waits_init (by decide))

end LinkLayerReceiver

end OpenDNP3
