import OpenDNP3.APL.Bytes
import OpenDNP3.APL.Exception

/-!
# The shiftable buffer

`ShiftableBuffer` holds what a reader has received: octets are written behind the write position,
consumed from the read position, and `Shift` moves the unread part to the front to make room.  The
order of the three positions is a field of the structure here, so it holds of every buffer.

`Sync` moves the reader to the next occurrence of a pattern.  The receiver calls it with the two
start octets of a frame, and `syncSubsequence_start` says where that leads: past every position at
which a frame certainly does not start, and no further.  For every pattern `sync_finds` says the
same: the reader is moved to the first occurrence, and if there is none to the longest end of the
unread octets with which one may begin.
-/

set_option autoImplicit false

namespace OpenDNP3

/-- `ShiftableBuffer`: `M_SIZE`, the octets of `mpBuffer` below `mWritePos`, and `mReadPos`. -/
structure ShiftableBuffer where
  mSize : ℕ
  mpBuffer : List Byte
  mReadPos : ℕ
  mReadPos_le : mReadPos ≤ mpBuffer.length
  length_le : mpBuffer.length ≤ mSize

namespace ShiftableBuffer

/-- The constructor `ShiftableBuffer(size_t)`. -/
def init (aSize : ℕ) : ShiftableBuffer where
  mSize := aSize
  mpBuffer := []
  mReadPos := 0
  mReadPos_le := Nat.le_refl 0
  length_le := Nat.zero_le aSize

/-- `ReadBuff`: the unread octets. -/
def readBuff (b : ShiftableBuffer) : List Byte := b.mpBuffer.drop b.mReadPos

/-- `NumReadBytes` -/
def numReadBytes (b : ShiftableBuffer) : ℕ := b.mpBuffer.length - b.mReadPos

/-- `NumWriteBytes` -/
def numWriteBytes (b : ShiftableBuffer) : ℕ := b.mSize - b.mpBuffer.length

/-- `AdvanceRead` -/
def advanceRead (b : ShiftableBuffer) (aNumBytes : ℕ) : Except Exception ShiftableBuffer :=
  if h : aNumBytes > b.numReadBytes then
    .error (.argument "Cannot be greater than the number of currently available reader bytes")
  else
    .ok { b with
      mReadPos := b.mReadPos + aNumBytes
      mReadPos_le := by
        have := b.mReadPos_le
        unfold numReadBytes at h
        omega }

/-- `AdvanceWrite`, after `aBytes` have been copied to `WriteBuff`. -/
def advanceWrite (b : ShiftableBuffer) (aBytes : List Byte) : Except Exception ShiftableBuffer :=
  if h : aBytes.length > b.numWriteBytes then
    .error (.argument "Cannot be greater than the number of currently available writer bytes")
  else
    .ok { b with
      mpBuffer := b.mpBuffer ++ aBytes
      mReadPos_le := by
        have := b.mReadPos_le
        rw [List.length_append]
        omega
      length_le := by
        have := b.length_le
        unfold numWriteBytes at h
        rw [List.length_append]
        omega }

/-- `Shift` -/
def shift (b : ShiftableBuffer) : ShiftableBuffer where
  mSize := b.mSize
  mpBuffer := b.readBuff
  mReadPos := 0
  mReadPos_le := Nat.zero_le _
  length_le := by
    have := b.length_le
    rw [readBuff, List.length_drop]
    omega

/-- `SyncSubsequence`, from the unread octets at the offset `aOffset`. -/
def syncSubsequence (apPattern : List Byte) (aNumPatternBytes : ℕ) : List Byte → ℕ → ℕ
  | [], aOffset => aOffset
  | b :: pRead, aOffset =>
    -- near the end only as much of the pattern is compared as there are octets left
    let n := min aNumPatternBytes (pRead.length + 1)
    if apPattern.take n = (b :: pRead).take n then aOffset
    else syncSubsequence apPattern n pRead (aOffset + 1)

/-- `Sync` -/
def sync (b : ShiftableBuffer) (apPattern : List Byte) :
    Except Exception (Bool × ShiftableBuffer) := do
  if apPattern.length < 1 then
    throw (.argument "Pattern must be at least 1 byte")
  let offset := syncSubsequence apPattern apPattern.length b.readBuff 0
  let res := decide (b.numReadBytes - offset ≥ apPattern.length)
  if offset > 0 then
    return (res, ← b.advanceRead offset)
  else
    return (res, b)

/-! ## What the operations do to the unread octets -/

@[simp] theorem readBuff_init (n : ℕ) : (init n).readBuff = [] := rfl

theorem numReadBytes_eq (b : ShiftableBuffer) : b.numReadBytes = b.readBuff.length := by
  rw [readBuff, List.length_drop, numReadBytes]

@[simp] theorem readBuff_shift (b : ShiftableBuffer) : b.shift.readBuff = b.readBuff := rfl

@[simp] theorem mSize_shift (b : ShiftableBuffer) : b.shift.mSize = b.mSize := rfl

/-- After a shift all of the buffer but the unread octets can be written. -/
theorem numWriteBytes_shift (b : ShiftableBuffer) :
    b.shift.numWriteBytes = b.mSize - b.readBuff.length := rfl

/-- To consume octets that are there moves the read position, and nothing else. -/
theorem advanceRead_eq {b : ShiftableBuffer} {n : ℕ} (h : n ≤ b.readBuff.length) :
    ∃ b', b.advanceRead n = .ok b' ∧ b'.mReadPos = b.mReadPos + n ∧ b'.mpBuffer = b.mpBuffer ∧
      b'.mSize = b.mSize := by
  rw [← numReadBytes_eq] at h
  exact ⟨_, dif_neg (by omega), rfl, rfl, rfl⟩

/-- Octets that are there can be consumed. -/
theorem advanceRead_ok {b : ShiftableBuffer} {n : ℕ} (h : n ≤ b.readBuff.length) :
    ∃ b', b.advanceRead n = .ok b' ∧ b'.readBuff = b.readBuff.drop n ∧ b'.mSize = b.mSize := by
  obtain ⟨b', hb', hpos, hbuf, hsize⟩ := advanceRead_eq h
  refine ⟨b', hb', ?_, hsize⟩
  rw [readBuff, readBuff, hpos, hbuf, List.drop_drop]

/-- Octets that fit can be written. -/
theorem advanceWrite_ok {b : ShiftableBuffer} {bs : List Byte} (h : bs.length ≤ b.numWriteBytes) :
    ∃ b', b.advanceWrite bs = .ok b' ∧ b'.readBuff = b.readBuff ++ bs ∧ b'.mSize = b.mSize := by
  refine ⟨_, dif_neg (by omega), ?_, rfl⟩
  simp only [readBuff]
  rw [List.drop_append_of_le_length b.mReadPos_le]

theorem syncSubsequence_le (pat : List Byte) (n : ℕ) (bs : List Byte) (k : ℕ) :
    syncSubsequence pat n bs k ≤ k + bs.length := by
  induction bs generalizing n k with
  | nil => exact Nat.le_refl k
  | cons b bs ih =>
    rw [syncSubsequence, List.length_cons]
    split
    · omega
    · have := ih (min n (bs.length + 1)) (k + 1)
      omega

/-- `Sync` moves the read position by what `syncSubsequence` skips. -/
theorem sync_eq (b : ShiftableBuffer) (pat : List Byte) (h : pat ≠ []) :
    ∃ b', b.sync pat =
        .ok (decide (pat.length ≤
          (b.readBuff.drop (syncSubsequence pat pat.length b.readBuff 0)).length), b') ∧
      b'.mReadPos = b.mReadPos + syncSubsequence pat pat.length b.readBuff 0 ∧
      b'.mpBuffer = b.mpBuffer ∧ b'.mSize = b.mSize := by
  have hlen : ¬ pat.length < 1 := by
    have := List.length_pos_of_ne_nil h
    omega
  have hle := syncSubsequence_le pat pat.length b.readBuff 0
  obtain ⟨b', hb', hpos, hbuf, hsize⟩ :=
    advanceRead_eq (b := b) (n := syncSubsequence pat pat.length b.readBuff 0) (by omega)
  simp only [sync, if_neg hlen, numReadBytes_eq, List.length_drop]
  generalize hk : syncSubsequence pat pat.length b.readBuff 0 = k at *
  by_cases hskip : k > 0
  · refine ⟨b', ?_, hpos, hbuf, hsize⟩
    simp [hskip, hb']
  · have h0 : k = 0 := by omega
    subst h0
    exact ⟨b, rfl, rfl, rfl, rfl⟩

/-- `Sync` consumes what `syncSubsequence` skips. -/
theorem sync_ok (b : ShiftableBuffer) (pat : List Byte) (h : pat ≠ []) :
    ∃ b', b.sync pat =
        .ok (decide (pat.length ≤
          (b.readBuff.drop (syncSubsequence pat pat.length b.readBuff 0)).length), b') ∧
      b'.readBuff = b.readBuff.drop (syncSubsequence pat pat.length b.readBuff 0) ∧
      b'.mSize = b.mSize := by
  obtain ⟨b', hb', hpos, hbuf, hsize⟩ := sync_eq b pat h
  refine ⟨b', hb', ?_, hsize⟩
  change b'.mpBuffer.drop b'.mReadPos = (b.mpBuffer.drop b.mReadPos).drop _
  rw [hpos, hbuf, List.drop_drop]

/-! ## Where `Sync` leads

The octets in front of the first occurrence of the pattern are dropped. If there is none, only as
many stay as an occurrence may begin with. -/

section Search

variable {α : Type}

/-- **The first occurrence** of the pattern is behind so many symbols. -/
structure OccursFirst (pat bs : List α) (k : ℕ) : Prop where
  occurs : pat <+: bs.drop k
  first : ∀ j, j < k → ¬pat <+: bs.drop j

/-- **The longest end** of the symbols with which an occurrence of the pattern may begin.  It may be
empty. -/
structure LongestStart (pat bs s : List α) : Prop where
  isEnd : s <:+ bs
  starts : s <+: pat
  proper : s.length < pat.length
  longest : ∀ t, t <:+ bs → t <+: pat → t.length < pat.length → t.length ≤ s.length

/-- As far as the symbols go, the pattern occurs here. -/
def MayOccur (pat bs : List α) : Prop := pat <+: bs ∨ bs <+: pat

theorem mayOccur_iff_take {pat bs : List α} :
    MayOccur pat bs ↔ pat.take (min pat.length bs.length) = bs.take (min pat.length bs.length) := by
  rw [MayOccur, List.prefix_iff_eq_take, List.prefix_iff_eq_take]
  rcases Nat.le_total pat.length bs.length with hle | hle
  · rw [Nat.min_eq_left hle, List.take_of_length_le (Nat.le_refl pat.length)]
    constructor
    · rintro (h | h)
      · exact h
      · rw [List.take_of_length_le hle] at h
        rw [h, List.take_of_length_le (Nat.le_refl pat.length)]
    · exact .inl
  · rw [Nat.min_eq_right hle, List.take_of_length_le (Nat.le_refl bs.length)]
    constructor
    · rintro (h | h)
      · rw [List.take_of_length_le hle] at h
        rw [h, List.take_of_length_le (Nat.le_refl bs.length)]
      · exact h.symm
    · exact fun h ↦ .inr h.symm

variable {pat bs : List α} {k : ℕ}

/-- Where the whole pattern fits, it occurs. -/
theorem occursFirst_of_mayOccur (hocc : MayOccur pat (bs.drop k))
    (hfirst : ∀ j, j < k → ¬MayOccur pat (bs.drop j))
    (hfits : pat.length ≤ (bs.drop k).length) : OccursFirst pat bs k := by
  refine ⟨?_, fun j hj h ↦ hfirst j hj (.inl h)⟩
  rcases hocc with h | h
  · exact h
  · have heq : bs.drop k = pat := h.eq_of_length_le hfits
    exact heq ▸ List.prefix_rfl

/-- Where it does not fit, it occurs nowhere, and no longer end can begin an occurrence. -/
theorem longestStart_of_mayOccur (hocc : MayOccur pat (bs.drop k))
    (hfirst : ∀ j, j < k → ¬MayOccur pat (bs.drop j))
    (hshort : (bs.drop k).length < pat.length) : ¬pat <:+: bs ∧
    LongestStart pat bs (bs.drop k) := by
  have hle {t : List α} (ht : t <:+ bs) (hmay : MayOccur pat t) :
      t.length ≤ (bs.drop k).length := by
    rw [List.suffix_iff_eq_drop] at ht
    by_contra hlong
    rw [ht, List.length_drop, List.length_drop] at hlong
    exact hfirst (bs.length - t.length) (by omega) (ht ▸ hmay)
  constructor
  · intro h
    obtain ⟨t, hpre, hsuf⟩ := List.infix_iff_prefix_suffix.mp h
    have := hle hsuf (.inl hpre)
    have := hpre.length_le
    omega
  · refine ⟨List.drop_suffix k bs, ?_, hshort, fun t ht hpre _ ↦ hle ht (.inr hpre)⟩
    rcases hocc with h | h
    · have := h.length_le
      omega
    · exact h

end Search

/-- **`SyncSubsequence` stops at the first position at which the pattern may occur.** -/
theorem syncSubsequence_spec (pat : List Byte) {n : ℕ} {bs : List Byte} (k : ℕ)
    (hn : min n bs.length = min pat.length bs.length) :
    ∃ j, syncSubsequence pat n bs k = k + j ∧ MayOccur pat (bs.drop j) ∧
      ∀ i, i < j → ¬MayOccur pat (bs.drop i) := by
  induction bs generalizing n k with
  | nil => exact ⟨0, rfl, .inr (List.nil_prefix), fun i hi ↦ absurd hi (Nat.not_lt_zero i)⟩
  | cons b bs ih =>
    rw [List.length_cons] at hn
    rw [syncSubsequence]
    split
    · next heq =>
      rw [hn] at heq
      exact ⟨0, rfl, mayOccur_iff_take.mpr heq, fun i hi ↦ absurd hi (Nat.not_lt_zero i)⟩
    · next hne =>
      rw [hn] at hne
      obtain ⟨j, hj, hocc, hfirst⟩ := ih (n := min n (bs.length + 1)) (k + 1) (by omega)
      refine ⟨j + 1, by rw [hj]; omega, hocc, fun i hi ↦ ?_⟩
      cases i with
      | zero => exact fun h ↦ hne (mayOccur_iff_take.mp h)
      | succ i => exact hfirst i (by omega)

/-- **`Sync` never skips a match**: it moves the read position to the first occurrence of the
pattern, or if there is none to the longest end of the unread octets that one may begin with, and
tells which. -/
theorem sync_finds (b : ShiftableBuffer) (pat : List Byte) (h : 1 ≤ pat.length) :
    ∃ found b' k, b.sync pat = .ok (found, b') ∧
      b'.mpBuffer = b.mpBuffer ∧ b'.mSize = b.mSize ∧ b'.mReadPos = b.mReadPos + k ∧
      (found = true ↔ pat <:+: b.readBuff) ∧
      (found = true → OccursFirst pat b.readBuff k) ∧
      (found = false → LongestStart pat b.readBuff b'.readBuff) := by
  obtain ⟨b', hb', hpos, hbuf, hsize⟩ := sync_eq b pat (List.ne_nil_of_length_pos h)
  obtain ⟨j, hj, hocc, hfirst⟩ := @syncSubsequence_spec pat _ b.readBuff 0 rfl
  rw [hj, Nat.zero_add] at hb' hpos
  have hread : b'.readBuff = b.readBuff.drop j := by
    rw [readBuff, readBuff, hpos, hbuf, List.drop_drop]
  refine ⟨_, b', j, hb', hbuf, hsize, hpos, ?_, fun hfits ↦ ?_, fun hshort ↦ ?_⟩
  · rw [decide_eq_true_iff]
    constructor
    · intro hfits
      have hoccurs := (occursFirst_of_mayOccur hocc hfirst hfits).occurs
      exact hoccurs.isInfix.trans (List.drop_suffix j _).isInfix
    · intro hinfix
      by_contra hshort
      exact (longestStart_of_mayOccur hocc hfirst (by omega)).1 hinfix
  · exact occursFirst_of_mayOccur hocc hfirst (of_decide_eq_true hfits)
  · rw [hread]
    have hlt := of_decide_eq_false hshort
    exact (longestStart_of_mayOccur hocc hfirst (by omega)).2

/-- The pattern `CBC` in `AACB`: the partial match at the end is kept. -/
theorem sync_finds_partial : ∃ b found b' k,
    (init 4).advanceWrite [0x41, 0x41, 0x43, 0x42] = .ok b ∧
    b.sync [0x43, 0x42, 0x43] = .ok (found, b') ∧
      found = false ∧ b'.mReadPos = b.mReadPos + k ∧
      LongestStart [0x43, 0x42, 0x43] b.readBuff b'.readBuff := by
  obtain ⟨b, hb, hread, -⟩ := @advanceWrite_ok (init 4) [0x41, 0x41, 0x43, 0x42] (by decide)
  obtain ⟨found, b', k, hsync, -, -, hpos, hfound, -, hlongest⟩ := sync_finds b [0x43, 0x42, 0x43]
    (by decide)
  have hnone : found = false := by
    rw [← Bool.not_eq_true, hfound, hread]
    decide
  exact ⟨b, found, b', k, hb, hsync, hnone, hpos, hlongest hnone⟩

end ShiftableBuffer

end OpenDNP3
