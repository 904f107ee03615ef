import OpenDNP3.Transport.Rx

/-!
# Reassembly over a link that loses TPDUs

A lost TPDU leaves a partial APDU behind, and `TransportRx` keeps it: a TPDU with another number
than the expected one is ignored, and does not discard what is there.  Six bits of sequence number
then protect the partial APDU from the TPDUs of the APDUs that follow, for 64 TPDUs.

* `reassembly_splices` — that is not for ever.  If the link loses every first TPDU of 32 APDUs and
  delivers every last one, the last one of the 33rd completes the partial APDU of the first, though
  never more than two TPDUs in a row are lost.
* `reassembly_sublist` — what does protect the receiver is a first TPDU: if one is delivered within
  the 64 TPDUs after each lost one, then all that is handed up has been sent, in order.
-/

set_option autoImplicit false

namespace OpenDNP3

/-! ## The link -/

/-- What a link delivers that keeps the TPDU with the index `i` if `keep i`; the first TPDU of the
list has the index `i`. -/
def deliver (keep : ℕ → Bool) : ℕ → List (List Byte) → List (List Byte)
  | _, [] => []
  | i, t :: ts => (if keep i then [t] else []) ++ deliver keep (i + 1) ts

/-- Of any 63 TPDUs in a row one is delivered. -/
def NeverLoses63 (keep : ℕ → Bool) (tpdus : List (List Byte)) : Prop :=
  ∀ i, i + 63 ≤ tpdus.length → ∃ j, i ≤ j ∧ j < i + 63 ∧ keep j = true

/-- The TPDU has the FIR flag. -/
def isFir (tpdu : List Byte) : Bool := tpdu.headD 0 &&& tlHdrFir != 0

/-- Of the 64 TPDUs after a lost one a first TPDU of some APDU is delivered, unless there are fewer
than 64. -/
def FirAfterLoss (keep : ℕ → Bool) (tpdus : List (List Byte)) : Prop :=
  ∀ i, i + 64 < tpdus.length → keep i = false →
    ∃ j t, i < j ∧ j ≤ i + 64 ∧ keep j = true ∧ tpdus[j]? = some t ∧ isFir t = true

theorem deliver_append (keep : ℕ → Bool) (i : ℕ) (ts us : List (List Byte)) :
    deliver keep i (ts ++ us) = deliver keep i ts ++ deliver keep (i + ts.length) us := by
  induction ts generalizing i with
  | nil => rfl
  | cons t ts ih =>
    rw [List.cons_append, deliver, deliver, ih, List.length_cons, List.append_assoc,
      show i + 1 + ts.length = i + (ts.length + 1) by omega]

theorem isFir_segmentAt (apdu : List Byte) (seq k : ℕ) :
    isFir (segmentAt apdu seq k) = (k == 0) :=
  (getHeader_fields (k == 0) _ seq).1

namespace TransportRx

variable {aFragSize : ℕ}

/-- A receiver before the TPDU with the index `i`, which is the one at the offset `k` of `apdu`.  It
holds nothing, or the part of `apdu` before the offset, or a partial APDU whose next TPDU has been
lost, and since then no first TPDU has been delivered. -/
def Safe (keep : ℕ → Bool) (tpdus : List (List Byte)) (seq i : ℕ) (apdu : List Byte) (k : ℕ)
    (rx : TransportRx aFragSize) : Prop :=
  rx.mBuffer = [] ∨
  (0 < k ∧ k < apdu.length ∧ rx.mBuffer = apdu.take k ∧ rx.mSeq = (seq + i) % 64) ∨
  ∃ g, g < i ∧ keep g = false ∧ rx.mSeq = (seq + g) % 64 ∧
    ∀ j t, g < j → j < i → keep j = true → tpdus[j]? = some t → isFir t = false

variable {keep : ℕ → Bool} {tpdus : List (List Byte)} {seq i : ℕ} {apdu : List Byte} {k : ℕ}
  {rx : TransportRx aFragSize}

/-- A lost TPDU is the one that the receiver has been waiting for, or it does not matter. -/
theorem Safe.lost (h : rx.Safe keep tpdus seq i apdu k) (hkeep : keep i = false) (k' : ℕ) :
    rx.Safe keep tpdus seq (i + 1) apdu k' := by
  rcases h with h | ⟨-, -, -, hseq⟩ | ⟨g, hg, hlost, hseq, hfir⟩
  · exact .inl h
  · exact .inr (.inr ⟨i, Nat.lt_succ_self i, hkeep, hseq, fun j t h1 h2 ↦ by omega⟩)
  · refine .inr (.inr ⟨g, by omega, hlost, hseq, fun j t h1 h2 hj ↦ ?_⟩)
    rcases Nat.lt_succ_iff_lt_or_eq.mp h2 with h2 | rfl
    · exact hfir j t h1 h2 hj
    · rw [hkeep] at hj
      cases hj

/-- **The window of the sequence number.**  A TPDU in the middle of an APDU that has the number the
receiver waits for is the one that it waits for. -/
theorem Safe.expects (h : rx.Safe keep tpdus seq i apdu k) (hloss : FirAfterLoss keep tpdus)
    (hi : tpdus[i]? = some (segmentAt apdu (seq + i) k)) (hpos : 0 < k)
    (hbuf : rx.mBuffer ≠ []) (hnum : rx.mSeq = (seq + i) % 64) :
    rx.Expects apdu (seq + i) k := by
  rcases h with h | h | ⟨g, hg, hlost, hseq, hfir⟩
  · exact absurd h hbuf
  · exact .inr ⟨h.1, h.2.2⟩
  · have hlen : i < tpdus.length := (List.getElem?_eq_some_iff.mp hi).1
    obtain ⟨j, t, h1, h2, hj, ht, htfir⟩ := hloss g (by omega) hlost
    have hji : j ≤ i := by omega
    have hnot : isFir t = false := by
      rcases Nat.lt_or_eq_of_le hji with hlt | rfl
      · exact hfir j t h1 hlt hj ht
      · rw [hi] at ht
        rw [← Option.some.inj ht, isFir_segmentAt, beq_eq_false_iff_ne]
        exact Nat.ne_of_gt hpos
    rw [hnot] at htfir
    cases htfir

/-- **One TPDU**, delivered or lost. -/
theorem Safe.step (h : rx.Safe keep tpdus seq i apdu k) (hloss : FirAfterLoss keep tpdus)
    (hi : tpdus[i]? = some (segmentAt apdu (seq + i) k)) (hk : k < apdu.length)
    (hle : apdu.length ≤ aFragSize) :
    ∃ rx' out, rx.receives (if keep i then [segmentAt apdu (seq + i) k] else []) = .ok (rx', out) ∧
      (out = [] ∨ out = [apdu] ∧ apdu.length ≤ k + tlMaxTpduPayload) ∧
      rx'.Safe keep tpdus seq (i + 1) apdu (k + tlMaxTpduPayload) := by
  cases hkeep : keep i with
  | false => exact ⟨rx, [], rfl, .inl rfl, h.lost hkeep _⟩
  | true =>
    rw [if_pos rfl]
    by_cases hexp : rx.Expects apdu (seq + i) k
    · obtain ⟨rx', hrx', hseq, hbuf⟩ := handleReceive_expected hexp hk hle
      by_cases hlast : apdu.length ≤ k + tlMaxTpduPayload
      · rw [if_pos hlast] at hrx' hbuf
        refine ⟨rx', [apdu], ?_, .inr ⟨rfl, hlast⟩, .inl hbuf⟩
        rw [receives, hrx']
        rfl
      · rw [if_neg hlast] at hrx' hbuf
        refine ⟨rx', [], ?_, .inl rfl, .inr (.inl ⟨Nat.lt_add_left k (by decide), ?_, hbuf, hseq⟩)⟩
        · rw [receives, hrx']
          rfl
        · exact Nat.not_le.mp hlast
    · have hpos : 0 < k := Nat.pos_of_ne_zero fun h0 ↦ hexp (.inl h0)
      have hignored : rx.mBuffer = [] ∨ rx.mSeq ≠ (seq + i) % 64 := by
        by_contra hnot
        rw [not_or, not_not] at hnot
        exact hexp (h.expects hloss hi hpos hnot.1 hnot.2)
      refine ⟨rx, [], ?_, .inl rfl, ?_⟩
      · rw [receives, handleReceive_unexpected hignored hpos hk]
        rfl
      · rcases h with h | h | ⟨g, hg, hlost, hseq, hfir⟩
        · exact .inl h
        · exact absurd (.inr ⟨h.1, h.2.2⟩) hexp
        · refine .inr (.inr ⟨g, by omega, hlost, hseq, fun j t h1 h2 hj ht ↦ ?_⟩)
          rcases Nat.lt_succ_iff_lt_or_eq.mp h2 with h2 | rfl
          · exact hfir j t h1 h2 hj ht
          · rw [hi] at ht
            rw [← Option.some.inj ht, isFir_segmentAt, beq_eq_false_iff_ne]
            exact Nat.ne_of_gt hpos

/-- The rest of an APDU hands up the APDU or nothing. -/
theorem Safe.segments (h : rx.Safe keep tpdus seq i apdu k) (hloss : FirAfterLoss keep tpdus)
    (hi : segments apdu (seq + i) k <+: tpdus.drop i) (hle : apdu.length ≤ aFragSize) :
    ∃ rx' out k', rx.receives (deliver keep i (segments apdu (seq + i) k)) = .ok (rx', out) ∧
      (out = [] ∨ out = [apdu]) ∧ apdu.length ≤ k' ∧
      rx'.Safe keep tpdus seq (i + (segments apdu (seq + i) k).length) apdu k' := by
  induction hn : apdu.length - k using Nat.strongRecOn generalizing rx i k with
  | _ n ih =>
    rcases Nat.lt_or_ge k apdu.length with hk | hk
    · rw [segments_of_lt hk] at hi ⊢
      obtain ⟨later, hlater⟩ := hi
      have hseg : tpdus[i]? = some (segmentAt apdu (seq + i) k) := by
        have h0 : (tpdus.drop i)[0]? = some (segmentAt apdu (seq + i) k) := by
          rw [← hlater]
          rfl
        rwa [List.getElem?_drop, Nat.add_zero] at h0
      have hnext : segments apdu (seq + (i + 1)) (k + tlMaxTpduPayload) <+: tpdus.drop (i + 1) := by
        refine ⟨later, ?_⟩
        rw [← List.drop_drop, ← hlater]
        rfl
      have hshort : apdu.length - (k + tlMaxTpduPayload) < n := by
        rw [tlMaxTpduPayload]
        omega
      obtain ⟨rx₁, out₁, h₁, hout₁, hsafe⟩ := h.step hloss hseg hk hle
      obtain ⟨rx₂, out₂, k', h₂, hout₂, hk', hsafe'⟩ := ih _ hshort hsafe hnext rfl
      refine ⟨rx₂, out₁ ++ out₂, k', ?_, ?_, hk', ?_⟩
      · rw [deliver, receives_append, h₁, except_ok_bind]
        change (do let q ← rx₁.receives (deliver keep (i + 1) _); _) = _
        rw [Nat.add_assoc, h₂]
        rfl
      · rcases hout₁ with rfl | ⟨rfl, hlast⟩
        · exact hout₂
        · rw [segments_of_le hlast] at h₂
          cases h₂
          exact .inr rfl
      · rw [List.length_cons, Nat.add_assoc seq,
            show i + ((OpenDNP3.segments apdu (seq + (i + 1)) (k + tlMaxTpduPayload)).length + 1) =
          i + 1 + (OpenDNP3.segments apdu (seq + (i + 1)) (k + tlMaxTpduPayload)).length by omega]
        exact hsafe'
    · rw [segments_of_le hk]
      exact ⟨rx, [], k, rfl, .inl rfl, hk, h⟩

/-- Between two APDUs the receiver holds nothing of the second. -/
theorem Safe.next (h : rx.Safe keep tpdus seq i apdu k) (hk : apdu.length ≤ k)
    (apdu' : List Byte) : rx.Safe keep tpdus seq i apdu' 0 := by
  rcases h with h | ⟨-, hlt, -⟩ | h
  · exact .inl h
  · exact absurd hk (Nat.not_le.mpr hlt)
  · exact .inr (.inr h)

/-- The APDUs that are handed up are some of those that are sent. -/
theorem receives_deliver_stream {apdus : List (List Byte)}
    (hle : ∀ f ∈ apdus, f.length ≤ aFragSize) (hloss : FirAfterLoss keep tpdus)
    (h : ∀ apdu', rx.Safe keep tpdus seq i apdu' 0) (hi : stream (seq + i) apdus = tpdus.drop i) :
    ∃ rx' out, rx.receives (deliver keep i (stream (seq + i) apdus)) = .ok (rx', out) ∧
      out.Sublist apdus := by
  induction apdus generalizing rx i with
  | nil => exact ⟨rx, [], rfl, List.Sublist.refl []⟩
  | cons f fs ih =>
    rw [stream] at hi
    obtain ⟨rx₁, out₁, k', h₁, hout₁, hk', hsafe⟩ :=
      (h f).segments hloss ⟨_, hi⟩ (hle f (List.mem_cons_self ..))
    have hdrop : stream (seq + (i + (segments f (seq + i) 0).length)) fs =
        tpdus.drop (i + (segments f (seq + i) 0).length) := by
      rw [← List.drop_drop, ← hi, List.drop_left, Nat.add_assoc]
    obtain ⟨rx₂, out₂, h₂, hsub⟩ := ih (fun g hg ↦ hle g (List.mem_cons_of_mem f hg))
      (hsafe.next hk') hdrop
    refine ⟨rx₂, out₁ ++ out₂, ?_, ?_⟩
    · rw [stream, deliver_append, receives_append, h₁, except_ok_bind]
      rw [Nat.add_assoc, h₂]
      rfl
    · rcases hout₁ with rfl | rfl
      · exact hsub.cons f
      · exact hsub.cons_cons f

end TransportRx

/-- **Reassembly under loss.**  If after each lost TPDU a first TPDU is delivered within 64, then
the APDUs that are handed up are sent ones, each at most once and in the order sent. -/
theorem reassembly_sublist {aFragSize : ℕ} (tx tx' : TransportTx aFragSize)
    (fragments : List (Fragment aFragSize)) (keep : ℕ → Bool) (tpdus : List (List Byte))
    (htx : tx.transmits (fragments.map Subtype.val) = .ok (tx', tpdus))
    (hloss : FirAfterLoss keep tpdus) :
    ∃ rx' apdus, (TransportRx.reset : TransportRx aFragSize).receives (deliver keep 0 tpdus) =
        .ok (rx', apdus) ∧
      apdus.Sublist (fragments.map Subtype.val) := by
  have hlen : ∀ f ∈ fragments.map Subtype.val, 0 < f.length ∧ f.length ≤ aFragSize := by
    intro f hf
    obtain ⟨g, -, rfl⟩ := List.mem_map.mp hf
    exact g.2
  obtain ⟨tx₁, htx₁⟩ := tx.transmits_eq hlen
  rw [htx₁] at htx
  cases htx
  exact TransportRx.receives_deliver_stream (i := 0) (fun f hf ↦ (hlen f hf).2) hloss
    (fun _ ↦ .inl rfl) rfl

theorem reassembly_sublist_first_lost :
    ∃ rx' apdus, (TransportRx.reset : TransportRx 2048).receives
        (deliver (fun i ↦ i == 1) 0 (stream 0 [[1, 2], [3]])) = .ok (rx', apdus) ∧
      apdus.Sublist [[1, 2], [3]] := by
  have hlen : ∀ f ∈ ([[1, 2], [3]] : List (List Byte)), 0 < f.length ∧ f.length ≤ 2048 := by decide
  have hcount : (stream 0 [[1, 2], [3]]).length = 2 := by decide
  obtain ⟨tx', htx'⟩ := (TransportTx.init : TransportTx 2048).transmits_eq hlen
  exact reassembly_sublist TransportTx.init tx' [⟨[1, 2], by decide⟩, ⟨[3], by decide⟩]
    (fun i ↦ i == 1) (stream 0 [[1, 2], [3]]) htx' fun i h ↦ by omega

/-! ## A splice

The sequence number has six bits. Many segments are lost here, but never more than two in a row,
and what remains of two fragments is put together to one. -/

/-- Thirty-three fragments of two TPDUs each, told apart by the octet they consist of. -/
def spliceFragments : List (Fragment 250) :=
  (List.range 33).map fun i ↦ ⟨List.replicate 250 (BitVec.ofNat 8 i), by
    rw [List.length_replicate]; decide⟩

/-- A link that delivers the first TPDU of the first fragment, and of the others the second. -/
def spliceKeep (i : ℕ) : Bool := i == 0 || (decide (i ≥ 3) && i % 2 == 1)

/-- **A splice.**  Never more than two TPDUs in a row are lost, and yet 249 octets of the first
fragment and the last octet of the last one are handed up as an APDU. -/
theorem reassembly_splices :
    ∃ tx' tpdus rx', (TransportTx.init : TransportTx 250).transmits
        (spliceFragments.map Subtype.val) = .ok (tx', tpdus) ∧
      NeverLoses63 spliceKeep tpdus ∧
      (TransportRx.reset : TransportRx 250).receives (deliver spliceKeep 0 tpdus) =
        .ok (rx', [List.replicate 249 0 ++ [32]]) ∧
      List.replicate 249 0 ++ [32] ∉ spliceFragments.map Subtype.val := by
  have hlen : ∀ f ∈ spliceFragments.map Subtype.val, 0 < f.length ∧ f.length ≤ 250 := by
    intro f hf
    obtain ⟨g, -, rfl⟩ := List.mem_map.mp hf
    exact g.2
  have hrun : ((TransportRx.reset : TransportRx 250).receives
      (deliver spliceKeep 0 (stream 0 (spliceFragments.map Subtype.val)))).map Prod.snd =
      .ok [List.replicate 249 0 ++ [32]] := by
    decide +kernel
  have hnew : List.replicate 249 0 ++ [32] ∉ spliceFragments.map Subtype.val := by
    decide +kernel
  have hkeep : NeverLoses63 spliceKeep (stream 0 (spliceFragments.map Subtype.val)) := by
    -- the next odd index is at most two away
    intro i _
    refine ⟨i + 3 + i % 2, by omega, by omega, ?_⟩
    simp only [spliceKeep, Bool.or_eq_true, Bool.and_eq_true, decide_eq_true_eq, beq_iff_eq]
    omega
  obtain ⟨tx', htx'⟩ := (TransportTx.init : TransportTx 250).transmits_eq hlen
  cases h : (TransportRx.reset : TransportRx 250).receives
      (deliver spliceKeep 0 (stream 0 (spliceFragments.map Subtype.val))) with
  | error e =>
    rw [h] at hrun
    cases hrun
  | ok p =>
    rw [h] at hrun
    exact ⟨tx', _, p.1, htx', hkeep,
      h.trans (congrArg Except.ok (Prod.ext rfl (Except.ok.inj hrun))), hnew⟩

end OpenDNP3
