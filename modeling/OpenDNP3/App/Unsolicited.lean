import OpenDNP3.App.UnsolNumbers

/-!
# Unsolicited responses

The outstation and the master with what is on its way between them.  A fragment may be lost, and a
connection may end at any time; what is on its way stays in order.

* `Network.Tracked` — the invariant of the two sides: what is on its way is in order, and the master
  knows the number of the last response that it has handed up.
* `Network.confirmed_handed_once` — every unsolicited response that the master confirms was handed
  up once, as long as each connection brings only what was sent over it, and the master never gets a
  response whose number has come round since the last one that it handed up.
-/

set_option autoImplicit false

namespace OpenDNP3

open Handler AppLayer

namespace Network

variable {ω : Type} {body : OutAPDU ω → List Byte} {base : ℕ → ℕ} {n : Network ω}
  {f : OutAPDU ω}

/-- The send belongs to the connection, as things stand with the outstation. -/
abbrev BelongsTo (base : ℕ → ℕ) (o : Side ω) (e j : ℕ) : Prop :=
  Belongs base o.connection (o.sent true) e j

/-- What is on its way to the master are the octets of a fragment, which has its number if it is an
unsolicited response. -/
def OnWire (body : OutAPDU ω → List Byte) (base : ℕ → ℕ) (o : Side ω) (p : Packet) : Prop :=
  ∃ f : OutAPDU ω, p.apData = octets body f ∧
    ((∀ j, p.id ≠ some (true, j)) → f.function ≠ some .unsolicitedResponse) ∧
    ∀ j, p.id = some (true, j) → f.function = some .unsolicitedResponse ∧
      BelongsTo base o p.connection j ∧ HasNumber (j - base p.connection) f

/-- The number of the last unsolicited response that was handed up over the connection. -/
def numberOf (base : ℕ → ℕ) (c : ℕ) : Option ℕ → ℕ
  | none => 0
  | some i => i - base c

/-- **The invariant of the two sides.** -/
structure Tracked (body : OutAPDU ω → List Byte) (base : ℕ → ℕ) (n : Network ω) : Prop where
  consistent : n.outstation.app.Consistent
  numbered : Numbered (n.outstation.sent true - base n.outstation.connection) n.outstation.app
  counts : Counts base n.outstation.connection (n.outstation.sent true)
  wire : ∀ p ∈ n.master.inbox, OnWire body base n.outstation p
  ordered : n.master.inbox.Pairwise fun p q ↦
    ∀ i j, p.id = some (true, i) → q.id = some (true, j) → i ≤ j
  expects : Expects (sequenceAfter (numberOf base n.master.connection n.lastUnsol)) n.master.app
  last : ∀ i, n.lastUnsol = some i → BelongsTo base n.outstation n.master.connection i ∧
    some (true, i) ∈ n.handed ∧ ∀ p ∈ n.master.inbox, ∀ j, p.id = some (true, j) →
      p.connection = n.master.connection → i ≤ j
  handed : ∀ j, some (true, j) ∈ n.handed → ∃ e ≤ n.master.connection,
    BelongsTo base n.outstation e j ∧
      (e = n.master.connection → ∃ i, n.lastUnsol = some i ∧ j ≤ i)
  once : ∀ j, n.handed.count (some (true, j)) ≤ 1
  confirmed : ∀ j, some (true, j) ∈ n.confirmed → some (true, j) ∈ n.handed
  suppressed : ∀ j, some (true, j) ∈ n.suppressed → some (true, j) ∈ n.handed

/-! ## The outstation -/

/-- The outstation goes on, and what was sent still belongs to its connections. -/
theorem Tracked.withOutstation (h : Tracked body base n) {base' : ℕ → ℕ} {s : Side ω}
    (l : List SendId) (hconsistent : s.app.Consistent)
    (hnumbered : Numbered (s.sent true - base' s.connection) s.app)
    (hcounts : Counts base' s.connection (s.sent true))
    (hbase : ∀ e ≤ n.outstation.connection, base' e = base e)
    (hbelongs : ∀ e j, BelongsTo base n.outstation e j → BelongsTo base' s e j) :
    Tracked body base' { n with outstation := s, succeeded := l } where
  consistent := hconsistent
  numbered := hnumbered
  counts := hcounts
  wire p hp := by
    obtain ⟨f, hf, hno, hyes⟩ := h.wire p hp
    refine ⟨f, hf, hno, fun j hj ↦ ?_⟩
    obtain ⟨hfun, hb, hnum⟩ := hyes j hj
    exact ⟨hfun, hbelongs _ _ hb, by rw [hbase _ hb.connection]; exact hnum⟩
  ordered := h.ordered
  expects := by
    have hexp := h.expects
    cases hl : n.lastUnsol with
    | none => rw [hl] at hexp; exact hexp
    | some i =>
      rw [hl, numberOf, ← hbase _ (h.last i hl).1.connection] at hexp
      exact hexp
  last i hi := by
    obtain ⟨hb, hmem, hle⟩ := h.last i hi
    exact ⟨hbelongs _ _ hb, hmem, hle⟩
  handed j hj := by
    obtain ⟨e, he, hb, hlast⟩ := h.handed j hj
    exact ⟨e, he, hbelongs _ _ hb, hlast⟩
  once := h.once
  confirmed := h.confirmed
  suppressed := h.suppressed

/-- **The outstation does anything.** -/
theorem Tracked.outstationOp (h : Tracked body base n) {op : Op ω}
    (hop : n.outstation.app.allowed op = true) :
    ∃ base', Tracked body base' (n.outstationOp op) := by
  have hand := wp_and (wpConsistent_perform h.consistent hop)
    (h.numbered.wp_perform h.consistent hop)
  have hconn := Side.perform_connection n.outstation op
  rcases Side.perform_spec hand with ⟨⟨hct, hnt⟩, hsent⟩ | ⟨e, ⟨hct, hnt, hd⟩, -, hsent⟩
  · rw [numberAfter] at hnt
    replace hsent := congrFun hsent true
    cases hd : op.isDown with
    | true =>
      -- the next connection begins
      have hsends : op.sends ≠ some true := by
        intro hu
        cases op <;> simp [Op.isDown, Op.sends] at hd hu
      rw [hd, if_pos rfl] at hnt hconn
      rw [if_neg hsends] at hsent
      refine ⟨begin base n.outstation.connection (n.outstation.sent true),
        h.withOutstation _ hct ?_ ?_ (fun e he ↦ begin_of_le he) fun e j hb ↦ ?_⟩
      · rw [hsent, hconn, begin_self, Nat.sub_self]
        exact hnt
      · rw [hsent, hconn]
        exact h.counts.begin
      · rw [BelongsTo, hsent, hconn]
        exact hb.begin
    | false =>
      rw [hd, if_neg Bool.false_ne_true] at hnt hconn
      have hle := h.counts.le
      split at hnt
      · next hs =>
        rw [if_pos hs] at hsent
        refine ⟨base, h.withOutstation _ hct ?_ ?_ (fun _ _ ↦ rfl) fun e j hb ↦ ?_⟩
        · rw [hsent, hconn, Nat.sub_add_comm hle]
          exact hnt
        · rw [hsent, hconn]
          exact ⟨h.counts.mono, Nat.le_succ_of_le hle⟩
        · rw [BelongsTo, hsent, hconn]
          exact hb.more
      · next hs =>
        rw [if_neg hs] at hsent
        refine ⟨base, h.withOutstation _ hct ?_ ?_ (fun _ _ ↦ rfl) fun e j hb ↦ ?_⟩
        · rw [hsent, hconn]
          exact hnt
        · rw [hsent, hconn]
          exact h.counts
        · rw [BelongsTo, hsent, hconn]
          exact hb
  · rw [hd, if_neg Bool.false_ne_true] at hconn
    refine ⟨base, h.withOutstation _ hct ?_ ?_ (fun _ _ ↦ rfl) fun e j hb ↦ ?_⟩
    · rw [hsent, hconn]
      exact hnt
    · rw [hsent, hconn]
      exact h.counts
    · rw [BelongsTo, hsent, hconn]
      exact hb

/-! ## What is on its way

The fragments that the outstation has sent and the master has not taken, the oldest first. Losing
one leaves the others in order. -/

theorem isFor_true : isFor true f = true ↔ f.function = some .unsolicitedResponse := by
  rw [isFor]
  split
  · simp_all
  · simp_all
  · simp_all
  · simp_all

/-- Fragments are lost. -/
theorem Tracked.sublist (h : Tracked body base n) {l : List Packet}
    (hl : l.Sublist n.master.inbox) :
    Tracked body base { n with master := { n.master with inbox := l } } where
  consistent := h.consistent
  numbered := h.numbered
  counts := h.counts
  wire p hp := h.wire p (hl.subset hp)
  ordered := h.ordered.sublist hl
  expects := h.expects
  last i hi := by
    obtain ⟨hb, hmem, hle⟩ := h.last i hi
    exact ⟨hb, hmem, fun p hp ↦ hle p (hl.subset hp)⟩
  handed := h.handed
  once := h.once
  confirmed := h.confirmed
  suppressed := h.suppressed

/-- The outstation puts the first fragment of its queue on its way. -/
theorem onWire_sending (h : Tracked body base n) {p : Packet}
    (hp : sending body n.outstation = some p) : OnWire body base n.outstation p ∧
      ∀ j, p.id = some (true, j) → j = n.outstation.sent true := by
  rw [sending] at hp
  split at hp
  · next f q hq =>
    split at hp
    · obtain rfl := Option.some.inj hp
      have hid : ∀ j, n.outstation.idOf f = some (true, j) →
          isFor true f = true ∧ j = n.outstation.sent true := by
        intro j hj
        rw [Side.idOf] at hj
        split at hj
        · next hfor => exact ⟨hfor, (Prod.mk.inj (Option.some.inj hj)).2.symm⟩
        · split at hj
          · exact absurd (Prod.mk.inj (Option.some.inj hj)).1 Bool.false_ne_true
          · contradiction
      refine ⟨⟨f, rfl, fun hno hfun ↦ ?_, fun j hj ↦ ?_⟩, fun j hj ↦ (hid j hj).2⟩
      · refine hno (n.outstation.sent true) ?_
        rw [Side.idOf, if_pos (isFor_true.mpr hfun)]
      · obtain ⟨hfor, rfl⟩ := hid j hj
        have hnum := h.numbered.queue f (hq ▸ List.mem_cons_self) hfor
        exact ⟨isFor_true.mp hfor, ⟨Nat.le_refl _, Nat.lt_of_sub_pos hnum.1, by simp⟩, hnum⟩
    · contradiction
  · contradiction

theorem Tracked.outstationSends (h : Tracked body base n) {p : Packet}
    (hp : sending body n.outstation = some p) :
    Tracked body base { n with
      outstation := { n.outstation with wired := true }
      master := { n.master with inbox := n.master.inbox ++ [p] } } := by
  obtain ⟨hwire, hid⟩ := onWire_sending h hp
  refine ⟨h.consistent, h.numbered, h.counts, fun q hq ↦ ?_, ?_, h.expects, fun i hi ↦ ?_, h.handed,
    h.once, h.confirmed, h.suppressed⟩
  · rcases List.mem_append.mp hq with hq | hq
    · exact h.wire q hq
    · exact List.mem_singleton.mp hq ▸ hwire
  · refine List.pairwise_append.mpr ⟨h.ordered, List.pairwise_singleton _ _, ?_⟩
    intro q hq q' hq' i j hi hj
    obtain rfl := List.mem_singleton.mp hq'
    obtain ⟨f, -, -, hyes⟩ := h.wire q hq
    rw [hid j hj]
    exact (hyes i hi).2.1.le h.counts
  · obtain ⟨hb, hmem, hle⟩ := h.last i hi
    refine ⟨hb, hmem, fun q hq j hj hc ↦ ?_⟩
    rcases List.mem_append.mp hq with hq | hq
    · exact hle q hq j hj hc
    · obtain rfl := List.mem_singleton.mp hq
      rw [hid j hj]
      exact hb.le h.counts

/-! ## The master -/

/-- The master goes on, and hands up no unsolicited response. -/
theorem Tracked.kept (h : Tracked body base n) {s : Side ω} {hd cf sp : List SendId}
    {l : Option ℕ} (hconn : s.connection = n.master.connection) (hinbox : s.inbox = n.master.inbox)
    (hexp : Expects (sequenceAfter (numberOf base n.master.connection n.lastUnsol)) s.app)
    (hhd : ∀ j, hd.count (some (true, j)) = n.handed.count (some (true, j)))
    (hcf : ∀ j, some (true, j) ∈ cf → some (true, j) ∈ n.handed)
    (hsp : ∀ j, some (true, j) ∈ sp → some (true, j) ∈ n.handed) (hl : l = n.lastUnsol) :
    Tracked body base { n with
      master := s, handed := hd, confirmed := cf, suppressed := sp, lastUnsol := l } := by
  subst hl
  have hmem (j : ℕ) : some (true, j) ∈ hd ↔ some (true, j) ∈ n.handed := by
    rw [← List.count_pos_iff, ← List.count_pos_iff, hhd]
  refine ⟨h.consistent, h.numbered, h.counts, fun q hq ↦ ?_, ?_, ?_, fun i hi ↦ ?_, fun j hj ↦ ?_,
    fun j ↦ ?_, fun j hj ↦ (hmem j).mpr (hcf j hj), fun j hj ↦ (hmem j).mpr (hsp j hj)⟩
  · exact h.wire q (hinbox ▸ hq)
  · exact hinbox ▸ h.ordered
  · rw [hconn]
    exact hexp
  · obtain ⟨hb, hm, hle⟩ := h.last i hi
    rw [hconn, hinbox]
    exact ⟨hb, (hmem i).mpr hm, hle⟩
  · rw [hconn]
    exact h.handed j ((hmem j).mp hj)
  · exact Nat.le_trans (Nat.le_of_eq (hhd j)) (h.once j)

/-- **The master does anything** but take a fragment. -/
theorem Tracked.masterOp (h : Tracked body base n) {op : Op ω}
    (hop : n.master.app.allowed op = true) (hrec : isReceive op = false) :
    Tracked body base (n.masterOp op) := by
  have hperform := h.expects.wp_perform hop fun apData heq ↦ by
    rw [heq] at hrec
    exact Bool.noConfusion hrec
  have hconn := Side.perform_connection n.master op
  have hinbox := Side.perform_inbox n.master op
  rw [Network.masterOp]
  rcases Side.perform_spec hperform with ⟨hexp, -⟩ | ⟨e, ⟨hexp, hd⟩, -, -⟩
  · cases hd : op.isDown with
    | true =>
      rw [hd, if_pos rfl] at hexp hconn
      refine ⟨h.consistent, h.numbered, h.counts, fun q hq ↦ h.wire q (hinbox ▸ hq),
        hinbox ▸ h.ordered, hexp, fun i hi ↦ absurd hi (by simp), fun j hj ↦ ?_, h.once,
          h.confirmed,
        h.suppressed⟩
      obtain ⟨e, he, hb, -⟩ := h.handed j hj
      dsimp only
      rw [hconn]
      exact ⟨e, Nat.le_succ_of_le he, hb, fun hec ↦ absurd hec (by omega)⟩
    | false =>
      rw [hd, if_neg Bool.false_ne_true] at hexp hconn
      exact h.kept hconn hinbox hexp (fun _ ↦ rfl) h.confirmed h.suppressed rfl
  · rw [hd, if_neg Bool.false_ne_true] at hconn ⊢
    exact h.kept hconn hinbox hexp (fun _ ↦ rfl) h.confirmed h.suppressed rfl

/-! ## An arrival at the master

The oldest fragment on its way is taken. It is a repetition of the last response that was handed
up, or a later one, and the sequence number tells which, as long as it has not come round. -/

theorem functionOf_octets (body : OutAPDU ω → List Byte) (f : OutAPDU ω) :
    functionOf (octets body f) = f.function.getD .unknown := by
  have hlt := (f.function.getD .unknown).toNat_lt
  have hval : (BitVec.ofNat 8 (f.function.getD .unknown).toNat).toNat =
      (f.function.getD .unknown).toNat := by
    rw [BitVec.toNat_ofNat, Nat.mod_eq_of_lt hlt]
  change intToFunction ((BitVec.ofNat 8 (f.function.getD .unknown).toNat).toNat + 256 * 0) = _
  rw [hval]
  exact FunctionCodes.intToFunction_toNat _

theorem control_octets (body : OutAPDU ω → List Byte) (f : OutAPDU ω) :
    (AppControlField.ofByte ((octets body f).getD 0 0)).seq = f.control.seq % 16 :=
  congrArg AppControlField.seq (AppControlField.ofByte_toByte f.control)

/-- The fragment was sent over the connection that it arrives over, and an unsolicited response is
the last one that was handed up or has another number. -/
def Distinguishes (n : Network ω) : NetEvent ω → Prop
  | .arriveAtMaster => ∀ p ∈ n.master.inbox.head?, ∀ j, p.id = some (true, j) →
      p.connection = n.master.connection ∧
        ∀ i, n.lastUnsol = some i → j = i ∨ j % 16 ≠ i % 16
  | _ => True

/-- The packet that arrives stands in front of what is on its way. -/
structure InFront (body : OutAPDU ω → List Byte) (base : ℕ → ℕ) (n : Network ω) (p : Packet)
    (j : ℕ) :
    Prop where
  id : p.id = some (true, j)
  belongs : BelongsTo base n.outstation n.master.connection j
  number : (AppControlField.ofByte (p.apData.getD 0 0)).seq =
    (j - base n.master.connection - 1) % 16
  last : ∀ i, n.lastUnsol = some i → i ≤ j ∧ (j = i ∨ j % 16 ≠ i % 16)
  front : ∀ q ∈ n.master.inbox, ∀ j', q.id = some (true, j') → j ≤ j'

variable {p : Packet} {j : ℕ}

/-- **A repetition is one of the last response that was handed up.** -/
theorem InFront.mem_handed (hp : InFront body base n p j) (h : Tracked body base n)
    (hseq : ((AppControlField.ofByte (p.apData.getD 0 0)).seq : Int) =
      (n.master.app.channel true).mSequence) : some (true, j) ∈ n.handed := by
  have hexp := h.expects.sequence
  rw [hp.number] at hseq
  have hj := hp.belongs.above
  cases hl : n.lastUnsol with
  | none =>
    rw [hl] at hexp
    have hneg : (n.master.app.channel true).mSequence = -1 := hexp
    omega
  | some i =>
    obtain ⟨hb, hmem, -⟩ := h.last i hl
    have hi := hb.above
    rw [hl, numberOf, sequenceAfter, if_neg (by omega), ← hseq] at hexp
    obtain ⟨-, rfl | hne⟩ := hp.last i hl
    · exact hmem
    · exact absurd (by omega) hne

/-- What has another number was not handed up before. -/
theorem InFront.not_mem_handed (hp : InFront body base n p j) (h : Tracked body base n)
    (hseq : ((AppControlField.ofByte (p.apData.getD 0 0)).seq : Int) ≠
      (n.master.app.channel true).mSequence) : some (true, j) ∉ n.handed := by
  intro hmem
  obtain ⟨e, -, hb, hlast⟩ := h.handed j hmem
  obtain ⟨i, hl, hji⟩ := hlast (hb.unique h.counts hp.belongs)
  obtain ⟨hij, -⟩ := hp.last i hl
  obtain rfl := Nat.le_antisymm hji hij
  have hexp := h.expects.sequence
  have hj := hp.belongs.above
  rw [hl, numberOf, sequenceAfter, if_neg (by omega)] at hexp
  exact hseq (by rw [hp.number, hexp])

/-- A fragment that is no unsolicited response arrives. -/
theorem Tracked.receives_other (h : Tracked body base n)
    (hno : ∀ j, p.id ≠ some (true, j)) (hup : n.master.app.mIsLowerLayerUp = true)
    (hf : functionOf p.apData ≠ .unsolicitedResponse) :
    Tracked body base (n.masterReceives p) := by
  have hop : n.master.app.allowed (.event (.receive p.apData) : Op ω) = true := hup
  have hperform := h.expects.wp_perform hop fun apData heq ↦ by
    obtain rfl : p.apData = apData := by simpa using heq
    exact hf
  have hconn : (n.master.perform (.event (.receive p.apData))).1.connection = n.master.connection :=
    Side.perform_connection n.master (.event (.receive p.apData))
  have hinbox := Side.perform_inbox n.master (.event (.receive p.apData))
  have hexp : Expects (sequenceAfter (numberOf base n.master.connection n.lastUnsol))
      (n.master.perform (.event (.receive p.apData))).1.app := by
    rcases Side.perform_spec hperform with ⟨hexp, -⟩ | ⟨-, ⟨hexp, -⟩, -, -⟩
    · exact hexp
    · exact hexp
  have hcons (c : Prop) [Decidable c] (l : List SendId) (j : ℕ) :
      some (true, j) ∈ (if c then p.id :: l else l) ↔ some (true, j) ∈ l := by
    split
    · rw [List.mem_cons]
      exact ⟨fun hj ↦ hj.resolve_left fun he ↦ hno j he.symm, .inr⟩
    · rfl
  refine h.kept hconn hinbox hexp (fun j ↦ ?_) (fun j hj ↦ ?_) (fun j hj ↦ ?_) ?_
  · split
    · rw [List.count_cons, if_neg (by simpa using hno j), Nat.add_zero]
    · rfl
  · exact h.confirmed j ((hcons _ _ j).mp hj)
  · exact h.suppressed j ((hcons _ _ j).mp hj)
  · split
    · next hid => exact absurd hid (hno _)
    · rfl

/-- A duplicate is one of a response that was handed up. -/
theorem InFront.mem_suppressed (hp : InFront body base n p j) (h : Tracked body base n) {j' : ℕ}
    (hj' : some (true, j') ∈
      if isDuplicate n.master.app p.apData then p.id :: n.suppressed else n.suppressed) :
    some (true, j') ∈ n.handed := by
  split at hj'
  · next hd =>
    rcases List.mem_cons.mp hj' with he | hj'
    · obtain rfl := (Prod.mk.inj (Option.some.inj (hp.id.symm.trans he.symm))).2
      rw [isDuplicate] at hd
      split at hd
      · next r hr =>
        obtain ⟨happ, -⟩ := APDU.interpret_eq_ok.mp hr
        simp only [Bool.and_eq_true, decide_eq_true_eq] at hd
        refine hp.mem_handed h ?_
        rw [happ] at hd
        exact hd.2
      · exact Bool.noConfusion hd
    · exact h.suppressed j' hj'
  · exact h.suppressed j' hj'

/-- A confirmation is for a response that was handed up. -/
theorem InFront.mem_confirmed (hp : InFront body base n p j) (h : Tracked body base n)
    {hd : List SendId} (hj : some (true, j) ∈ hd)
    (hsub : ∀ j', some (true, j') ∈ n.handed → some (true, j') ∈ hd) (c : Prop) [Decidable c]
    (j' : ℕ) (hj' : some (true, j') ∈ if c then p.id :: n.confirmed else n.confirmed) :
    some (true, j') ∈ hd := by
  split at hj'
  · rcases List.mem_cons.mp hj' with he | hj'
    · obtain rfl := (Prod.mk.inj (Option.some.inj (hp.id.symm.trans he.symm))).2
      exact hj
    · exact hsub j' (h.confirmed j' hj')
  · exact hsub j' (h.confirmed j' hj')

/-- **A response that is turned away** leaves the master as it was. -/
theorem Tracked.receives_rejected {side : Side ω} (h : Tracked body base n)
    (hp : InFront body base n p j) (hconn : side.connection = n.master.connection)
    (hinbox : side.inbox = n.master.inbox) (happ : side.app = n.master.app) :
    Tracked body base (n.record p side none) := by
  unfold record
  rw [happ, if_neg (Nat.lt_irrefl _)]
  exact h.kept hconn hinbox (happ ▸ h.expects) (fun _ ↦ rfl) h.confirmed
    (fun _ ↦ hp.mem_suppressed h) rfl

/-- **A response that is repeated** is confirmed once more, and not handed up. -/
theorem Tracked.receives_repeated {side : Side ω} (h : Tracked body base n)
    (hp : InFront body base n p j) (hconn : side.connection = n.master.connection)
    (hinbox : side.inbox = n.master.inbox)
    (hq : ((AppControlField.ofByte (p.apData.getD 0 0)).seq : Int) =
      (n.master.app.channel true).mSequence)
    (ht : Expects (AppControlField.ofByte (p.apData.getD 0 0)).seq side.app) :
    Tracked body base (n.record p side none) := by
  have hexp : Expects (sequenceAfter (numberOf base n.master.connection n.lastUnsol))
      side.app := by
    rw [← h.expects.sequence, ← hq]
    exact ht
  exact h.kept hconn hinbox hexp (fun _ ↦ rfl)
    (hp.mem_confirmed h (hp.mem_handed h hq) (fun _ ↦ id) _) (fun _ ↦ hp.mem_suppressed h) rfl

/-- **A response that is handed up** becomes the last one. -/
theorem Tracked.receives_handed {side : Side ω} (h : Tracked body base n)
    (hp : InFront body base n p j) (hconn : side.connection = n.master.connection)
    (hinbox : side.inbox = n.master.inbox) (r : APDU)
    (hq : ((AppControlField.ofByte (p.apData.getD 0 0)).seq : Int) ≠
      (n.master.app.channel true).mSequence)
    (ht : Expects (AppControlField.ofByte (p.apData.getD 0 0)).seq side.app) :
    Tracked body base (n.record p side (some (.onUnsolResponse r))) := by
  have hnot := hp.not_mem_handed h hq
  have hj := hp.belongs.above
  have hrecord : n.record p side (some (.onUnsolResponse r)) = { n with
      master := side
      handed := some (true, j) :: n.handed
      confirmed :=
        if n.master.app.mSendQueue.countP isConfirm < side.app.mSendQueue.countP isConfirm
        then p.id :: n.confirmed else n.confirmed
      suppressed :=
        if isDuplicate n.master.app p.apData then p.id :: n.suppressed else n.suppressed
      lastUnsol := some j } := by
    unfold record
    rw [hp.id]
    rfl
  rw [hrecord]
  refine ⟨h.consistent, h.numbered, h.counts, fun q hq ↦ h.wire q (hinbox ▸ hq),
    hinbox ▸ h.ordered, ?_, fun i hi ↦ ?_, fun j' hj' ↦ ?_, fun j' ↦ ?_,
    hp.mem_confirmed h List.mem_cons_self (fun _ ↦ List.mem_cons_of_mem _) _,
    fun j' hj' ↦ List.mem_cons_of_mem _ (hp.mem_suppressed h hj')⟩
  · rw [numberOf, sequenceAfter, if_neg (by dsimp only; rw [hconn]; omega), hconn, ← hp.number]
    exact ht
  · obtain rfl := Option.some.inj hi
    refine ⟨hconn ▸ hp.belongs, List.mem_cons_self, fun q hq j' hj' _ ↦ ?_⟩
    exact hp.front q (hinbox ▸ hq) j' hj'
  · rcases List.mem_cons.mp hj' with he | hj'
    · obtain rfl := (Prod.mk.inj (Option.some.inj he)).2
      exact ⟨n.master.connection, Nat.le_of_eq hconn.symm, hp.belongs,
        fun _ ↦ ⟨_, rfl, Nat.le_refl _⟩⟩
    · obtain ⟨e, he, hb, hlast⟩ := h.handed j' hj'
      refine ⟨e, hconn ▸ he, hb, fun hec ↦ ⟨j, rfl, ?_⟩⟩
      obtain ⟨i, hl, hji⟩ := hlast (hec.trans hconn)
      exact Nat.le_trans hji (hp.last i hl).1
  · rw [List.count_cons]
    split
    · next he =>
      obtain rfl : j = j' := by simpa using he
      exact Nat.le_of_eq (congrArg (· + 1) (List.count_eq_zero_of_not_mem hnot))
    · exact h.once j'

/-- An unsolicited response arrives. -/
theorem Tracked.receives_unsol (h : Tracked body base n) (hp : InFront body base n p j)
    (hf : functionOf p.apData = .unsolicitedResponse) :
    Tracked body base (n.masterReceives p) := by
  have hconn : (n.master.perform (.event (.receive p.apData))).1.connection = n.master.connection :=
    Side.perform_connection n.master (.event (.receive p.apData))
  have hinbox := Side.perform_inbox n.master (.event (.receive p.apData))
  have hspec := Side.perform_spec (h.expects.wp_receive hf)
  rw [masterReceives]
  generalize n.master.perform (.event (.receive p.apData)) = r at hspec hconn hinbox
  obtain ⟨side, call⟩ := r
  rcases hspec with ⟨htaken, -⟩ | ⟨-, happ, hcall, -⟩
  · dsimp only at htaken hconn hinbox ⊢
    generalize happ : side.app = t at htaken
    cases htaken with
    | rejected => exact h.receives_rejected hp hconn hinbox happ
    | repeated _ hq ht => exact h.receives_repeated hp hconn hinbox hq (happ ▸ ht)
    | handed _ r hq ht => exact h.receives_handed hp hconn hinbox r hq (happ ▸ ht)
  · subst hcall
    exact h.receives_rejected hp hconn hinbox happ

/-- **The master takes the first fragment on its way.** -/
theorem Tracked.arrive (h : Tracked body base n) {rest : List Packet}
    (hinbox : n.master.inbox = p :: rest) (hup : n.master.app.mIsLowerLayerUp = true)
    (hd : Distinguishes n .arriveAtMaster) : Tracked body base
      ({ n with master := { n.master with inbox := rest } }.masterReceives p) := by
  have hrest : Tracked body base { n with master := { n.master with inbox := rest } } :=
    h.sublist (hinbox ▸ List.sublist_cons_self p rest)
  obtain ⟨f, hoctets, hno, hyes⟩ := h.wire p (hinbox ▸ List.mem_cons_self)
  have hfun := functionOf_octets body f
  rw [← hoctets] at hfun
  by_cases hid : ∃ j, p.id = some (true, j)
  · obtain ⟨j, hj⟩ := hid
    obtain ⟨hf, hb, hnum⟩ := hyes j hj
    obtain ⟨hconn, hlast⟩ := hd p (by rw [hinbox]; rfl) j hj
    have hordered := h.ordered
    rw [hinbox] at hordered
    refine hrest.receives_unsol (j := j)
      ⟨hj, hconn ▸ hb, ?_, fun i hi ↦ ?_, fun q hq j' hj' ↦ ?_⟩ ?_
    · rw [hoctets, control_octets, hnum.2, hconn, Nat.mod_mod]
    · exact ⟨(h.last i hi).2.2 p (hinbox ▸ List.mem_cons_self) j hj hconn, hlast i hi⟩
    · exact List.rel_of_pairwise_cons hordered hq j j' hj hj'
    · rw [hfun, hf]
      rfl
  · rw [not_exists] at hid
    refine hrest.receives_other hid hup ?_
    rw [hfun]
    have hne := hno hid
    cases hf : f.function with
    | none => exact fun h ↦ FunctionCodes.noConfusion h
    | some func => exact fun h ↦ hne (hf.trans (congrArg some h))

/-! ## Runs -/

theorem tracked_new (aFragSize aNumRetry aOutFragSize aOutNumRetry : ℕ) :
    Tracked body (fun _ ↦ 0) (Network.new aFragSize aNumRetry aOutFragSize aOutNumRetry) where
  consistent := consistent_new _ _ _
  numbered := ⟨rfl, rfl, fun hb ↦ absurd rfl hb, fun _ hf ↦ absurd hf List.not_mem_nil,
    fun _ hf ↦ absurd hf (Option.some_ne_none _).symm⟩
  counts := ⟨fun _ _ _ _ ↦ Nat.le_refl 0, Nat.le_refl 0⟩
  wire _ hp := absurd hp List.not_mem_nil
  ordered := List.Pairwise.nil
  expects := ⟨rfl, rfl⟩
  last i hi := absurd hi (Option.some_ne_none i).symm
  handed _ hj := absurd hj List.not_mem_nil
  once _ := Nat.zero_le 1
  confirmed _ hj := absurd hj List.not_mem_nil
  suppressed _ hj := absurd hj List.not_mem_nil

theorem Tracked.step (h : Tracked body base n) {e : NetEvent ω} {n' : Network ω}
    (hd : Distinguishes n e) (hstep : Network.step body n e = some n') :
    ∃ base', Tracked body base' n' := by
  cases e with
  | outstation op =>
    rw [Network.step] at hstep
    split at hstep
    · next hop =>
      obtain rfl := Option.some.inj hstep
      exact h.outstationOp (Bool.and_eq_true _ _ |>.mp hop).1
    · contradiction
  | master op =>
    rw [Network.step] at hstep
    split at hstep
    · next hop =>
      obtain rfl := Option.some.inj hstep
      obtain ⟨hop, hrec⟩ := Bool.and_eq_true _ _ |>.mp hop
      exact ⟨base, h.masterOp hop (by simpa using hrec)⟩
    · contradiction
  | outstationSends =>
    obtain ⟨p, hp, rfl⟩ := Option.map_eq_some_iff.mp hstep
    exact ⟨base, h.outstationSends hp⟩
  | masterSends =>
    obtain ⟨p, hp, rfl⟩ := Option.map_eq_some_iff.mp hstep
    exact ⟨base, h.consistent, h.numbered, h.counts, h.wire, h.ordered, h.expects, h.last, h.handed,
      h.once, h.confirmed, h.suppressed⟩
  | loseToOutstation i =>
    obtain rfl := Option.some.inj hstep
    exact ⟨base, h.consistent, h.numbered, h.counts, h.wire, h.ordered, h.expects, h.last, h.handed,
      h.once, h.confirmed, h.suppressed⟩
  | loseToMaster i =>
    obtain rfl := Option.some.inj hstep
    exact ⟨base, h.sublist (List.eraseIdx_sublist _ _)⟩
  | arriveAtOutstation =>
    rw [Network.step] at hstep
    split at hstep
    · contradiction
    · next p rest hinbox =>
      split at hstep
      · next hup =>
        obtain rfl := Option.some.inj hstep
        have hrest : Tracked body base
            { n with outstation := { n.outstation with inbox := rest } } :=
          ⟨h.consistent, h.numbered, h.counts, h.wire, h.ordered, h.expects, h.last, h.handed,
            h.once, h.confirmed, h.suppressed⟩
        exact hrest.outstationOp hup
      · contradiction
  | arriveAtMaster =>
    rw [Network.step] at hstep
    split at hstep
    · contradiction
    · next p rest hinbox =>
      split at hstep
      · next hup =>
        obtain rfl := Option.some.inj hstep
        exact ⟨base, h.arrive hinbox hup hd⟩
      · contradiction

/-- **Every unsolicited response that the master confirms was handed up once**, and what it
suppresses is one that was handed up, in every run in which what arrives was sent over the same
connection and no number comes round between a response and the next one that arrives. -/
theorem confirmed_handed_once {aFragSize aNumRetry aOutFragSize aOutNumRetry : ℕ}
    {es : List (NetEvent ω)}
    (hg : Run.Guarded (Network.step body) Distinguishes
      (Network.new aFragSize aNumRetry aOutFragSize aOutNumRetry) es)
    (hrun : Run.run (Network.step body)
      (Network.new aFragSize aNumRetry aOutFragSize aOutNumRetry) es = some n) :
    (∀ j, some (true, j) ∈ n.confirmed → n.handed.count (some (true, j)) = 1) ∧
      ∀ j, some (true, j) ∈ n.suppressed → n.handed.count (some (true, j)) = 1 := by
  obtain ⟨base, h⟩ := Run.inv_of_guarded (I := fun n ↦ ∃ base, Tracked body base n)
    (fun _ _ _ ⟨_, h⟩ hd hstep ↦ h.step hd hstep) ⟨_, tracked_new _ _ _ _⟩ hg hrun
  have hone (j : ℕ) (hj : some (true, j) ∈ n.handed) : n.handed.count (some (true, j)) = 1 :=
    Nat.le_antisymm (h.once j) (List.count_pos_iff.mpr hj)
  exact ⟨fun j hj ↦ hone j (h.confirmed j hj), fun j hj ↦ hone j (h.suppressed j hj)⟩

/-- An unsolicited response that wants a confirmation. -/
def report : OutAPDU Unit := (OutAPDU.new 2048).set .unsolicitedResponse true true true true

/-- Both links come up. -/
def bothUp : List (NetEvent Unit) :=
  [.outstation (.event .lowerLayerUp), .master (.event .lowerLayerUp)]

/-- The outstation sends a response, and it arrives. -/
def sendReport : List (NetEvent Unit) :=
  [.outstation (.sendUnsolicited report), .outstationSends,
   .outstation (.event (.sendResult true)), .arriveAtMaster]

/-- The confirmation is sent and lost; the outstation sends the response again. -/
def retryReport : List (NetEvent Unit) :=
  [.masterSends, .master (.event (.sendResult true)), .loseToOutstation 0,
   .outstation (.event (.timeout true)), .outstationSends,
   .outstation (.event (.sendResult true)), .arriveAtMaster]

theorem confirmed_handed_once_retry : ∃ n,
    Run.run (Network.step fun _ ↦ [0, 0]) (Network.new 2048 0 2048 1)
      (bothUp ++ sendReport ++ retryReport) = some n ∧
    n.confirmed = [some (true, 1), some (true, 1)] ∧
    n.handed.count (some (true, 1)) = 1 := by
  obtain ⟨n, hrun⟩ : ∃ n, Run.run (Network.step fun _ ↦ [0, 0]) (Network.new 2048 0 2048 1)
    (bothUp ++ sendReport ++ retryReport) = some n := ⟨_, rfl⟩
  have hconf : n.confirmed = [some (true, 1), some (true, 1)] := by
    obtain rfl := Option.some.inj hrun
    rfl
  refine ⟨n, hrun, hconf, (confirmed_handed_once ?_ hrun).1 1 (hconf ▸ List.mem_cons_self)⟩
  iterate 5 refine Run.Guarded.cons trivial rfl ?_
  refine Run.Guarded.cons (fun p hp j hj ↦ ?_) rfl ?_
  · obtain rfl := Option.some.inj hp
    exact ⟨rfl, fun i hi ↦ absurd hi (Option.some_ne_none i).symm⟩
  iterate 6 refine Run.Guarded.cons trivial rfl ?_
  refine Run.Guarded.cons (fun p hp j hj ↦ ?_) rfl trivial
  obtain rfl := Option.some.inj hp
  obtain rfl := (Prod.mk.inj (Option.some.inj hj)).2
  exact ⟨rfl, fun i hi ↦ .inl (Option.some.inj hi)⟩

/-- The link of the outstation alone goes down and comes up, and its next response has the number of
the one before: the master confirms it and does not hand it up. -/
theorem confirmed_not_handed : ∃ n,
    Run.run (Network.step fun _ ↦ [0, 0]) (Network.new 2048 0 2048 1)
      (bothUp ++ sendReport ++ [.masterSends, .master (.event (.sendResult true)),
        .outstation (.event .lowerLayerDown), .outstation (.event .lowerLayerUp)] ++ sendReport) =
      some n ∧
    some (true, 2) ∈ n.confirmed ∧ n.handed.count (some (true, 2)) = 0 :=
  ⟨_, rfl, by decide, rfl⟩

end Network

end OpenDNP3
