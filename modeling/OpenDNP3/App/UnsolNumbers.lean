import OpenDNP3.App.Network
import OpenDNP3.App.Grammar

/-!
# The numbers of unsolicited responses

An outstation numbers its unsolicited responses modulo 16, starting from 0 when its link comes up,
and repeats each one until it is confirmed or given up.  The master hands a response up unless it
has the number of the one before it, and confirms it in either case.

* `Numbered` — what the outstation sends has the number of the send that it belongs to.
* `Expects` — the number that the master would not hand up, and `Taken`, what it makes of a
  response.
* `Belongs` — the sends of a connection, when it is told how often the outstation had sent before.
-/

set_option autoImplicit false

namespace OpenDNP3

open Handler AppLayer

namespace AppLayer

variable {ω : Type} {a t : AppLayer ω} {f : OutAPDU ω} {m : ℕ} {s : Int}

/-! ## The numbers of the outstation -/

/-- The fragment has the number of the `m`-th unsolicited response since the link came up. -/
def HasNumber (m : ℕ) (f : OutAPDU ω) : Prop := 0 < m ∧ f.control.seq = (m - 1) % 16

/-- The sequence number of the channel after `m` unsolicited responses. -/
def sequenceAfter (m : ℕ) : Int := if m = 0 then -1 else ((m - 1) % 16 : ℕ)

/-- **The outstation after `m` unsolicited responses** since its link came up. -/
structure Numbered (m : ℕ) (a : AppLayer ω) : Prop where
  isMaster : a.isMaster = false
  sequence : (a.channel true).mSequence = sequenceAfter m
  apdu : (a.channel true).mpState ≠ .idle → ∀ f, (a.channel true).mpSendAPDU = some f →
    HasNumber m f
  queue : ∀ f ∈ a.mSendQueue, isFor true f = true → HasNumber m f
  other : ∀ f, (a.channel false).mpSendAPDU = some f → isFor true f = false

theorem Numbered.setChannel (h : Numbered m a) {u : Bool} {c : AppLayerChannel ω}
    (hapdu : c.mpSendAPDU = (a.channel u).mpSendAPDU)
    (hidle : (a.channel u).mpState = .idle → c.mpState = .idle)
    (hseq : u = true → c.mSequence = (a.channel u).mSequence) :
    Numbered m (a.setChannel u c) where
  isMaster := by rw [setChannel_isMaster]; exact h.isMaster
  sequence := by
    rw [channel_setChannel]
    split
    · next hu => exact (hseq hu.symm).trans (hu ▸ h.sequence)
    · exact h.sequence
  apdu := by
    rw [channel_setChannel]
    split
    · next hu =>
      subst hu
      intro hb f hf
      exact h.apdu (fun hi ↦ hb (hidle hi)) f (hapdu ▸ hf)
    · exact h.apdu
  queue := by rw [setChannel_mSendQueue]; exact h.queue
  other := by
    rw [channel_setChannel]
    split
    · next hu =>
      subst hu
      rw [hapdu]
      exact h.other
    · exact h.other

theorem Numbered.withQueue (h : Numbered m a) {q : List (OutAPDU ω)} (s c : Bool)
    (hq : ∀ f ∈ q, isFor true f = true → HasNumber m f) :
    Numbered m { a with mSendQueue := q, mSending := s, mConfirmSending := c } :=
  ⟨h.isMaster, h.sequence, h.apdu, hq, h.other⟩

theorem Numbered.enqueue (h : Numbered m a) (s c : Bool)
    (hf : isFor true f = true → HasNumber m f) :
    Numbered m { a with
      mSendQueue := a.mSendQueue ++ [f], mSending := s, mConfirmSending := c } :=
  h.withQueue s c fun g hg ↦ by
    rcases List.mem_append.mp hg with hg | hg
    · exact h.queue g hg
    · exact List.mem_singleton.mp hg ▸ hf

theorem closed_numbered (m : ℕ) : Closed (ω := ω) (Numbered m) := by
  intro a t hs h
  cases hs with
  | channel u c hapdu hidle hseq => exact h.setChannel hapdu hidle hseq
  | retry u f hsend hf =>
    refine h.enqueue true a.mConfirmSending fun hfor ↦ ?_
    cases u with
    | true => exact h.apdu (ACS.ne_idle_of_isSending hsend) f hf
    | false => exact absurd hfor (by rw [h.other f hf]; exact Bool.false_ne_true)
  | confirm u n hfree => exact h.enqueue true true fun hfor ↦ Bool.noConfusion hfor
  | pop f q hq => exact h.withQueue _ _ fun g hg ↦ h.queue g (hq ▸ List.mem_cons_of_mem _ hg)
  | sending s => exact h.withQueue s a.mConfirmSending h.queue
  | up => exact ⟨h.isMaster, h.sequence, h.apdu, h.queue, h.other⟩

/-- A fragment on the solicited channel does not change the numbers. -/
theorem Numbered.stable_sendOn (hf : isFor true f = false) {func : FunctionCodes}
    (hfunc : f.function = some func) (n : ℕ) :
    Stable (Numbered m) (sendOn false f func n : M ω Unit) := by
  intro a h
  have hset (c : AppLayerChannel ω) (hc : ∀ g, c.mpSendAPDU = some g → isFor true g = false) :
      Numbered m (a.setChannel false c) := by
    refine ⟨by rw [setChannel_isMaster]; exact h.isMaster, ?_, ?_, ?_, ?_⟩
    · rw [channel_setChannel, if_neg (by simp)]
      exact h.sequence
    · rw [channel_setChannel, if_neg (by simp)]
      exact h.apdu
    · rw [setChannel_mSendQueue]
      exact h.queue
    · rw [channel_setChannel_self]
      exact hc
  have hwith (seq : Int) : isFor true (withSequence f seq) = false := hf
  refine wp_sendOn_cases hfunc (fun _ ↦ h) (fun s _ _ ↦ ?_) fun e _ _ ↦ hset _ h.other
  exact (hset (sendChannel a false f s n) fun g hg ↦ Option.some.inj hg ▸ hwith _).enqueue
    true a.mConfirmSending fun hfor ↦ absurd hfor (by rw [hwith]; exact Bool.false_ne_true)

theorem sequenceAfter_succ (m : ℕ) : nextSeq (sequenceAfter m) = sequenceAfter (m + 1) := by
  rw [nextSeq, sequenceAfter, sequenceAfter, if_neg (Nat.succ_ne_zero m)]
  split
  · next hm => rw [hm]; rfl
  · next hm => push_cast; omega

/-- **The outstation sends the next unsolicited response.** -/
theorem Numbered.wp_sendUnsolicited (h : Numbered m a) (hc : Consistent a) (f : OutAPDU ω) :
    wp (sendUnsolicited f) (fun _ t ↦ Numbered (m + 1) t) (fun _ t ↦ Numbered m t) a := by
  refine wp_checked (fun _ ↦ h) fun func hfunc hunsol ↦ ?_
  subst hunsol
  rw [wp_bind, wp_get]
  have hseq : sendSequence f (a.channel true).mSequence = sequenceAfter (m + 1) := by
    rw [sendSequence, hfunc, if_neg (by simp), h.sequence, sequenceAfter_succ]
  have hnum : HasNumber (m + 1) (withSequence f (sequenceAfter (m + 1))) := by
    refine ⟨Nat.succ_pos m, ?_⟩
    rw [sequenceAfter, if_neg (Nat.succ_ne_zero m)]
    rfl
  refine wp_sendOn_cases hfunc (fun _ ↦ h) (fun s hi _ ↦ ?_) fun e hi he ↦ ?_
  · rw [hseq]
    refine ⟨h.isMaster, ?_, ?_, ?_, h.other⟩
    · exact hseq
    · intro _ g hg
      have hg' : withSequence f (sendSequence f (a.channel true).mSequence) = g :=
        Option.some.inj hg
      rw [← hg', hseq]
      exact hnum
    · -- the channel is idle, so the queue has no other fragment of it
      intro g hg hfor
      rcases List.mem_append.mp hg with hg | hg
      · have hcount := (hc.channel true).queued
        rw [hi, if_neg (by simp [ACS.isSending]), List.countP_eq_zero] at hcount
        exact absurd hfor (hcount g hg)
      · exact List.mem_singleton.mp hg ▸ hnum
  · rw [nextState] at he
    split at he
    · contradiction
    · contradiction

/-- The link of the outstation goes down. -/
theorem Numbered.wp_onLowerLayerDown (h : Numbered m a) (hup : a.mIsLowerLayerUp = true) :
    wp onLowerLayerDown (fun _ t ↦ Numbered 0 t) (fun _ _ ↦ False) a := by
  rw [onLowerLayerDown, wp_bind, wp_get, wp_bind, wp_ensure_of hup]
  exact ⟨h.isMaster, rfl, fun hb ↦ absurd rfl hb, fun f hf ↦ absurd hf List.not_mem_nil, h.other⟩

/-- The number of unsolicited responses since the link came up, after an operation. -/
def numberAfter (m : ℕ) (op : Op ω) : ℕ :=
  if op.isDown then 0 else if op.sends = some true then m + 1 else m

/-- **The outstation does anything.** -/
theorem Numbered.wp_perform (h : Numbered m a) (hc : Consistent a) {op : Op ω}
    (hop : a.allowed op = true) :
    wp (perform op) (fun _ t ↦ Numbered (numberAfter m op) t)
      (fun _ t ↦ Numbered m t ∧ op.isDown = false) a := by
  have hI := closed_numbered (ω := ω) m
  -- an outstation does not take unsolicited responses
  have hunsol (r : APDU) : Stable (Numbered m) (onUnsolResponse r : M ω (Option UserCall)) := by
    refine stable_bind (stable_ensure _ _) fun _ ↦ stable_get_bind fun t ht ↦ ?_
    rw [wp_bind, wp_ensure, if_neg (by rw [ht.isMaster]; exact Bool.false_ne_true)]
    exact ht
  have hsmall {op : Op ω} (hsend : op.sends = none) (hdown : op.isDown = false) :
      wp (perform op) (fun _ t ↦ Numbered (numberAfter m op) t)
        (fun _ t ↦ Numbered m t ∧ op.isDown = false) a := by
    rw [numberAfter, hdown, hsend]
    exact wp_mono (hI.perform hsend hdown (fun _ r _ _ _ ↦ hunsol r) a h) (fun _ _ ht ↦ ht)
      (fun _ _ ht ↦ ⟨ht, rfl⟩)
  have hother {x : M ω Unit} (hx : Stable (Numbered m) x) :
      wp (do x; return none : M ω (Option UserCall)) (fun _ t ↦ Numbered m t)
        (fun _ t ↦ Numbered m t ∧ false = false) a := by
    rw [wp_bind]
    exact wp_mono (hx a h) (fun _ _ ht ↦ ht) (fun _ _ ht ↦ ⟨ht, rfl⟩)
  cases op with
  | event e =>
    cases e with
    | lowerLayerDown =>
      exact wp_mono (h.wp_onLowerLayerDown hop) (fun _ _ ht ↦ ht) (fun _ _ he ↦ he.elim)
    | _ => exact hsmall rfl rfl
  | sendUnsolicited f =>
    rw [perform, wp_bind]
    exact wp_mono (h.wp_sendUnsolicited hc f) (fun _ _ ht ↦ ht) (fun _ _ ht ↦ ⟨ht, rfl⟩)
  | sendRequest f =>
    refine hother (stable_sendRequest fun func n hf hr ↦ Numbered.stable_sendOn ?_ hf n)
    rw [isFor, hf]
    revert hr
    cases func <;> first | exact fun _ ↦ rfl | exact Bool.noConfusion
  | sendResponse f =>
    refine hother (stable_sendResponse fun n hf ↦ Numbered.stable_sendOn ?_ hf n)
    rw [isFor, hf]
    rfl
  | _ => exact hsmall rfl rfl

/-! ## The number that the master expects -/

/-- A master whose unsolicited channel has a sequence number. -/
structure Expects (s : Int) (a : AppLayer ω) : Prop where
  isMaster : a.isMaster = true
  sequence : (a.channel true).mSequence = s

theorem closed_expects (s : Int) : Closed (ω := ω) (Expects s) := by
  intro a t hs h
  cases hs with
  | channel u c hapdu hidle hseq =>
    refine ⟨by rw [setChannel_isMaster]; exact h.isMaster, ?_⟩
    rw [channel_setChannel]
    split
    · next hu => exact (hseq hu.symm).trans (hu ▸ h.sequence)
    · exact h.sequence
  | retry | confirm | pop | sending | up => exact ⟨h.isMaster, h.sequence⟩

/-- A request does not change the number. -/
theorem Expects.stable_sendOn {func : FunctionCodes} (hfunc : f.function = some func) (n : ℕ) :
    Stable (Expects s) (sendOn false f func n : M ω Unit) := by
  intro a h
  refine wp_sendOn_cases hfunc (fun _ ↦ h) (fun _ _ _ ↦ ?_) fun _ _ _ ↦ ?_
  · exact ⟨h.isMaster, h.sequence⟩
  · exact ⟨h.isMaster, h.sequence⟩

/-- **The master does anything** but take an unsolicited response. -/
theorem Expects.wp_perform (h : Expects s a) {op : Op ω}
    (hop : a.allowed op = true)
    (hunsol : ∀ apData, op = .event (.receive apData) → functionOf apData ≠ .unsolicitedResponse) :
    wp (perform op) (fun _ t ↦ Expects (if op.isDown then -1 else s) t)
      (fun _ t ↦ Expects s t ∧ op.isDown = false) a := by
  have hI := closed_expects (ω := ω) s
  have hsmall {op : Op ω} (hsend : op.sends = none) (hdown : op.isDown = false)
      (hunsol : ∀ apData, op = .event (.receive apData) →
        functionOf apData ≠ .unsolicitedResponse) :
      wp (perform op) (fun _ t ↦ Expects (if op.isDown then -1 else s) t)
        (fun _ t ↦ Expects s t ∧ op.isDown = false) a := by
    rw [hdown]
    refine wp_mono (hI.perform hsend hdown (fun apData r hrec hr hf ↦ ?_) a h) (fun _ _ ht ↦ ht)
      (fun _ _ ht ↦ ⟨ht, rfl⟩)
    rw [(APDU.interpret_eq_ok.mp hr).1] at hf
    exact absurd hf (hunsol apData hrec)
  have hother {x : M ω Unit} (hx : Stable (Expects s) x) :
      wp (do x; return none : M ω (Option UserCall)) (fun _ t ↦ Expects s t)
        (fun _ t ↦ Expects s t ∧ false = false) a := by
    rw [wp_bind]
    exact wp_mono (hx a h) (fun _ _ ht ↦ ht) (fun _ _ ht ↦ ⟨ht, rfl⟩)
  cases op with
  | event e =>
    cases e with
    | lowerLayerDown =>
      have hup : a.mIsLowerLayerUp = true := hop
      rw [perform, onLowerLayerDown, wp_bind, wp_get, wp_bind, wp_ensure_of hup]
      exact ⟨h.isMaster, rfl⟩
    | _ => exact hsmall rfl rfl hunsol
  | sendUnsolicited f =>
    rw [perform, wp_bind]
    exact wp_sendUnsolicited_of_isMaster h.isMaster f fun _ ↦ ⟨h, rfl⟩
  | sendRequest f =>
    exact hother (stable_sendRequest fun func n hf _ ↦ Expects.stable_sendOn hf n)
  | sendResponse f => exact hother (stable_sendResponse fun n hf ↦ Expects.stable_sendOn hf n)
  | _ => exact hsmall rfl rfl hunsol

/-! ## An unsolicited response arrives -/

/-- What a master makes of an unsolicited response with the sequence number `q`. -/
inductive Taken (a : AppLayer ω) (q : ℕ) : Option UserCall → AppLayer ω → Prop
  /-- It is turned away. -/
  | rejected : Taken a q none a
  /-- It is a repetition. -/
  | repeated (t : AppLayer ω) (hq : (q : Int) = (a.channel true).mSequence)
      (ht : Expects q t) : Taken a q none t
  /-- It is handed up. -/
  | handed (t : AppLayer ω) (r : APDU) (hq : (q : Int) ≠ (a.channel true).mSequence)
      (ht : Expects q t) : Taken a q (some (.onUnsolResponse r)) t

/-- **A master takes an unsolicited response.** -/
theorem Expects.wp_receive (h : Expects s a) {apData : List Byte}
    (hf : functionOf apData = .unsolicitedResponse) :
    wp (perform (.event (.receive apData)))
      (fun call t ↦ Taken a (AppControlField.ofByte (apData.getD 0 0)).seq call t)
      (fun _ t ↦ t = a) a := by
  generalize hq : (AppControlField.ofByte (apData.getD 0 0)).seq = q
  have hcatch (e : Exception) :
      wp (onCatch apData e) (fun call t ↦ Taken a q call t) (fun _ t ↦ t = a) a := by
    unfold onCatch
    split
    · rw [catchObject, wp_bind]
      cases APDU.interpretHeader apData with
      | error e => exact rfl
      | ok p =>
        simp only [wp_lift_ok, onUnknownObject, wp_bind, wp_get, h.isMaster, if_true, wp_pure]
        exact .rejected
    · split
      · exact .rejected
      · exact rfl
  -- the channel takes the number of what it hands up
  have hunsol (r : APDU) (hr : r.getControl.seq = q) (b : AppLayer ω) (hm : b.isMaster = true)
      (hb : b.channel true = a.channel true) :
      wp (onUnsol r) (fun call t ↦ Taken a q call t)
        (fun e t ↦ wp (onCatch apData e) (fun call t ↦ Taken a q call t)
          (fun _ t ↦ t = a) t) b := by
    simp only [onUnsol, wp_bind, wp_get, hr, hb]
    split
    · next hseq =>
      refine Taken.repeated b hseq ⟨hm, ?_⟩
      rw [hb, ← hseq]
    · next hseq =>
      refine Taken.handed _ r hseq ⟨?_, ?_⟩
      · rw [setChannel_isMaster]
        exact hm
      · rw [channel_setChannel_self]
  rw [perform, wp_tryCatch]
  simp only [receive, wp_bind, wp_get, wp_ensure]
  split
  · cases hr : APDU.interpret apData with
    | error e => exact hcatch e
    | ok r =>
      obtain ⟨happ, -⟩ := APDU.interpret_eq_ok.mp hr
      have hfun : r.getFunction = .unsolicitedResponse := by rw [happ]; exact hf
      have hseq : r.getControl.seq = q := by rw [happ]; exact hq
      simp only [wp_lift_ok, hfun, onUnsolResponse, wp_bind, wp_get, wp_ensure, h.isMaster, if_true]
      split
      · split
        · simp only [queueConfirm, wp_bind, wp_get, wp_ensure, wp_modify, wp_queueFrame]
          split
          · exact hunsol r hseq _ h.isMaster rfl
          · exact hcatch _
        · exact hunsol r hseq a h.isMaster rfl
      · exact hcatch _
  · exact hcatch _

end AppLayer

/-! ## Connections

A send belongs to the connection in which it was numbered. The numbers begin with each
connection, so the connection and the number of the send tell the sequence number. -/

/-- The send `j` of the outstation belongs to the connection `e`: `base` tells how often it had sent
when a connection began, and it has sent `k` times now that it is in the connection `c`. -/
structure Belongs (base : ℕ → ℕ) (c k e j : ℕ) : Prop where
  connection : e ≤ c
  above : base e < j
  upto : j ≤ if e = c then k else base (e + 1)

section Belongs

variable {base : ℕ → ℕ} {c k e e' j : ℕ}

/-- The counts of the connections do not go down. -/
structure Counts (base : ℕ → ℕ) (c k : ℕ) : Prop where
  mono : ∀ e e', e ≤ e' → e' ≤ c → base e ≤ base e'
  le : base c ≤ k

theorem Belongs.le (h : Belongs base c k e j) (hc : Counts base c k) : j ≤ k := by
  have hj := h.upto
  split at hj
  · exact hj
  · next he =>
    have hmono := hc.mono (e + 1) c (by have := h.connection; omega) (Nat.le_refl c)
    have hk := hc.le
    omega

theorem Belongs.more (h : Belongs base c k e j) : Belongs base c (k + 1) e j := by
  refine ⟨h.connection, h.above, ?_⟩
  have hj := h.upto
  split
  · next he => rw [if_pos he] at hj; omega
  · next he => rwa [if_neg he] at hj

/-- A send belongs to one connection. -/
theorem Belongs.unique (hc : Counts base c k) (h : Belongs base c k e j)
    (h' : Belongs base c k e' j) : e = e' := by
  have hlt {e e' : ℕ} (h : Belongs base c k e j) (h' : Belongs base c k e' j) : ¬e < e' := by
    intro he
    have hj := h.upto
    have hc' := h'.connection
    rw [if_neg (by omega)] at hj
    have hmono := hc.mono (e + 1) e' he hc'
    have habove := h'.above
    omega
  exact Nat.le_antisymm (Nat.le_of_not_lt (hlt h' h)) (Nat.le_of_not_lt (hlt h h'))

/-- The counts when the next connection begins. -/
def begin (base : ℕ → ℕ) (c k : ℕ) : ℕ → ℕ := Function.update base (c + 1) k

theorem begin_of_le (h : e ≤ c) : begin base c k e = base e :=
  Function.update_of_ne (by omega) _ _

theorem begin_self : begin base c k (c + 1) = k := Function.update_self ..

theorem Counts.begin (hc : Counts base c k) : Counts (begin base c k) (c + 1) k := by
  refine ⟨fun e e' he he' ↦ ?_, Nat.le_of_eq begin_self⟩
  rcases Nat.lt_or_eq_of_le he' with hlt | rfl
  · rw [begin_of_le (by omega), begin_of_le (by omega)]
    exact hc.mono e e' he (by omega)
  · rw [begin_self]
    rcases Nat.lt_or_eq_of_le he with hlt | rfl
    · rw [begin_of_le (by omega)]
      exact Nat.le_trans (hc.mono e c (by omega) (Nat.le_refl c)) hc.le
    · exact Nat.le_of_eq begin_self

theorem Belongs.begin (h : Belongs base c k e j) : Belongs (begin base c k) (c + 1) k e j := by
  have he := h.connection
  refine ⟨by omega, by rw [begin_of_le he]; exact h.above, ?_⟩
  have hj := h.upto
  rw [if_neg (by omega)]
  split at hj
  · next hec => rw [hec, begin_self]; exact hj
  · next hec => rw [begin_of_le (by omega)]; exact hj

end Belongs

end OpenDNP3
