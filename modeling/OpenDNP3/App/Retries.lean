import OpenDNP3.App.Current

/-!
# What a master waits for

A master expects the answer to its request under the number of the request.  A retry sends the
remembered fragment under the number that it had, so what the channel expects has to be compared
with the fragment that is sent.

* `AppLayer.Transactions.Expects` — the invariant: the number that a channel waits for is that of
  the fragment of its transaction.
* `AppLayer.Transactions.awaits_sent` — a master waits for the sequence number of the request that
  was sent last, if moreover no request is repeated after a part of its response has arrived.
-/

set_option autoImplicit false

namespace OpenDNP3

open Handler

namespace AppLayer

variable {ω : Type} {a b t : AppLayer ω} {u v : Bool} {f : OutAPDU ω} {op : Op ω}
  {acts : List (Act ω)} {call : Option UserCall} {act : Act ω}

namespace Transactions

variable {c d : Transactions ω}

/-! ## The sequence number that a master waits for -/

/-- A master that has a request under way expects the number of that request. -/
structure Expects (c : Transactions ω) : Prop where
  current : c.Current
  master : c.app.isMaster = true
  sequence : isRequesting (c.app.channel false).mpState = true → ∃ f,
    (c.tally false).current = some f ∧ (f.control.seq : Int) = (c.app.channel false).mSequence
  transmitted : (c.app.channel false).mpState = .waitForFirstResponse →
    (c.tally false).transmitted = (c.tally false).current

theorem expects_new (aFragSize aNumRetry : ℕ) :
    (new true aFragSize aNumRetry : Transactions ω).Expects where
  current := current_new true aFragSize aNumRetry
  master := rfl
  sequence h := Bool.noConfusion h
  transmitted h := ACS.noConfusion h

/-- A request is not repeated after a part of its response has arrived, unless the number that the
channel then expects happens to be that of the request. -/
def SameSequence (c : Transactions ω) : Move ω → Prop
  | .enter (.event (.timeout false)) =>
    (c.app.channel false).mpState = .waitForFinalResponse → 0 < (c.app.channel false).mNumRetry →
      ∀ f ∈ (c.app.channel false).mpSendAPDU, (f.control.seq : Int) =
        (c.app.channel false).mSequence
  | _ => True

instance SameSequence.decidable (c : Transactions ω) : ∀ m, Decidable (c.SameSequence m)
  | .enter (.event (.timeout false)) =>
    inferInstanceAs (Decidable ((c.app.channel false).mpState = .waitForFinalResponse →
      0 < (c.app.channel false).mNumRetry → ∀ f ∈ (c.app.channel false).mpSendAPDU,
        (f.control.seq : Int) = (c.app.channel false).mSequence))
  | .enter (.event (.timeout true)) => isTrue trivial
  | .enter (.event .lowerLayerUp) => isTrue trivial
  | .enter (.event .lowerLayerDown) => isTrue trivial
  | .enter (.event (.sendResult _)) => isTrue trivial
  | .enter (.event (.receive _)) => isTrue trivial
  | .enter .checkForSend => isTrue trivial
  | .enter (.sendRequest _) => isTrue trivial
  | .enter (.sendResponse _) => isTrue trivial
  | .enter (.sendUnsolicited _) => isTrue trivial
  | .enter .cancelResponse => isTrue trivial
  | .enter .cancelUnsolicitedRetries => isTrue trivial
  | .resume => isTrue trivial
  | .unwind => isTrue trivial

/-- What the solicited channel and its tally must keep for the master to expect the right number. -/
structure Kept (a t : AppLayer ω) (k k' : Tally ω) : Prop where
  state : (t.channel false).mpState = (a.channel false).mpState
  sequence : (a.channel false).mpState ≠ .idle →
    (t.channel false).mSequence = (a.channel false).mSequence
  current : k'.current = k.current
  transmitted : k'.transmitted = k.transmitted

theorem Expects.kept (hc : c.Expects) (hcur : d.Current) (hm : d.app.isMaster = c.app.isMaster)
    (h : Kept c.app d.app (c.tally false) (d.tally false)) : d.Expects where
  current := hcur
  master := hm.trans hc.master
  sequence hs := by
    rw [h.state] at hs
    obtain ⟨f, hf, hseq⟩ := hc.sequence hs
    refine ⟨f, h.current.trans hf, hseq.trans (h.sequence fun hi ↦ ?_).symm⟩
    rw [hi] at hs
    exact Bool.noConfusion hs
  transmitted hs := by
    rw [h.state] at hs
    rw [h.current, h.transmitted]
    exact hc.transmitted hs

/-- A master whose solicited channel has no request under way expects nothing. -/
theorem expects_of_not (hcur : d.Current) (hm : d.app.isMaster = true)
    (hs : isRequesting (d.app.channel false).mpState = false) : d.Expects where
  current := hcur
  master := hm
  sequence h := absurd (hs.symm.trans h) Bool.false_ne_true
  transmitted h := by
    rw [h] at hs
    exact Bool.noConfusion hs

/-- **Nothing is handed to the solicited channel**, and no fragment of it was reported as sent. -/
theorem Expects.stays {acts : List (Act ω)} {call : Option UserCall} (hc : c.Expects)
    (hcur : (c.entered op acts call t).Current) (hm : t.isMaster = true)
    (hstate : (t.channel false).mpState = (c.app.channel false).mpState)
    (hseq : (c.app.channel false).mpState ≠ .idle →
      (t.channel false).mSequence = (c.app.channel false).mSequence)
    (htaken : takenOn false acts = none)
    (hsent : (c.app.sentAt op).filter (isFor false) = none) :
    (c.entered op acts call t).Expects := by
  refine hc.kept hcur (hm.trans hc.master.symm) ⟨hstate, hseq, ?_, ?_⟩
  · change (takenOn false acts).or _ = _
    rw [htaken, Option.none_or]
  · change ((c.app.sentAt op).filter (isFor false)).or _ = _
    rw [hsent, Option.none_or]

theorem filter_sentAt_of_none (hsent : a.sentAt op = none) :
    (a.sentAt op).filter (isFor false) = none := by
  rw [hsent]
  rfl

/-- The fragment that is reported as sent is not one of the solicited channel. -/
theorem filter_sentAt_of_head {s : Bool} {q : List (OutAPDU ω)} (hq : a.mSendQueue = f :: q)
    (hf : isFor false f = false) :
    (a.sentAt (.event (.sendResult s))).filter (isFor false) = none := by
  cases s with
  | false => rfl
  | true =>
    rw [sentAt, hq, List.head?_cons, Option.filter_some, hf]
    rfl

theorem isFor_false_of_unsol (hf : isFor u f = true) (hu : u = true) : isFor false f = false :=
  isFor_of_ne hf (by rw [hu]; decide)

/-- **A fragment has been sent, or not, and a channel goes on.** -/
theorem Expects.entered_sent {s : Bool} {q : List (OutAPDU ω)} {call : Option UserCall}
    (hc : c.Expects)
    (hcur : (c.entered (.event (.sendResult s)) [.checkForSend] call t).Current)
    (hm : t.isMaster = true) (hq : c.app.mSendQueue = f :: q) (hf : isFor u f = true)
    (hs : s = false → call ≠ none) (hgoes : Goes (c.app.popped q) u call t) :
    (c.entered (.event (.sendResult s)) [.checkForSend] call t).Expects := by
  rcases hgoes.solicited with ⟨hu, hchannel⟩ | ⟨_, hnot⟩ | ⟨hu, hcall, hb, ht, hseq⟩
  · have hother := isFor_false_of_unsol hf hu
    refine hc.stays hcur hm ?_ (fun _ ↦ ?_) rfl (filter_sentAt_of_head hq hother)
    · rw [hchannel]
      rfl
    · rw [hchannel]
      rfl
  · exact expects_of_not hcur hm hnot
  · -- the request was sent, and the master starts to wait
    have hb' : (c.app.channel false).mpState = .sendExpectResponse := hb
    have hsucc : s = true := by
      cases s with
      | false => exact absurd hcall (hs rfl)
      | true => rfl
    obtain ⟨g, hg, hgseq⟩ := hc.sequence (by rw [hb']; rfl)
    have hcurrent : (c.tally false).current = some f :=
      hc.current.queue f (by rw [hq]; exact List.mem_cons_self ..) false (hu ▸ hf)
    refine ⟨hcur, hm, fun _ ↦ ⟨g, hg, hgseq.trans hseq.symm⟩, fun _ ↦ ?_⟩
    change ((c.app.sentAt _).filter (isFor false)).or _ = (c.tally false).current
    rw [hsucc, sentAt, hq, List.head?_cons, Option.filter_some, if_pos (hu ▸ hf), hcurrent,
      Option.some_or]

/-- **A fragment that was not sent is sent again.** -/
theorem Expects.entered_failed {g : OutAPDU ω} {q : List (OutAPDU ω)} {s : ACS} (hc : c.Expects)
    (hcur : (c.entered (.event (.sendResult false)) [.checkForSend] none
      (retried (c.app.popped q) u s g)).Current)
    (hm : (retried (c.app.popped q) u s g).isMaster = true) (hq : c.app.mSendQueue = f :: q)
    (hf : isFor u f = true) (hs : s = (c.app.channel u).mpState) :
    (c.entered (.event (.sendResult false)) [.checkForSend] none
      (retried (c.app.popped q) u s g)).Expects := by
  by_cases hu : u = true
  · have hother := isFor_false_of_unsol hf hu
    refine hc.stays hcur hm ?_ (fun _ ↦ ?_) rfl (filter_sentAt_of_head hq hother)
    · rw [channel_retried, if_neg (by rw [hu]; decide)]
      rfl
    · rw [channel_retried, if_neg (by rw [hu]; decide)]
      rfl
  · rw [Bool.not_eq_true] at hu
    refine hc.stays hcur hm ?_ (fun _ ↦ ?_) rfl rfl
    · rw [channel_retried, if_pos hu.symm, hs, hu]
    · rw [channel_retried, if_pos hu.symm, hu]
      rfl

/-- **What a channel waits for has come.** -/
theorem Expects.entered_stopped {call : Option UserCall} (hc : c.Expects)
    (hcur : (c.entered op [] call t).Current) (hm : t.isMaster = true)
    (hsent : c.app.sentAt op = none) (hw : (c.app.channel u).mpState.isWaiting = true)
    (hgoes : Goes (c.app.stopTimer u) u call t) : (c.entered op [] call t).Expects := by
  rcases hgoes.solicited with ⟨hu, hchannel⟩ | ⟨_, hnot⟩ | ⟨hu, _, hb, _, _⟩
  · have hstop : (c.app.stopTimer u).channel false = c.app.channel false := by
      rw [channel_stopTimer, if_neg (by rw [hu]; decide)]
    refine hc.stays hcur hm ?_ (fun _ ↦ ?_) rfl (filter_sentAt_of_none hsent)
    · rw [hchannel, hstop]
    · rw [hchannel, hstop]
  · exact expects_of_not hcur hm hnot
  · -- a waiting channel has nothing with the lower layer
    rw [hu, state_stopTimer] at hb
    rw [hu, hb] at hw
    exact Bool.noConfusion hw

/-- The request that is repeated has the number that the channel expects. -/
theorem Expects.sequence_repeated {g : OutAPDU ω} {s : ACS} (hc : c.Expects)
    (hsame : c.SameSequence (.enter (.event (.timeout false))))
    (hw : (c.app.channel false).mpState.isWaiting = true)
    (hr : c.app.retriesAt (.event (.timeout false)) = some false)
    (hapdu : (c.app.channel false).mpSendAPDU = some g)
    (hcurrent : (c.tally false).current = some g)
    (huse : s.use = (c.app.channel false).mpState.use) (hreq : isRequesting s = true) :
    (g.control.seq : Int) = (c.app.channel false).mSequence := by
  by_cases hfinal : (c.app.channel false).mpState = .waitForFinalResponse
  · refine hsame hfinal ?_ g hapdu
    rw [retriesAt] at hr
    split at hr
    · assumption
    · contradiction
  · have hfirst : (c.app.channel false).mpState = .waitForFirstResponse := by
      revert hreq huse hw hfinal
      cases s <;> cases (c.app.channel false).mpState <;>
        simp [isRequesting, ACS.use, ACS.isWaiting]
    obtain ⟨f, hf, hfseq⟩ := hc.sequence (by rw [hfirst]; rfl)
    obtain rfl := Option.some.inj (hcurrent.symm.trans hf)
    exact hfseq

/-- **The timer of a channel has expired**, and its fragment is sent again. -/
theorem Expects.entered_expired {g : OutAPDU ω} {s : ACS} (hc : c.Expects)
    (hlast : c.ReturnedLast (.enter (.event (.timeout u))))
    (hsame : c.SameSequence (.enter (.event (.timeout u))))
    (hcur : (c.entered (.event (.timeout u)) [] none
      (retried (c.app.stopTimer u) u s g)).Current)
    (hm : (retried (c.app.stopTimer u) u s g).isMaster = true)
    (hw : (c.app.channel u).mpState.isWaiting = true)
    (hr : c.app.retriesAt (.event (.timeout u)) = some u)
    (hapdu : (c.app.channel u).mpSendAPDU = some g)
    (hs : s.isSending = true ∧ s ≠ .sendCanceled ∧ s.use = (c.app.channel u).mpState.use) :
    (c.entered (.event (.timeout u)) [] none (retried (c.app.stopTimer u) u s g)).Expects := by
  by_cases hu : u = true
  · refine hc.stays hcur hm ?_ (fun _ ↦ ?_) rfl rfl
    · rw [channel_retried, if_neg (by rw [hu]; decide), channel_stopTimer,
        if_neg (by rw [hu]; decide)]
    · rw [channel_retried, if_neg (by rw [hu]; decide), channel_stopTimer,
        if_neg (by rw [hu]; decide)]
  · rw [Bool.not_eq_true] at hu
    subst hu
    have hseq : ((retried (c.app.stopTimer false) false s g).channel false).mSequence =
        (c.app.channel false).mSequence := by
      rw [channel_retried, if_pos rfl, channel_stopTimer, if_pos rfl]
    have hstate : ((retried (c.app.stopTimer false) false s g).channel false).mpState = s := by
      rw [channel_retried, if_pos rfl]
    by_cases hreq : isRequesting s = true
    · -- a request is repeated: the channel still expects its number
      have hcurrent : (c.tally false).current = some g :=
        (hc.current.apdu false (hlast false hr)).symm.trans hapdu
      have hnum := hc.sequence_repeated hsame hw hr hapdu hcurrent hs.2.2 hreq
      refine ⟨hcur, hm, fun _ ↦ ⟨g, hcurrent, hnum.trans hseq.symm⟩, fun hfirst ↦ ?_⟩
      have hsend := hs.1
      have hfirst' : ((retried (c.app.stopTimer false) false s g).channel false).mpState =
        .waitForFirstResponse := hfirst
      rw [← hstate, hfirst'] at hsend
      exact Bool.noConfusion hsend
    · refine expects_of_not hcur hm ?_
      change isRequesting ((retried (c.app.stopTimer false) false s g).channel false).mpState = _
      rw [hstate]
      exact Bool.eq_false_iff.mpr hreq

/-- **A channel is canceled** while it sends. -/
theorem Expects.entered_cancels (hc : c.Expects)
    (hcur : (c.entered op [] none
      (c.app.setChannel u { c.app.channel u with mpState := .sendCanceled })).Current)
    (hm : (c.app.setChannel u { c.app.channel u with mpState := .sendCanceled }).isMaster = true)
    (hsent : c.app.sentAt op = none) :
    (c.entered op [] none
      (c.app.setChannel u { c.app.channel u with mpState := .sendCanceled })).Expects := by
  by_cases hu : u = true
  · refine hc.stays hcur hm ?_ (fun _ ↦ ?_) rfl (filter_sentAt_of_none hsent)
    · rw [channel_setChannel, if_neg (by rw [hu]; decide)]
    · rw [channel_setChannel, if_neg (by rw [hu]; decide)]
  · refine expects_of_not hcur hm ?_
    change isRequesting ((c.app.setChannel u _).channel false).mpState = false
    rw [channel_setChannel, if_pos (Bool.not_eq_true _ |>.mp hu).symm]
    rfl

/-- **A fragment is handed to a channel.** -/
theorem Expects.entered_sends {s : ACS} {func : FunctionCodes} {seq : Int} (hc : c.Expects)
    (hcur : (c.entered op [.setSendAPDU u (withSequence f seq)] none
      (taken c.app u s (withSequence f seq) (c.app.getRetries func) seq)).Current)
    (hm : (taken c.app u s (withSequence f seq) (c.app.getRetries func) seq).isMaster = true)
    (hsent : c.app.sentAt op = none) (hs : s.isSending = true) (hseq : 0 ≤ seq) :
    (c.entered op [.setSendAPDU u (withSequence f seq)] none
      (taken c.app u s (withSequence f seq) (c.app.getRetries func) seq)).Expects := by
  by_cases hu : u = true
  · refine hc.stays hcur hm ?_ (fun _ ↦ ?_) ?_ (filter_sentAt_of_none hsent)
    · rw [channel_taken, if_neg (by rw [hu]; decide)]
    · rw [channel_taken, if_neg (by rw [hu]; decide)]
    · rw [takenOn_setSendAPDU, if_neg (by rw [hu]; decide)]
  · have hu' : false = u := (Bool.not_eq_true _ |>.mp hu).symm
    refine ⟨hcur, hm, fun _ ↦ ⟨withSequence f seq, ?_, ?_⟩, fun hfirst ↦ ?_⟩
    · change (takenOn false _).or _ = _
      rw [takenOn_setSendAPDU, if_pos hu', Option.some_or]
    · change ((seq.toNat : ℕ) : Int) = ((taken c.app u s _ _ seq).channel false).mSequence
      rw [channel_taken, if_pos hu', Int.toNat_of_nonneg hseq]
    · have hfirst' : ((taken c.app u s (withSequence f seq) (c.app.getRetries func) seq).channel
        false).mpState = .waitForFirstResponse := hfirst
      rw [channel_taken, if_pos hu'] at hfirst'
      have hs' : s = .waitForFirstResponse := hfirst'
      rw [hs'] at hs
      exact Bool.noConfusion hs

/-- **A call keeps what the master expects**: one case for each thing that a call can do. -/
theorem Expects.entered (hc : c.Expects) (hlast : c.ReturnedLast (.enter op))
    (hsame : c.SameSequence (.enter op)) (h : Does c.app op acts call t) :
    (c.entered op acts call t).Expects := by
  have hcur := hc.current.entered hlast h
  have hm : t.isMaster = true := h.isMaster.trans hc.master
  cases h with
  | same _ _ hsent hs hacts _ =>
    exact hc.stays hcur hm (hs.state false) (hs.sequence hc.master)
      (takenOn_of_sends_none hacts) (filter_sentAt_of_none hsent)
  | confirms u n _ _ hsent _ hacts =>
    exact hc.stays hcur hm rfl (fun _ ↦ rfl) (takenOn_of_sends_none hacts)
      (filter_sentAt_of_none hsent)
  | confirmed s f q hq hf =>
    refine hc.stays hcur hm rfl (fun _ ↦ rfl) rfl (filter_sentAt_of_head hq ?_)
    refine Bool.eq_false_iff.mpr fun hfor ↦ ?_
    rw [isConfirm_of_isFor hfor] at hf
    exact Bool.noConfusion hf
  | sent s f q u hq hf _ hs hgoes => exact hc.entered_sent hcur hm hq hf hs hgoes
  | failed f g q u s hq hf _ _ hs => exact hc.entered_failed hcur hm hq hf hs
  | stopped u _ _ hsent hw hgoes => exact hc.entered_stopped hcur hm hsent hw hgoes
  | expired g u s hw hr hapdu hs => exact hc.entered_expired hlast hsame hcur hm hw hr hapdu hs
  | cancels u _ _ hsent _ => exact hc.entered_cancels hcur hm hsent
  | sends u f s func seq _ _ hsent _ _ _ hs hseq => exact hc.entered_sends hcur hm hsent hs hseq
  | down _ =>
    refine expects_of_not hcur hm ?_
    change isRequesting (c.app.downed.channel false).mpState = false
    rw [channel_downed]
    rfl

theorem Expects.resumed {n : ℕ} {rest : List (Act ω × ℕ)} (hc : c.Expects)
    (hacts : c.acts = (act, n) :: rest) (h : Resumes c.app act call t) :
    (c.resumed act n rest call t).Expects := by
  have hcur := hc.current.resumed hacts h
  cases h with
  | checkForSend => exact hc.kept hcur rfl ⟨rfl, fun _ ↦ rfl, rfl, rfl⟩
  | same _ _ hs _ =>
    exact hc.kept hcur hs.isMaster ⟨hs.state false, hs.sequence hc.master, rfl, rfl⟩
  | stopped r hw hgoes =>
    have hm : t.isMaster = true :=
      hgoes.isMaster.trans ((setChannel_isMaster ..).trans hc.master)
    rcases hgoes.solicited with ⟨hu, _⟩ | ⟨_, hnot⟩ | ⟨_, _, hb, _, _⟩
    · exact Bool.noConfusion hu
    · exact expects_of_not hcur hm hnot
    · rw [state_stopTimer] at hb
      rw [hb] at hw
      exact Bool.noConfusion hw
  | sent u f =>
    refine hc.kept hcur (setChannel_isMaster ..) ⟨?_, fun _ ↦ ?_, rfl, rfl⟩
    · change ((c.app.setChannel u _).channel false).mpState = _
      rw [channel_setChannel]
      split
      · next hu => rw [hu]
      · rfl
    · change ((c.app.setChannel u _).channel false).mSequence = _
      rw [channel_setChannel]
      split
      · next hu => rw [hu]
      · rfl

theorem expects_step {m : Move ω} (hc : c.Expects) (hg : c.ReturnedLast m ∧ c.SameSequence m)
    (h : c.step m = some d) : d.Expects := by
  have hcur := current_step hc.current hg.1 h
  have hsteady := hc.current.sound.steady
  cases m with
  | enter op =>
    rw [step] at h
    split at h
    · next hop =>
      have hallowed := allowed_of_possible hop
      have hdoes := wp_enter hsteady hallowed (hc.current.hasFragment hallowed hg.1)
      rw [wpDoes, wp] at hdoes
      split at h
      · next acts call t heq =>
        rw [heq] at hdoes
        rw [← Option.some.inj h]
        exact hc.entered hg.1 hg.2 hdoes
      · next e t heq =>
        rw [heq] at hdoes
        have hsame := hdoes.2
        rw [← Option.some.inj h] at hcur ⊢
        exact hc.kept hcur hsame.isMaster
          ⟨hsame.state false, hsame.sequence hc.master, rfl, rfl⟩
    · contradiction
  | resume =>
    rw [step] at h
    split at h
    · contradiction
    · next act n rest hacts =>
      have hcall := wp_call hsteady act
      rw [wp] at hcall
      split at h
      · next call t heq =>
        rw [heq] at hcall
        rw [← Option.some.inj h]
        exact hc.resumed hacts hcall
      · next e t heq =>
        rw [heq] at hcall
        exact hcall.elim
  | unwind =>
    rw [step] at h
    split at h
    · contradiction
    · next p acts hacts =>
      rw [← Option.some.inj h] at hcur ⊢
      exact hc.kept hcur rfl ⟨rfl, fun _ ↦ rfl, rfl, rfl⟩

/-- The response to a request starts with the number that the channel expects. -/
theorem accepts_first (ht : (a.channel false).mpTimer = true)
    (hs : (a.channel false).mpState = .waitForFirstResponse) {r : APDU}
    (hseq : (r.getControl.seq : Int) = (a.channel false).mSequence)
    (hfir : r.getControl.fir = true) :
    wp (channelOnResponse r) (fun call _ ↦ call = some (.onFinalResponse r) ∨
      call = some (.onPartialResponse r)) (fun _ _ ↦ False) a := by
  rw [channelOnResponse, wp_bind, wp_get, hs]
  simp only [processResponse, cancelTimer, wp_bind, wp_get, if_pos (And.intro hseq hfir),
    wp_ensure_of ht, wp_modify]
  split
  · exact .inl rfl
  · simp only [incrSequence, changeState, startTimer, wp_bind, wp_modify, wp_get, wp_ensure,
      channel_setChannel_self, if_true]
    exact .inr rfl

/-- **A master waits for the sequence number that it sent**, in every run in which it repeats only
the request of the transaction that is under way, and not after a part of the response has arrived.
The first part of a response with the number of the request is then accepted. -/
theorem awaits_sent {aFragSize aNumRetry : ℕ} {moves : List (Move ω)}
    (hrun : Run.run step (new true aFragSize aNumRetry) moves = some c)
    (hg : Run.Guarded step (fun c m ↦ c.ReturnedLast m ∧ c.SameSequence m)
      (new true aFragSize aNumRetry) moves)
    (hs : (c.app.channel false).mpState = .waitForFirstResponse) :
    ∃ f, (c.tally false).transmitted = some f ∧
      (c.app.channel false).mSequence = f.control.seq ∧
      ∀ r : APDU, r.getControl.seq = f.control.seq → r.getControl.fir = true →
        wp (channelOnResponse r) (fun call _ ↦ call = some (.onFinalResponse r) ∨
          call = some (.onPartialResponse r)) (fun _ _ ↦ False) c.app := by
  have hc : c.Expects :=
    Run.inv_of_guarded (fun _ _ _ hc hd hm ↦ expects_step hc hd hm)
      (expects_new aFragSize aNumRetry)
      hg hrun
  obtain ⟨f, hf, hseq⟩ := hc.sequence (by rw [hs]; rfl)
  refine ⟨f, (hc.transmitted hs).trans hf, hseq.symm, fun r hr hfir ↦ accepts_first ?_ hs ?_ hfir⟩
  · rw [hc.current.sound.steady.timer, hs]
    rfl
  · rw [hr]
    exact hseq

/-- A request is sent, is not answered in time and sent again. -/
def unanswered : List (Move Unit) :=
  [.enter (.event .lowerLayerUp), .enter (.sendRequest read), .resume,
   .enter (.event (.sendResult true)), .resume, .enter (.event (.timeout false)),
   .enter (.event (.sendResult true)), .resume]

theorem awaits_sent_unanswered :
    ∃ c f, Run.run step (new true 2048 1) unanswered = some c ∧
      (c.tally false).transmitted = some f ∧ (c.app.channel false).mSequence = f.control.seq := by
  obtain ⟨c, hrun⟩ : ∃ c, Run.run step (new true 2048 1) unanswered = some c := ⟨_, rfl⟩
  have hs : (Run.run step (new true 2048 1) unanswered).map
    (fun c ↦ (c.app.channel false).mpState) =
      some .waitForFirstResponse := by decide +kernel
  rw [hrun] at hs
  obtain ⟨f, hf, hseq, -⟩ := awaits_sent hrun (by decide +kernel) (Option.some.inj hs)
  exact ⟨c, f, hrun, hf, hseq⟩

/-- A request is sent, the first part of its response arrives, the rest does not, and the request is
sent again. -/
def halfAnswered : List (Move Unit) :=
  [.enter (.event .lowerLayerUp), .enter (.sendRequest read), .resume,
   .enter (.event (.sendResult true)), .resume,
   .enter (.event (.receive [0x80, 0x81, 0, 0])), .resume, .enter (.event (.timeout false)),
   .enter (.event (.sendResult true)), .resume]

/-- The request is sent again with the number 0, and the master waits for a response with the number
1: it does not take the response to the request. -/
theorem awaits_another :
    ∃ c f, Run.run step (new true 2048 1) halfAnswered = some c ∧
      (c.app.channel false).mpState = .waitForFirstResponse ∧
      (c.tally false).transmitted = some f ∧ f.control.seq = 0 ∧
      (c.app.channel false).mSequence = 1 ∧
      ∀ r : APDU, r.getControl.seq = f.control.seq →
        wp (channelOnResponse r) (fun call _ ↦ call = none) (fun _ _ ↦ False) c.app := by
  refine ⟨_, _, rfl, rfl, rfl, rfl, rfl, fun r hr ↦ ?_⟩
  have hne : ¬(((r.getControl.seq : ℕ) : Int) = 1 ∧ r.getControl.fir = true) := fun h ↦ by
    rw [hr] at h
    exact absurd h.1 (by decide)
  change wp (processResponse r true) _ _ _
  rw [processResponse, wp_bind, wp_get]
  exact (if_neg hne).symm ▸ rfl

end Transactions

end AppLayer

end OpenDNP3
