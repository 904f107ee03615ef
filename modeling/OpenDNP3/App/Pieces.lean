import OpenDNP3.App.Reentry

/-!
# All that a piece of a call does

* `AppLayer.Does` — what a call of the layer may do up to its call to the outside, with the call of
  the user that it makes.
* `AppLayer.wp_enter` and `AppLayer.wp_call` — it does one of these things, if a channel that
  repeats its fragment has one, and no check of the layer itself fails.
* `AppLayer.Does.steady` — what holds between two pieces goes on to hold.
-/

set_option autoImplicit false

namespace OpenDNP3

open Handler

/-- The channel whose use ends with the call of the user. -/
def UserCall.ends : UserCall → Option Bool
  | .onSendSuccess u | .onFailure u => some u
  | .onFinalResponse _ => some false
  | _ => none

namespace AppLayer

variable {ω : Type} {a b t : AppLayer ω} {u : Bool} {f : OutAPDU ω}

/-! ## What a piece does

The cases of a piece: what it takes from the queue or puts into it, which channel it moves, and
which call it ends with. -/

/-- The exception is not for the user: a check of the layer itself has failed. -/
def isInternal : Exception → Bool
  | .assertion _ | .nullPointer _ | .invalidState "" => true
  | _ => false

/-- The channel whose fragment it is. -/
def owner (f : OutAPDU ω) : Option Bool :=
  match f.function with
  | none | some .confirm => none
  | some func => some (func = .unsolicitedResponse)

theorem owner_eq_some : owner f = some u ↔ isFor u f = true := by
  rw [owner, isFor]
  cases f.function with
  | none => simp
  | some func => cases func <;> cases u <;> simp

/-- The channel that repeats its fragment because of the event: a send of it has failed, or a wait
for the other side has timed out, and it has retries left. -/
def retriesAt (a : AppLayer ω) : Op ω → Option Bool
  | .event (.sendResult false) =>
    a.mSendQueue.head?.bind fun f ↦ (owner f).filter fun u ↦
      (a.channel u).mpState ≠ .sendCanceled ∧ 0 < (a.channel u).mNumRetry
  | .event (.timeout u) => if 0 < (a.channel u).mNumRetry then some u else none
  | _ => none

/-- The fragment that the lower layer reports as sent. -/
def sentAt (a : AppLayer ω) : Op ω → Option (OutAPDU ω)
  | .event (.sendResult true) => a.mSendQueue.head?
  | _ => none

/-- The fragment that the call has handed to a channel. -/
def Act.sends : Act ω → Option (Bool × OutAPDU ω)
  | .setSendAPDU u f => some (u, f)
  | _ => none

/-- **Nothing happens** but that a flag changes, retries are given up, or the other side's number is
noted. -/
structure Same (a t : AppLayer ω) : Prop where
  isMaster : t.isMaster = a.isMaster
  state : ∀ v, (t.channel v).mpState = (a.channel v).mpState
  timer : ∀ v, (t.channel v).mpTimer = (a.channel v).mpTimer
  apdu : ∀ v, (t.channel v).mpSendAPDU = (a.channel v).mpSendAPDU
  retries : ∀ v, (t.channel v).mNumRetry ≤ (a.channel v).mNumRetry
  sequence : a.isMaster = true → (a.channel false).mpState ≠ .idle →
    (t.channel false).mSequence = (a.channel false).mSequence
  queue : t.mSendQueue = a.mSendQueue
  confirm : t.mConfirmSending = a.mConfirmSending
  sending : a.mSending = true → t.mSending = true
  sends : t.mSending = true → a.mSending = true ∨ a.mSendQueue ≠ []

theorem Same.refl (a : AppLayer ω) : Same a a :=
  ⟨rfl, fun _ ↦ rfl, fun _ ↦ rfl, fun _ ↦ rfl, fun _ ↦ Nat.le_refl _, fun _ _ ↦ rfl, rfl, rfl, id,
    .inl⟩

theorem Same.steady (h : Same a t) (ha : Steady a) : Steady t where
  timer v := by rw [h.timer, h.state, ha.timer]
  apdu v f hf := ha.apdu v f ((h.apdu v).symm.trans hf)
  queued v := by rw [h.queue, h.state, ha.queued]
  queue := by
    rw [h.queue]
    exact ha.queue
  confirms := by
    rw [h.queue, h.confirm]
    exact ha.confirms
  sending hs := by
    rw [h.queue]
    exact (h.sends hs).elim ha.sending id

/-- Another sequence number or fewer retries. -/
theorem Same.setChannel {c : AppLayerChannel ω} (hs : c.mpState = (a.channel u).mpState)
    (ht : c.mpTimer = (a.channel u).mpTimer) (hc : c.mpSendAPDU = (a.channel u).mpSendAPDU)
    (hn : c.mNumRetry ≤ (a.channel u).mNumRetry)
    (hq : u = false → a.isMaster = true → (a.channel false).mpState ≠ .idle →
      c.mSequence = (a.channel false).mSequence) : Same a (a.setChannel u c) := by
  refine ⟨by simp, fun v ↦ ?_, fun v ↦ ?_, fun v ↦ ?_, fun v ↦ ?_, fun hm hb ↦ ?_, by simp, by simp,
    by simp, fun h ↦ .inl (by simpa using h)⟩
  · rw [channel_setChannel]
    split
    · next hv => rw [hs, hv]
    · rfl
  · rw [channel_setChannel]
    split
    · next hv => rw [ht, hv]
    · rfl
  · rw [channel_setChannel]
    split
    · next hv => rw [hc, hv]
    · rfl
  · rw [channel_setChannel]
    split
    · next hv =>
      rw [hv]
      exact hn
    · exact Nat.le_refl _
  · rw [channel_setChannel]
    split
    · next hv => exact hq hv.symm hm hb
    · rfl

/-- What a channel does whose timer is off and whose fragment is not queued, and with which call of
the user: it ends, or waits for the other side, or for the rest of the response. -/
inductive Goes (b : AppLayer ω) (u : Bool) : Option UserCall → AppLayer ω → Prop
  | ends (call : UserCall) (hc : call.ends = some u) :
      Goes b u (some call) (b.setChannel u { b.channel u with mpState := .idle })
  | waits (s : ACS)
      (hs : s = .waitForConfirm ∧ (b.channel u).mpState = .sendConfirmed ∨
        s = .waitForFirstResponse ∧ (b.channel u).mpState = .sendExpectResponse) :
      Goes b u none (b.setChannel u { b.channel u with mpState := s, mpTimer := true })
  | proceeds (r : APDU) (hu : u = false) :
      Goes b u (some (.onPartialResponse r)) (b.setChannel u
        { b.channel u with
          mpState := .waitForFinalResponse
          mSequence := nextSeq (b.channel u).mSequence
          mpTimer := true })

/-- The channel `u` repeats the fragment `f`. -/
def retried (b : AppLayer ω) (u : Bool) (s : ACS) (f : OutAPDU ω) : AppLayer ω :=
  { b.setChannel u
      { b.channel u with mNumRetry := (b.channel u).mNumRetry - 1, mpState := s } with
    mSendQueue := b.mSendQueue ++ [f]
    mSending := true }

/-- The channel `u` takes the fragment `f`. -/
def taken (a : AppLayer ω) (u : Bool) (s : ACS) (f : OutAPDU ω) (aNumRetry : ℕ) (seq : Int) :
    AppLayer ω :=
  { a.setChannel u
      { a.channel u with mpState := s, mNumRetry := aNumRetry, mSequence := seq } with
    mSendQueue := a.mSendQueue ++ [f]
    mSending := true }

/-- The link is down. -/
def downed (a : AppLayer ω) : AppLayer ω :=
  { a with
    mIsLowerLayerUp := false
    mSolicited := resetChannel a.mSolicited
    mUnsolicited := resetChannel a.mUnsolicited
    mSendQueue := []
    mSending := false }

/-- The first fragment leaves the queue. -/
def popped (a : AppLayer ω) (q : List (OutAPDU ω)) : AppLayer ω :=
  { a with mSendQueue := q, mSending := false }

/-- **All that a call of the layer does** up to its call to the outside. -/
inductive Does (a : AppLayer ω) : Op ω → List (Act ω) → Option UserCall → AppLayer ω → Prop
  | same {op : Op ω} {acts : List (Act ω)} {call : Option UserCall} {t : AppLayer ω}
      (hdown : op.isDown = false) (hr : a.retriesAt op = none) (hsent : a.sentAt op = none)
      (h : Same a t) (hacts : ∀ act ∈ acts, act.sends = none)
      (hcall : call.bind UserCall.ends = none) : Does a op acts call t
  | confirms {op : Op ω} {acts : List (Act ω)} (u : Bool) (n : ℕ)
      (hdown : op.isDown = false) (hr : a.retriesAt op = none) (hsent : a.sentAt op = none)
      (hfree : a.mConfirmSending = false) (hacts : ∀ act ∈ acts, act.sends = none) :
      Does a op acts none { a with
        mSendQueue := a.mSendQueue ++ [confirmAPDU u n]
        mSending := true
        mConfirmSending := true }
  | confirmed (s : Bool) (f : OutAPDU ω) (q : List (OutAPDU ω)) (hq : a.mSendQueue = f :: q)
      (hf : isConfirm f = true) :
      Does a (.event (.sendResult s)) [.checkForSend] none
        { a with mSendQueue := q, mSending := false, mConfirmSending := false }
  | sent (s : Bool) (f : OutAPDU ω) (q : List (OutAPDU ω)) (u : Bool) {call : Option UserCall}
      {t : AppLayer ω} (hq : a.mSendQueue = f :: q) (hf : isFor u f = true)
      (hr : a.retriesAt (.event (.sendResult s)) = none)
      (hs : s = false → call ≠ none) (h : Goes (a.popped q) u call t) :
      Does a (.event (.sendResult s)) [.checkForSend] call t
  | failed (f g : OutAPDU ω) (q : List (OutAPDU ω)) (u : Bool) (s : ACS)
      (hq : a.mSendQueue = f :: q) (hf : isFor u f = true)
      (hr : a.retriesAt (.event (.sendResult false)) = some u)
      (hg : (a.channel u).mpSendAPDU = some g) (hs : s = (a.channel u).mpState) :
      Does a (.event (.sendResult false)) [.checkForSend] none (retried (a.popped q) u s g)
  | stopped {op : Op ω} (u : Bool) {call : Option UserCall} {t : AppLayer ω}
      (hdown : op.isDown = false) (hr : a.retriesAt op = none) (hsent : a.sentAt op = none)
      (hw : (a.channel u).mpState.isWaiting = true) (h : Goes (a.stopTimer u) u call t) :
      Does a op [] call t
  | expired (g : OutAPDU ω) (u : Bool) (s : ACS)
      (hw : (a.channel u).mpState.isWaiting = true)
      (hr : a.retriesAt (.event (.timeout u)) = some u)
      (hg : (a.channel u).mpSendAPDU = some g)
      (hs : s.isSending = true ∧ s ≠ .sendCanceled ∧ s.use = (a.channel u).mpState.use) :
      Does a (.event (.timeout u)) [] none (retried (a.stopTimer u) u s g)
  | cancels {op : Op ω} (u : Bool) (hdown : op.isDown = false) (hr : a.retriesAt op = none)
      (hsent : a.sentAt op = none) (hs : (a.channel u).mpState.isSending = true) :
      Does a op [] none (a.setChannel u { a.channel u with mpState := .sendCanceled })
  | sends {op : Op ω} (u : Bool) (f : OutAPDU ω) (s : ACS) (func : FunctionCodes) (seq : Int)
      (hdown : op.isDown = false) (hr : a.retriesAt op = none) (hsent : a.sentAt op = none)
      (hi : (a.channel u).mpState = .idle) (hf : isFor u f = true)
      (hfunc : f.function = some func) (hs : s.isSending = true) (hseq : 0 ≤ seq) :
      Does a op [.setSendAPDU u (withSequence f seq)] none
        (taken a u s (withSequence f seq) (a.getRetries func) seq)
  | down {op : Op ω} (hdown : op.isDown = true) : Does a op [] (some .onLowerLayerDown) a.downed

/-! ## The invariant is kept -/

theorem Goes.steady {call : Option UserCall} (h : Goes b u call t) (hb : Freed b u) : Steady t := by
  have htimer : (b.channel u).mpTimer = false := by rw [hb.timer, if_pos rfl]
  cases h with
  | ends call hc => exact hb.steady htimer rfl rfl
  | waits s hs =>
    refine hb.steady ?_ rfl ?_
    · rcases hs with ⟨rfl, _⟩ | ⟨rfl, _⟩ <;> rfl
    · rcases hs with ⟨rfl, _⟩ | ⟨rfl, _⟩ <;> rfl
  | proceeds r hu => exact hb.steady rfl rfl rfl

theorem Freed.retried (h : Freed b u) {s : ACS} (hs : s.isSending = true)
    (hf : (b.channel u).mpSendAPDU = some f) : Steady (retried b u s f) := by
  refine h.enqueue ?_ ?_ hs (h.apdu u f hf)
  · change (b.channel u).mpTimer = false
    rw [h.timer, if_pos rfl]
  · rfl

theorem Freed.taken (h : Freed a u) {s : ACS} (hs : s.isSending = true) (hf : isFor u f = true)
    (n : ℕ) (seq : Int) : Steady (taken a u s f n seq) := by
  refine h.enqueue ?_ ?_ hs hf
  · change (a.channel u).mpTimer = false
    rw [h.timer, if_pos rfl]
  · rfl

theorem channel_downed (a : AppLayer ω) (v : Bool) :
    a.downed.channel v = resetChannel (a.channel v) := by
  cases v <;> rfl

theorem Steady.downed (h : Steady a) : Steady a.downed where
  timer v := by
    rw [channel_downed]
    rfl
  apdu v f hf := by
    rw [channel_downed] at hf
    exact h.apdu v f hf
  queued v := by
    rw [channel_downed]
    rfl
  queue f hf := absurd hf List.not_mem_nil
  confirms := Nat.zero_le _
  sending hs := Bool.noConfusion hs

/-- A sending channel is canceled. -/
theorem Steady.canceled (h : Steady a) (hs : (a.channel u).mpState.isSending = true) :
    Steady (a.setChannel u { a.channel u with mpState := .sendCanceled }) where
  timer v := by
    rw [channel_setChannel]
    split
    · rw [h.timer]
      exact ACS.isWaiting_of_isSending hs
    · exact h.timer v
  apdu v f hf := by
    rw [channel_setChannel] at hf
    split at hf
    · next hv => exact hv ▸ h.apdu u f hf
    · exact h.apdu v f hf
  queued v := by
    rw [setChannel_mSendQueue, h.queued, channel_setChannel]
    split
    · next hs' =>
      split
      · rfl
      · rfl
    · next hs' =>
      split
      · next hv => exact absurd (hv ▸ hs) hs'
      · rfl
  queue := by simpa using h.queue
  confirms := by simpa using h.confirms
  sending := by simpa using h.sending

/-- **Every piece keeps the invariant.** -/
theorem Does.steady {op : Op ω} {acts : List (Act ω)} {call : Option UserCall}
    (h : Does a op acts call t) (ha : Steady a) : Steady t := by
  cases h with
  | same _ _ _ hs _ _ => exact hs.steady ha
  | confirms u n _ _ _ hfree _ => exact ha.enqueue_confirm hfree n
  | confirmed s f q hq hf => exact (ha.dequeue_confirm hq hf).2
  | sent s f q u hq hf _ _ hgoes => exact hgoes.steady (ha.freed_dequeue hq hf).2
  | failed f g q u s hq hf _ hg hs =>
    obtain ⟨hsend, hfreed⟩ := ha.freed_dequeue hq hf
    exact hfreed.retried (hs ▸ hsend) hg
  | stopped u _ _ _ hw hgoes => exact hgoes.steady (ha.freed_stopTimer hw)
  | expired g u s hw _ hg hs =>
    refine (ha.freed_stopTimer hw).retried hs.1 ?_
    rw [stopTimer, channel_setChannel_self]
    exact hg
  | cancels u _ _ _ hs => exact ha.canceled hs
  | sends u f s func seq _ _ _ hi hf _ hs _ =>
    have hfor : isFor u (withSequence f seq) = true := hf
    exact (ha.freed_of_idle hi).taken hs hfor _ _
  | down _ => exact ha.downed

/-! ## Results of the lower layer and timers -/

theorem retriesAt_sendResult {q : List (OutAPDU ω)} (hq : a.mSendQueue = f :: q)
    (hf : isFor u f = true) :
    a.retriesAt (.event (.sendResult false)) =
      if (a.channel u).mpState ≠ .sendCanceled ∧ 0 < (a.channel u).mNumRetry then some u
      else none := by
  rw [retriesAt, hq, List.head?_cons, Option.bind_some, owner_eq_some.mpr hf, Option.filter_some]
  simp only [decide_eq_true_eq]

/-- What `Retry` comes to where the channel gives up if it has no retries left. -/
def RetriesOrFails (b : AppLayer ω) (u : Bool) (s : ACS) (call : Option UserCall)
    (t : AppLayer ω) : Prop :=
  (0 < (b.channel u).mNumRetry ∧
    ∃ g, (b.channel u).mpSendAPDU = some g ∧ call = none ∧ t = retried b u s g) ∨
  ((b.channel u).mNumRetry = 0 ∧ call ≠ none ∧ Goes b u call t)

theorem wp_retryOrFail_cases {s : ACS}
    (hnull : 0 < (b.channel u).mNumRetry → (b.channel u).mpSendAPDU ≠ none) :
    wp (retryOrFail u s) (fun call t ↦ RetriesOrFails b u s call t) (fun _ _ ↦ False) b := by
  simp only [retryOrFail, retry, wp_bind, wp_get]
  split
  · next hn =>
    obtain ⟨g, hg⟩ := Option.ne_none_iff_exists'.mp (hnull hn)
    simp only [hg, wp_bind, wp_modify, wp_queueFrame, wp_pure, if_true]
    refine .inl ⟨hn, g, hg, rfl, ?_⟩
    simp only [retried, hg, setChannel_mSendQueue]
  · next hn =>
    simp only [wp_pure, Bool.false_eq_true, if_false, changeState, wp_bind, wp_modify]
    exact .inr ⟨Nat.eq_zero_of_not_pos hn, Option.some_ne_none _, .ends _ rfl⟩

theorem wp_channelOnSendSuccess_goes (hb : Freed b u)
    (hs : (b.channel u).mpState.isSending = true) :
    wp (channelOnSendSuccess u) (fun call t ↦ Goes b u call t) (fun _ _ ↦ False) b := by
  have htimer : (b.channel u).mpTimer = false := by rw [hb.timer, if_pos rfl]
  have hends := fun {call} ↦ Goes.ends (b := b) (u := u) call
  have hwaits := fun {s} ↦ Goes.waits (b := b) (u := u) s
  rw [channelOnSendSuccess, wp_bind, wp_get]
  revert hs hends hwaits
  cases (b.channel u).mpState with
  | send => exact fun _ hends _ ↦ hends rfl
  | sendCanceled => exact fun _ hends _ ↦ hends rfl
  | sendConfirmed =>
    intro _ _ hwaits
    simpa [changeState, startTimer, wp_ensure, htimer] using hwaits (.inl ⟨rfl, rfl⟩)
  | sendExpectResponse =>
    intro _ _ hwaits
    simpa [changeState, startTimer, wp_ensure, htimer] using hwaits (.inr ⟨rfl, rfl⟩)
  | _ => exact fun hs ↦ Bool.noConfusion hs

/-- The channel repeats its fragment in the state it is in, or ends. -/
theorem wp_channelOnSendFailure_cases (hs : (b.channel u).mpState.isSending = true)
    (hnull : (b.channel u).mpState ≠ .sendCanceled ∧ 0 < (b.channel u).mNumRetry →
      (b.channel u).mpSendAPDU ≠ none) :
    wp (channelOnSendFailure u) (fun call t ↦
      ((b.channel u).mpState ≠ .sendCanceled ∧
        RetriesOrFails b u (b.channel u).mpState call t) ∨
      ((b.channel u).mpState = .sendCanceled ∧ call ≠ none ∧ Goes b u call t))
      (fun _ _ ↦ False) b := by
  have hretry (s : ACS) (hn : (b.channel u).mpState ≠ .sendCanceled) :=
    wp_retryOrFail_cases (s := s) fun h0 ↦ hnull ⟨hn, h0⟩
  have hends := Goes.ends (b := b) (u := u) (.onFailure u) rfl
  rw [channelOnSendFailure, wp_bind, wp_get]
  revert hs hretry
  cases (b.channel u).mpState with
  | sendCanceled => exact fun _ _ ↦ .inr ⟨rfl, Option.some_ne_none _, hends⟩
  | send =>
    exact fun _ hretry ↦ wp_mono (hretry .send (by decide)) (fun _ _ h ↦ .inl ⟨by decide, h⟩)
      fun _ _ he ↦ he
  | sendConfirmed =>
    exact fun _ hretry ↦ wp_mono (hretry .sendConfirmed (by decide))
      (fun _ _ h ↦ .inl ⟨by decide, h⟩) fun _ _ he ↦ he
  | sendExpectResponse =>
    exact fun _ hretry ↦ wp_mono (hretry .sendExpectResponse (by decide))
      (fun _ _ h ↦ .inl ⟨by decide, h⟩) fun _ _ he ↦ he
  | _ => exact fun hs ↦ Bool.noConfusion hs

/-- **The lower layer reports the result of a send.** -/
theorem wp_onSendResult_does (h : Steady a) (hs : a.mSending = true) (aSuccess : Bool)
    (hnull : ∀ u, a.retriesAt (.event (.sendResult aSuccess)) = some u →
      (a.channel u).mpSendAPDU ≠ none) :
    wp (onSendResult aSuccess)
      (fun call t ↦ Does a (.event (.sendResult aSuccess)) [.checkForSend] call t)
      (fun _ _ ↦ False) a := by
  obtain ⟨f, q, hq⟩ := List.exists_cons_of_ne_nil (h.sending hs)
  obtain ⟨func, hfunc⟩ := Option.ne_none_iff_exists'.mp
    (h.queue f (by rw [hq]; exact List.mem_cons_self ..))
  simp only [onSendResult, wp_bind, wp_get, wp_ensure_of hs, hq, wp_modify, getFunction, hfunc,
    wp_lift_ok]
  split
  · next hc =>
    have hconf : isConfirm f = true := by simp [isConfirm, hfunc, hc]
    simp only [wp_bind, wp_get, wp_ensure_of (h.dequeue_confirm hq hconf).1, wp_modify, wp_pure]
    exact .confirmed aSuccess f q hq hconf
  · next hc =>
    have hfor := isFor_of_function hfunc hc
    generalize decide (func = .unsolicitedResponse) = u at hfor ⊢
    obtain ⟨hsend, hfreed⟩ := h.freed_dequeue hq hfor
    split
    · next hsucc =>
      rw [hsucc]
      exact wp_mono (wp_channelOnSendSuccess_goes hfreed hsend)
        (fun call t hg ↦ .sent true f q u hq hfor rfl (fun hf ↦ Bool.noConfusion hf) hg)
        fun _ _ he ↦ he
    · next hsucc =>
      rw [Bool.eq_false_iff.mpr hsucc] at hnull ⊢
      have hr := retriesAt_sendResult hq hfor
      refine wp_mono (wp_channelOnSendFailure_cases hsend fun hn ↦ ?_) (fun call t hp ↦ ?_)
        fun _ _ he ↦ he
      · exact hnull u (hr.trans (if_pos hn))
      · rcases hp with ⟨hne, ⟨hn, g, hg, rfl, rfl⟩ | ⟨hn, hcall, hgoes⟩⟩ | ⟨he, hcall, hgoes⟩
        · exact .failed f g q u _ hq hfor (hr.trans (if_pos ⟨hne, hn⟩)) hg rfl
        · refine .sent false f q u hq hfor (hr.trans (if_neg fun h' ↦ ?_)) (fun _ ↦ hcall) hgoes
          exact Nat.ne_of_gt h'.2 hn
        · refine .sent false f q u hq hfor (hr.trans (if_neg fun h' ↦ ?_)) (fun _ ↦ hcall) hgoes
          exact h'.1 he

/-- **The timer of a channel expires.** -/
theorem wp_timeout_does (h : Steady a) (ht : (a.channel u).mpTimer = true)
    (hnull : a.retriesAt (.event (.timeout u)) = some u → (a.channel u).mpSendAPDU ≠ none) :
    wp (timeout u) (fun call t ↦ Does a (.event (.timeout u)) [] call t) (fun _ _ ↦ False) a := by
  have hw : (a.channel u).mpState.isWaiting = true := (h.timer u).symm.trans ht
  have hchannel : (a.stopTimer u).channel u = { a.channel u with mpTimer := false } := by
    rw [stopTimer, channel_setChannel_self]
  have key {s : ACS} (hs : s.isSending = true ∧ s ≠ .sendCanceled ∧
      s.use = (a.channel u).mpState.use) :
      wp (retryOrFail u s) (fun call t ↦ Does a (.event (.timeout u)) [] call t)
        (fun _ _ ↦ False) (a.stopTimer u) := by
    refine wp_mono (wp_retryOrFail_cases fun hn ↦ ?_) (fun call t hp ↦ ?_) fun _ _ he ↦ he
    · rw [hchannel] at hn ⊢
      exact hnull (if_pos hn)
    · rcases hp with ⟨hn, g, hg, rfl, rfl⟩ | ⟨hn, hcall, hgoes⟩
      · rw [hchannel] at hn hg
        exact .expired g u s hw (if_pos hn) hg hs
      · rw [hchannel] at hn
        exact .stopped u rfl (if_neg (by rw [hn]; exact Nat.lt_irrefl 0)) rfl hw hgoes
  rw [timeout, wp_bind, wp_modify]
  change wp _ _ _ (a.stopTimer u)
  rw [wp_bind, wp_get, hchannel]
  revert key hw
  cases (a.channel u).mpState with
  | waitForConfirm => exact fun _ key ↦ key ⟨rfl, by decide, rfl⟩
  | waitForFirstResponse => exact fun _ key ↦ key ⟨rfl, by decide, rfl⟩
  | waitForFinalResponse => exact fun _ key ↦ key ⟨rfl, by decide, rfl⟩
  | _ => exact fun hw ↦ Bool.noConfusion hw

/-! ## Received fragments -/

theorem not_isInternal_of_isRejection {e : Exception} (h : e.isRejection = true) :
    isInternal e = false := by
  cases e with
  | general m => rfl
  | argument m => rfl
  | object m => rfl
  | _ => exact Bool.noConfusion h

theorem sends_nil : ∀ act ∈ ([] : List (Act ω)), act.sends = none :=
  fun _ h ↦ absurd h List.not_mem_nil

theorem sends_singleton (act : Act ω) (h : act.sends = none) : ∀ b ∈ [act], b.sends = none := by
  intro b hb
  rw [List.mem_singleton.mp hb]
  exact h

/-- What a piece comes to that a fragment sets off: the fragment may be rejected. -/
abbrev wpReceived (x : M ω (List (Act ω) × Option UserCall)) (apData : List Byte)
    (a : AppLayer ω) : Prop :=
  wp x (fun r t ↦ Does a (.event (.receive apData)) r.1 r.2 t)
    (fun e t ↦ e.isRejection = true ∧ t = a) a

variable {apData : List Byte}

/-- Nothing happens, but for what comes when the call to the outside returns. -/
theorem Does.nothing {acts : List (Act ω)} (hacts : ∀ act ∈ acts, act.sends = none) :
    Does a (.event (.receive apData)) acts none a :=
  .same rfl rfl rfl (Same.refl a) hacts rfl

theorem wpReceived_queueConfirm (n : ℕ) (act : Act ω) (hact : act.sends = none) :
    wpReceived (do queueConfirm u n; return ([act], none)) apData a := by
  simp only [wpReceived, queueConfirm, wp_bind, wp_get, wp_ensure]
  split
  · next hfree =>
    simp only [wp_modify, wp_queueFrame, wp_pure]
    exact .confirms u n rfl rfl rfl hfree (sends_singleton act hact)
  · exact ⟨rfl, trivial⟩

theorem cancelTimer_eq_stopTimer (h : Steady a) (hw : (a.channel u).mpState.isWaiting = true)
    (Q : Unit → AppLayer ω → Prop) (E : Exception → AppLayer ω → Prop) :
    wp (cancelTimer u) Q E a = Q () (a.stopTimer u) := by
  simp only [cancelTimer, wp_bind, wp_get, wp_ensure_of ((h.timer u).trans hw), wp_modify]
  rfl

theorem wpReceived_onConfirm (h : Steady a) (r : APDU) :
    wpReceived (do let call ← onConfirm r; return ([], call)) apData a := by
  simp only [wpReceived, onConfirm, channelOnConfirm, wp_bind, wp_ensure, wp_get]
  split
  · split
    · next hc =>
      have hw : (a.channel r.getControl.uns).mpState.isWaiting = true := by rw [hc.1]; rfl
      rw [wp_bind, cancelTimer_eq_stopTimer h hw]
      exact .stopped r.getControl.uns rfl rfl rfl hw (.ends _ rfl)
    · exact .nothing sends_nil
  · exact ⟨rfl, trivial⟩

/-- An outstation takes over the sequence number of a request. -/
theorem Same.setSequence (hm : a.isMaster = false) (n : ℕ) :
    Same a (a.setChannel false { a.channel false with mSequence := n }) := by
  refine Same.setChannel ?_ ?_ ?_ ?_ fun _ h ↦ absurd (hm.symm.trans h) Bool.false_ne_true
  · rfl
  · rfl
  · rfl
  · exact Nat.le_refl _

theorem wpReceived_onRequest (r : APDU) :
    wpReceived (do let call ← onRequest r; return ([], call)) apData a := by
  simp only [wpReceived, onRequest, wp_bind, wp_ensure, wp_get]
  split
  · split
    · split
      · next hm => exact .same rfl rfl rfl (Same.setSequence hm _) sends_nil rfl
      · exact ⟨rfl, trivial⟩
    · exact ⟨rfl, trivial⟩
  · exact ⟨rfl, trivial⟩

theorem wpReceived_onUnknownObject (aCode : FunctionCodes) (arCtrl : AppControlField) :
    wpReceived (do let call ← onUnknownObject aCode arCtrl; return ([], call)) apData a := by
  simp only [wpReceived, onUnknownObject, wp_bind, wp_get]
  split
  · exact .nothing sends_nil
  · next hm =>
    split
    · exact .nothing sends_nil
    · exact .nothing sends_nil
    · exact .nothing sends_nil
    · exact .nothing sends_nil
    · exact .same rfl rfl rfl (Same.setSequence (Bool.eq_false_iff.mpr hm) _) sends_nil rfl

theorem wpReceived_enterReceive (h : Steady a) (apData : List Byte) :
    wpReceived (enterReceive apData) apData a := by
  simp only [wpReceived, enterReceive, wp_bind, wp_get, wp_ensure]
  split
  · cases hr : APDU.interpret apData with
    | error e => exact ⟨APDU.interpret_error hr, rfl⟩
    | ok r =>
      rw [wp_lift_ok]
      split
      · exact wpReceived_onConfirm h r
      · rw [wp_bind, wp_ensure]
        split
        · rw [wp_bind, wp_get]
          split
          · exact wpReceived_queueConfirm _ (.channelOnResponse r) rfl
          · exact .nothing (sends_singleton _ rfl)
        · exact ⟨rfl, rfl⟩
      · rw [wp_bind, wp_ensure]
        split
        · rw [wp_bind, wp_get, wp_bind, wp_ensure]
          split
          · split
            · exact wpReceived_queueConfirm _ (.onUnsol r) rfl
            · exact .nothing (sends_singleton _ rfl)
          · exact ⟨rfl, rfl⟩
        · exact ⟨rfl, rfl⟩
      · exact wpReceived_onRequest r
  · exact ⟨rfl, trivial⟩

theorem wpReceived_onCatch {e : Exception} (he : e.isRejection = true) :
    wpReceived (do let call ← onCatch apData e; return ([], call)) apData a := by
  unfold onCatch
  split
  · rw [catchObject]
    cases hr : APDU.interpretHeader apData with
    | error e => exact ⟨APDU.interpretHeader_error hr, rfl⟩
    | ok r => exact wpReceived_onUnknownObject r.2.1 r.1
  · rw [if_pos (Exception.isCaught_of_isRejection he)]
    exact .nothing sends_nil

/-- **A fragment is received.** -/
theorem wpReceived_receive (h : Steady a) (apData : List Byte) :
    wpReceived (enter (.event (.receive apData))) apData a := by
  rw [wpReceived, enter, wp_tryCatch]
  refine wp_mono (wpReceived_enterReceive h apData) (fun _ _ hd ↦ hd) fun e t he ↦ ?_
  rw [he.2]
  exact wpReceived_onCatch he.1

/-! ## Sends -/

/-- What a piece comes to: the user may be refused. -/
abbrev wpDoes (x : M ω (List (Act ω) × Option UserCall)) (op : Op ω) (a : AppLayer ω) : Prop :=
  wp x (fun r t ↦ Does a op r.1 r.2 t) (fun e t ↦ isInternal e = false ∧ Same a t) a

theorem not_isInternal_invalidState (s : ACS) : isInternal s.invalidState = false := by
  cases s <;> rfl

theorem not_isInternal_nextState {seq : Int} {func : FunctionCodes} {con : Bool} {e : Exception}
    (h : nextState seq func con = .error e) : isInternal e = false := by
  unfold nextState at h
  repeat' split at h
  all_goals try contradiction
  all_goals
    rw [← Except.error.inj h]
    rfl

/-- A sequence number that a fragment gets is none that stands for nothing received yet. -/
theorem sendSequence_nonneg_of_nextState {seq : Int} {func : FunctionCodes} {s : ACS}
    (hfunc : f.function = some func)
    (h : nextState (sendSequence f seq) func f.control.con = .ok s) : 0 ≤ sendSequence f seq := by
  by_cases hresp : func = .response
  · rw [hresp, nextState] at h
    split at h
    · contradiction
    · omega
  · refine sendSequence_nonneg fun hf ↦ ?_
    exact absurd (Option.some.inj (hfunc.symm.trans hf)) hresp

/-- What `ACS_Idle::Send` does. -/
theorem wp_idleSend_cases {func : FunctionCodes} (hfunc : f.function = some func) {n : ℕ}
    {Q : OutAPDU ω → AppLayer ω → Prop} {E : Exception → AppLayer ω → Prop}
    (hok : ∀ s, nextState (sendSequence f (a.channel u).mSequence) func f.control.con = .ok s →
      Q (withSequence f (sendSequence f (a.channel u).mSequence))
        (taken a u s (withSequence f (sendSequence f (a.channel u).mSequence)) n
          (sendSequence f (a.channel u).mSequence)))
    (herr : ∀ e, nextState (sendSequence f (a.channel u).mSequence) func f.control.con = .error e →
      E e (a.setChannel u
        { a.channel u with mSequence := sendSequence f (a.channel u).mSequence })) :
    wp (idleSend u f func n) Q E a := by
  rw [idleSend]
  simp only [incrSequence]
  split
  · next hfir =>
    have hseq : sendSequence f (a.channel u).mSequence = nextSeq (a.channel u).mSequence := by
      rw [sendSequence, hfunc, if_neg (by simpa [imp_iff_not_or] using hfir)]
    rw [hseq] at hok herr
    cases hn : nextState (nextSeq (a.channel u).mSequence) func f.control.con with
    | ok s =>
      simp only [wp_modify, wp_get, wp_bind, channel_setChannel_self, OutAPDU.setControl, hn,
        wp_lift_ok, setChannel_setChannel, wp_queueFrame, setChannel_mSendQueue, wp_pure]
      exact hok s hn
    | error e =>
      simp only [wp_modify, wp_get, wp_bind, channel_setChannel_self, OutAPDU.setControl, hn,
        wp_lift_error]
      exact herr e hn
  · next hfir =>
    have hseq : sendSequence f (a.channel u).mSequence = (a.channel u).mSequence := by
      rw [sendSequence, hfunc, if_pos (by simpa using hfir)]
    rw [hseq] at hok herr
    cases hn : nextState (a.channel u).mSequence func f.control.con with
    | ok s =>
      simp only [wp_modify, wp_get, wp_bind, OutAPDU.setControl, hn, wp_lift_ok, wp_queueFrame,
        setChannel_mSendQueue, wp_pure]
      exact hok s hn
    | error e =>
      simp only [wp_get, wp_bind, OutAPDU.setControl, hn, wp_lift_error]
      have ha : a.setChannel u { a.channel u with mSequence := (a.channel u).mSequence } = a := by
        cases u <;> rfl
      exact ha ▸ herr e hn

/-- An operation that is no event of the lower layer and no timeout. -/
structure Op.Calm (op : Op ω) : Prop where
  down : op.isDown = false
  retries : ∀ a : AppLayer ω, a.retriesAt op = none
  sent : ∀ a : AppLayer ω, a.sentAt op = none

variable {op : Op ω}

theorem wpDoes_beginSend (hop : op.Calm) (hf : isFor u f = true) :
    wpDoes (do let acts ← beginSend u f; return (acts, none)) op a := by
  rw [wpDoes, wp_bind, beginSend]
  cases hfunc : f.function with
  | none => exact absurd hfunc (function_of_isFor hf)
  | some func =>
    rw [getFunction, hfunc, wp_bind, wp_lift_ok, wp_bind, wp_get, wp_bind, wp_ensure]
    split
    · next hi =>
      rw [wp_bind, wp_get, wp_bind]
      refine wp_idleSend_cases hfunc (fun s hs ↦ ?_) fun e he ↦ ?_
      · exact .sends u f s func _ hop.down (hop.retries a) (hop.sent a) hi hf hfunc
          (isSending_of_nextState hs) (sendSequence_nonneg_of_nextState hfunc hs)
      · refine ⟨not_isInternal_nextState he, Same.setChannel ?_ ?_ ?_ ?_ fun hu _ hb ↦ ?_⟩
        · rfl
        · rfl
        · rfl
        · exact Nat.le_refl _
        · exact absurd (hu ▸ hi) hb
    · exact ⟨not_isInternal_invalidState _, Same.refl a⟩

/-- `Validate` changes nothing, and what it throws is for the user. -/
theorem wp_validate_same (arCtrl : AppControlField) (w x y z : Bool) :
    wp (validate arCtrl w x y z) (fun _ t ↦ t = a)
      (fun e t ↦ isInternal e = false ∧ Same a t) a := by
  simp only [validate, wp_bind, wp_get, wp_ensure]
  repeat' split
  all_goals first | trivial | exact ⟨rfl, Same.refl a⟩

theorem wpDoes_send (hop : op.Calm) {arCtrl : AppControlField} {w x y z : Bool} {p : Prop}
    [Decidable p] {m : String} (hf : p → isFor u f = true) :
    wpDoes ((do
      validate arCtrl w x y z
      ensure p (.argument m)
      beginSend u f) >>= fun acts ↦ pure (acts, none)) op a := by
  rw [wpDoes, wp_bind, wp_bind]
  refine wp_mono (wp_validate_same arCtrl w x y z) (fun _ t ht ↦ ?_) fun _ _ he ↦ he
  rw [ht, wp_bind, wp_ensure]
  split
  · next hp =>
    have hsend := wpDoes_beginSend (a := a) hop (hf hp)
    rw [wpDoes, wp_bind] at hsend
    exact hsend
  · exact ⟨rfl, Same.refl a⟩

theorem isFor_of_isRequest (h : f.function.any isRequest = true) : isFor false f = true := by
  rw [isFor]
  revert h
  cases f.function with
  | none => exact fun h ↦ Bool.noConfusion h
  | some func => cases func <;> first | exact fun _ ↦ rfl | exact Bool.noConfusion

/-! ## Other operations -/

theorem wpDoes_cancel (h : Steady a) (hop : op.Calm) (u : Bool) :
    wpDoes (do let call ← cancel u; return ([], call)) op a := by
  have hcancels := Does.cancels (a := a) u hop.down (hop.retries a) (hop.sent a)
  have hends (hw : (a.channel u).mpState.isWaiting = true) :=
    Does.stopped (a := a) u hop.down (hop.retries a) (hop.sent a) hw (.ends (.onFailure u) rfl)
  have htimer := h.timer u
  rw [wpDoes, wp_bind, cancel, wp_bind, wp_get]
  cases hs : (a.channel u).mpState with
  | send => exact hcancels (by rw [hs]; rfl)
  | sendConfirmed => exact hcancels (by rw [hs]; rfl)
  | sendExpectResponse => exact hcancels (by rw [hs]; rfl)
  | sendCanceled =>
    exact .same hop.down (hop.retries a) (hop.sent a) (Same.refl a) sends_nil rfl
  | waitForConfirm =>
    have hw : (a.channel u).mpState.isWaiting = true := by rw [hs]; rfl
    simp only [changeState, cancelTimer, wp_bind, wp_modify, wp_get, wp_ensure,
      channel_setChannel_self, htimer.trans hw, if_true, setChannel_setChannel, wp_pure]
    simpa only [stopTimer, channel_setChannel_self, setChannel_setChannel] using hends hw
  | _ => exact ⟨not_isInternal_invalidState _, Same.refl a⟩

/-- **What a call of the layer does** up to its call to the outside, if a channel that repeats its
fragment has one. -/
theorem wp_enter (h : Steady a) (hop : a.allowed op = true)
    (hnull : ∀ u, a.retriesAt op = some u → (a.channel u).mpSendAPDU ≠ none) :
    wpDoes (enter op) op a := by
  cases op with
  | event e =>
    cases e with
    | sendResult aSuccess =>
      change wp (onSendResult aSuccess >>= _) _ _ a
      rw [wp_bind]
      exact wp_mono (wp_onSendResult_does h hop aSuccess hnull) (fun _ _ hd ↦ hd)
        fun _ _ he ↦ he.elim
    | receive apData =>
      exact wp_mono (wpReceived_receive h apData) (fun _ _ hd ↦ hd)
        fun e t he ↦ ⟨not_isInternal_of_isRejection he.1, he.2 ▸ Same.refl a⟩
    | lowerLayerUp =>
      change wp (onLowerLayerUp >>= _) _ _ a
      have hd : a.mIsLowerLayerUp = false := by simpa [allowed] using hop
      rw [wp_bind, onLowerLayerUp, wp_bind, wp_get, wp_bind, wp_ensure_of hd]
      exact .same rfl rfl rfl ⟨rfl, fun _ ↦ rfl, fun _ ↦ rfl, fun _ ↦ rfl, fun _ ↦ Nat.le_refl _,
        fun _ _ ↦ rfl, rfl, rfl, id, .inl⟩ sends_nil rfl
    | lowerLayerDown =>
      change wp (onLowerLayerDown >>= _) _ _ a
      have hup : a.mIsLowerLayerUp = true := hop
      rw [wp_bind, onLowerLayerDown, wp_bind, wp_get, wp_bind, wp_ensure_of hup]
      exact .down rfl
    | timeout u =>
      change wp (timeout u >>= _) _ _ a
      rw [wp_bind]
      exact wp_mono (wp_timeout_does h hop (hnull u)) (fun _ _ hd ↦ hd) fun _ _ he ↦ he.elim
  | checkForSend =>
    refine .same rfl rfl rfl ⟨rfl, fun _ ↦ rfl, fun _ ↦ rfl, fun _ ↦ rfl, fun _ ↦ Nat.le_refl _,
      fun _ _ ↦ rfl, rfl, rfl, fun hs ↦ ?_, fun hs ↦ ?_⟩ sends_nil rfl
    · change (a.mSending || !a.mSendQueue.isEmpty) = true
      rw [hs]
      rfl
    · have hs' : (a.mSending || !a.mSendQueue.isEmpty) = true := hs
      simpa using hs'
  | sendRequest f => exact wpDoes_send ⟨rfl, fun _ ↦ rfl, fun _ ↦ rfl⟩ isFor_of_isRequest
  | sendResponse f =>
    refine wpDoes_send ⟨rfl, fun _ ↦ rfl, fun _ ↦ rfl⟩ fun hf ↦ ?_
    rw [isFor, hf]
    rfl
  | sendUnsolicited f =>
    refine wpDoes_send ⟨rfl, fun _ ↦ rfl, fun _ ↦ rfl⟩ fun hf ↦ ?_
    rw [isFor, hf]
  | cancelResponse => exact wpDoes_cancel h ⟨rfl, fun _ ↦ rfl, fun _ ↦ rfl⟩ false
  | cancelUnsolicitedRetries =>
    refine .same rfl rfl rfl (Same.setChannel ?_ ?_ ?_ ?_ fun hu ↦ Bool.noConfusion hu)
      sends_nil rfl
    · rfl
    · rfl
    · rfl
    · exact Nat.zero_le _

/-! ## The rest of a call -/

/-- **All that the rest of a call does.** -/
inductive Resumes (a : AppLayer ω) : Act ω → Option UserCall → AppLayer ω → Prop
  | checkForSend : Resumes a .checkForSend none
      { a with mSending := a.mSending || !a.mSendQueue.isEmpty }
  | same {act : Act ω} {call : Option UserCall} {t : AppLayer ω} (hact : act.sends = none)
      (hcheck : act ≠ .checkForSend) (h : Same a t) (hcall : call.bind UserCall.ends = none) :
      Resumes a act call t
  | stopped {call : Option UserCall} {t : AppLayer ω} (r : APDU)
      (hw : (a.channel false).mpState.isWaiting = true)
      (h : Goes (a.stopTimer false) false call t) : Resumes a (.channelOnResponse r) call t
  | sent (u : Bool) (f : OutAPDU ω) : Resumes a (.setSendAPDU u f) none
      (a.setChannel u { a.channel u with mpSendAPDU := some f })

theorem wp_processResponse_resumes (h : Steady a) (r : APDU)
    (hw : (a.channel false).mpState.isWaiting = true) (aExpectFIR : Bool) :
    wp (processResponse r aExpectFIR) (fun call t ↦ Resumes a (.channelOnResponse r) call t)
      (fun _ _ ↦ False) a := by
  simp only [processResponse, wp_bind, wp_get]
  split
  · rw [wp_bind, cancelTimer_eq_stopTimer h hw]
    split
    · exact .stopped r hw (.ends _ rfl)
    · simp only [incrSequence, changeState, startTimer, wp_bind, wp_modify, wp_get, wp_ensure,
        channel_setChannel_self, setChannel_setChannel, (h.freed_stopTimer hw).timer, if_true,
        wp_pure]
      exact .stopped r hw (.proceeds r rfl)
  · exact .same rfl (by simp) (Same.refl a) rfl

/-- **What the rest of a call does.** -/
theorem wp_call (h : Steady a) (act : Act ω) :
    wp act.call (fun call t ↦ Resumes a act call t) (fun _ _ ↦ False) a := by
  cases act with
  | checkForSend => exact .checkForSend
  | setSendAPDU u f => exact .sent u f
  | channelOnResponse r =>
    change wp (channelOnResponse r) _ _ a
    rw [channelOnResponse, wp_bind, wp_get]
    split
    · next hs => exact wp_processResponse_resumes h r (by rw [hs]; rfl) true
    · next hs => exact wp_processResponse_resumes h r (by rw [hs]; rfl) false
    · exact .same rfl (by simp) (Same.refl a) rfl
  | onUnsol r =>
    change wp (onUnsol r) _ _ a
    simp only [onUnsol, wp_bind, wp_get]
    split
    · exact .same rfl (by simp) (Same.refl a) rfl
    · refine .same rfl (by simp) (Same.setChannel ?_ ?_ ?_ ?_ ?_) rfl
      · rfl
      · rfl
      · rfl
      · exact Nat.le_refl _
      · exact fun hu ↦ Bool.noConfusion hu

end AppLayer

end OpenDNP3
