import OpenDNP3.App.Layer

/-!
# What the application layer keeps

* `AppLayer.Consistent` — the timer of a channel runs exactly while the channel waits for the other
  side, and the queue holds the fragment of each channel that is sending, and at most one
  confirmation.  This is why the results that the lower layer reports always reach a channel that
  expects them.
* `AppLayer.Called` — what a call of the user says about the channels before and after it: a success
  or a failure ends what the channel was used for, a partial response does not, and so on.
* One lemma for each event: the layer stays consistent, and the call that it makes is right.  What
  it throws on a fragment that it rejects is never an `InvalidStateException`.
-/

set_option autoImplicit false

namespace OpenDNP3

open Handler

/-- What a channel is used for. -/
inductive ACS.Use where
  | nothing | unconfirmed | confirmed | request | canceled
  deriving DecidableEq, Repr

/-- What a channel is used for in a state. -/
def ACS.use : ACS → ACS.Use
  | idle => .nothing
  | send => .unconfirmed
  | sendConfirmed | waitForConfirm => .confirmed
  | sendExpectResponse | waitForFirstResponse | waitForFinalResponse => .request
  | sendCanceled => .canceled

theorem ACS.use_eq_nothing {s : ACS} : s.use = .nothing ↔ s = .idle := by
  cases s <;> simp [use]

theorem ACS.isSending_of_isWaiting {s : ACS} (h : s.isWaiting = true) : s.isSending = false := by
  cases s <;> first | rfl | exact Bool.noConfusion h

theorem ACS.isWaiting_of_isSending {s : ACS} (h : s.isSending = true) : s.isWaiting = false := by
  cases s <;> first | rfl | exact Bool.noConfusion h

theorem ACS.ne_idle_of_isSending {s : ACS} (h : s.isSending = true) : s ≠ .idle := by
  intro hs
  rw [hs] at h
  exact Bool.noConfusion h

theorem ACS.ne_idle_of_isWaiting {s : ACS} (h : s.isWaiting = true) : s ≠ .idle := by
  intro hs
  rw [hs] at h
  exact Bool.noConfusion h

namespace AppLayer

variable {ω : Type}

/-! ## The invariant

A channel that is busy has its fragment with the lower layer or in the queue, or it waits with
its timer running. The confirmations are in the queue as well. -/

/-- The fragment belongs to the channel. -/
def isFor (aUnsol : Bool) (f : OutAPDU ω) : Bool :=
  match f.function with
  | none | some .confirm => false
  | some .unsolicitedResponse => aUnsol
  | some _ => !aUnsol

/-- The fragment is a confirmation. -/
def isConfirm (f : OutAPDU ω) : Bool := f.function = some .confirm

/-- A channel of which the queue holds `n` fragments. -/
structure ChannelConsistent (c : AppLayerChannel ω) (aUnsol : Bool) (n : ℕ) : Prop where
  timer : c.mpTimer = c.mpState.isWaiting
  apdu : c.mpState ≠ .idle → ∃ f, c.mpSendAPDU = some f ∧ isFor aUnsol f = true
  queued : n = if c.mpState.isSending then 1 else 0

/-- The layer is consistent, but for one channel. -/
structure ConsistentBut (a : AppLayer ω) (u : Bool) : Prop where
  channel : ∀ v, v ≠ u → ChannelConsistent (a.channel v) v (a.mSendQueue.countP (isFor v))
  queue : ∀ f ∈ a.mSendQueue, f.function ≠ none
  confirms : a.mSendQueue.countP isConfirm ≤ if a.mConfirmSending then 1 else 0
  sending : a.mSending = true → a.mSendQueue ≠ []

/-- **The invariant of the application layer.** -/
structure Consistent (a : AppLayer ω) : Prop where
  channel : ∀ v, ChannelConsistent (a.channel v) v (a.mSendQueue.countP (isFor v))
  queue : ∀ f ∈ a.mSendQueue, f.function ≠ none
  confirms : a.mSendQueue.countP isConfirm ≤ if a.mConfirmSending then 1 else 0
  sending : a.mSending = true → a.mSendQueue ≠ []

theorem consistent_new (isMaster : Bool) (aFragSize aNumRetry : ℕ) :
    Consistent (new isMaster aFragSize aNumRetry : AppLayer ω) where
  channel v := by
    cases v <;> exact ⟨rfl, fun h ↦ absurd rfl h, rfl⟩
  queue f hf := absurd hf List.not_mem_nil
  confirms := Nat.le_refl _
  sending h := Bool.noConfusion h

variable {a t : AppLayer ω} {u : Bool} {f : OutAPDU ω}

theorem Consistent.but (h : Consistent a) (u : Bool) : ConsistentBut a u :=
  ⟨fun v _ ↦ h.channel v, h.queue, h.confirms, h.sending⟩

/-- A channel is put right. -/
theorem ConsistentBut.setChannel (h : ConsistentBut a u) {c : AppLayerChannel ω}
    (hc : ChannelConsistent c u (a.mSendQueue.countP (isFor u))) :
    Consistent (a.setChannel u c) where
  channel v := by
    rw [channel_setChannel, setChannel_mSendQueue]
    split
    · next hv => exact hv ▸ hc
    · next hv => exact h.channel v hv
  queue := by simpa using h.queue
  confirms := by simpa using h.confirms
  sending := by simpa using h.sending

theorem isFor_of_ne {v : Bool} (hf : isFor u f = true) (hv : v ≠ u) : isFor v f = false := by
  rw [isFor] at hf ⊢
  split at hf <;> simp_all

theorem isConfirm_of_isFor (hf : isFor u f = true) : isConfirm f = false := by
  rw [isFor] at hf
  split at hf <;> simp_all [isConfirm]

theorem function_of_isFor (hf : isFor u f = true) : f.function ≠ none := by
  rw [isFor] at hf
  split at hf <;> simp_all

/-- A channel is put right, and its fragment is queued. -/
theorem ConsistentBut.enqueue (h : ConsistentBut a u) {c : AppLayerChannel ω}
    (hf : isFor u f = true)
    (hc : ChannelConsistent c u (a.mSendQueue.countP (isFor u) + 1)) :
    Consistent { a.setChannel u c with mSendQueue := a.mSendQueue ++ [f], mSending := true } where
  channel v := by
    change ChannelConsistent ((a.setChannel u c).channel v) v _
    rw [channel_setChannel, List.countP_append, List.countP_singleton]
    split
    · next hv => rw [hv, hf]; exact hc
    · next hv => rw [isFor_of_ne hf hv]; exact h.channel v hv
  queue g hg := by
    rcases List.mem_append.mp hg with hg | hg
    · exact h.queue g hg
    · rw [List.mem_singleton.mp hg]
      exact function_of_isFor hf
  confirms := by
    rw [List.countP_append, List.countP_singleton, isConfirm_of_isFor hf]
    simpa using h.confirms
  sending _ := by simp

/-! ## Calls of the user

An event makes at most one call of the user, and what holds at this call is stated together with
what holds after the event. -/

/-- What no event but a change of the link changes, and what only a request changes. -/
structure Keeps (a t : AppLayer ω) : Prop where
  isMaster : t.isMaster = a.isMaster
  fragSize : t.fragSize = a.fragSize
  up : t.mIsLowerLayerUp = a.mIsLowerLayerUp
  apdu : ∀ v, (t.channel v).mpSendAPDU = (a.channel v).mpSendAPDU
  sequence : 0 ≤ (a.channel false).mSequence → 0 ≤ (t.channel false).mSequence
  unsol : a.isMaster = false → (t.channel true).mSequence = (a.channel true).mSequence
  queue : ∀ f ∈ t.mSendQueue, f ∈ a.mSendQueue ∨ isConfirm f = true ∨
    ∃ v, (a.channel v).mpSendAPDU = some f

/-- A response that was received. -/
def ReceivedAs (aFunction : FunctionCodes → Prop) (arAPDU : APDU) : Prop :=
  (∃ apData, APDU.interpret apData = .ok arAPDU) ∧ aFunction arAPDU.getFunction

/-- **What a call of the user says** about the layer before the event and at the call. -/
def Called (a t : AppLayer ω) : Option UserCall → Prop
  | none => ∀ v, (t.channel v).mpState.use = (a.channel v).mpState.use
  | some (.onSendSuccess u) =>
    ((a.channel u).mpState.use = .unconfirmed ∨ (a.channel u).mpState.use = .confirmed) ∧
      (t.channel u).mpState.use = .nothing ∧
      (t.channel (!u)).mpState.use = (a.channel (!u)).mpState.use
  | some (.onFailure u) =>
    (a.channel u).mpState.use ≠ .nothing ∧ (t.channel u).mpState.use = .nothing ∧
      (t.channel (!u)).mpState.use = (a.channel (!u)).mpState.use
  | some (.onPartialResponse r) =>
    ReceivedAs (· = .response) r ∧ r.getControl.fin = false ∧
      (a.channel false).mpState.use = .request ∧
      ∀ v, (t.channel v).mpState.use = (a.channel v).mpState.use
  | some (.onFinalResponse r) =>
    ReceivedAs (· = .response) r ∧ r.getControl.fin = true ∧
      (a.channel false).mpState.use = .request ∧ (t.channel false).mpState.use = .nothing ∧
      (t.channel true).mpState.use = (a.channel true).mpState.use
  | some (.onUnsolResponse r) =>
    ReceivedAs (· = .unsolicitedResponse) r ∧ a.isMaster = true ∧
      ∀ v, (t.channel v).mpState.use = (a.channel v).mpState.use
  | some (.onRequest r _) =>
    ReceivedAs (isRequest · = true) r ∧ a.isMaster = false ∧ 0 ≤ (t.channel false).mSequence ∧
      ∀ v, (t.channel v).mpState.use = (a.channel v).mpState.use
  | some .onUnknownObject =>
    a.isMaster = false ∧ 0 ≤ (t.channel false).mSequence ∧
      ∀ v, (t.channel v).mpState.use = (a.channel v).mpState.use
  | some .onLowerLayerUp => False
  | some .onLowerLayerDown => False

/-- What an event comes to. -/
structure Post (a : AppLayer ω) (call : Option UserCall) (t : AppLayer ω) : Prop where
  consistent : Consistent t
  keeps : Keeps a t
  called : Called a t call

theorem Keeps.refl (a : AppLayer ω) : Keeps a a :=
  ⟨rfl, rfl, rfl, fun _ ↦ rfl, id, fun _ ↦ rfl, fun _ hf ↦ .inl hf⟩

theorem Keeps.trans {b : AppLayer ω} (h : Keeps a b) (h' : Keeps b t) : Keeps a t where
  isMaster := h'.isMaster.trans h.isMaster
  fragSize := h'.fragSize.trans h.fragSize
  up := h'.up.trans h.up
  apdu v := (h'.apdu v).trans (h.apdu v)
  sequence h0 := h'.sequence (h.sequence h0)
  unsol hm := (h'.unsol (h.isMaster.trans hm)).trans (h.unsol hm)
  queue f hf := by
    rcases h'.queue f hf with hb | hc | ⟨v, hv⟩
    · exact h.queue f hb
    · exact .inr (.inl hc)
    · exact .inr (.inr ⟨v, (h.apdu v).symm.trans hv⟩)

/-- Another queue, of fragments that may be queued. -/
theorem Keeps.withQueue (h : Keeps a t) {q : List (OutAPDU ω)} (s c : Bool)
    (hq : ∀ f ∈ q, f ∈ a.mSendQueue ∨ isConfirm f = true ∨ ∃ v, (a.channel v).mpSendAPDU = some f) :
    Keeps a { t with mSendQueue := q, mSending := s, mConfirmSending := c } :=
  ⟨h.isMaster, h.fragSize, h.up, h.apdu, h.sequence, h.unsol, hq⟩

/-- Another fragment at the end of the queue. -/
theorem Keeps.enqueue (h : Keeps a t) (s c : Bool)
    (hf : isConfirm f = true ∨ ∃ v, (a.channel v).mpSendAPDU = some f) :
    Keeps a { t with mSendQueue := t.mSendQueue ++ [f], mSending := s, mConfirmSending := c } :=
  h.withQueue s c fun g hg ↦ by
    rcases List.mem_append.mp hg with hg | hg
    · exact h.queue g hg
    · rw [List.mem_singleton.mp hg]
      exact .inr hf

theorem Post.none (h : Consistent a) : Post a none a := ⟨h, Keeps.refl a, fun _ ↦ rfl⟩

/-- Steps that call nobody can go in front. -/
theorem Post.prepend {b : AppLayer ω} {call : Option UserCall} (hk : Keeps a b)
    (hu : ∀ v, (b.channel v).mpState.use = (a.channel v).mpState.use) (h : Post b call t) :
    Post a call t := by
  refine ⟨h.consistent, hk.trans h.keeps, ?_⟩
  have hc := h.called
  revert hc
  cases call with
  | none => exact fun hc v ↦ (hc v).trans (hu v)
  | some call =>
    cases call with
    | onLowerLayerUp => exact id
    | onLowerLayerDown => exact id
    | onSendSuccess u =>
      simp only [Called, hu]
      exact id
    | onFailure u =>
      simp only [Called, hu]
      exact id
    | onPartialResponse r =>
      simp only [Called, hu]
      exact id
    | onFinalResponse r =>
      simp only [Called, hu]
      exact id
    | onUnsolResponse r =>
      simp only [Called, hu, hk.isMaster]
      exact id
    | onRequest r aSeqInfo =>
      simp only [Called, hu, hk.isMaster]
      exact id
    | onUnknownObject =>
      simp only [Called, hu, hk.isMaster]
      exact id

/-! ## The channel that an event is about -/

@[simp] theorem wp_queueFrame (f : OutAPDU ω) (Q : Unit → AppLayer ω → Prop)
    (E : Exception → AppLayer ω → Prop) (a : AppLayer ω) :
    wp (queueFrame f) Q E a =
      Q () { a with mSendQueue := a.mSendQueue ++ [f], mSending := true } := by
  have h : (a.mSending || !(a.mSendQueue ++ [f]).isEmpty) = true := by simp
  simp only [queueFrame, checkForSend, wp_bind, wp_modify, h]

/-- The channel is about to change its state: its fragment is not queued and its timer is off. -/
structure Loose (a : AppLayer ω) (u : Bool) : Prop where
  but : ConsistentBut a u
  busy : (a.channel u).mpState ≠ .idle
  timer : (a.channel u).mpTimer = false
  apdu : ∃ f, (a.channel u).mpSendAPDU = some f ∧ isFor u f = true
  queued : a.mSendQueue.countP (isFor u) = 0

/-- The channel with another state, and its timer on or off. -/
theorem Keeps.setChannel {c : AppLayerChannel ω} (hc : c.mpSendAPDU = (a.channel u).mpSendAPDU)
    (hs : c.mSequence = (a.channel u).mSequence ∨
      0 ≤ c.mSequence ∧ (u = true → a.isMaster = true)) : Keeps a (a.setChannel u c) where
  isMaster := by simp
  fragSize := by simp
  up := by simp
  apdu v := by
    rw [channel_setChannel]
    split
    · next hv => rw [hv, hc]
    · rfl
  sequence h := by
    rw [channel_setChannel]
    split
    · next hv =>
      rcases hs with hs | hs
      · rw [hs]
        exact hv ▸ h
      · exact hs.1
    · exact h
  unsol h := by
    rw [channel_setChannel]
    split
    · next hv =>
      rcases hs with hs | hs
      · rw [hs, hv]
      · exact absurd (h.symm.trans (hs.2 hv.symm)) Bool.false_ne_true
    · rfl
  queue f hf := .inl (by rwa [setChannel_mSendQueue] at hf)

theorem use_setChannel {c : AppLayerChannel ω} (hc : c.mpState.use = (a.channel u).mpState.use)
    (v : Bool) : ((a.setChannel u c).channel v).mpState.use = (a.channel v).mpState.use := by
  rw [channel_setChannel]
  split
  · next hv => rw [hv, hc]
  · rfl

theorem use_setChannel_not (c : AppLayerChannel ω) :
    ((a.setChannel u c).channel (!u)).mpState.use = (a.channel (!u)).mpState.use := by
  rw [channel_setChannel, if_neg (by cases u <;> simp)]

/-- A channel that ends what it was used for. -/
theorem Loose.idle (h : Loose a u) :
    Consistent (a.setChannel u { a.channel u with mpState := .idle }) :=
  h.but.setChannel ⟨h.timer, fun hi ↦ absurd rfl hi, h.queued⟩

theorem Loose.keeps_state (a : AppLayer ω) (u : Bool) (s : ACS) :
    Keeps a (a.setChannel u { a.channel u with mpState := s }) :=
  Keeps.setChannel rfl (.inl rfl)

/-- A channel that starts to wait. -/
theorem Loose.wait (h : Loose a u) {s : ACS} (hs : s.isWaiting = true) (n : Int) :
    Consistent (a.setChannel u
      { a.channel u with mpState := s, mSequence := n, mpTimer := true }) :=
  h.but.setChannel ⟨hs.symm, fun _ ↦ h.apdu, by
    rw [h.queued, if_neg (by rw [ACS.isSending_of_isWaiting hs]; exact Bool.false_ne_true)]⟩

/-- A channel that fails. -/
theorem Loose.post_failure (h : Loose a u) :
    Post a (some (.onFailure u)) (a.setChannel u { a.channel u with mpState := .idle }) where
  consistent := h.idle
  keeps := Loose.keeps_state a u _
  called := ⟨fun hu ↦ h.busy (ACS.use_eq_nothing.mp hu), by simp [ACS.use], use_setChannel_not _⟩

/-- A channel that succeeds without a response. -/
theorem Loose.post_success (h : Loose a u)
    (hu : (a.channel u).mpState.use = .unconfirmed ∨ (a.channel u).mpState.use = .confirmed) :
    Post a (some (.onSendSuccess u)) (a.setChannel u { a.channel u with mpState := .idle }) where
  consistent := h.idle
  keeps := Loose.keeps_state a u _
  called := ⟨hu, by simp [ACS.use], use_setChannel_not _⟩

/-- A channel that starts to wait for what it was used for. -/
theorem Loose.post_wait (h : Loose a u) {s : ACS} (hs : s.isWaiting = true)
    (hu : s.use = (a.channel u).mpState.use) :
    Post a none (a.setChannel u { a.channel u with mpState := s, mpTimer := true }) where
  consistent := h.wait hs _
  keeps := Keeps.setChannel rfl (.inl rfl)
  called := use_setChannel hu

theorem wp_retryOrFail (h : Loose a u) {s : ACS} (hs : s.isSending = true)
    (hu : s.use = (a.channel u).mpState.use) :
    wp (retryOrFail u s) (fun call t ↦ Post a call t) (fun _ _ ↦ False) a := by
  obtain ⟨f, hf, hfor⟩ := h.apdu
  simp only [retryOrFail, retry, wp_bind, wp_get]
  split
  · simp only [hf, wp_bind, wp_modify, wp_queueFrame, wp_pure, if_true]
    refine ⟨?_, Keeps.enqueue (Keeps.setChannel ?_ ?_) true _ (.inr ⟨u, hf⟩), use_setChannel hu⟩
    · rw [setChannel_mSendQueue]
      refine h.but.enqueue hfor ⟨?_, fun _ ↦ ⟨f, rfl, hfor⟩, ?_⟩
      · change (a.channel u).mpTimer = s.isWaiting
        rw [h.timer]
        exact (ACS.isWaiting_of_isSending hs).symm
      · change _ = if s.isSending = true then 1 else 0
        rw [h.queued, if_pos hs]
    · exact hf.symm
    · exact .inl rfl
  · simp only [wp_pure, Bool.false_eq_true, if_false, changeState, wp_bind, wp_modify]
    exact h.post_failure

/-! ## Timers -/

/-- The timer of a waiting channel is off: it has expired, or was canceled. -/
def stopTimer (a : AppLayer ω) (u : Bool) : AppLayer ω :=
  a.setChannel u { a.channel u with mpTimer := false }

theorem keeps_stopTimer (a : AppLayer ω) (u : Bool) : Keeps a (a.stopTimer u) :=
  Keeps.setChannel rfl (.inl rfl)

theorem use_stopTimer (a : AppLayer ω) (u v : Bool) :
    ((a.stopTimer u).channel v).mpState.use = (a.channel v).mpState.use := by
  refine use_setChannel ?_ v
  rfl

theorem Consistent.loose_stopTimer (h : Consistent a)
    (hw : (a.channel u).mpState.isWaiting = true) :
    Loose (a.stopTimer u) u where
  but := ⟨fun v hv ↦ by
      rw [stopTimer, channel_setChannel, if_neg hv, setChannel_mSendQueue]
      exact h.channel v,
    by simpa [stopTimer] using h.queue, by simpa [stopTimer] using h.confirms,
    by simpa [stopTimer] using h.sending⟩
  busy := by
    rw [stopTimer, channel_setChannel_self]
    exact ACS.ne_idle_of_isWaiting hw
  timer := by rw [stopTimer, channel_setChannel_self]
  apdu := by
    rw [stopTimer, channel_setChannel_self]
    exact (h.channel u).apdu (ACS.ne_idle_of_isWaiting hw)
  queued := by
    rw [stopTimer, setChannel_mSendQueue, (h.channel u).queued, ACS.isSending_of_isWaiting hw]
    rfl

theorem wp_cancelTimer (h : Consistent a) (hw : (a.channel u).mpState.isWaiting = true)
    (Q : Unit → AppLayer ω → Prop) (E : Exception → AppLayer ω → Prop) :
    wp (cancelTimer u) Q E a = Q () (a.stopTimer u) := by
  simp only [cancelTimer, wp_bind, wp_get, wp_ensure_of (((h.channel u).timer).trans hw), wp_modify]
  rfl

/-- **The timer of a channel expires.** -/
theorem wp_timeout (h : Consistent a) (ht : (a.channel u).mpTimer = true) :
    wp (timeout u) (fun call t ↦ Post a call t) (fun _ _ ↦ False) a := by
  have hw : (a.channel u).mpState.isWaiting = true := ((h.channel u).timer).symm.trans ht
  have hl := h.loose_stopTimer hw
  have hstate : ((a.stopTimer u).channel u).mpState = (a.channel u).mpState := by
    rw [stopTimer, channel_setChannel_self]
  have key {s : ACS} (hs : s.isSending = true) (hu : s.use = (a.channel u).mpState.use) :
      wp (retryOrFail u s) (fun call t ↦ Post a call t) (fun _ _ ↦ False) (a.stopTimer u) :=
    wp_mono (wp_retryOrFail hl hs (by rw [hstate, hu]))
      (fun _ _ hp ↦ hp.prepend (keeps_stopTimer a u) (use_stopTimer a u)) (fun _ _ he ↦ he)
  rw [timeout, wp_bind, wp_modify]
  change wp _ _ _ (a.stopTimer u)
  rw [wp_bind, wp_get, hstate]
  revert key hw
  cases (a.channel u).mpState with
  | waitForConfirm => exact fun _ key ↦ key rfl rfl
  | waitForFirstResponse => exact fun _ key ↦ key rfl rfl
  | waitForFinalResponse => exact fun _ key ↦ key rfl rfl
  | _ => exact fun hw ↦ Bool.noConfusion hw

/-! ## Results of the lower layer -/

theorem wp_channelOnSendSuccess (h : Loose a u) (hs : (a.channel u).mpState.isSending = true) :
    wp (channelOnSendSuccess u) (fun call t ↦ Post a call t) (fun _ _ ↦ False) a := by
  have hfail := h.post_failure
  have hok := h.post_success
  have hwait := fun {s} ↦ h.post_wait (s := s)
  have htimer := h.timer
  rw [channelOnSendSuccess, wp_bind, wp_get]
  revert hs hfail hok hwait
  cases hstate : (a.channel u).mpState with
  | send => exact fun _ _ hok _ ↦ hok (.inl rfl)
  | sendCanceled => exact fun _ hfail _ _ ↦ hfail
  | sendConfirmed =>
    intro _ _ _ hwait
    simpa [changeState, startTimer, wp_ensure, htimer] using @hwait .waitForConfirm rfl rfl
  | sendExpectResponse =>
    intro _ _ _ hwait
    simpa [changeState, startTimer, wp_ensure, htimer] using @hwait .waitForFirstResponse rfl rfl
  | _ => exact fun hs ↦ Bool.noConfusion hs

theorem wp_channelOnSendFailure (h : Loose a u) (hs : (a.channel u).mpState.isSending = true) :
    wp (channelOnSendFailure u) (fun call t ↦ Post a call t) (fun _ _ ↦ False) a := by
  have hfail := h.post_failure
  have hretry := fun {s} ↦ wp_retryOrFail h (s := s)
  rw [channelOnSendFailure, wp_bind, wp_get]
  revert hs hfail hretry
  cases (a.channel u).mpState with
  | sendCanceled => exact fun _ hfail _ ↦ hfail
  | send => exact fun _ _ hretry ↦ hretry rfl rfl
  | sendConfirmed => exact fun _ _ hretry ↦ hretry rfl rfl
  | sendExpectResponse => exact fun _ _ hretry ↦ hretry rfl rfl
  | _ => exact fun hs ↦ Bool.noConfusion hs

/-- The first fragment of the queue leaves it. -/
theorem Consistent.loose_dequeue (h : Consistent a) {q : List (OutAPDU ω)}
    (hq : a.mSendQueue = f :: q) (hf : isFor u f = true) :
    (a.channel u).mpState.isSending = true ∧
      Loose { a with mSendQueue := q, mSending := false } u := by
  have hu := (h.channel u).queued
  rw [hq, List.countP_cons_of_pos hf] at hu
  have hs : (a.channel u).mpState.isSending = true := by
    split at hu
    · assumption
    · exact absurd hu (Nat.succ_ne_zero _)
  rw [if_pos hs] at hu
  have hc := h.confirms
  rw [hq, List.countP_cons_of_neg (by rw [isConfirm_of_isFor hf]; exact Bool.false_ne_true)] at hc
  refine ⟨hs, ⟨fun v hv ↦ ?_, fun g hg ↦ ?_, hc, fun hs ↦ Bool.noConfusion hs⟩,
    ACS.ne_idle_of_isSending hs, ?_, (h.channel u).apdu (ACS.ne_idle_of_isSending hs),
    Nat.succ.inj hu⟩
  · have hch := h.channel v
    rw [hq, List.countP_cons_of_neg (by rw [isFor_of_ne hf hv]; exact Bool.false_ne_true)] at hch
    exact hch
  · exact h.queue g (by rw [hq]; exact List.mem_cons_of_mem _ hg)
  · exact (h.channel u).timer.trans (ACS.isWaiting_of_isSending hs)

/-- A confirmation leaves the queue. -/
theorem Consistent.dequeue_confirm (h : Consistent a) {q : List (OutAPDU ω)}
    (hq : a.mSendQueue = f :: q) (hf : isConfirm f = true) :
    a.mConfirmSending = true ∧
      Consistent { a with mSendQueue := q, mSending := false, mConfirmSending := false } := by
  have hc := h.confirms
  rw [hq, List.countP_cons_of_pos hf] at hc
  have hs : a.mConfirmSending = true := by
    split at hc
    · assumption
    · exact absurd hc (Nat.not_succ_le_zero _)
  rw [if_pos hs] at hc
  refine ⟨hs, fun v ↦ ?_, fun g hg ↦ ?_, Nat.le_of_succ_le_succ hc, fun hs ↦ Bool.noConfusion hs⟩
  · have hch := h.channel v
    rw [hq, List.countP_cons_of_neg (by
      intro hv
      rw [isConfirm_of_isFor hv] at hf
      exact Bool.noConfusion hf)] at hch
    exact hch
  · exact h.queue g (by rw [hq]; exact List.mem_cons_of_mem _ hg)

/-- A fragment that has a function is a confirmation, or it belongs to one of the channels. -/
theorem isFor_of_function {func : FunctionCodes} (hf : f.function = some func)
    (hc : func ≠ .confirm) : isFor (func = .unsolicitedResponse : Bool) f = true := by
  rw [isFor, hf]
  cases func <;> first | rfl | exact absurd rfl hc

/-- **The lower layer reports the result of a send.** -/
theorem wp_onSendResult (h : Consistent a) (hs : a.mSending = true) (aSuccess : Bool) :
    wp (onSendResult aSuccess) (fun call t ↦ Post a call t) (fun _ _ ↦ False) a := by
  obtain ⟨f, q, hq⟩ := List.exists_cons_of_ne_nil (h.sending hs)
  obtain ⟨func, hfunc⟩ := Option.ne_none_iff_exists'.mp
    (h.queue f (by rw [hq]; exact List.mem_cons_self ..))
  have hmem (g : OutAPDU ω) (hg : g ∈ q) : g ∈ a.mSendQueue ∨ isConfirm g = true ∨
      ∃ v, (a.channel v).mpSendAPDU = some g :=
    .inl (by rw [hq]; exact List.mem_cons_of_mem _ hg)
  simp only [onSendResult, wp_bind, wp_get, wp_ensure_of hs, hq, wp_modify, getFunction, hfunc,
    wp_lift_ok]
  split
  · next hc =>
    obtain ⟨hconfirm, hcons⟩ := h.dequeue_confirm hq (by simp [isConfirm, hfunc, hc])
    simp only [wp_bind, wp_get, wp_ensure_of hconfirm, wp_modify, wp_pure]
    exact ⟨hcons, Keeps.withQueue (Keeps.refl a) _ _ hmem, fun _ ↦ rfl⟩
  · next hc =>
    obtain ⟨hsend, hl⟩ := h.loose_dequeue hq (isFor_of_function hfunc hc)
    have hpre {call : Option UserCall} {t : AppLayer ω}
        (hp : Post { a with mSendQueue := q, mSending := false } call t) : Post a call t :=
      hp.prepend (Keeps.withQueue (Keeps.refl a) _ _ hmem) fun _ ↦ rfl
    split
    · exact wp_mono (wp_channelOnSendSuccess hl hsend) (fun _ _ ↦ hpre) (fun _ _ he ↦ he)
    · exact wp_mono (wp_channelOnSendFailure hl hsend) (fun _ _ ↦ hpre) (fun _ _ he ↦ he)

/-- The next fragment of the queue goes to the lower layer. -/
theorem wp_checkForSend (h : Consistent a) :
    wp (checkForSend) (fun _ t ↦ Post a none t) (fun _ _ ↦ False) a := by
  refine ⟨⟨h.channel, h.queue, h.confirms, fun hs ↦ ?_⟩,
    Keeps.withQueue (Keeps.refl a) _ _ (Keeps.refl a).queue, fun _ ↦ rfl⟩
  rcases Bool.or_eq_true _ _ |>.mp hs with hs | hs
  · exact h.sending hs
  · intro hq
    change (!a.mSendQueue.isEmpty) = true at hs
    rw [show a.mSendQueue = [] from hq] at hs
    exact Bool.noConfusion hs

/-! ## Received fragments -/

/-- What an event comes to that a fragment sets off: the fragment may be rejected. -/
abbrev wpReceive (x : M ω (Option UserCall)) (a : AppLayer ω) : Prop :=
  wp x (fun call t ↦ Post a call t) (fun e t ↦ e.isRejection = true ∧ Post a none t) a

theorem wp_queueConfirm (h : Consistent a) (aSeq : ℕ) :
    wp (queueConfirm u aSeq) (fun _ t ↦ Post a none t)
      (fun e t ↦ e.isRejection = true ∧ Post a none t) a := by
  simp only [queueConfirm, wp_bind, wp_get, wp_ensure]
  split
  · next hconfirm =>
    simp only [wp_modify, wp_queueFrame]
    have hc := h.confirms
    rw [if_neg (by rw [hconfirm]; exact Bool.false_ne_true)] at hc
    refine ⟨⟨fun v ↦ ?_, fun g hg ↦ ?_, ?_, fun _ ↦ by simp⟩,
      Keeps.enqueue (Keeps.refl a) _ _ (.inl rfl), fun _ ↦ rfl⟩
    · have hch := h.channel v
      rw [List.countP_append, List.countP_singleton]
      exact hch
    · rcases List.mem_append.mp hg with hg | hg
      · exact h.queue g hg
      · rw [List.mem_singleton.mp hg]
        exact Option.some_ne_none _
    · rw [List.countP_append, Nat.le_zero.mp hc]
      exact Nat.le_refl 1
  · exact ⟨rfl, Post.none h⟩

theorem wp_channelOnConfirm (h : Consistent a) (aSeq : ℕ) :
    wp (channelOnConfirm u aSeq) (fun call t ↦ Post a call t) (fun _ _ ↦ False) a := by
  simp only [channelOnConfirm, wp_bind, wp_get]
  split
  · next hc =>
    have hw : (a.channel u).mpState.isWaiting = true := by rw [hc.1]; rfl
    rw [wp_bind, wp_cancelTimer h hw]
    have hp := (h.loose_stopTimer hw).post_success (.inr ((use_stopTimer a u u).trans (by
      rw [hc.1]
      rfl)))
    exact hp.prepend (keeps_stopTimer a u) (use_stopTimer a u)
  · exact Post.none h

theorem wp_processResponse (h : Consistent a) {r : APDU} (hr : ReceivedAs (· = .response) r)
    (hs : (a.channel false).mpState.acceptsResponse = true) (aExpectFIR : Bool) :
    wp (processResponse r aExpectFIR) (fun call t ↦ Post a call t) (fun _ _ ↦ False) a := by
  have hw : (a.channel false).mpState.isWaiting = true := by
    revert hs
    cases (a.channel false).mpState <;> first | exact fun _ ↦ rfl | exact Bool.noConfusion
  have hu : (a.channel false).mpState.use = .request := by
    revert hs
    cases (a.channel false).mpState <;> first | exact fun _ ↦ rfl | exact Bool.noConfusion
  have hl := h.loose_stopTimer hw
  simp only [processResponse, wp_bind, wp_get]
  split
  · rw [wp_bind, wp_cancelTimer h hw]
    split
    · next hfin =>
      refine ⟨hl.idle, (keeps_stopTimer a false).trans (Loose.keeps_state ..), hr, hfin, hu, ?_, ?_⟩
      · rw [channel_setChannel_self]
        rfl
      · exact (use_setChannel_not _).trans (use_stopTimer a false true)
    · next hfin =>
      simp only [incrSequence, changeState, startTimer, wp_bind, wp_modify, wp_get, wp_ensure,
        channel_setChannel_self, setChannel_setChannel, hl.timer, if_true, wp_pure]
      refine ⟨hl.wait rfl _, (keeps_stopTimer a false).trans (Keeps.setChannel ?_ ?_), hr,
        Bool.eq_false_iff.mpr hfin, hu, fun v ↦ ?_⟩
      · rfl
      · exact .inr ⟨Int.emod_nonneg _ (by decide), fun h ↦ Bool.noConfusion h⟩
      · refine (use_setChannel ?_ v).trans (use_stopTimer a false v)
        exact hu.symm
  · exact Post.none h

theorem wp_channelOnResponse (h : Consistent a) {r : APDU} (hr : ReceivedAs (· = .response) r) :
    wp (channelOnResponse r) (fun call t ↦ Post a call t) (fun _ _ ↦ False) a := by
  rw [channelOnResponse, wp_bind, wp_get]
  split
  · next hs => exact wp_processResponse h hr (by rw [hs]; rfl) true
  · next hs => exact wp_processResponse h hr (by rw [hs]; rfl) false
  · exact Post.none h

theorem wp_onResponse (h : Consistent a) {r : APDU} (hr : ReceivedAs (· = .response) r) :
    wpReceive (onResponse r) a := by
  have key {b : AppLayer ω} (hb : Post a none b) :
      wp (channelOnResponse r) (fun call t ↦ Post a call t)
        (fun e t ↦ e.isRejection = true ∧ Post a none t) b :=
    wp_mono (wp_channelOnResponse hb.consistent hr)
      (fun _ _ hp ↦ hp.prepend hb.keeps hb.called) (fun _ _ he ↦ he.elim)
  simp only [wpReceive, onResponse, wp_bind, wp_ensure, wp_get]
  split
  · split
    · rw [wp_bind]
      exact wp_mono (wp_queueConfirm h _) (fun _ _ ht ↦ key ht) (fun _ _ he ↦ he)
    · exact key (Post.none h)
  · exact ⟨rfl, Post.none h⟩

theorem wp_onUnsol (h : Consistent a) {r : APDU} (hr : ReceivedAs (· = .unsolicitedResponse) r)
    (hm : a.isMaster = true) :
    wp (onUnsol r) (fun call t ↦ Post a call t) (fun _ _ ↦ False) a := by
  simp only [onUnsol, wp_bind, wp_get]
  split
  · exact Post.none h
  · have hc := h.channel true
    refine ⟨(h.but true).setChannel ⟨hc.timer, hc.apdu, hc.queued⟩, Keeps.setChannel ?_ ?_, hr, hm,
      use_setChannel ?_⟩
    · rfl
    · exact .inr ⟨Int.natCast_nonneg _, fun _ ↦ hm⟩
    · rfl

theorem wp_onUnsolResponse (h : Consistent a) {r : APDU}
    (hr : ReceivedAs (· = .unsolicitedResponse) r) : wpReceive (onUnsolResponse r) a := by
  have key {b : AppLayer ω} (hm : a.isMaster = true) (hb : Post a none b) :
      wp (onUnsol r) (fun call t ↦ Post a call t)
        (fun e t ↦ e.isRejection = true ∧ Post a none t) b :=
    wp_mono (wp_onUnsol hb.consistent hr (hb.keeps.isMaster.trans hm))
      (fun _ _ hp ↦ hp.prepend hb.keeps hb.called) (fun _ _ he ↦ he.elim)
  simp only [wpReceive, onUnsolResponse, wp_bind, wp_ensure, wp_get]
  split
  · split
    · next hm =>
      split
      · rw [wp_bind]
        exact wp_mono (wp_queueConfirm h _) (fun _ _ ht ↦ key hm ht) (fun _ _ he ↦ he)
      · exact key hm (Post.none h)
    · exact ⟨rfl, Post.none h⟩
  · exact ⟨rfl, Post.none h⟩

theorem wp_onConfirm (h : Consistent a) (r : APDU) : wpReceive (onConfirm r) a := by
  simp only [wpReceive, onConfirm, wp_bind, wp_ensure, wp_get]
  split
  · exact wp_mono (wp_channelOnConfirm h _) (fun _ _ hp ↦ hp) (fun _ _ he ↦ he.elim)
  · exact ⟨rfl, Post.none h⟩

/-- The solicited channel with the sequence number of a request. -/
theorem Consistent.setSequence (h : Consistent a) (n : ℕ) :
    Post a none (a.setChannel false { a.channel false with mSequence := n }) := by
  have hc := h.channel false
  refine ⟨(h.but false).setChannel ⟨hc.timer, hc.apdu, hc.queued⟩, Keeps.setChannel ?_ ?_,
    use_setChannel ?_⟩
  · rfl
  · exact .inr ⟨Int.natCast_nonneg _, fun h ↦ Bool.noConfusion h⟩
  · rfl

theorem wp_onRequest (h : Consistent a) {r : APDU} (hr : ReceivedAs (isRequest · = true) r) :
    wpReceive (onRequest r) a := by
  simp only [wpReceive, onRequest, wp_bind, wp_ensure, wp_get]
  split
  · split
    · split
      · next hm =>
        have hp := h.setSequence r.getControl.seq
        refine ⟨hp.consistent, hp.keeps, hr, hm, ?_, hp.called⟩
        rw [channel_setChannel_self]
        exact Int.natCast_nonneg _
      · exact ⟨rfl, Post.none h⟩
    · exact ⟨rfl, Post.none h⟩
  · exact ⟨rfl, Post.none h⟩

theorem wp_onUnknownObject (h : Consistent a) (aCode : FunctionCodes) (arCtrl : AppControlField) :
    wpReceive (onUnknownObject aCode arCtrl) a := by
  simp only [wpReceive, onUnknownObject, wp_bind, wp_get]
  split
  · exact Post.none h
  · next hm =>
    split
    · exact Post.none h
    · exact Post.none h
    · exact Post.none h
    · exact Post.none h
    · have hp := h.setSequence arCtrl.seq
      refine ⟨hp.consistent, hp.keeps, Bool.eq_false_iff.mpr hm, ?_, hp.called⟩
      rw [channel_setChannel_self]
      exact Int.natCast_nonneg _

/-- **A fragment is received.** -/
theorem wp_receive (h : Consistent a) (apData : List Byte) : wpReceive (receive apData) a := by
  simp only [wpReceive, receive, wp_bind, wp_ensure, wp_get]
  split
  · cases hr : APDU.interpret apData with
    | error e => exact ⟨APDU.interpret_error hr, Post.none h⟩
    | ok r =>
      rw [wp_lift_ok]
      split
      · exact wp_onConfirm h r
      · next hf => exact wp_onResponse h ⟨⟨_, hr⟩, hf⟩
      · next hf => exact wp_onUnsolResponse h ⟨⟨_, hr⟩, hf⟩
      · next hc hresp hunsol =>
        refine wp_onRequest h ⟨⟨_, hr⟩, ?_⟩
        revert hc hresp hunsol
        cases r.getFunction <;> simp [isRequest]
  · exact ⟨rfl, Post.none h⟩

/-- **A fragment with an unknown object is received.** -/
theorem wp_catchObject (h : Consistent a) (apData : List Byte) :
    wpReceive (catchObject apData) a := by
  rw [wpReceive, catchObject, wp_bind]
  cases hr : APDU.interpretHeader apData with
  | error e => exact ⟨APDU.interpretHeader_error hr, Post.none h⟩
  | ok r =>
    rw [wp_lift_ok]
    exact wp_onUnknownObject h _ _

/-! ## The link comes up and goes down -/

theorem wp_onLowerLayerUp (h : Consistent a) (hd : a.mIsLowerLayerUp = false) :
    wp onLowerLayerUp (fun call t ↦ call = some .onLowerLayerUp ∧ Consistent t ∧
      t = { a with mIsLowerLayerUp := true }) (fun _ _ ↦ False) a := by
  rw [onLowerLayerUp, wp_bind, wp_get, wp_bind, wp_ensure_of hd]
  exact ⟨rfl, ⟨h.channel, h.queue, h.confirms, h.sending⟩, rfl⟩

/-- The layer after the link went down. -/
structure Down (a t : AppLayer ω) : Prop where
  consistent : Consistent t
  isMaster : t.isMaster = a.isMaster
  fragSize : t.fragSize = a.fragSize
  down : t.mIsLowerLayerUp = false
  idle : ∀ v, (t.channel v).mpState = .idle
  apdu : ∀ v, (t.channel v).mpSendAPDU = (a.channel v).mpSendAPDU

theorem wp_onLowerLayerDown (hup : a.mIsLowerLayerUp = true) :
    wp onLowerLayerDown (fun call t ↦ call = some .onLowerLayerDown ∧ Down a t)
      (fun _ _ ↦ False) a := by
  rw [onLowerLayerDown, wp_bind, wp_get, wp_bind, wp_ensure_of hup]
  have hidle (v : Bool) : ((if v = true then resetChannel a.mUnsolicited
      else resetChannel a.mSolicited)).mpState = .idle := by
    split <;> rfl
  refine ⟨rfl, ⟨fun v ↦ ⟨?_, fun hi ↦ absurd (hidle v) hi, ?_⟩, fun _ hf ↦
    absurd hf List.not_mem_nil, Nat.zero_le _,
    fun hs ↦ Bool.noConfusion hs⟩, rfl, rfl, rfl, hidle, fun v ↦ ?_⟩
  · cases v <;> rfl
  · cases v <;> rfl
  · cases v <;> rfl

/-! ## Sends -/

/-- The sequence number that a channel gives to a fragment. -/
def sendSequence (f : OutAPDU ω) (aSequence : Int) : Int :=
  if f.control.fir && f.function = some .response then aSequence else nextSeq aSequence

/-- The fragment with a sequence number. -/
def withSequence (f : OutAPDU ω) (seq : Int) : OutAPDU ω :=
  f.setControl { f.control with seq := seq.toNat }

/-- The layer after a fragment was handed to a channel. -/
structure Sent (a : AppLayer ω) (u : Bool) (f : OutAPDU ω) (use : ACS.Use) (t : AppLayer ω) :
    Prop where
  consistent : Consistent t
  isMaster : t.isMaster = a.isMaster
  fragSize : t.fragSize = a.fragSize
  up : t.mIsLowerLayerUp = a.mIsLowerLayerUp
  other : t.channel (!u) = a.channel (!u)
  use : (t.channel u).mpState.use = use
  sequence : (t.channel u).mSequence = sendSequence f (a.channel u).mSequence
  apdu : (t.channel u).mpSendAPDU = some (withSequence f (t.channel u).mSequence)
  queue : t.mSendQueue = a.mSendQueue ++ [withSequence f (t.channel u).mSequence]

/-- The queue does not look at the channels. -/
theorem setChannel_withQueue (a : AppLayer ω) (q : List (OutAPDU ω)) (s : Bool)
    (c : AppLayerChannel ω) :
    ({ a with mSendQueue := q, mSending := s } : AppLayer ω).setChannel u c =
      { a.setChannel u c with mSendQueue := q, mSending := s } := by
  cases u <;> rfl

theorem channel_withQueue (a : AppLayer ω) (q : List (OutAPDU ω)) (s v : Bool) :
    ({ a with mSendQueue := q, mSending := s } : AppLayer ω).channel v = a.channel v := rfl

/-- An idle channel takes a fragment. -/
theorem Consistent.send (h : Consistent a) (hi : (a.channel u).mpState = .idle)
    (hf : isFor u f = true) {use : ACS.Use} {c : AppLayerChannel ω}
    (hs : c.mpState.isSending = true) (huse : c.mpState.use = use)
    (htimer : c.mpTimer = (a.channel u).mpTimer)
    (hseq : c.mSequence = sendSequence f (a.channel u).mSequence)
    (hapdu : c.mpSendAPDU = some (withSequence f c.mSequence)) :
    Sent a u f use { a.setChannel u c with
      mSendQueue := a.mSendQueue ++ [withSequence f c.mSequence], mSending := true } := by
  have hchannel : ({ a.setChannel u c with
      mSendQueue := a.mSendQueue ++ [withSequence f c.mSequence]
      mSending := true } : AppLayer ω).channel u = c := channel_setChannel_self a u c
  refine ⟨?_, by simp, by simp, by simp, ?_, ?_, ?_, ?_, ?_⟩
  · have hc := h.channel u
    refine (h.but u).enqueue hf ⟨?_, fun _ ↦ ⟨_, hapdu, hf⟩, ?_⟩
    · rw [htimer, hc.timer, hi, ACS.isWaiting_of_isSending hs]
      rfl
    · rw [hc.queued, hi, if_pos hs]
      rfl
  · change (a.setChannel u c).channel (!u) = _
    rw [channel_setChannel, if_neg (by cases u <;> simp)]
  · rw [hchannel, huse]
  · rw [hchannel, hseq]
  · rw [hchannel, hapdu]
  · rw [hchannel]

/-- The channel after it has taken a fragment. -/
def sendChannel (a : AppLayer ω) (u : Bool) (f : OutAPDU ω) (s : ACS) (aNumRetry : ℕ) :
    AppLayerChannel ω :=
  { a.channel u with
    mpState := s
    mNumRetry := aNumRetry
    mSequence := sendSequence f (a.channel u).mSequence
    mpSendAPDU := some (withSequence f (sendSequence f (a.channel u).mSequence)) }

/-- **What `AppLayerChannel::Send` does**: a busy channel refuses the fragment, and an idle one
takes it, unless there is no state to send it in; then at most the sequence number has changed. -/
theorem wp_sendOn_cases {func : FunctionCodes} (hfunc : f.function = some func) {aNumRetry : ℕ}
    {Q : Unit → AppLayer ω → Prop} {E : Exception → AppLayer ω → Prop}
    (hbusy : (a.channel u).mpState ≠ .idle → E (a.channel u).mpState.invalidState a)
    (hok : ∀ s, (a.channel u).mpState = .idle →
      nextState (sendSequence f (a.channel u).mSequence) func f.control.con = .ok s →
      Q () { a.setChannel u (sendChannel a u f s aNumRetry) with
        mSendQueue := a.mSendQueue ++ [withSequence f (sendSequence f (a.channel u).mSequence)]
        mSending := true })
    (herr : ∀ e, (a.channel u).mpState = .idle →
      nextState (sendSequence f (a.channel u).mSequence) func f.control.con = .error e →
      E e (a.setChannel u
        { a.channel u with mSequence := sendSequence f (a.channel u).mSequence })) :
    wp (sendOn u f func aNumRetry) Q E a := by
  rw [sendOn, wp_bind, wp_get, wp_bind, wp_ensure]
  split
  · next hi =>
    rw [wp_bind, idleSend]
    simp only [incrSequence]
    split
    · next hfir =>
      have hseq : sendSequence f (a.channel u).mSequence = nextSeq (a.channel u).mSequence := by
        rw [sendSequence, hfunc, if_neg (by simpa [imp_iff_not_or] using hfir)]
      simp only [sendChannel, hseq] at hok herr
      cases hn : nextState (nextSeq (a.channel u).mSequence) func f.control.con with
      | ok s =>
        simp only [wp_modify, wp_get, wp_bind, channel_setChannel_self, OutAPDU.setControl, hn,
          wp_lift_ok, setChannel_setChannel, wp_queueFrame, setChannel_mSendQueue, wp_pure,
          setChannel_withQueue, channel_withQueue]
        exact hok s hi hn
      | error e =>
        simp only [wp_modify, wp_get, wp_bind, channel_setChannel_self, OutAPDU.setControl, hn,
          wp_lift_error]
        exact herr e hi hn
    · next hfir =>
      have hseq : sendSequence f (a.channel u).mSequence = (a.channel u).mSequence := by
        rw [sendSequence, hfunc, if_pos (by simpa using hfir)]
      simp only [sendChannel, hseq] at hok herr
      cases hn : nextState (a.channel u).mSequence func f.control.con with
      | ok s =>
        simp only [wp_modify, wp_get, wp_bind, OutAPDU.setControl, hn, wp_lift_ok,
          wp_queueFrame, setChannel_mSendQueue, wp_pure, setChannel_withQueue,
          setChannel_setChannel, channel_withQueue, channel_setChannel_self]
        exact hok s hi hn
      | error e =>
        simp only [wp_get, wp_bind, OutAPDU.setControl, hn, wp_lift_error]
        have ha : a.setChannel u { a.channel u with mSequence := (a.channel u).mSequence } = a := by
          cases u <;> rfl
        exact ha ▸ herr e hi hn
  · next hi => exact hbusy hi

theorem wp_sendOn (h : Consistent a) (hi : (a.channel u).mpState = .idle)
    (hf : isFor u f = true) {func : FunctionCodes} (hfunc : f.function = some func) {use : ACS.Use}
    (hnext : ∃ s, nextState (sendSequence f (a.channel u).mSequence) func f.control.con = .ok s ∧
      s.isSending = true ∧ s.use = use) (aNumRetry : ℕ) :
    wp (sendOn u f func aNumRetry) (fun _ t ↦ Sent a u f use t) (fun _ _ ↦ False) a := by
  obtain ⟨s, hs, hsend, huse⟩ := hnext
  refine wp_sendOn_cases hfunc (fun hb ↦ hb hi) (fun s' _ hs' ↦ ?_) fun e _ he ↦ ?_
  · obtain rfl := Except.ok.inj (hs.symm.trans hs')
    refine h.send hi hf ?_ ?_ ?_ ?_ ?_
    · exact hsend
    · exact huse
    · rfl
    · rfl
    · rfl
  · exact absurd (hs.symm.trans he) (by simp)

theorem sendSequence_nonneg {seq : Int} (h : f.function = some .response → 0 ≤ seq) :
    0 ≤ sendSequence f seq := by
  rw [sendSequence]
  split
  · next hf => exact h (by simpa using (Bool.and_eq_true _ _ |>.mp hf).2)
  · exact Int.emod_nonneg _ (by decide)

/-- What a channel of an outstation is used for while it sends a fragment. -/
def useOf (f : OutAPDU ω) : ACS.Use := if f.control.con then .confirmed else .unconfirmed

/-- **An outstation sends a response** to a request that it has received. -/
theorem wp_sendResponse (h : Consistent a) (hup : a.mIsLowerLayerUp = true)
    (hm : a.isMaster = false) (hi : (a.channel false).mpState = .idle)
    (hf : f.function = some .response) (hu : f.control.uns = false)
    (hseq : 0 ≤ (a.channel false).mSequence) :
    wp (sendResponse f) (fun _ t ↦ Sent a false f (useOf f) t) (fun _ _ ↦ False) a := by
  have hfor : isFor false f = true := by rw [isFor, hf]; rfl
  simp only [sendResponse, validate, getFunction, wp_bind, wp_get, wp_ensure, hup, hm, hf, hu,
    wp_lift_ok, if_true, implies_true, Bool.false_eq_true, false_implies]
  refine wp_sendOn h hi hfor hf ?_ _
  rw [useOf, nextState, if_neg (Int.not_lt.mpr (sendSequence_nonneg fun _ ↦ hseq))]
  split
  · exact ⟨_, rfl, rfl, rfl⟩
  · exact ⟨_, rfl, rfl, rfl⟩

/-- **An outstation sends an unsolicited response.** -/
theorem wp_sendUnsolicited (h : Consistent a) (hup : a.mIsLowerLayerUp = true)
    (hm : a.isMaster = false) (hi : (a.channel true).mpState = .idle)
    (hf : f.function = some .unsolicitedResponse) (hfir : f.control.fir = true)
    (hfin : f.control.fin = true) (hu : f.control.uns = true) :
    wp (sendUnsolicited f) (fun _ t ↦ Sent a true f (useOf f) t) (fun _ _ ↦ False) a := by
  have hfor : isFor true f = true := by rw [isFor, hf]
  simp only [sendUnsolicited, validate, getFunction, wp_bind, wp_get, wp_ensure, hup, hm, hf, hfir,
    hfin, hu, wp_lift_ok, if_true, implies_true, Bool.and_self, Bool.false_eq_true, false_implies]
  refine wp_sendOn h hi hfor hf ?_ _
  rw [useOf, nextState]
  split
  · exact ⟨_, rfl, rfl, rfl⟩
  · exact ⟨_, rfl, rfl, rfl⟩

end AppLayer

end OpenDNP3
