import OpenDNP3.App.LayerRun

/-!
# Confirmations of the master

A response with CON set asks for a confirmation, upon which the outstation forgets the events that
the response carries.  `AppLayer::OnResponse` queues the confirmation as soon as the solicited
channel accepts responses at all; whether it accepts this one is decided after that, by the state
of the channel.

* `AppLayer.ConfirmsOnlyUsed` — a confirmation is queued only if the response goes to the user.
* `AppLayer.confirmsOnlyUsed_iff` — this holds exactly when a response that can be confirmed, while
  the channel waits for one, is the one that the channel waits for.
-/

set_option autoImplicit false

namespace OpenDNP3

open Handler

namespace AppLayer

variable {ω : Type}

/-! ## What a step does with a response -/

/-- A confirmation has been queued between the two states. -/
def ConfirmQueued (a t : AppLayer ω) : Prop :=
  a.mSendQueue.countP isConfirm < t.mSendQueue.countP isConfirm

instance (a t : AppLayer ω) : Decidable (ConfirmQueued a t) :=
  inferInstanceAs (Decidable (_ < _))

/-- The response is handed to the user. -/
def HandsUp (r : APDU) (call : Option UserCall) : Prop :=
  call = some (.onPartialResponse r) ∨ call = some (.onFinalResponse r)

/-- **A confirmation is queued only for a response that is handed to the user** in the same step,
in which the octets of the response are received. -/
def ConfirmsOnlyUsed (a : AppLayer ω) (apData : List Byte) (r : APDU) : Prop :=
  wp (perform (.event (.receive apData))) (fun call t ↦ ConfirmQueued a t → HandsUp r call)
    (fun _ t ↦ ¬ConfirmQueued a t) a

/-- The response is the one that the solicited channel waits for. -/
def Expected (a : AppLayer ω) (r : APDU) : Prop :=
  (r.getControl.seq : Int) = (a.channel false).mSequence ∧
    (r.getControl.fir = true ↔ (a.channel false).mpState = .waitForFirstResponse)

/-- The response can be confirmed: it is not larger than a fragment may be, its UNS bit is clear and
no confirmation waits to be sent. -/
def Confirmable (a : AppLayer ω) (apData : List Byte) (r : APDU) : Prop :=
  apData.length ≤ a.fragSize ∧ r.getControl.uns = false ∧ a.mConfirmSending = false

variable {a : AppLayer ω} {apData : List Byte} {r : APDU}

theorem not_confirmQueued_self (a : AppLayer ω) : ¬ConfirmQueued a a := Nat.lt_irrefl _

/-! ## The channel decides

A response is looked at by the layer first, which queues the confirmation, and then by the
channel, which may turn it away. -/

/-- What the solicited channel does with a response while it waits for one: it is handed up if it is
the expected one, and nothing happens otherwise. -/
theorem wp_channelOnResponse_handsUp (h : Consistent a)
    (hacc : (a.channel false).mpState.acceptsResponse = true) {E : Exception → AppLayer ω → Prop}
    {q : List (OutAPDU ω)} (hq : a.mSendQueue = q) :
    wp (channelOnResponse r) (fun call t ↦ t.mSendQueue = q ∧ (HandsUp r call ↔ Expected a r))
      E a := by
  have hw : (a.channel false).mpState.isWaiting = true := by
    revert hacc
    cases (a.channel false).mpState <;> first | exact fun _ ↦ rfl | exact Bool.noConfusion
  have key {aExpectFIR : Bool}
      (hfir : (r.getControl.fir = true ↔ (a.channel false).mpState = .waitForFirstResponse) ↔
        r.getControl.fir = aExpectFIR) :
      wp (processResponse r aExpectFIR)
        (fun call t ↦ t.mSendQueue = q ∧ (HandsUp r call ↔ Expected a r)) E a := by
    simp only [processResponse, wp_bind, wp_get]
    split
    · next hexp =>
      have hexp' : Expected a r := ⟨hexp.1, hfir.mpr hexp.2⟩
      rw [wp_bind, wp_cancelTimer h hw]
      split
      · refine ⟨by simpa [stopTimer] using hq, ?_⟩
        simp [HandsUp, hexp']
      · simp only [incrSequence, changeState, startTimer, wp_bind, wp_modify, wp_get, wp_ensure,
          channel_setChannel_self, setChannel_setChannel, stopTimer, if_true, wp_pure]
        refine ⟨by simpa using hq, ?_⟩
        simp [HandsUp, hexp']
    · next hexp =>
      refine ⟨hq, ?_⟩
      have hexp' : ¬Expected a r := fun he ↦ hexp ⟨he.1, hfir.mp he.2⟩
      simp [HandsUp, hexp']
  rw [channelOnResponse, wp_bind, wp_get]
  split
  · next hs =>
    refine key ?_
    simp [hs]
  · next hs =>
    refine key ?_
    simp [hs]
  · next hfirst hfinal =>
    revert hacc
    cases hs : (a.channel false).mpState with
    | waitForFirstResponse => exact absurd hs hfirst
    | waitForFinalResponse => exact absurd hs hfinal
    | _ => exact Bool.noConfusion

/-- A channel that does not wait for a response leaves it alone. -/
theorem channelOnResponse_of_not_accepts {E : Exception → AppLayer ω → Prop}
    (hacc : (a.channel false).mpState.acceptsResponse = false)
    {Q : Option UserCall → AppLayer ω → Prop} (hQ : Q none a) : wp (channelOnResponse r) Q E a := by
  rw [channelOnResponse, wp_bind, wp_get]
  revert hacc
  cases (a.channel false).mpState <;> first | exact fun _ ↦ hQ | exact Bool.noConfusion

/-! ## The layer confirms -/

/-- What is thrown on a response that is rejected ends in the `catch`. -/
theorem onCatch_general (apData : List Byte) (aMessage : String) :
    (onCatch apData (.general aMessage) : M ω (Option UserCall)) = pure none := rfl

theorem onCatch_argument (apData : List Byte) (aMessage : String) :
    (onCatch apData (.argument aMessage) : M ω (Option UserCall)) = pure none := rfl

/-- A confirmation waits in the queue for what the channel decides about the response. -/
theorem wp_onResponse_confirmed (h : Consistent a)
    (hacc : (a.channel false).mpState.acceptsResponse = true) (hc : a.mConfirmSending = false)
    {E : Exception → AppLayer ω → Prop} :
    wp (do queueConfirm false r.getControl.seq; channelOnResponse r)
      (fun call t ↦ (ConfirmQueued a t → HandsUp r call) ↔ Expected a r) E a := by
  have hcons := wp_queueConfirm (u := false) h r.getControl.seq
  simp only [queueConfirm, wp_bind, wp_get, wp_ensure_of hc, wp_modify, wp_queueFrame] at hcons ⊢
  refine wp_mono (wp_channelOnResponse_handsUp (r := r) hcons.consistent hacc rfl)
    (fun call t ht ↦ ?_) (fun _ _ he ↦ he)
  have hqueued : ConfirmQueued a t := by
    rw [ConfirmQueued, ht.1, List.countP_append]
    exact Nat.lt_succ_self _
  exact ⟨fun hu ↦ ht.2.mp (hu hqueued), fun he _ ↦ ht.2.mpr he⟩

/-- **Exactly the responses that are not awaited are confirmed without being used**: a confirmation
is queued only for a response that goes to the user if and only if a response that can be
confirmed, while the solicited channel waits for one, has the expected sequence number and FIR. -/
theorem confirmsOnlyUsed_iff {aFragSize aNumRetry : ℕ} {ops : List (Op ω)}
    (hrun : Run.run step (new true aFragSize aNumRetry) ops = some a)
    (hr : APDU.interpret apData = .ok r) (hf : r.getFunction = .response)
    (hcon : r.getControl.con = true) :
    ConfirmsOnlyUsed a apData r ↔
      (Confirmable a apData r → (a.channel false).mpState.acceptsResponse = true →
        Expected a r) := by
  have h := consistent_of_run hrun
  have hself (call : Option UserCall) : ConfirmQueued a a → HandsUp r call :=
    fun hq ↦ absurd hq (not_confirmQueued_self a)
  refine wp_iff ?_
  rw [perform, wp_tryCatch, receive]
  simp only [wp_bind, wp_get, wp_ensure]
  split
  · next hsize =>
    rw [hr, wp_lift_ok, hf, onResponse]
    simp only [hcon, Bool.true_and, wp_bind, wp_ensure, wp_get]
    split
    · next huns =>
      split
      · next hacc =>
        by_cases hc : a.mConfirmSending = false
        · refine wp_mono (wp_onResponse_confirmed h hacc hc) (fun call t ht ↦ ht.trans ?_)
            (fun _ _ he ↦ he)
          exact ⟨fun he _ _ ↦ he, fun he ↦ he ⟨hsize, huns, hc⟩ hacc⟩
        · rw [wp_bind, queueConfirm, wp_bind, wp_get, wp_bind, wp_ensure, if_neg hc,
              onCatch_general,
            wp_pure]
          exact ⟨fun _ hconf ↦ absurd hconf.2.2 hc, fun _ ↦ hself none⟩
      · next hacc =>
        refine channelOnResponse_of_not_accepts (Bool.eq_false_iff.mpr hacc) ?_
        exact ⟨fun _ _ hacc' ↦ absurd hacc' hacc, fun _ ↦ hself none⟩
    · next huns =>
      rw [onCatch_general, wp_pure]
      exact ⟨fun _ hconf ↦ absurd hconf.2.1 huns, fun _ ↦ hself none⟩
  · next hsize =>
    rw [onCatch_argument, wp_pure]
    exact ⟨fun _ hconf ↦ absurd hconf.1 hsize, fun _ ↦ hself none⟩

/-- A master that has sent a request, and waits for its response. -/
def waiting : List (Op Unit) :=
  [.event .lowerLayerUp, .sendRequest ((OutAPDU.new 2048).set .read true true false false),
   .event (.sendResult true)]

/-- The response to the request that has just been sent is confirmed and used. -/
theorem confirmsOnlyUsed_awaited : ∃ a r, Run.run step (new true 2048 0) waiting = some a ∧
    APDU.interpret [0xE0, 0x81, 0, 0] = .ok r ∧ ConfirmsOnlyUsed a [0xE0, 0x81, 0, 0] r := by
  have hrun : Run.run step (new true 2048 0) waiting = some _ := rfl
  exact ⟨_, _, hrun, rfl, (confirmsOnlyUsed_iff hrun rfl rfl rfl).mpr fun _ _ ↦ ⟨rfl, by decide⟩⟩

/-- A late response, to a request that is no longer waited for, is confirmed although it is not
used. -/
theorem confirmsOnlyUsed_late : ∃ a r, Run.run step (new true 2048 0) waiting = some a ∧
    APDU.interpret [0xE9, 0x81, 0, 0] = .ok r ∧ r.getFunction = .response ∧
    r.getControl.con = true ∧ ¬ConfirmsOnlyUsed a [0xE9, 0x81, 0, 0] r := by
  refine ⟨_, _, rfl, rfl, rfl, rfl, fun h ↦ ?_⟩
  change ConfirmQueued _ _ → HandsUp _ none at h
  rcases h (by decide) with h | h
  · exact absurd h.symm (Option.some_ne_none _)
  · exact absurd h.symm (Option.some_ne_none _)

end AppLayer

end OpenDNP3
