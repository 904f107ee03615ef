import OpenDNP3.App.LayerRun

/-!
# What the layer does step by step

Every operation of the application layer is a sequence of a few kinds of small changes: a channel
goes on, the fragment of a channel is queued again, the confirmation is queued, the first fragment
leaves the queue.  `Small` lists them, and a predicate that is `Closed` under them is kept by every
operation but the three that do more: a send, an unsolicited response that is new, and the link
going down.
-/

set_option autoImplicit false

namespace OpenDNP3

open Handler

namespace AppLayer

variable {ω : Type}

/-! ## Small changes

What the layer does is made of small changes: a channel changes its state, a timer starts or
stops, a frame joins the queue or leaves it. A predicate that they keep is kept by every
operation. -/

/-- **One small change.** -/
inductive Small : AppLayer ω → AppLayer ω → Prop where
  /-- A channel goes on with the same fragment; the unsolicited one keeps its sequence number. -/
  | channel (a : AppLayer ω) (u : Bool) (c : AppLayerChannel ω)
      (hapdu : c.mpSendAPDU = (a.channel u).mpSendAPDU)
      (hidle : (a.channel u).mpState = .idle → c.mpState = .idle)
      (hseq : u = true → c.mSequence = (a.channel u).mSequence) : Small a (a.setChannel u c)
  /-- A sending channel queues its fragment again. -/
  | retry (a : AppLayer ω) (u : Bool) (f : OutAPDU ω)
      (hsend : (a.channel u).mpState.isSending = true) (hf : (a.channel u).mpSendAPDU = some f) :
      Small a { a with mSendQueue := a.mSendQueue ++ [f], mSending := true }
  /-- The confirmation is queued. -/
  | confirm (a : AppLayer ω) (u : Bool) (n : ℕ) (hfree : a.mConfirmSending = false) :
      Small a { a with
        mSendQueue := a.mSendQueue ++ [confirmAPDU u n]
        mSending := true
        mConfirmSending := true }
  /-- The first fragment leaves the queue. -/
  | pop (a : AppLayer ω) (f : OutAPDU ω) (q : List (OutAPDU ω)) (hq : a.mSendQueue = f :: q) :
      Small a { a with
        mSendQueue := q
        mSending := false
        mConfirmSending := a.mConfirmSending && !isConfirm f }
  /-- A send starts or is over. -/
  | sending (a : AppLayer ω) (s : Bool) : Small a { a with mSending := s }
  /-- The link is up. -/
  | up (a : AppLayer ω) : Small a { a with mIsLowerLayerUp := true }

/-- Small changes keep the predicate. -/
def Closed (I : AppLayer ω → Prop) : Prop := ∀ a t, Small a t → I a → I t

variable {I : AppLayer ω → Prop} {a : AppLayer ω} {u : Bool}

/-! ## Channels -/

theorem Closed.wp_changeState (hI : Closed I) (h : I a) (hb : (a.channel u).mpState ≠ .idle)
    (s : ACS) : wp (changeState u s) (fun _ t ↦ I t) (fun _ t ↦ I t) a :=
  hI a _ (.channel a u _ rfl (fun hi ↦ absurd hi hb) fun _ ↦ rfl) h

theorem Closed.startTimer (hI : Closed I) (u : Bool) : Stable I (startTimer u : M ω Unit) :=
  stable_bind (fun _ h ↦ h) fun _ ↦ stable_bind (stable_ensure _ _) fun _ ↦
    stable_modify fun a h ↦ hI a _ (.channel a u _ rfl id fun _ ↦ rfl) h

theorem Closed.cancelTimer (hI : Closed I) (u : Bool) : Stable I (cancelTimer u : M ω Unit) :=
  stable_bind (fun _ h ↦ h) fun _ ↦ stable_bind (stable_ensure _ _) fun _ ↦
    stable_modify fun a h ↦ hI a _ (.channel a u _ rfl id fun _ ↦ rfl) h

theorem Closed.wp_changeState_bind (hI : Closed I) (h : I a) (hb : (a.channel u).mpState ≠ .idle)
    (s : ACS) {α : Type} {x : M ω α} (hx : Stable I x) :
    wp (do changeState u s; x) (fun _ t ↦ I t) (fun _ t ↦ I t) a := by
  rw [wp_bind]
  exact wp_mono (hI.wp_changeState h hb s) (fun _ t ht ↦ hx t ht) (fun _ _ he ↦ he)

theorem Closed.wp_retryOrFail (hI : Closed I) (h : I a) (hb : (a.channel u).mpState ≠ .idle)
    {s : ACS} (hs : s.isSending = true) :
    wp (retryOrFail u s) (fun _ t ↦ I t) (fun _ t ↦ I t) a := by
  simp only [retryOrFail, retry, wp_bind, wp_get]
  split
  · rw [wp_bind, wp_modify]
    have hset : I (a.setChannel u
        { a.channel u with mNumRetry := (a.channel u).mNumRetry - 1, mpState := s }) :=
      hI a _ (.channel a u _ rfl (fun hi ↦ absurd hi hb) fun _ ↦ rfl) h
    split
    · next f hf =>
      simp only [wp_bind, wp_queueFrame, wp_pure, if_true]
      refine hI _ _ (.retry _ u f ?_ ?_) hset
      · rw [channel_setChannel_self]
        exact hs
      · rw [channel_setChannel_self]
        exact hf
    · exact hset
  · simp only [wp_pure, Bool.false_eq_true, if_false, wp_bind]
    exact hI.wp_changeState h hb .idle

theorem Closed.channelOnSendSuccess (hI : Closed I) (u : Bool) :
    Stable I (channelOnSendSuccess u : M ω (Option UserCall)) := by
  refine stable_get_bind fun a h ↦ ?_
  split
  · next hs => exact hI.wp_changeState_bind h (by simp [hs]) _ (stable_pure _)
  · next hs =>
    exact hI.wp_changeState_bind h (by simp [hs]) _
      (stable_bind (hI.startTimer u) fun _ ↦ stable_pure _)
  · next hs =>
    exact hI.wp_changeState_bind h (by simp [hs]) _
      (stable_bind (hI.startTimer u) fun _ ↦ stable_pure _)
  · next hs => exact hI.wp_changeState_bind h (by simp [hs]) _ (stable_pure _)
  · exact h

theorem Closed.channelOnSendFailure (hI : Closed I) (u : Bool) :
    Stable I (channelOnSendFailure u : M ω (Option UserCall)) := by
  refine stable_get_bind fun a h ↦ ?_
  split
  · next hs => exact hI.wp_changeState_bind h (by simp [hs]) _ (stable_pure _)
  · next hs => exact hI.wp_retryOrFail h (by simp [hs]) rfl
  · next hs => exact hI.wp_retryOrFail h (by simp [hs]) rfl
  · next hs => exact hI.wp_retryOrFail h (by simp [hs]) rfl
  · exact h

theorem Closed.cancel (hI : Closed I) (u : Bool) :
    Stable I (cancel u : M ω (Option UserCall)) := by
  refine stable_get_bind fun a h ↦ ?_
  split
  · next hs => exact hI.wp_changeState_bind h (by simp [hs]) _ (stable_pure _)
  · next hs => exact hI.wp_changeState_bind h (by simp [hs]) _ (stable_pure _)
  · next hs => exact hI.wp_changeState_bind h (by simp [hs]) _ (stable_pure _)
  · exact h
  · next hs =>
    exact hI.wp_changeState_bind h (by simp [hs]) _
      (stable_bind (hI.cancelTimer u) fun _ ↦ stable_pure _)
  · exact h

theorem Closed.cancelRetries (hI : Closed I) (u : Bool) : Stable I (cancelRetries u : M ω Unit) :=
  stable_modify fun a h ↦ hI a _ (.channel a u _ rfl id fun _ ↦ rfl) h

/-- The timer of a channel in a state that is no longer changed before the state is. -/
theorem Closed.wp_cancelTimer_bind (hI : Closed I) (h : I a) {α : Type} {x : M ω α}
    (hx : ∀ t, I t → (t.channel u).mpState = (a.channel u).mpState →
      wp x (fun _ t ↦ I t) (fun _ t ↦ I t) t) :
    wp (do AppLayer.cancelTimer u; x) (fun _ t ↦ I t) (fun _ t ↦ I t) a := by
  simp only [AppLayer.cancelTimer, wp_bind, wp_get, wp_ensure]
  split
  · rw [wp_modify]
    refine hx _ (hI a _ (.channel a u _ rfl id fun _ ↦ rfl) h) ?_
    rw [channel_setChannel_self]
  · exact h

theorem Closed.channelOnConfirm (hI : Closed I) (u : Bool) (aSeq : ℕ) :
    Stable I (channelOnConfirm u aSeq : M ω (Option UserCall)) := by
  refine stable_get_bind fun a h ↦ ?_
  dsimp only
  split
  · next hc =>
    refine hI.wp_cancelTimer_bind h fun t ht hs ↦ ?_
    exact hI.wp_changeState_bind ht (by simp [hs, hc.1]) _ (stable_pure _)
  · exact h

theorem Closed.wp_processResponse (hI : Closed I) (h : I a)
    (hb : (a.channel false).mpState ≠ .idle) (r : APDU) (aExpectFIR : Bool) :
    wp (processResponse r aExpectFIR) (fun _ t ↦ I t) (fun _ t ↦ I t) a := by
  simp only [processResponse, wp_bind, wp_get]
  split
  · refine hI.wp_cancelTimer_bind h fun t ht hs ↦ ?_
    split
    · exact hI.wp_changeState_bind ht (by rw [hs]; exact hb) _ (stable_pure _)
    · rw [wp_bind, incrSequence, wp_modify]
      refine hI.wp_changeState_bind ?_ ?_ _ (stable_bind (hI.startTimer _) fun _ ↦ stable_pure _)
      · exact hI t _ (.channel t false _ rfl id fun hu ↦ Bool.noConfusion hu) ht
      · rw [channel_setChannel_self]
        exact fun hi ↦ hb (hs.symm.trans hi)
  · exact h

theorem Closed.channelOnResponse (hI : Closed I) (r : APDU) :
    Stable I (channelOnResponse r : M ω (Option UserCall)) := by
  refine stable_get_bind fun a h ↦ ?_
  split
  · next hs => exact hI.wp_processResponse h (by simp [hs]) r true
  · next hs => exact hI.wp_processResponse h (by simp [hs]) r false
  · exact h

theorem Closed.timeout (hI : Closed I) (u : Bool) :
    Stable I (timeout u : M ω (Option UserCall)) := by
  refine stable_bind (stable_modify fun a h ↦ ?_) fun _ ↦ stable_get_bind fun a h ↦ ?_
  · exact hI a _ (.channel a u _ rfl id fun _ ↦ rfl) h
  split
  · next hs => exact hI.wp_retryOrFail h (by simp [hs]) rfl
  · next hs => exact hI.wp_retryOrFail h (by simp [hs]) rfl
  · next hs => exact hI.wp_retryOrFail h (by simp [hs]) rfl
  · exact h

/-! ## The layer -/

theorem Closed.queueConfirm (hI : Closed I) (u : Bool) (aSeq : ℕ) :
    Stable I (queueConfirm u aSeq : M ω Unit) := by
  refine stable_get_bind fun a h ↦ ?_
  simp only [wp_bind, wp_ensure]
  split
  · next hc =>
    simp only [wp_modify, wp_queueFrame]
    exact hI a _ (.confirm a u aSeq hc) h
  · exact h

theorem Closed.checkForSend (hI : Closed I) : Stable I (checkForSend : M ω Unit) :=
  stable_modify fun a h ↦ hI a _ (.sending a _) h

theorem Closed.onSendResult (hI : Closed I) (aSuccess : Bool) :
    Stable I (onSendResult aSuccess : M ω (Option UserCall)) := by
  refine stable_get_bind fun a h ↦ ?_
  rw [wp_bind, wp_ensure]
  split
  · rw [wp_bind, wp_get]
    cases hq : a.mSendQueue with
    | nil => exact h
    | cons f q =>
      simp only [wp_bind, wp_modify]
      have hpop := hI a _ (.pop a f q hq) h
      cases hfunc : f.function with
      | none =>
        rw [getFunction, hfunc]
        exact hI a _ (.sending a false) h
      | some func =>
        rw [getFunction, hfunc, wp_lift_ok]
        split
        · next hc =>
          have hf : isConfirm f = true := by simp [isConfirm, hfunc, hc]
          simp only [hf, Bool.not_true, Bool.and_false] at hpop
          simp only [wp_bind, wp_get, wp_ensure, wp_modify, wp_pure]
          split
          · exact hpop
          · next hcs =>
            rw [Bool.eq_false_iff.mpr hcs]
            exact hpop
        · next hc =>
          have hf : isConfirm f = false := by simp [isConfirm, hfunc, hc]
          simp only [hf, Bool.not_false, Bool.and_true] at hpop
          split
          · exact hI.channelOnSendSuccess _ _ hpop
          · exact hI.channelOnSendFailure _ _ hpop
  · exact h

theorem Closed.onResponse (hI : Closed I) (r : APDU) :
    Stable I (onResponse r : M ω (Option UserCall)) := by
  refine stable_bind (stable_ensure _ _) fun _ ↦ stable_bind (fun _ h ↦ h) fun _ ↦ ?_
  split
  · exact stable_bind (hI.queueConfirm _ _) fun _ ↦ hI.channelOnResponse r
  · exact hI.channelOnResponse r

theorem Closed.onConfirm (hI : Closed I) (r : APDU) :
    Stable I (onConfirm r : M ω (Option UserCall)) :=
  stable_bind (fun _ h ↦ h) fun _ ↦ stable_bind (stable_ensure _ _) fun _ ↦
    hI.channelOnConfirm _ _

/-- The sequence number of a request is kept. -/
theorem Closed.setSequence (hI : Closed I) (n : ℕ) : Stable I
    (modify fun a ↦ a.setChannel false { a.channel false with mSequence := n } : M ω PUnit) :=
  stable_modify fun a h ↦ hI a _ (.channel a false _ rfl id fun hu ↦ Bool.noConfusion hu) h

theorem Closed.onRequest (hI : Closed I) (r : APDU) :
    Stable I (onRequest r : M ω (Option UserCall)) :=
  stable_bind (stable_ensure _ _) fun _ ↦ stable_bind (stable_ensure _ _) fun _ ↦
    stable_bind (fun _ h ↦ h) fun _ ↦ stable_bind (stable_ensure _ _) fun _ ↦
      stable_bind (fun _ h ↦ h) fun _ ↦ stable_bind (hI.setSequence _) fun _ ↦ stable_pure _

theorem Closed.onUnknownObject (hI : Closed I) (aCode : FunctionCodes) (arCtrl : AppControlField) :
    Stable I (onUnknownObject aCode arCtrl : M ω (Option UserCall)) := by
  refine stable_bind (fun _ h ↦ h) fun _ ↦ stable_ite (stable_pure _) ?_
  split
  · exact stable_pure _
  · exact stable_pure _
  · exact stable_pure _
  · exact stable_pure _
  · exact stable_bind (hI.setSequence _) fun _ ↦ stable_pure _

theorem Closed.onCatch (hI : Closed I) (apData : List Byte) (e : Exception) :
    Stable I (onCatch apData e : M ω (Option UserCall)) := by
  unfold AppLayer.onCatch
  split
  · exact stable_bind (stable_lift _) fun _ ↦ hI.onUnknownObject _ _
  · exact stable_ite (stable_pure _) (stable_throw _)

theorem stable_validate (arCtrl : AppControlField) (aMaster aRequireFIRFIN aAllowCON aUNS : Bool) :
    Stable I (validate arCtrl aMaster aRequireFIRFIN aAllowCON aUNS : M ω Unit) :=
  stable_bind (fun _ h ↦ h) fun _ ↦ stable_bind (stable_ensure _ _) fun _ ↦
    stable_bind (stable_ensure _ _) fun _ ↦ stable_bind (stable_ensure _ _) fun _ ↦
      stable_bind (stable_ensure _ _) fun _ ↦ stable_bind (stable_ensure _ _) fun _ ↦
        stable_ensure _ _

theorem Closed.onLowerLayerUp (hI : Closed I) :
    Stable I (onLowerLayerUp : M ω (Option UserCall)) :=
  stable_bind (fun _ h ↦ h) fun _ ↦ stable_bind (stable_ensure _ _) fun _ ↦
    stable_bind (stable_modify fun a h ↦ hI a _ (.up a) h) fun _ ↦ stable_pure _

theorem Closed.receive (hI : Closed I) {apData : List Byte}
    (hunsol : ∀ r, APDU.interpret apData = .ok r → r.getFunction = .unsolicitedResponse →
      Stable I (onUnsolResponse r : M ω (Option UserCall))) :
    Stable I (receive apData : M ω (Option UserCall)) := by
  refine stable_bind (fun _ h ↦ h) fun _ ↦ stable_bind (fun _ h ↦ h) fun _ ↦
    stable_bind (stable_ensure _ _) fun _ ↦ ?_
  intro a h
  rw [wp_bind]
  cases hr : APDU.interpret apData with
  | error e => exact h
  | ok r =>
    rw [wp_lift_ok]
    split
    · exact hI.onConfirm r a h
    · exact hI.onResponse r a h
    · next hf => exact hunsol r hr hf a h
    · exact hI.onRequest r a h

/-- **Every operation but a send and the end of the link** keeps a closed predicate, if a received
unsolicited response does. -/
theorem Closed.perform (hI : Closed I) {op : Op ω} (hsend : op.sends = none)
    (hdown : op.isDown = false)
    (hunsol : ∀ apData r, op = .event (.receive apData) → APDU.interpret apData = .ok r →
      r.getFunction = .unsolicitedResponse →
      Stable I (onUnsolResponse r : M ω (Option UserCall))) :
    Stable I (perform op) := by
  cases op with
  | event e =>
    cases e with
    | lowerLayerUp => exact hI.onLowerLayerUp
    | lowerLayerDown => exact Bool.noConfusion hdown
    | sendResult aSuccess => exact hI.onSendResult aSuccess
    | receive apData =>
      exact stable_tryCatch (hI.receive fun r hr hf ↦ hunsol apData r rfl hr hf)
        fun e ↦ hI.onCatch apData e
    | timeout u => exact hI.timeout u
  | checkForSend => exact stable_bind hI.checkForSend fun _ ↦ stable_pure _
  | sendRequest f => exact absurd hsend (by simp [Op.sends])
  | sendResponse f => exact absurd hsend (by simp [Op.sends])
  | sendUnsolicited f => exact absurd hsend (by simp [Op.sends])
  | cancelResponse => exact hI.cancel false
  | cancelUnsolicitedRetries => exact stable_bind (hI.cancelRetries true) fun _ ↦ stable_pure _

/-! ## Sends -/

theorem stable_getFunction_bind {f : OutAPDU ω} {α : Type} {x : FunctionCodes → M ω α}
    (hx : ∀ func, f.function = some func → Stable I (x func)) :
    Stable I (do let func ← Handler.lift (getFunction f); x func) := by
  intro a h
  rw [wp_bind]
  cases hf : f.function with
  | none =>
    rw [getFunction, hf]
    exact h
  | some func =>
    rw [getFunction, hf, wp_lift_ok]
    exact hx func hf a h

/-- A send that may be refused by any of its checks. -/
theorem wp_checked {Q : Unit → AppLayer ω → Prop} {E : Exception → AppLayer ω → Prop}
    (hE : ∀ e, E e a) {f : OutAPDU ω} {arCtrl : AppControlField}
    {aMaster aRequireFIRFIN aAllowCON aUNS : Bool} {p : FunctionCodes → Prop} [DecidablePred p]
    {e : Exception} {x : FunctionCodes → M ω Unit}
    (hx : ∀ func, f.function = some func → p func → wp (x func) Q E a) :
    wp (do
      validate arCtrl aMaster aRequireFIRFIN aAllowCON aUNS
      let func ← Handler.lift (getFunction f)
      ensure (p func) e
      x func) Q E a := by
  have hv := stable_validate (I := fun t ↦ t = a) arCtrl aMaster aRequireFIRFIN aAllowCON aUNS a rfl
  rw [wp_bind]
  refine wp_mono hv (fun _ t ht ↦ ?_) (fun e t ht ↦ ht ▸ hE e)
  subst ht
  rw [wp_bind]
  cases hf : f.function with
  | none =>
    rw [getFunction, hf]
    exact hE _
  | some func =>
    rw [getFunction, hf, wp_lift_ok, wp_bind, wp_ensure]
    split
    · exact hx func hf ‹_›
    · exact hE _

/-- What is checked before a fragment is sent changes nothing. -/
theorem stable_ensure_bind {p : Prop} [Decidable p] {e : Exception} {α : Type} {x : M ω α}
    (hx : p → Stable I x) : Stable I (do ensure p e; x) := by
  intro a h
  rw [wp_bind, wp_ensure]
  split
  · exact hx ‹_› a h
  · exact h

theorem stable_sendRequest {f : OutAPDU ω}
    (h : ∀ func n, f.function = some func → isRequest func = true →
      Stable I (sendOn false f func n)) :
    Stable I (sendRequest f) :=
  stable_bind (stable_validate _ _ _ _ _) fun _ ↦ stable_getFunction_bind fun func hf ↦
    stable_ensure_bind fun hr ↦ stable_bind (fun _ ha ↦ ha) fun _ ↦ h func _ hf hr

theorem stable_sendResponse {f : OutAPDU ω}
    (h : ∀ n, f.function = some .response → Stable I (sendOn false f .response n)) :
    Stable I (sendResponse f) :=
  stable_bind (stable_validate _ _ _ _ _) fun _ ↦ stable_getFunction_bind fun _ hf ↦
    stable_ensure_bind fun hr ↦ stable_bind (fun _ ha ↦ ha) fun _ ↦ hr ▸ h _ (hr ▸ hf)

theorem stable_sendUnsolicited {f : OutAPDU ω}
    (h : ∀ n, f.function = some .unsolicitedResponse →
      Stable I (sendOn true f .unsolicitedResponse n)) :
    Stable I (sendUnsolicited f) :=
  stable_bind (stable_validate _ _ _ _ _) fun _ ↦ stable_getFunction_bind fun _ hf ↦
    stable_ensure_bind fun hr ↦ stable_bind (fun _ ha ↦ ha) fun _ ↦ hr ▸ h _ (hr ▸ hf)

/-- A master does not send unsolicited responses. -/
theorem wp_sendUnsolicited_of_isMaster (hm : a.isMaster = true) (f : OutAPDU ω)
    {Q : Unit → AppLayer ω → Prop} {E : Exception → AppLayer ω → Prop} (hE : ∀ e, E e a) :
    wp (sendUnsolicited f) Q E a := by
  simp only [sendUnsolicited, validate, wp_bind, wp_get, wp_ensure, hm]
  split
  · split
    · split
      · next h => exact absurd (h trivial) Bool.false_ne_true
      · exact hE _
    · exact hE _
  · exact hE _

/-! ## Requests -/

/-- The user is not handed a request. -/
def NotRequest : Option UserCall → Prop
  | some (.onRequest _ _) => False
  | _ => True

/-- The operation does not hand the user a request. -/
abbrev HandsNoRequest (x : M ω (Option UserCall)) : Prop :=
  ∀ a, wp x (fun call _ ↦ NotRequest call) (fun _ _ ↦ True) a

namespace HandsNoRequest

theorem bind {α : Type} {x : M ω α} {f : α → M ω (Option UserCall)}
    (hf : ∀ b, HandsNoRequest (f b)) : HandsNoRequest (x >>= f) :=
  wp_bind_of_last fun b a ↦ hf b a

theorem pure {call : Option UserCall} (h : NotRequest call) :
    HandsNoRequest (Pure.pure call : M ω (Option UserCall)) :=
  fun _ ↦ h

theorem throw (e : Exception) : HandsNoRequest (MonadExcept.throw e : M ω (Option UserCall)) :=
  fun _ ↦ trivial

theorem ite {p : Prop} [Decidable p] {x y : M ω (Option UserCall)} (hx : HandsNoRequest x)
    (hy : HandsNoRequest y) : HandsNoRequest (if p then x else y) := by
  split
  · exact hx
  · exact hy

theorem retryOrFail (u : Bool) (s : ACS) :
    HandsNoRequest (retryOrFail u s : M ω (Option UserCall)) :=
  bind fun _ ↦ ite (pure trivial) (bind fun _ ↦ pure trivial)

theorem channelOnSendSuccess (u : Bool) :
    HandsNoRequest (channelOnSendSuccess u : M ω (Option UserCall)) := by
  refine bind fun a ↦ ?_
  split
  · exact bind fun _ ↦ pure trivial
  · exact bind fun _ ↦ bind fun _ ↦ pure trivial
  · exact bind fun _ ↦ bind fun _ ↦ pure trivial
  · exact bind fun _ ↦ pure trivial
  · exact throw _

theorem channelOnSendFailure (u : Bool) :
    HandsNoRequest (channelOnSendFailure u : M ω (Option UserCall)) := by
  refine bind fun a ↦ ?_
  split
  · exact bind fun _ ↦ pure trivial
  · exact retryOrFail u _
  · exact retryOrFail u _
  · exact retryOrFail u _
  · exact throw _

theorem onSendResult (aSuccess : Bool) :
    HandsNoRequest (onSendResult aSuccess : M ω (Option UserCall)) := by
  refine bind fun _ ↦ bind fun _ ↦ bind fun a ↦ ?_
  split
  · exact throw _
  · exact bind fun _ ↦ bind fun _ ↦ bind fun _ ↦
      ite (bind fun _ ↦ bind fun _ ↦ bind fun _ ↦ pure trivial)
        (ite (channelOnSendSuccess _) (channelOnSendFailure _))

theorem timeout (u : Bool) : HandsNoRequest (timeout u : M ω (Option UserCall)) := by
  refine bind fun _ ↦ bind fun a ↦ ?_
  split
  · exact retryOrFail u _
  · exact retryOrFail u _
  · exact retryOrFail u _
  · exact throw _

theorem catchObject (apData : List Byte) :
    HandsNoRequest (catchObject apData : M ω (Option UserCall)) := by
  refine bind fun p ↦ bind fun _ ↦ ite (pure trivial) ?_
  split
  · exact pure trivial
  · exact pure trivial
  · exact pure trivial
  · exact pure trivial
  · exact bind fun _ ↦ pure trivial

theorem onConfirm (r : APDU) : HandsNoRequest (onConfirm r : M ω (Option UserCall)) :=
  bind fun _ ↦ bind fun _ ↦ bind fun _ ↦
    ite (bind fun _ ↦ bind fun _ ↦ pure trivial) (pure trivial)

theorem processResponse (r : APDU) (aExpectFIR : Bool) :
    HandsNoRequest (processResponse r aExpectFIR : M ω (Option UserCall)) :=
  bind fun _ ↦ ite
    (bind fun _ ↦ ite (bind fun _ ↦ pure trivial)
      (bind fun _ ↦ bind fun _ ↦ bind fun _ ↦ pure trivial))
    (pure trivial)

theorem channelOnResponse (r : APDU) :
    HandsNoRequest (channelOnResponse r : M ω (Option UserCall)) := by
  refine bind fun _ ↦ ?_
  split
  · exact processResponse r true
  · exact processResponse r false
  · exact pure trivial

theorem onResponse (r : APDU) : HandsNoRequest (onResponse r : M ω (Option UserCall)) :=
  bind fun _ ↦ bind fun _ ↦ ite (bind fun _ ↦ channelOnResponse r) (channelOnResponse r)

theorem onUnsol (r : APDU) : HandsNoRequest (onUnsol r : M ω (Option UserCall)) :=
  bind fun _ ↦ ite (pure trivial) (bind fun _ ↦ pure trivial)

theorem onUnsolResponse (r : APDU) : HandsNoRequest (onUnsolResponse r : M ω (Option UserCall)) :=
  bind fun _ ↦ bind fun _ ↦ bind fun _ ↦ ite (bind fun _ ↦ onUnsol r) (onUnsol r)

end HandsNoRequest

/-- **A fragment that is handed to the user as a request.** -/
structure Takes (a : AppLayer ω) (apData : List Byte) (r : APDU) : Prop where
  size : apData.length ≤ a.fragSize
  interpret : APDU.interpret apData = .ok r
  request : isRequest r.getFunction = true
  uns : r.getControl.uns = false
  whole : (r.getControl.fir && r.getControl.fin) = true

/-- What `SolicitedChannel::OnRequest` says of the sequence number of a request. -/
def sequenceInfo (a : AppLayer ω) (arAPDU : APDU) : SequenceInfo :=
  if (arAPDU.getControl.seq : Int) = (a.channel false).mSequence then .prev
  else if (arAPDU.getControl.seq : Int) = nextSeq (a.channel false).mSequence then .correct
  else .other

theorem wp_receive_takes (apData : List Byte) (a : AppLayer ω) :
    wp (receive apData) (fun call _ ↦ ∀ r aSeqInfo, call = some (.onRequest r aSeqInfo) →
      a.Takes apData r ∧ aSeqInfo = a.sequenceInfo r) (fun _ _ ↦ True) a := by
  simp only [receive, wp_bind, wp_ensure, wp_get]
  split
  · next hsize =>
    cases hr : APDU.interpret apData with
    | error e => trivial
    | ok r =>
      rw [wp_lift_ok]
      have hnot {x : M ω (Option UserCall)} (hx : HandsNoRequest x) : wp x (fun call _ ↦
          ∀ r aSeqInfo, call = some (.onRequest r aSeqInfo) →
            a.Takes apData r ∧ aSeqInfo = a.sequenceInfo r) (fun _ _ ↦ True) a :=
        wp_mono (hx a) (fun _ _ h r i hc ↦ (hc ▸ h : NotRequest (some (.onRequest r i))).elim)
          fun _ _ _ ↦ trivial
      split
      · exact hnot (.onConfirm r)
      · exact hnot (.onResponse r)
      · exact hnot (.onUnsolResponse r)
      · next h1 h2 h3 =>
        have hrequest : isRequest r.getFunction = true := by
          unfold isRequest
          split <;> simp_all
        simp only [onRequest, wp_bind, wp_ensure, wp_get, wp_modify, wp_pure]
        split
        · split
          · split
            · intro q i hc
              obtain ⟨rfl, rfl⟩ := UserCall.onRequest.inj (Option.some.inj hc)
              exact ⟨⟨hsize, hr, hrequest, ‹_›, ‹_›⟩, rfl⟩
            · trivial
          · trivial
        · trivial
  · trivial

end AppLayer

end OpenDNP3
