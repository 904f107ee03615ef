import OpenDNP3.Lib.Throws
import OpenDNP3.Slave.Controls
import OpenDNP3.Slave.Pieces

/-!
# Timers that are not there, and timers that are

The slave has two timers.  `HandleWriteIIN` cancels the one of the clock through its pointer, which
is `NULL` unless the clock is to be synchronized, and `StartUnsolTimer` asserts that the other one
is not running.  This file goes through all that the outstation does, and finds that nothing else
has to do with them.

* `Exception.isTimerFault` — what is thrown then, and `Exception.Unrelated`, all other exceptions.
* `AppLayer.throws_enter`, `AppLayer.throws_call` — the application layer does not know the timers.
* `APDU.needTimeWrites` — how often a `WRITE` cancels the timer of the clock, as `HandleWrite` goes
  through its headers, and `Slave.wp_handleWrite`, which needs as many timers.
* `SlaveRest.FindsTimers` — what a piece of the slave asks of the timers.
* `SlaveRest.wp_perform` — **a piece that finds the timers so does not fault**.
-/

set_option autoImplicit false

namespace OpenDNP3

open Handler

/-- **The slave uses a timer that it does not have, or starts one that it has.** -/
def Exception.isTimerFault : Exception → Bool
  | .nullPointer aPointer => aPointer = "mpTimeTimer"
  | .assertion aCondition => aCondition = "mpUnsolTimer == NULL"
  | _ => false

/-- The exception has nothing to do with the timers of the slave. -/
abbrev Exception.Unrelated (e : Exception) : Prop := e.isTimerFault = false

theorem Exception.unrelated_of_isRejection {e : Exception} (h : e.isRejection = true) :
    e.Unrelated := by
  cases e with
  | general _ => rfl
  | argument _ => rfl
  | object _ => rfl
  | _ => exact Bool.noConfusion h

/-! ## The application layer -/

namespace AppLayer

open Exception

variable {ω : Type}

theorem throws_queueFrame (f : OutAPDU ω) : Throws Unrelated (queueFrame f) :=
  throws_bind (throws_modify _) fun _ ↦ throws_modify _

theorem throws_queueConfirm (aUnsol : Bool) (aSeq : ℕ) :
    Throws Unrelated (queueConfirm aUnsol aSeq : M ω Unit) :=
  throws_get_bind fun _ ↦ throws_bind (throws_ensure rfl) fun _ ↦
    throws_bind (throws_modify _) fun _ ↦ throws_queueFrame _

theorem throws_startTimer (aUnsol : Bool) : Throws Unrelated (startTimer aUnsol : M ω Unit) :=
  throws_get_bind fun _ ↦ throws_bind (throws_ensure rfl) fun _ ↦ throws_modify _

theorem throws_cancelTimer (aUnsol : Bool) : Throws Unrelated (cancelTimer aUnsol : M ω Unit) :=
  throws_get_bind fun _ ↦ throws_bind (throws_ensure rfl) fun _ ↦ throws_modify _

/-- A state of a channel does not expect the event. -/
theorem throws_invalidState {α : Type} (s : ACS) :
    Throws Unrelated (throw s.invalidState : M ω α) :=
  throws_throw rfl

/-- A channel changes its state, and calls the user. -/
theorem throws_become {α : Type} (aUnsol : Bool) (s : ACS) (call : α) :
    Throws Unrelated (do changeState aUnsol s; return call : M ω α) :=
  throws_bind (throws_modify _) fun _ ↦ throws_pure _

theorem throws_retryOrFail (aUnsol : Bool) (s : ACS) :
    Throws Unrelated (retryOrFail aUnsol s : M ω (Option UserCall)) := by
  refine throws_bind (throws_get_bind fun a ↦ throws_ite ?_ (throws_pure _)) fun retried ↦
    throws_ite (throws_pure _) (throws_become aUnsol .idle _)
  refine throws_bind (throws_modify _) fun _ ↦ ?_
  dsimp only
  split
  · exact throws_bind (throws_queueFrame _) fun _ ↦ throws_pure _
  · exact throws_bind (throws_throw (by decide)) fun _ ↦ throws_pure _

theorem throws_channelOnSendSuccess (aUnsol : Bool) :
    Throws Unrelated (channelOnSendSuccess aUnsol : M ω (Option UserCall)) := by
  have hwait (s : ACS) : Throws Unrelated (do
      changeState aUnsol s
      startTimer aUnsol
      return none : M ω (Option UserCall)) :=
    throws_bind (throws_modify _) fun _ ↦ throws_bind (throws_startTimer aUnsol)
      fun _ ↦ throws_pure _
  refine throws_get_bind fun a ↦ ?_
  cases (a.channel aUnsol).mpState with
  | send => exact throws_become aUnsol .idle _
  | sendConfirmed => exact hwait .waitForConfirm
  | sendExpectResponse => exact hwait .waitForFirstResponse
  | sendCanceled => exact throws_become aUnsol .idle _
  | _ => exact throws_invalidState _

theorem throws_channelOnSendFailure (aUnsol : Bool) :
    Throws Unrelated (channelOnSendFailure aUnsol : M ω (Option UserCall)) := by
  refine throws_get_bind fun a ↦ ?_
  cases (a.channel aUnsol).mpState with
  | sendCanceled => exact throws_become aUnsol .idle _
  | send => exact throws_retryOrFail aUnsol _
  | sendConfirmed => exact throws_retryOrFail aUnsol _
  | sendExpectResponse => exact throws_retryOrFail aUnsol _
  | _ => exact throws_invalidState _

theorem throws_cancel (aUnsol : Bool) :
    Throws Unrelated (cancel aUnsol : M ω (Option UserCall)) := by
  refine throws_get_bind fun a ↦ ?_
  cases (a.channel aUnsol).mpState with
  | send => exact throws_become aUnsol .sendCanceled _
  | sendConfirmed => exact throws_become aUnsol .sendCanceled _
  | sendExpectResponse => exact throws_become aUnsol .sendCanceled _
  | sendCanceled => exact throws_pure _
  | waitForConfirm =>
    exact throws_bind (throws_modify _) fun _ ↦ throws_bind (throws_cancelTimer aUnsol) fun _ ↦
      throws_pure _
  | _ => exact throws_invalidState _

theorem throws_timeout (aUnsol : Bool) :
    Throws Unrelated (timeout aUnsol : M ω (Option UserCall)) := by
  refine throws_bind (throws_modify _) fun _ ↦ throws_get_bind fun a ↦ ?_
  cases (a.channel aUnsol).mpState with
  | waitForConfirm => exact throws_retryOrFail aUnsol _
  | waitForFirstResponse => exact throws_retryOrFail aUnsol _
  | waitForFinalResponse => exact throws_retryOrFail aUnsol _
  | _ => exact throws_invalidState _

theorem throws_onConfirm (r : APDU) : Throws Unrelated (onConfirm r : M ω (Option UserCall)) := by
  refine throws_get_bind fun _ ↦ throws_bind (throws_ensure rfl) fun _ ↦ throws_get_bind fun a ↦ ?_
  refine throws_ite ?_ (throws_pure _)
  exact throws_bind (throws_cancelTimer _) fun _ ↦ throws_become _ .idle _

theorem throws_channelOnResponse (r : APDU) :
    Throws Unrelated (channelOnResponse r : M ω (Option UserCall)) := by
  have hprocess (aExpectFIR : Bool) :
      Throws Unrelated (processResponse r aExpectFIR : M ω (Option UserCall)) := by
    refine throws_get_bind fun a ↦ throws_ite ?_ (throws_pure _)
    refine throws_bind (throws_cancelTimer false) fun _ ↦ throws_ite
      (throws_become false .idle _) ?_
    exact throws_bind (throws_modify _) fun _ ↦ throws_bind (throws_modify _) fun _ ↦
      throws_bind (throws_startTimer false) fun _ ↦ throws_pure _
  refine throws_get_bind fun a ↦ ?_
  cases (a.channel false).mpState with
  | waitForFirstResponse => exact hprocess true
  | waitForFinalResponse => exact hprocess false
  | _ => exact throws_pure _

theorem throws_onUnsol (r : APDU) : Throws Unrelated (onUnsol r : M ω (Option UserCall)) :=
  throws_get_bind fun _ ↦ throws_ite (throws_pure _)
    (throws_bind (throws_modify _) fun _ ↦ throws_pure _)

theorem throws_call (aAct : Act ω) : Throws Unrelated aAct.call := by
  cases aAct with
  | checkForSend => exact throws_bind (throws_modify _) fun _ ↦ throws_pure _
  | channelOnResponse r => exact throws_channelOnResponse r
  | onUnsol r => exact throws_onUnsol r
  | setSendAPDU u f => exact throws_bind (throws_modify _) fun _ ↦ throws_pure _

/-! ### Calls of the user and of the lower layer -/

theorem fails_getFunction (f : OutAPDU ω) : Fails Unrelated (getFunction f) := by
  rw [getFunction]
  split
  · exact fails_ok _
  · exact fails_error (by decide)

theorem throws_validate (c : AppControlField) (aMaster aRequireFIRFIN aAllowCON aUNS : Bool) :
    Throws Unrelated (validate c aMaster aRequireFIRFIN aAllowCON aUNS : M ω Unit) :=
  throws_get_bind fun _ ↦ throws_bind (throws_ensure rfl) fun _ ↦ throws_bind
      (throws_ensure rfl) fun _ ↦
    throws_bind (throws_ensure rfl) fun _ ↦ throws_bind (throws_ensure rfl) fun _ ↦
      throws_bind (throws_ensure rfl) fun _ ↦ throws_ensure rfl

theorem fails_nextState (seq : Int) (func : FunctionCodes) (con : Bool) :
    Fails Unrelated (nextState seq func con) := by
  cases func with
  | confirm => exact fails_error rfl
  | response => exact fails_ite (fails_error rfl) (fails_ite (fails_ok _) (fails_ok _))
  | unsolicitedResponse => exact fails_ite (fails_ok _) (fails_ok _)
  | _ => exact fails_ite (fails_error rfl) (fails_ok _)

theorem throws_idleSend (aUnsol : Bool) (f : OutAPDU ω) (func : FunctionCodes) (n : ℕ) :
    Throws Unrelated (idleSend aUnsol f func n) := by
  have hrest : Throws Unrelated (do
      let seq := ((← get).channel aUnsol).mSequence
      let f := f.setControl { f.control with seq := seq.toNat }
      let next ← Handler.lift (nextState seq func f.control.con)
      modify fun a ↦ a.setChannel aUnsol { a.channel aUnsol with mpState := next, mNumRetry := n }
      queueFrame f
      return f : M ω (OutAPDU ω)) :=
    throws_get_bind fun a ↦ throws_bind (throws_lift (fails_nextState _ _ _)) fun _ ↦
      throws_bind (throws_modify _) fun _ ↦ throws_bind (throws_queueFrame _) fun _ ↦ throws_pure _
  exact throws_ite (throws_bind (throws_modify _) fun _ ↦ hrest) hrest

theorem throws_beginSend (aUnsol : Bool) (f : OutAPDU ω) : Throws Unrelated (beginSend aUnsol f) :=
  throws_bind (throws_lift (fails_getFunction f)) fun func ↦ throws_get_bind fun _ ↦
    throws_bind (throws_ensure rfl) fun _ ↦ throws_get_bind fun _ ↦
      throws_bind (throws_idleSend aUnsol f func _) fun _ ↦ throws_pure _

/-! ### What is received -/

theorem throws_onRequest (r : APDU) : Throws Unrelated (onRequest r : M ω (Option UserCall)) :=
  throws_bind (throws_ensure rfl) fun _ ↦ throws_bind (throws_ensure rfl) fun _ ↦
    throws_get_bind fun _ ↦ throws_bind (throws_ensure rfl) fun _ ↦ throws_get_bind fun _ ↦
      throws_bind (throws_modify _) fun _ ↦ throws_pure _

theorem throws_enterReceive (apData : List Byte) :
    Throws Unrelated (enterReceive apData : M ω (List (Act ω) × Option UserCall)) := by
  refine throws_get_bind fun a ↦ throws_get_bind fun b ↦ throws_bind (throws_ensure rfl) fun _ ↦
    throws_bind (throws_lift fun e he ↦ unrelated_of_isRejection (APDU.interpret_error he))
      fun r ↦ ?_
  dsimp only
  cases r.getFunction with
  | confirm => exact throws_bind (throws_onConfirm r) fun _ ↦ throws_pure _
  | response =>
    refine throws_bind (throws_ensure rfl) fun _ ↦ throws_get_bind fun a ↦ ?_
    exact throws_ite (throws_bind (throws_queueConfirm _ _) fun _ ↦ throws_pure _) (throws_pure _)
  | unsolicitedResponse =>
    refine throws_bind (throws_ensure rfl) fun _ ↦ throws_get_bind fun a ↦
      throws_bind (throws_ensure rfl) fun _ ↦ ?_
    exact throws_ite (throws_bind (throws_queueConfirm _ _) fun _ ↦ throws_pure _) (throws_pure _)
  | _ => exact throws_bind (throws_onRequest r) fun _ ↦ throws_pure _

/-- The `catch` throws again what it does not handle. -/
theorem throws_onCatch (apData : List Byte) {ex : Exception} (h : ex.Unrelated) :
    Throws Unrelated (onCatch apData ex : M ω (Option UserCall)) := by
  have hother : Throws Unrelated
      (if ex.isCaught then return none else throw ex : M ω (Option UserCall)) :=
    throws_ite (throws_pure _) (throws_throw h)
  cases ex with
  | object m =>
    refine throws_bind
      (throws_lift fun e he ↦ unrelated_of_isRejection (APDU.interpretHeader_error he))
      fun p ↦ throws_get_bind fun a ↦ throws_ite (throws_pure _) ?_
    cases p.2.1 with
    | confirm => exact throws_pure _
    | response => exact throws_pure _
    | unsolicitedResponse => exact throws_pure _
    | directOperateNoAck => exact throws_pure _
    | _ => exact throws_bind (throws_modify _) fun _ ↦ throws_pure _
  | _ => exact hother

theorem throws_onSendResult (aSuccess : Bool) :
    Throws Unrelated (onSendResult aSuccess : M ω (Option UserCall)) := by
  refine throws_get_bind fun a ↦ throws_bind (throws_ensure rfl) fun _ ↦ throws_get_bind fun a ↦ ?_
  cases a.mSendQueue with
  | nil => exact throws_throw (by decide)
  | cons f queue =>
    refine throws_bind (throws_modify _) fun _ ↦ throws_bind (throws_lift (fails_getFunction f))
        fun func ↦
      throws_bind (throws_modify _) fun _ ↦ throws_ite ?_ (throws_ite ?_ ?_)
    · exact throws_get_bind fun _ ↦ throws_bind (throws_ensure (by decide)) fun _ ↦
        throws_bind (throws_modify _) fun _ ↦ throws_pure _
    · exact throws_channelOnSendSuccess _
    · exact throws_channelOnSendFailure _

/-- **A call of the layer.** -/
theorem throws_enter (op : Op ω) : Throws Unrelated (enter op) := by
  have hsend {aUnsol : Bool} {f : OutAPDU ω} {c : AppControlField} {b₁ b₂ b₃ b₄ : Bool} {p : Prop}
      [Decidable p] {m : String} : Throws Unrelated (do
        validate c b₁ b₂ b₃ b₄
        ensure p (.argument m)
        beginSend aUnsol f) :=
    throws_bind (throws_validate _ _ _ _ _) fun _ ↦ throws_bind (throws_ensure rfl) fun _ ↦
      throws_beginSend _ _
  cases op with
  | event e =>
    cases e with
    | lowerLayerUp =>
      exact throws_bind (throws_get_bind fun _ ↦ throws_bind (throws_ensure rfl) fun _ ↦
        throws_bind (throws_modify _) fun _ ↦ throws_pure _) fun _ ↦ throws_pure _
    | lowerLayerDown =>
      exact throws_bind (throws_get_bind fun _ ↦ throws_bind (throws_ensure rfl) fun _ ↦
        throws_bind (throws_modify _) fun _ ↦ throws_pure _) fun _ ↦ throws_pure _
    | sendResult aSuccess => exact throws_bind (throws_onSendResult aSuccess) fun _ ↦ throws_pure _
    | receive apData =>
      exact throws_tryCatch (throws_enterReceive apData) fun ex hex ↦
        throws_bind (throws_onCatch apData hex) fun _ ↦ throws_pure _
    | timeout aUnsol => exact throws_bind (throws_timeout aUnsol) fun _ ↦ throws_pure _
  | checkForSend =>
    exact throws_bind (throws_bind (throws_modify _) fun _ ↦ throws_pure _) fun _ ↦ throws_pure _
  | sendRequest f => exact throws_bind hsend fun _ ↦ throws_pure _
  | sendResponse f => exact throws_bind hsend fun _ ↦ throws_pure _
  | sendUnsolicited f => exact throws_bind hsend fun _ ↦ throws_pure _
  | cancelResponse => exact throws_bind (throws_cancel false) fun _ ↦ throws_pure _
  | cancelUnsolicitedRetries =>
    exact throws_bind (throws_bind (throws_modify _) fun _ ↦ throws_pure _) fun _ ↦ throws_pure _

end AppLayer

/-! ## Reading and writing objects -/

namespace ObjectReadIterator

open Exception

theorem fails_setObjectInfo (it : ObjectReadIterator) : Fails Unrelated it.setObjectInfo := by
  have hcount : Fails Unrelated it.calcCountIndex := by
    rw [calcCountIndex]
    cases it.mHeaderInfo.mQualifier <;> first | exact fails_ok _ | exact fails_error rfl
  have hindex : Fails Unrelated it.calcIndex := by
    rw [calcIndex]
    cases it.mHeaderInfo.mHeader <;> first | exact hcount | exact fails_ok _
  exact fails_bind hindex fun _ ↦ fails_ok _

theorem fails_calcObjSize (it : ObjectReadIterator) : Fails Unrelated it.calcObjSize := by
  refine fails_ite (fails_ok _) ?_
  cases it.mHeaderInfo.mQualifier with
  | vcnt1BSize1B => exact fails_ok _
  | vcnt1BSize2B => exact fails_ok _
  | vcnt1BSize4B => exact fails_ok _
  | _ =>
    cases it.mHeaderInfo.mObjectBase.getType <;> first | exact fails_ok _ | exact fails_error rfl

theorem fails_beginRead (h : HeaderInfo) (aBuffer : List Byte) (d : Bool) :
    Fails Unrelated (beginRead h aBuffer d) :=
  fails_ite (fails_ok _)
    (fails_bind (fails_setObjectInfo _) fun _ ↦ fails_ite (fails_ok _) (fails_ok _))

theorem fails_next (it : ObjectReadIterator) : Fails Unrelated it.next := by
  have hmore (it : ObjectReadIterator) : Fails Unrelated (do
      let size ← it.calcObjSize
      { it with mpPrefixPos := it.mpPrefixPos +
        (it.mHeaderInfo.mPrefixSize + size) }.setObjectInfo) :=
    fails_bind (fails_calcObjSize it) fun _ ↦ fails_setObjectInfo _
  exact fails_ite (fails_error rfl)
    (fails_ite (fails_ok _) (fails_ite (hmore _) (fails_setObjectInfo _)))

theorem fails_deref (it : ObjectReadIterator) : Fails Unrelated it.deref :=
  fails_ite (fails_error rfl) (fails_ite (fails_error rfl) (fails_ok _))

end ObjectReadIterator

namespace IndexedWriteIterator

open Exception

theorem fails_setIndex (it : IndexedWriteIterator) (i : ℕ) : Fails Unrelated (it.setIndex i) :=
  fails_ite (fails_error rfl)
    (fails_ite (fails_error rfl) (fails_ite (fails_error rfl) (fails_ok _)))

theorem fails_deref (it : IndexedWriteIterator) : Fails Unrelated it.deref :=
  fails_ite (fails_error rfl) (fails_ok _)

theorem fails_next (it : IndexedWriteIterator) : Fails Unrelated it.next :=
  fails_ite (fails_error rfl) (fails_ite (fails_error rfl) (fails_ok _))

theorem fails_getIndexMode (q : QualifierCode) : Fails Unrelated (getIndexMode q) := by
  cases q <;> first | exact fails_ok _ | exact fails_error rfl

end IndexedWriteIterator

theorem fails_getCountHeader (q : QualifierCode) : Fails Exception.Unrelated
    (getCountHeader q) := by
  cases q <;> first | exact fails_ok _ | exact fails_error rfl

namespace OutAPDU

open Exception

variable {ω : Type}

theorem fails_writeIndexed (f : OutAPDU ω) (apObj : ObjectBase) (aObjSize aCount : ℕ)
    (aCode : QualifierCode) : Fails Unrelated (f.writeIndexed apObj aObjSize aCount aCode) := by
  have hprefix : Fails Unrelated (getPrefixSizeAndValidate aCode (.fixed aObjSize)) :=
    fun _ h ↦ unrelated_of_isRejection (getPrefixSizeAndValidate_error h)
  refine fails_bind (fails_ite (fails_error rfl) (fails_ok _)) fun _ ↦ fails_bind hprefix fun _ ↦
    fails_bind (fails_getCountHeader aCode) fun _ ↦ fails_ite (fails_ok _)
      (fails_ite (fails_ok _) ?_)
  exact fails_ite (fails_error rfl)
    (fails_bind (IndexedWriteIterator.fails_getIndexMode aCode) fun _ ↦ fails_ok _)

theorem fails_setIIN (f : OutAPDU ω) (iin : IINField) : Fails Unrelated (f.setIIN iin) :=
  fails_bind (fails_ite (fails_ok _) (fails_error (by decide))) fun _ ↦
    fails_bind (fails_ite (fails_ok _) (fails_error (by decide))) fun _ ↦ fails_ok _

end OutAPDU

/-! ## The objects of a loop

The loop over the objects of a header is known by the list of the objects that are left. -/

namespace ObjectReadIterator

variable {σ : Type}

/-- **The loop and the objects that are left.**  If it returns, it has come to all of them. -/
theorem wp_forEachAux {body : ObjectReadIterator → EStateM Exception σ Unit}
    {I : List ObjectReadIterator → σ → Prop}
    (hbody : ∀ it its s, I (it :: its) s →
      wp (body it) (fun _ t ↦ I its t) (fun e _ ↦ e.Unrelated) s)
    {n : ℕ} {it : ObjectReadIterator} {s : σ} (hs : I (it.walk n) s) :
    wp (forEachAux body n it) (fun _ t ↦ I [] t ∧ (it.walk n).length = n)
      (fun e _ ↦ e.Unrelated) s := by
  induction n generalizing it s with
  | zero => exact ⟨hs, rfl⟩
  | succ n ih =>
    rw [walk] at hs ⊢
    rw [forEachAux, wp_bind]
    refine wp_mono (hbody it _ s hs) (fun _ t ht ↦ ?_) fun _ _ he ↦ he
    rw [wp_bind]
    cases hnext : it.next with
    | error e => exact fails_next it e hnext
    | ok it' =>
      rw [hnext] at ht
      rw [wp_lift_ok]
      refine wp_mono (ih ht) (fun _ u hu ↦ ⟨hu.1, ?_⟩) fun _ _ he ↦ he
      rw [List.length_cons, hu.2]

/-- To start reading is to have all objects left. -/
theorem count_of_beginRead {h : HeaderInfo} {aBuffer : List Byte} {d : Bool}
    {it : ObjectReadIterator}
    (heq : beginRead h aBuffer d = .ok it) : it.count - it.mCurrentObjectNum = h.mCount := by
  have hset {it it' : ObjectReadIterator} (heq : it.setObjectInfo = .ok it') :
      it'.count = it.count ∧ it'.mCurrentObjectNum = it.mCurrentObjectNum := by
    obtain ⟨n, _, heq⟩ := except_bind_eq_ok.mp heq
    obtain rfl := Except.ok.inj heq
    exact ⟨rfl, rfl⟩
  rw [beginRead] at heq
  simp only [bind, Except.bind, pure, Except.pure] at heq
  repeat' split at heq
  all_goals try contradiction
  · obtain rfl := Except.ok.inj heq
    rfl
  · next hit _ =>
    obtain rfl := Except.ok.inj heq
    obtain ⟨hcount, hnum⟩ := hset hit
    exact (congrArg₂ (· - ·) hcount hnum :)
  · next hit _ =>
    obtain rfl := Except.ok.inj heq
    obtain ⟨hcount, hnum⟩ := hset hit
    exact (congrArg₂ (· - ·) hcount hnum :)

end ObjectReadIterator

/-! ## Writing the internal indications -/

/-- The objects of a header that clear the indication that the time is needed. -/
def APDU.timeWrites (r : APDU) (h : HeaderInfo) : ℕ :=
  if h.mGroup ≠ 112 ∧ h.radix = radix 80 1 then
    (r.objects h).countP fun it ↦ it.mIndex = Slave.needTimeIndex
  else 0

/-- `HandleWrite` goes on behind the header: no exception of the iterator ends it. -/
def APDU.goesOn (r : APDU) (h : HeaderInfo) : Bool :=
  h.mGroup = 112 → (r.objects h).length = h.mCount

theorem APDU.goesOn_iff {r : APDU} {h : HeaderInfo} :
    r.goesOn h = true ↔ (h.mGroup = 112 → (r.objects h).length = h.mCount) := decide_eq_true_iff

/-- **The objects of a request that clear the indication that the time is needed**, as `HandleWrite`
comes to them. -/
def APDU.needTimeWrites (r : APDU) : List HeaderInfo → ℕ
  | [] => 0
  | h :: hs => r.timeWrites h + if r.goesOn h then r.needTimeWrites hs else 0

namespace Slave

open Exception

section Writes

variable {ν ρ : Type}

/-- What keeps a predicate and throws nothing about the timers. -/
theorem wp_of_stable {α : Type} {I : Slave ν ρ → Prop} {x : M ν ρ α} (hI : Stable I x)
    (hx : Throws Unrelated x) {s : Slave ν ρ} (hs : I s) :
    wp x (fun _ t ↦ I t) (fun e _ ↦ e.Unrelated) s :=
  wp_mono (wp_and (hI s hs) (hx s)) (fun _ _ h ↦ h.1) fun _ _ h ↦ h.2

theorem throws_setRspIIN (f : IINField → IINField) : Throws Unrelated (setRspIIN f : M ν ρ Unit) :=
  throws_modify _

theorem throws_note (aAct : SlaveAct) : Throws Unrelated (note aAct : M ν ρ Unit) := throws_modify _

theorem throws_beginRead (r : APDU) (h : HeaderInfo) : Throws Unrelated (beginRead r h : M ν ρ _) :=
  throws_lift (ObjectReadIterator.fails_beginRead _ _ _)

/-- The loop over the objects of a header, with the objects that are left. -/
theorem wp_beginRead {r : APDU} {h : HeaderInfo} {body : ObjectReadIterator → M ν ρ Unit}
    {I : List ObjectReadIterator → Slave ν ρ → Prop}
    (hbody : ∀ it its s, I (it :: its) s →
      wp (body it) (fun _ t ↦ I its t) (fun e _ ↦ e.Unrelated) s)
    {s : Slave ν ρ} (hs : I (r.objects h) s) :
    wp (do
        let it ← beginRead r h
        it.forEachObject body)
      (fun _ t ↦ I [] t ∧ (r.objects h).length = h.mCount) (fun e _ ↦ e.Unrelated) s := by
  rw [wp_bind, beginRead]
  rw [APDU.objects] at hs ⊢
  cases hit : ObjectReadIterator.beginRead h r.mBuffer (hasData r.getFunction) with
  | error e => exact ObjectReadIterator.fails_beginRead _ _ _ e hit
  | ok it =>
    rw [hit] at hs
    rw [wp_lift_ok, ObjectReadIterator.forEachObject, ObjectReadIterator.count_of_beginRead hit]
    exact ObjectReadIterator.wp_forEachAux hbody hs

/-- The timer of the clock, as a number of timers. -/
def timeTimers (s : Slave ν ρ) : ℕ := s.mpTimeTimer.toNat

/-- `HandleWriteIIN` cancels the timer for each object that clears the indication. -/
theorem wp_handleWriteIIN {r : APDU} {h : HeaderInfo} {n : ℕ} {s : Slave ν ρ}
    (hs : ((r.objects h).countP fun it ↦ it.mIndex = needTimeIndex) + n ≤ s.timeTimers) :
    wp (handleWriteIIN r h) (fun _ t ↦ n ≤ t.timeTimers) (fun e _ ↦ e.Unrelated) s := by
  let I : List ObjectReadIterator → Slave ν ρ → Prop := fun its t ↦
    (its.countP fun it ↦ it.mIndex = needTimeIndex) + n ≤ t.timeTimers
  have hbits (pos start index : ℕ) : Fails Unrelated (bitfieldRead r.mBuffer pos start index) :=
    fails_bind (fails_ite (fails_ok _) (fails_error (by decide))) fun _ ↦ fails_ok _
  rw [handleWriteIIN]
  refine wp_mono (wp_beginRead (I := I) (fun it its t ht ↦ ?_) hs) (fun _ t ht ↦ ?_) fun _ _ he ↦ he
  · have hrest : I its t := by
      simp only [I, List.countP_cons] at ht ⊢
      omega
    refine wp_ite (fun _ ↦ ?_) fun _ ↦ wp_ite (fun h4 ↦ ?_) fun _ ↦ hrest
    · refine wp_of_stable (I := I its) ?_ ?_ hrest
      · refine stable_bind (stable_lift _) fun _ ↦ stable_bind (stable_lift _)
          fun _ ↦ stable_ite ?_ ?_
        · exact stable_bind (stable_modify fun _ h ↦ h) fun _ ↦ stable_modify fun _ h ↦ h
        · exact stable_modify fun _ h ↦ h
      · exact throws_bind (throws_lift (ObjectReadIterator.fails_deref it)) fun _ ↦
          throws_bind (throws_lift (hbits _ _ _)) fun _ ↦
            throws_ite (throws_bind (throws_modify _) fun _ ↦ throws_note _) (throws_setRspIIN _)
    · -- the object takes the one timer that there is
      simp only [I, timeTimers, List.countP_cons, decide_eq_true h4, if_true] at ht
      cases htimer : t.mpTimeTimer with
      | false =>
        rw [htimer, Bool.toNat_false] at ht
        omega
      | true =>
        rw [htimer, Bool.toNat_true] at ht
        rw [wp_bind, wp_get, wp_bind, wp_ensure_of htimer]
        change (its.countP fun it ↦ it.mIndex = needTimeIndex) + n ≤ 0
        omega
  · simpa [I] using ht.1

/-- `HandleWriteVto` touches no timer, and if it returns, it has come to all objects. -/
theorem wp_handleWriteVto {r : APDU} {h : HeaderInfo} {n : ℕ} {s : Slave ν ρ}
    (hs : n ≤ s.timeTimers) :
    wp (handleWriteVto r h) (fun _ t ↦ n ≤ t.timeTimers ∧ (r.objects h).length = h.mCount)
      (fun e _ ↦ e.Unrelated) s := by
  rw [handleWriteVto]
  refine wp_beginRead (I := fun _ t ↦ n ≤ t.timeTimers) (fun it _ t ht ↦ ?_) hs
  refine wp_ite (fun _ ↦ ?_) fun _ ↦ ht
  refine wp_of_stable (I := fun t : Slave ν ρ ↦ n ≤ t.timeTimers) ?_ ?_ ht
  · exact stable_bind (stable_lift _) fun _ ↦ stable_modify fun _ h ↦ h
  · exact throws_bind (throws_lift (ObjectReadIterator.fails_deref it)) fun _ ↦ throws_note _

theorem throws_handleWriteVto (r : APDU) (h : HeaderInfo) :
    Throws Unrelated (handleWriteVto r h : M ν ρ Unit) :=
  fun s ↦ wp_mono (wp_handleWriteVto (Nat.zero_le s.timeTimers)) (fun _ _ _ ↦ trivial)
    fun _ _ he ↦ he

/-- `HandleWriteTimeDate` touches no timer. -/
theorem wp_handleWriteTimeDate {r : APDU} {h : HeaderInfo} {n : ℕ} {s : Slave ν ρ}
    (hs : n ≤ s.timeTimers) :
    wp (handleWriteTimeDate r h) (fun _ t ↦ n ≤ t.timeTimers) (fun e _ ↦ e.Unrelated) s := by
  refine wp_of_stable (I := fun t : Slave ν ρ ↦ n ≤ t.timeTimers) ?_ ?_ hs
  · refine stable_bind (fun _ h ↦ h) fun _ ↦ stable_ite ?_ (stable_pure _)
    refine stable_bind (stable_beginRead _ _) fun obj ↦ stable_ite (stable_modify fun _ h ↦ h) ?_
    exact stable_bind (stable_lift _) fun _ ↦ stable_bind (stable_modify fun _ h ↦ h) fun _ ↦
      stable_modify fun _ h ↦ h
  · refine throws_get_bind fun t ↦ throws_ite ?_ (throws_pure _)
    refine throws_bind (throws_beginRead r h) fun obj ↦ throws_ite (throws_setRspIIN _) ?_
    exact throws_bind (throws_lift (ObjectReadIterator.fails_deref obj)) fun _ ↦
      throws_bind (throws_note _) fun _ ↦ throws_modify _

/-- **A `WRITE`** cancels the timer of the clock at most as often as there is one. -/
theorem wp_handleWrite {r : APDU} {s : Slave ν ρ}
    (hs : r.needTimeWrites r.mObjectHeaders ≤ s.timeTimers) :
    wp (handleWrite r) (fun _ _ ↦ True) (fun e _ ↦ e.Unrelated) s := by
  rw [handleWrite]
  generalize r.mObjectHeaders = hs' at hs
  induction hs' generalizing s with
  | nil => trivial
  | cons h hs' ih =>
    rw [APDU.needTimeWrites] at hs
    rw [wp_forM_cons]
    refine wp_ite (fun hvto ↦ ?_) fun hvto ↦ ?_
    · have hle : (if r.goesOn h then r.needTimeWrites hs' else 0) ≤ s.timeTimers :=
        Nat.le_trans (Nat.le_add_left _ _) hs
      refine wp_mono (wp_handleWriteVto hle) (fun _ t ht ↦ ih ?_) fun _ _ he ↦ he
      rw [if_pos (APDU.goesOn_iff.mpr fun _ ↦ ht.2)] at ht
      exact ht.1
    · rw [if_pos (APDU.goesOn_iff.mpr fun hg ↦ absurd hg hvto)] at hs
      have hle : r.needTimeWrites hs' ≤ s.timeTimers := Nat.le_trans (Nat.le_add_left _ _) hs
      refine wp_ite (fun hiin ↦ ?_) fun _ ↦ wp_ite (fun _ ↦ ?_) fun _ ↦ ih hle
      · rw [APDU.timeWrites, if_pos ⟨hvto, hiin⟩] at hs
        exact wp_mono (wp_handleWriteIIN hs) (fun _ t ht ↦ ih ht) fun _ _ he ↦ he
      · exact wp_mono (wp_handleWriteTimeDate hle) (fun _ t ht ↦ ih ht) fun _ _ he ↦ he

theorem throws_handleVtoTransfer (r : APDU) : Throws Unrelated (handleVtoTransfer r : M ν ρ Unit) :=
  throws_forM fun h ↦ throws_ite (throws_handleWriteVto r h) (throws_setRspIIN _)

end Writes

/-! ## Other requests -/

section Requests

variable {ν ρ υ : Type} [SetpointValue ν] (env : Environment ρ υ)

theorem throws_respondLoop {apObj : CommandObject} {arFunc : Command ν → ℕ → M ν ρ CommandStatus}
    (hfunc : ∀ val index, Throws Unrelated (arFunc val index)) (n : ℕ) (arIter : ObjectReadIterator)
    (i : IndexedWriteIterator) : Throws Unrelated (respondLoop apObj arFunc n arIter i) := by
  induction n generalizing arIter i with
  | zero => exact throws_pure _
  | succ n ih =>
    refine throws_bind (throws_lift (ObjectReadIterator.fails_deref arIter))
        fun _ ↦ throws_get_bind fun _ ↦
      throws_bind (throws_ite (throws_pure _) (hfunc _ _)) fun _ ↦ ?_
    exact throws_bind (throws_lift (i.fails_setIndex _)) fun i ↦ throws_bind
        (throws_lift i.fails_deref) fun _ ↦
      throws_bind (throws_modify _) fun _ ↦ throws_bind (throws_lift i.fails_next) fun i ↦
        throws_bind (throws_lift (ObjectReadIterator.fails_next arIter)) fun arIter ↦ ih arIter i

theorem throws_forEachCommand {r : APDU}
    {arFunc : HeaderInfo → CommandTypes → Command ν → ℕ → M ν ρ CommandStatus}
    (hfunc : ∀ hdr aType val index, Throws Unrelated (arFunc hdr aType val index)) :
    Throws Unrelated (forEachCommand r arFunc) := by
  refine throws_bind (throws_modify _) fun _ ↦ throws_forM fun h ↦ throws_bind
    (throws_beginRead r h) fun i ↦ ?_
  split
  · refine throws_get_bind fun s ↦ throws_bind (throws_lift (OutAPDU.fails_writeIndexed _ _ _ _ _))
      fun p ↦ ?_
    exact throws_bind (throws_modify _) fun _ ↦ throws_respondLoop (hfunc h _) _ i _
  · exact throws_setRspIIN _

omit [SetpointValue ν] in
theorem throws_getTimeStamp : Throws Unrelated (getTimeStamp env : M ν ρ Int) :=
  throws_get_bind fun _ ↦ throws_bind (throws_modify _) fun _ ↦ throws_pure _

omit [SetpointValue ν] in
theorem throws_select (aType : CommandTypes) (arCmd : CommandRequestInfo ν) (aIndex : ℕ) :
    Throws Unrelated (select env aType arCmd aIndex : M ν ρ _) := by
  have hdeselect (res : CommandStatus) : Throws Unrelated (do
      if res = .tooManyOps then
        modify fun s ↦ { s with mpCmdMaster := s.mpCmdMaster.deselectAll }
      return res : M ν ρ CommandStatus) :=
    throws_ite (throws_bind (throws_modify _) fun _ ↦ throws_pure _) (throws_pure _)
  refine throws_bind (throws_getTimeStamp env) fun now ↦ throws_get_bind fun s ↦
    throws_bind (throws_modify _) fun _ ↦ ?_
  exact throws_ite (throws_bind (throws_setRspIIN _) fun _ ↦ hdeselect _) (hdeselect _)

theorem throws_operate (aType : CommandTypes) (arCmd : CommandRequestInfo ν) (aDirect : Bool)
    (aIndex : ℕ) :
    Throws Unrelated (operate env aType arCmd aDirect aIndex : M ν ρ _) := by
  refine throws_bind (throws_modify _) fun _ ↦ throws_bind (throws_getTimeStamp env) fun now ↦
    throws_get_bind fun s ↦ throws_bind (throws_modify _) fun _ ↦ throws_ite ?_ ?_
  · exact throws_ite (throws_bind (throws_setRspIIN _) fun _ ↦ throws_pure _) (throws_pure _)
  · exact throws_bind (throws_note _) fun _ ↦ throws_get_bind fun _ ↦ throws_pure _

omit [SetpointValue ν] in
theorem throws_handleEnableUnsolicited (r : APDU) (aIsEnable : Bool) :
    Throws Unrelated (handleEnableUnsolicited r aIsEnable : M ν ρ Unit) := by
  have hheaders : Throws Unrelated (r.mObjectHeaders.forM fun hdr ↦
      let setMask (f : ClassMask → ClassMask) : M ν ρ Unit :=
        modify fun s ↦ { s with
          mConfig := { s.mConfig with mUnsolMask := f s.mConfig.mUnsolMask } }
      if hdr.radix = radix 60 2 then setMask fun m ↦ { m with class1 := aIsEnable }
      else if hdr.radix = radix 60 3 then setMask fun m ↦ { m with class2 := aIsEnable }
      else if hdr.radix = radix 60 4 then setMask fun m ↦ { m with class3 := aIsEnable }
      else Slave.setRspIIN (·.setFuncNotSupported true)) :=
    throws_forM fun hdr ↦ throws_ite (throws_modify _)
      (throws_ite (throws_modify _) (throws_ite (throws_modify _) (throws_setRspIIN _)))
  refine throws_bind (throws_modify _) fun _ ↦ throws_get_bind fun s ↦ throws_ite
    (throws_setRspIIN _) ?_
  exact throws_ite (throws_bind (throws_modify _) fun _ ↦ hheaders) hheaders

omit [SetpointValue ν] in
theorem throws_configureDelayMeasurement (r : APDU) :
    Throws Unrelated (configureDelayMeasurement r : M ν ρ Unit) := by
  refine throws_ite (throws_bind (throws_setRspIIN _) fun _ ↦ ?_) ?_
  all_goals
    exact throws_bind (throws_modify _) fun _ ↦ throws_get_bind fun s ↦
      throws_bind (throws_lift (OutAPDU.fails_writeIndexed _ _ _ _ _)) fun p ↦
        throws_bind (throws_modify _) fun _ ↦ throws_bind
            (throws_lift (p.2.fails_setIndex 0)) fun i ↦
          throws_bind (throws_lift i.fails_deref) fun _ ↦ throws_modify _

namespace Piece

variable {env} {apNext : AS} {r : APDU} {aSeqInfo : SequenceInfo} {s : Slave ν ρ}

omit [SetpointValue ν] in
/-- A function of a request, after which the response is to be sent. -/
theorem throws_thenSend {x : M ν ρ Unit} (hx : Throws Unrelated x) :
    Throws Unrelated (do changeState apNext; x; return [SlaveRest.send false]) :=
  throws_bind (throws_modify _) fun _ ↦ throws_bind hx fun _ ↦ throws_pure _

omit [SetpointValue ν] in
theorem throws_configureAndSendSimpleResponse :
    Throws Unrelated (configureAndSendSimpleResponse : M ν ρ (List SlaveRest)) :=
  throws_bind (throws_modify _) fun _ ↦ throws_pure _

/-- **What the slave owes to its timer** before it executes a request. -/
def Harmless (s : Slave ν ρ) (arRequest : APDU) (aSeqInfo : SequenceInfo) : Prop :=
  arRequest.getFunction = .write → aSeqInfo ≠ .prev →
    arRequest.needTimeWrites arRequest.mObjectHeaders ≤ s.timeTimers

theorem wp_switch (hnext : apNext ≠ .closed) (hs : Harmless s r aSeqInfo) :
    wp (switchOnFunction env apNext r aSeqInfo) (fun _ _ ↦ True) (fun e _ ↦ e.Unrelated) s := by
  rw [Harmless] at hs
  unfold switchOnFunction
  generalize r.getFunction = func at hs
  cases func with
  | read =>
    refine Throws.wp ?_ s
    exact throws_bind (throws_modify _) fun _ ↦ throws_bind (throws_modify _)
        fun _ ↦ throws_get_bind fun t ↦
      throws_bind (throws_modify _) fun _ ↦ throws_bind (throws_modify _) fun _ ↦
        throws_bind (throws_setRspIIN _) fun _ ↦ throws_pure _
  | write =>
    have htimer : timeTimers { s with
        mpState := apNext, mpTimeTimer := s.mpTimeTimer && decide (apNext ≠ .closed) } =
          s.timeTimers := by
      rw [timeTimers, decide_eq_true hnext, Bool.and_true, timeTimers]
    rw [wp_bind, changeState, wp_modify]
    refine wp_ite (fun hprev ↦ ?_) fun _ ↦ throws_configureAndSendSimpleResponse _
    rw [wp_bind, note, wp_modify, wp_bind]
    refine wp_mono (wp_handleWrite ?_) (fun _ t _ ↦ throws_configureAndSendSimpleResponse t)
      fun _ _ he ↦ he
    exact Nat.le_trans (hs rfl hprev) (Nat.le_of_eq htimer.symm)
  | proprietaryVtoTransfer =>
    refine Throws.wp (throws_bind (throws_modify _) fun _ ↦ ?_) s
    refine throws_ite (throws_bind (throws_note _) fun _ ↦ ?_) throws_configureAndSendSimpleResponse
    exact throws_bind (throws_handleVtoTransfer r) fun _ ↦ throws_configureAndSendSimpleResponse
  | select =>
    exact (throws_thenSend (throws_bind (throws_modify _) fun _ ↦
      throws_forEachCommand fun _ _ _ _ ↦ throws_select env _ _ _)).wp s
  | operate =>
    exact (throws_thenSend (throws_get_bind fun _ ↦ throws_ite (throws_pure _)
      (throws_bind (throws_note _) fun _ ↦
        throws_forEachCommand fun _ _ _ _ ↦ throws_operate env _ _ _ _))).wp s
  | directOperate =>
    exact (throws_bind (throws_modify _) fun _ ↦ throws_bind (throws_note _) fun _ ↦
      throws_bind (throws_forEachCommand fun _ _ _ _ ↦ throws_operate env _ _ _ _) fun _ ↦
        throws_pure _).wp s
  | directOperateNoAck =>
    exact (throws_bind (throws_note _) fun _ ↦
      throws_bind (throws_forEachCommand fun _ _ _ _ ↦ throws_operate env _ _ _ _) fun _ ↦
        throws_pure _).wp s
  | enableUnsolicited => exact (throws_thenSend (throws_handleEnableUnsolicited r true)).wp s
  | disableUnsolicited => exact (throws_thenSend (throws_handleEnableUnsolicited r false)).wp s
  | delayMeasure => exact (throws_thenSend (throws_configureDelayMeasurement r)).wp s
  | _ => exact rfl

/-- **A request is executed.** -/
theorem wp_execute (hnext : apNext ≠ .closed) {q : Request}
    (hs : Harmless s q.mRequest q.mSeqInfo) :
    wp (doRequest env apNext q) (fun _ _ ↦ True) (fun e _ ↦ e.Unrelated) s := by
  rw [doRequest, wp_bind, wp_modify, wp_bind, note, wp_modify, wp_bind, wp_tryCatch]
  refine wp_mono (wp_switch hnext hs) (fun _ _ _ ↦ trivial) fun e t he ↦ ?_
  cases e with
  | notSupported m =>
    exact throws_bind (throws_modify _) (fun _ ↦ throws_bind (throws_setRspIIN _) fun _ ↦
      throws_configureAndSendSimpleResponse) t
  | _ => exact he

end Piece

end Requests

end Slave

/-! ## Pieces of calls -/

namespace SlaveRest

open Slave Exception

variable {ν ρ υ : Type}

/-- The request that the piece executes. -/
def executes (s : Slave ν ρ) : SlaveRest → Option Request
  | .user (.onRequest arAPDU aSeqInfo) _ =>
    if s.mpState = .idle ∨ s.mpState = .waitForUnsolSuccess ∧ arAPDU.getFunction ≠ .read then
      some ⟨arAPDU, aSeqInfo, s.received.length⟩
    else none
  | .flush .request => if s.mpState = .idle then s.mDeferredRequest else none
  | _ => none

/-- The piece is told that the unsolicited response that the slave waits for has failed. -/
def failsUnsol (s : Slave ν ρ) : SlaveRest → Bool
  | .user (.onFailure true) _ => s.mpState.expects (.onFailure true)
  | _ => false

/-- **The piece finds the timers as it needs them.**  No timer of unsolicited responses runs when
one has failed, and a request clears the indication that the time is needed at most as often as
there is a timer. -/
structure FindsTimers (s : Slave ν ρ) (frame : SlaveRest) : Prop where
  unsol : frame.failsUnsol s = true → s.mpUnsolTimer = false
  time : ∀ r, frame.executes s = some r → Piece.Harmless s r.mRequest r.mSeqInfo

variable [SetpointValue ν] {env : Environment ρ υ} {s : Slave ν ρ}

/-- A piece that never throws. -/
theorem wp_of_does {frame : SlaveRest} (h : ∀ t, ¬Does env s frame none t) :
    wp (frame.perform env) (fun _ _ ↦ True) (fun e _ ↦ e.Unrelated) s :=
  wp_mono (does_perform frame s) (fun _ _ _ ↦ trivial) fun _ t ht ↦ absurd ht (h t)

omit [SetpointValue ν] in
/-- What calls `FlushDeferredEvents` at its end. -/
theorem throws_thenFlush {x : M ν ρ Unit} (hx : Throws Unrelated x) :
    Throws Unrelated (do x; return Piece.flushDeferredEvents) :=
  throws_bind hx fun _ ↦ throws_pure _

omit [SetpointValue ν] in
theorem throws_onUp : Throws Unrelated (stateOnLowerLayerUp : M ν ρ Unit) := by
  refine throws_get_bind fun s ↦ throws_bind (throws_ensure rfl) fun _ ↦ ?_
  have hreset : Throws Unrelated (do resetTimeIIN; changeState .idle : M ν ρ Unit) :=
    throws_bind (throws_bind (throws_modify _) fun _ ↦ throws_modify _) fun _ ↦ throws_modify _
  have hrestart : Throws Unrelated (do restartTimeSyncTimer; changeState .idle : M ν ρ Unit) :=
    throws_bind (throws_modify _) fun _ ↦ throws_modify _
  exact throws_ite (throws_ite hreset hrestart) (throws_modify _)

/-- **A call of the layer** other than a request and the failure of an unsolicited response. -/
theorem throws_user {call : UserCall} (hrequest : ∀ r info, call ≠ .onRequest r info)
    (hfail : call ≠ .onFailure true) : Throws Unrelated (Piece.user env call : M ν ρ _) := by
  have hstate {α : Type} (s : AS) : Throws Unrelated (throw s.invalidState : M ν ρ α) :=
    throws_throw rfl
  cases call with
  | onLowerLayerUp => exact throws_thenFlush throws_onUp
  | onLowerLayerDown =>
    exact throws_bind (throws_modify _) fun _ ↦ throws_thenFlush
      (throws_get_bind fun _ ↦ throws_bind (throws_ensure rfl) fun _ ↦ throws_modify _)
  | onSendSuccess aUnsol =>
    cases aUnsol with
    | false =>
      refine throws_bind (throws_get_bind fun s ↦ ?_) fun _ ↦ throws_pure _
      cases s.mpState with
      | waitForRspSuccess =>
        refine throws_bind (throws_modify _) fun _ ↦ throws_get_bind fun t ↦ throws_ite ?_ ?_
        · exact throws_bind (throws_modify _) fun _ ↦ throws_pure _
        · exact throws_bind (throws_modify _) fun _ ↦ throws_pure _
      | waitForSolUnsolSuccess => exact throws_bind (throws_modify _) fun _ ↦ throws_pure _
      | _ => exact hstate _
    | true =>
      have hsuccess (aState : AS) :
          Throws Unrelated (do changeState aState; doUnsolSuccess env : M ν ρ Unit) :=
        throws_bind (throws_modify _) fun _ ↦ throws_bind (throws_modify _) fun _ ↦
          throws_bind (throws_modify _) fun _ ↦ throws_bind (throws_modify _)
            fun _ ↦ throws_modify _
      refine throws_thenFlush (throws_get_bind fun s ↦ ?_)
      cases s.mpState with
      | waitForUnsolSuccess => exact hsuccess .idle
      | waitForSolUnsolSuccess => exact hsuccess .waitForRspSuccess
      | _ => exact hstate _
  | onFailure aUnsol =>
    cases aUnsol with
    | false =>
      refine throws_thenFlush (throws_get_bind fun s ↦ ?_)
      cases s.mpState with
      | waitForRspSuccess => exact throws_bind (throws_modify _) fun _ ↦ throws_modify _
      | waitForSolUnsolSuccess => exact throws_modify _
      | _ => exact hstate _
    | true => exact absurd rfl hfail
  | onRequest r info => exact absurd rfl (hrequest r info)
  | onUnknownObject =>
    refine throws_bind
        (throws_get_bind fun _ ↦ throws_bind (throws_modify _) fun _ ↦ throws_pure _) fun n ↦
      throws_bind (throws_get_bind fun s ↦ ?_) fun _ ↦ throws_pure _
    cases s.mpState with
    | idle =>
      exact throws_bind (throws_modify _) fun _ ↦
        throws_bind (throws_bind (throws_modify _) fun _ ↦ throws_setRspIIN _) fun _ ↦
          throws_bind (throws_modify _) fun _ ↦ throws_pure _
    | _ => exact throws_bind (throws_modify _) fun _ ↦ throws_pure _
  | onPartialResponse r => exact throws_throw rfl
  | onFinalResponse r => exact throws_throw rfl
  | onUnsolResponse r => exact throws_throw rfl

/-- An unsolicited response has failed, and no timer runs. -/
theorem wp_onUnsolFailure
    (h : s.mpState.expects (.onFailure true) = true → s.mpUnsolTimer = false) :
    wp (Piece.user env (.onFailure true)) (fun _ _ ↦ True) (fun e _ ↦ e.Unrelated) s := by
  have hstart {t : Slave ν ρ} (ht : t.mpUnsolTimer = false) :
      wp (do startUnsolTimer; return ([] : List SlaveRest)) (fun _ _ ↦ True)
        (fun e _ ↦ e.Unrelated) t := by
    rw [startUnsolTimer, wp_bind, wp_bind, wp_get, wp_bind, wp_ensure_of ht]
    trivial
  rw [Piece.user, wp_bind]
  refine wp_mono (Q := fun _ _ ↦ True) ?_ (fun _ _ _ ↦ trivial) fun _ _ he ↦ he
  rw [Piece.stateOnUnsolFailure, wp_bind, wp_get]
  cases hs : s.mpState with
  | waitForUnsolSuccess => exact hstart (h (by rw [hs]; rfl))
  | waitForSolUnsolSuccess =>
    dsimp only
    rw [changeState, wp_bind, wp_modify, resetRspContext, wp_bind, wp_modify, wp_bind, wp_get]
    exact wp_ite (fun _ ↦ hstart (h (by rw [hs]; rfl))) fun _ ↦ trivial
  | closed => exact rfl
  | idle => exact rfl
  | waitForRspSuccess => exact rfl

theorem wp_request {r : APDU} {info : SequenceInfo} {apData : List Byte}
    (h : FindsTimers s (.user (.onRequest r info) apData)) :
    wp (Piece.user env (.onRequest r info)) (fun _ _ ↦ True) (fun e _ ↦ e.Unrelated) s := by
  have hdefer (q : Request) : Throws Unrelated (Piece.deferRequest q : M ν ρ _) :=
    throws_bind (throws_modify _) fun _ ↦ throws_pure _
  have hexec {apNext : AS} (hnext : apNext ≠ .closed) {t : Slave ν ρ}
    (ht : t.mpTimeTimer = s.mpTimeTimer)
      (hs : executes s (.user (.onRequest r info) apData) = some ⟨r, info, s.received.length⟩) :
      wp (do
        let frames ← Piece.doRequest env apNext ⟨r, info, s.received.length⟩
        return frames ++ Piece.flushDeferredEvents) (fun _ _ ↦ True) (fun e _ ↦ e.Unrelated) t := by
    have hharm : Piece.Harmless t r info := by
      rw [Piece.Harmless, timeTimers, ht]
      exact h.time _ hs
    rw [wp_bind]
    exact wp_mono (Piece.wp_execute hnext hharm) (fun _ _ _ ↦ trivial) fun _ _ he ↦ he
  have hstate : (s.arrived (some r)).mpState = s.mpState := rfl
  rw [Piece.user, wp_bind, wp_arrive, Piece.onRequest, wp_bind, wp_get, hstate]
  cases hs : s.mpState with
  | closed => exact rfl
  | idle => exact hexec AS.noConfusion rfl (if_pos (.inl hs))
  | waitForRspSuccess => trivial
  | waitForUnsolSuccess =>
    refine wp_ite (fun _ ↦ ?_) fun hf ↦ ?_
    · exact throws_bind (throws_zoom (throws_modify _)) (fun _ ↦ hdefer _) _
    · exact hexec (t := { s.arrived (some r) with mDeferredRequest := none }) AS.noConfusion rfl
        (if_pos (.inr ⟨hs, hf⟩))
  | waitForSolUnsolSuccess => exact hdefer _ _

theorem wp_user {call : UserCall} {apData : List Byte} (h : FindsTimers s (.user call apData)) :
    wp (Piece.user env call) (fun _ _ ↦ True) (fun e _ ↦ e.Unrelated) s := by
  by_cases hfail : call = .onFailure true
  · rw [hfail] at h ⊢
    exact wp_onUnsolFailure h.unsol
  by_cases hrequest : ∃ r info, call = .onRequest r info
  · obtain ⟨r, info, rfl⟩ := hrequest
    exact wp_request h
  · exact throws_user (fun r info hr ↦ hrequest ⟨r, info, hr⟩) hfail s

theorem wp_flush {d : Deferred} (h : FindsTimers s (.flush d)) :
    wp ((SlaveRest.flush d).perform env) (fun _ _ ↦ True) (fun e _ ↦ e.Unrelated) s := by
  cases d with
  | request =>
    rw [perform, wp_bind]
    refine wp_mono (Q := fun _ _ ↦ True) ?_ (fun _ _ _ ↦ trivial) fun _ _ he ↦ he
    rw [Piece.flush, wp_bind, wp_get]
    by_cases hs : s.mpState = .idle
    · rw [hs]
      cases hr : s.mDeferredRequest with
      | none => trivial
      | some q =>
        have hharm : Piece.Harmless s q.mRequest q.mSeqInfo :=
          h.time q (by rw [executes, if_pos hs, hr])
        exact Piece.wp_execute (s := { s with mDeferredRequest := none }) AS.noConfusion hharm
    · cases hst : s.mpState with
      | idle => exact absurd hst hs
      | _ => trivial
  | update => exact wp_of_does (by rintro t ⟨⟩)
  | unsol => exact wp_of_does (by rintro t ⟨⟩)
  | unknown => trivial

theorem throws_receive (apData : List Byte) :
    Throws Unrelated ((SlaveRest.receive apData).perform env : M ν ρ _) := by
  refine throws_get_bind fun t ↦ throws_bind (throws_ensure rfl) fun _ ↦ ?_
  refine throws_tryCatch (throws_bind (throws_zoom (AppLayer.throws_enterReceive apData)) fun _ ↦
    throws_pure _) fun ex hex ↦ ?_
  exact throws_bind (throws_zoom (AppLayer.throws_onCatch apData hex)) fun _ ↦ throws_pure _

theorem throws_send (aUnsol : Bool) :
    Throws Unrelated ((SlaveRest.send aUnsol).perform env : M ν ρ _) := by
  refine throws_get_bind fun t ↦ throws_bind (throws_setRspIIN _) fun _ ↦ throws_get_bind fun u ↦
    throws_bind (throws_lift (OutAPDU.fails_setIIN _ _)) fun f ↦ throws_bind
        (throws_modify _) fun _ ↦
      throws_bind (throws_zoom (AppLayer.throws_enter _)) fun p ↦ ?_
  exact throws_ite (throws_bind (throws_note _) fun _ ↦ throws_pure _) (throws_pure _)

/-- **A piece that finds the timers as it needs them does not fault.** -/
theorem wp_perform {frame : SlaveRest} (h : frame.FindsTimers s) :
    wp (frame.perform env) (fun _ _ ↦ True) (fun e _ ↦ e.Unrelated) s := by
  cases frame with
  | layer op => exact throws_bind (throws_zoom (AppLayer.throws_enter op)) (fun _ ↦ throws_pure _) s
  | receive apData => exact throws_receive apData s
  | act aAct =>
    exact throws_bind (throws_zoom (AppLayer.throws_call aAct)) (fun _ ↦ throws_pure _) s
  | user call apData => exact wp_user h
  | send aUnsol => exact throws_send aUnsol s
  | deferRequest q => trivial
  | setLastRequest aBuffer => trivial
  | onDataUpdate => exact wp_of_does (by rintro t ⟨⟩)
  | onUnsolTimerExpiration => exact wp_of_does (by rintro t ⟨⟩)
  | flush d => exact wp_flush h
  | handled => trivial
  | caught apData => trivial
  | returned => trivial

end SlaveRest

end OpenDNP3
