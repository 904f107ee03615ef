import OpenDNP3.Lib.Run
import OpenDNP3.App.LayerSpec

/-!
# Runs of the application layer

What can happen to an application layer, in any order: the events of the lower layer and of the
timers, and the calls of the user.  A call that the user makes while the layer calls it is an
operation of its own here, which comes after the one that made the call; the `CheckForSend` at the
end of `OnSendResult` comes after both.

* `AppLayer.step` — one operation; `none` is what the lower layer or a timer cannot do then.
* `AppLayer.consistent_of_run` — whatever its user does, and whatever fragments it sends, the layer
  stays consistent.
* `AppLayer.keeps_in_step` — what this says of the channels, of the queue and of exceptions.
-/

set_option autoImplicit false

namespace OpenDNP3

open Handler

namespace AppLayer

variable {ω : Type}

/-! ## Operations -/

/-- What can happen to an application layer. -/
inductive Op (ω : Type) where
  | event (e : AppEvent)
  | checkForSend
  | sendRequest (arAPDU : OutAPDU ω)
  | sendResponse (arAPDU : OutAPDU ω)
  | sendUnsolicited (arAPDU : OutAPDU ω)
  | cancelResponse
  | cancelUnsolicitedRetries
  deriving DecidableEq, Repr

/-- What `_OnReceive` does with an exception of its `try`. -/
def onCatch (apData : List Byte) (ex : Exception) : M ω (Option UserCall) :=
  match ex with
  | .object _ => catchObject apData
  | _ => if ex.isCaught then return none else throw ex

/-- One operation, and the call that it makes. -/
def perform : Op ω → M ω (Option UserCall)
  | .event .lowerLayerUp => onLowerLayerUp
  | .event .lowerLayerDown => onLowerLayerDown
  | .event (.sendResult aSuccess) => onSendResult aSuccess
  | .event (.receive apData) => tryCatch (receive apData) (onCatch apData)
  | .event (.timeout aUnsol) => timeout aUnsol
  | .checkForSend => do checkForSend; return none
  | .sendRequest arAPDU => do sendRequest arAPDU; return none
  | .sendResponse arAPDU => do sendResponse arAPDU; return none
  | .sendUnsolicited arAPDU => do sendUnsolicited arAPDU; return none
  | .cancelResponse => cancel false
  | .cancelUnsolicitedRetries => do cancelRetries true; return none

/-- The channel that the operation sends a fragment on. -/
def Op.sends : Op ω → Option Bool
  | .sendRequest _ | .sendResponse _ => some false
  | .sendUnsolicited _ => some true
  | _ => none

/-- The link goes down. -/
def Op.isDown : Op ω → Bool
  | .event .lowerLayerDown => true
  | _ => false

/-- The lower layer goes up and down in turns, reports one result for each send and brings nothing
while it is down, and only a timer that runs expires. -/
def allowed (a : AppLayer ω) : Op ω → Bool
  | .event .lowerLayerUp => !a.mIsLowerLayerUp
  | .event .lowerLayerDown => a.mIsLowerLayerUp
  | .event (.sendResult _) => a.mSending
  | .event (.receive _) => a.mIsLowerLayerUp
  | .event (.timeout aUnsol) => (a.channel aUnsol).mpTimer
  | _ => true

/-- One operation; an exception stops it, and leaves what it has changed. -/
def step (a : AppLayer ω) (op : Op ω) : Option (AppLayer ω) :=
  if a.allowed op then some (exec (perform op) a).1 else none

/-! ## Operations of the user -/

variable {a t : AppLayer ω} {u : Bool} {f : OutAPDU ω}

/-- Whatever the handler does, the layer is consistent afterwards. -/
abbrev wpConsistent {α : Type} (x : M ω α) (a : AppLayer ω) : Prop :=
  wp x (fun _ t ↦ Consistent t) (fun _ t ↦ Consistent t) a

theorem Consistent.incrSequence (h : Consistent a) (u : Bool) (n : Int) :
    Consistent (a.setChannel u { a.channel u with mSequence := n }) :=
  (h.but u).setChannel ⟨(h.channel u).timer, (h.channel u).apdu, (h.channel u).queued⟩

theorem isSending_of_nextState {seq : Int} {func : FunctionCodes} {con : Bool} {s : ACS}
    (h : nextState seq func con = .ok s) : s.isSending = true := by
  unfold nextState at h
  repeat' split at h
  all_goals try contradiction
  all_goals
    rw [← Except.ok.inj h]
    rfl

theorem wpConsistent_sendOn (h : Consistent a) (hf : isFor u f = true) {func : FunctionCodes}
    (hfunc : f.function = some func) (aNumRetry : ℕ) :
    wpConsistent (sendOn u f func aNumRetry) a := by
  refine wp_sendOn_cases hfunc (fun _ ↦ h) (fun s hi hs ↦ ?_) fun e _ _ ↦ h.incrSequence u _
  have hsend : (sendChannel a u f s aNumRetry).mpState.isSending = true := isSending_of_nextState hs
  refine (h.send (c := sendChannel a u f s aNumRetry) hi hf hsend rfl ?_ ?_ ?_).consistent
  · rfl
  · rfl
  · rfl

/-- What is checked before a fragment is sent changes nothing. -/
theorem wp_ensure_or {p : Prop} [Decidable p] {e : Exception} {α : Type} {x : M ω α}
    (h : Consistent a) (hx : p → wpConsistent x a) : wpConsistent (do ensure p e; x) a := by
  rw [wpConsistent, wp_bind, wp_ensure]
  split
  · exact hx ‹_›
  · exact h

theorem wpConsistent_validate (h : Consistent a) (arCtrl : AppControlField)
    (aMaster aRequireFIRFIN aAllowCON aUNS : Bool) {α : Type} {x : M ω α}
    (hx : wpConsistent x a) :
    wpConsistent (do validate arCtrl aMaster aRequireFIRFIN aAllowCON aUNS; x) a := by
  rw [wpConsistent, wp_bind, validate, wp_bind, wp_get]
  simp only [wp_bind, wp_ensure]
  split
  · split
    · split
      · split
        · split
          · split
            · exact hx
            · exact h
          · exact h
        · exact h
      · exact h
    · exact h
  · exact h

theorem wpConsistent_getFunction (h : Consistent a) {α : Type} {x : FunctionCodes → M ω α}
    (hx : ∀ func, f.function = some func → wpConsistent (x func) a) :
    wpConsistent (do let func ← Handler.lift (getFunction f); x func) a := by
  rw [wpConsistent, wp_bind]
  cases hf : f.function with
  | none =>
    rw [getFunction, hf]
    exact h
  | some func =>
    rw [getFunction, hf, wp_lift_ok]
    exact hx func hf

theorem wpConsistent_sendRequest (h : Consistent a) (f : OutAPDU ω) :
    wpConsistent (sendRequest f) a := by
  refine wpConsistent_validate h _ _ _ _ _ (wpConsistent_getFunction h fun func hf ↦ ?_)
  refine wp_ensure_or h fun hr ↦ ?_
  rw [wpConsistent, wp_bind, wp_get]
  refine wpConsistent_sendOn h ?_ hf _
  rw [isFor, hf]
  revert hr
  cases func <;> first | exact fun _ ↦ rfl | exact Bool.noConfusion

theorem wpConsistent_sendResponse (h : Consistent a) (f : OutAPDU ω) :
    wpConsistent (sendResponse f) a := by
  refine wpConsistent_validate h _ _ _ _ _ (wpConsistent_getFunction h fun func hf ↦ ?_)
  refine wp_ensure_or h fun hr ↦ ?_
  rw [wpConsistent, wp_bind, wp_get]
  refine wpConsistent_sendOn h ?_ hf _
  rw [isFor, hf, hr]
  rfl

theorem wpConsistent_sendUnsolicited (h : Consistent a) (f : OutAPDU ω) :
    wpConsistent (sendUnsolicited f) a := by
  refine wpConsistent_validate h _ _ _ _ _ (wpConsistent_getFunction h fun func hf ↦ ?_)
  refine wp_ensure_or h fun hr ↦ ?_
  rw [wpConsistent, wp_bind, wp_get]
  refine wpConsistent_sendOn h ?_ hf _
  rw [isFor, hf, hr]

/-- A sending channel that is canceled. -/
theorem Consistent.canceled (h : Consistent a) (hs : (a.channel u).mpState.isSending = true) :
    Consistent (a.setChannel u { a.channel u with mpState := .sendCanceled }) := by
  have hc := h.channel u
  refine (h.but u).setChannel ⟨?_, fun _ ↦ hc.apdu (ACS.ne_idle_of_isSending hs), ?_⟩
  · exact hc.timer.trans (ACS.isWaiting_of_isSending hs)
  · rw [hc.queued, if_pos hs]
    rfl

theorem wpConsistent_cancel (h : Consistent a) (u : Bool) : wpConsistent (cancel u) a := by
  have hcancel := h.canceled (u := u)
  have htimer := (h.channel u).timer
  have hloose := h.loose_stopTimer (u := u)
  rw [wpConsistent, cancel, wp_bind, wp_get]
  revert hcancel htimer hloose
  cases hs : (a.channel u).mpState with
  | send => exact fun hcancel _ _ ↦ hcancel rfl
  | sendConfirmed => exact fun hcancel _ _ ↦ hcancel rfl
  | sendExpectResponse => exact fun hcancel _ _ ↦ hcancel rfl
  | waitForConfirm =>
    intro _ htimer hloose
    have hidle := (hloose rfl).idle
    simp only [changeState, cancelTimer, wp_bind, wp_modify, wp_get, wp_ensure,
      channel_setChannel_self, htimer, ACS.isWaiting, if_true, setChannel_setChannel, wp_pure]
    simpa only [stopTimer, channel_setChannel_self, setChannel_setChannel] using hidle
  | _ => exact fun _ _ _ ↦ h

/-! ## Every operation

An operation keeps the invariant, whether it returns or throws. -/

/-- An exception of a received fragment is caught. -/
theorem wpConsistent_onCatch (h : Consistent a) (apData : List Byte) {e : Exception}
    (he : e.isRejection = true) : wpConsistent (onCatch apData e) a := by
  unfold onCatch
  split
  · exact wp_mono (wp_catchObject h apData) (fun _ _ hp ↦ hp.consistent)
      (fun _ _ hp ↦ hp.2.consistent)
  · rw [if_pos (Exception.isCaught_of_isRejection he)]
    exact h

theorem wpConsistent_perform (h : Consistent a) {op : Op ω} (hop : a.allowed op = true) :
    wpConsistent (perform op) a := by
  cases op with
  | event e =>
    cases e with
    | lowerLayerUp =>
      exact wp_mono (wp_onLowerLayerUp h (by simpa [allowed] using hop)) (fun _ _ ht ↦ ht.2.1)
        (fun _ _ he ↦ he.elim)
    | lowerLayerDown =>
      exact wp_mono (wp_onLowerLayerDown hop) (fun _ _ ht ↦ ht.2.consistent)
        (fun _ _ he ↦ he.elim)
    | sendResult aSuccess =>
      exact wp_mono (wp_onSendResult h hop aSuccess) (fun _ _ hp ↦ hp.consistent)
        (fun _ _ he ↦ he.elim)
    | receive apData =>
      rw [wpConsistent, perform, wp_tryCatch]
      exact wp_mono (wp_receive h apData) (fun _ _ hp ↦ hp.consistent)
        (fun _ _ he ↦ wpConsistent_onCatch he.2.consistent apData he.1)
    | timeout u =>
      exact wp_mono (wp_timeout h hop) (fun _ _ hp ↦ hp.consistent) (fun _ _ he ↦ he.elim)
  | checkForSend =>
    rw [wpConsistent, perform, wp_bind]
    exact wp_mono (wp_checkForSend h) (fun _ _ hp ↦ hp.consistent) (fun _ _ he ↦ he.elim)
  | sendRequest f =>
    rw [wpConsistent, perform, wp_bind]
    exact wpConsistent_sendRequest h f
  | sendResponse f =>
    rw [wpConsistent, perform, wp_bind]
    exact wpConsistent_sendResponse h f
  | sendUnsolicited f =>
    rw [wpConsistent, perform, wp_bind]
    exact wpConsistent_sendUnsolicited h f
  | cancelResponse => exact wpConsistent_cancel h false
  | cancelUnsolicitedRetries =>
    have hc := h.channel true
    exact (h.but true).setChannel ⟨hc.timer, hc.apdu, hc.queued⟩

theorem step_eq_some {op : Op ω} (h : step a op = some t) :
    a.allowed op = true ∧ t = (exec (perform op) a).1 := by
  rw [step] at h
  split at h
  · exact ⟨‹_›, (Option.some.inj h).symm⟩
  · contradiction

/-- **The layer is consistent in every reachable state.** -/
theorem consistent_of_run {isMaster : Bool} {aFragSize aNumRetry : ℕ} {ops : List (Op ω)}
    (h : Run.run step (new isMaster aFragSize aNumRetry) ops = some a) : Consistent a := by
  refine Run.inv_of_run (fun s op t hs hstep ↦ ?_) (consistent_new isMaster aFragSize aNumRetry) h
  obtain ⟨hop, rfl⟩ := step_eq_some hstep
  exact exec_of_wp (Q := fun t _ ↦ Consistent t) (wpConsistent_perform hs hop)

/-! ## The channels and the queue -/

/-- A fragment belongs to one of the channels, or it is a confirmation. -/
theorem isFor_cases (h : f.function ≠ none) :
    isFor false f = true ∧ isFor true f = false ∧ isConfirm f = false ∨
      isFor false f = false ∧ isFor true f = true ∧ isConfirm f = false ∨
      isFor false f = false ∧ isFor true f = false ∧ isConfirm f = true := by
  obtain ⟨func, hfunc⟩ := Option.ne_none_iff_exists'.mp h
  simp only [isFor, isConfirm, hfunc]
  cases func <;> simp

theorem length_eq_countP {q : List (OutAPDU ω)} (h : ∀ f ∈ q, f.function ≠ none) :
    q.length = q.countP (isFor false) + q.countP (isFor true) + q.countP isConfirm := by
  induction q with
  | nil => rfl
  | cons f q ih =>
    rw [List.forall_mem_cons] at h
    have hq := ih h.2
    rcases isFor_cases h.1 with ⟨h₁, h₂, h₃⟩ | ⟨h₁, h₂, h₃⟩ | ⟨h₁, h₂, h₃⟩ <;>
      simp only [List.length_cons, List.countP_cons, h₁, h₂, h₃, if_true, if_false,
        Bool.false_eq_true] <;> omega

/-- There is room for a fragment of each channel, and for a confirmation. -/
theorem Consistent.length_queue_le (h : Consistent a) : a.mSendQueue.length ≤ 3 := by
  have hone (u : Bool) : a.mSendQueue.countP (isFor u) ≤ 1 := by
    rw [(h.channel u).queued]
    split <;> simp
  have hconfirm : a.mSendQueue.countP isConfirm ≤ 1 := by
    refine Nat.le_trans h.confirms ?_
    split <;> simp
  have hsol := hone false
  have hunsol := hone true
  rw [length_eq_countP h.queue]
  omega

/-- Only a fragment that is rejected stops an event. -/
theorem Consistent.throws (h : Consistent a) {e : AppEvent} (he : a.allowed (.event e) = true)
    {ex : Exception} (hex : (exec (perform (.event e : Op ω)) a).2 = some ex) :
    (∃ apData, e = .receive apData) ∧ ex.isRejection = true := by
  have key {P : Exception → Prop}
      (hp : wp (perform (.event e : Op ω)) (fun _ _ ↦ True) (fun ex _ ↦ P ex) a) : P ex :=
    exec_of_wp (Q := fun _ o ↦ ∀ ex, o = some ex → P ex)
      (wp_mono hp (fun _ _ _ ex h ↦ absurd h.symm (Option.some_ne_none ex)) fun _ _ hp _ h ↦
        Option.some.inj h ▸ hp) ex hex
  cases e with
  | lowerLayerUp =>
    exact (key (wp_mono (wp_onLowerLayerUp h (by simpa [allowed] using he)) (fun _ _ _ ↦ trivial)
      fun _ _ he ↦ he)).elim
  | lowerLayerDown =>
    exact (key (wp_mono (wp_onLowerLayerDown he) (fun _ _ _ ↦ trivial) fun _ _ he ↦ he)).elim
  | sendResult aSuccess =>
    exact (key (wp_mono (wp_onSendResult h he aSuccess) (fun _ _ _ ↦ trivial) fun _ _ he ↦ he)).elim
  | timeout u => exact (key (wp_mono (wp_timeout h he) (fun _ _ _ ↦ trivial) fun _ _ he ↦ he)).elim
  | receive apData =>
    refine ⟨⟨apData, rfl⟩, key (P := fun ex ↦ ex.isRejection = true) ?_⟩
    rw [perform, wp_tryCatch]
    refine wp_mono (wp_receive h apData) (fun _ _ _ ↦ trivial) fun ex' t he' ↦ ?_
    unfold onCatch
    split
    · -- the handler of an unknown object is outside of the `try`
      exact wp_mono (wp_catchObject he'.2.consistent apData) (fun _ _ _ ↦ trivial) fun _ _ hp ↦ hp.1
    · rw [if_pos (Exception.isCaught_of_isRejection he'.1)]
      trivial

/-- **The channels and the queue keep in step, in every run**, whatever the user sends and whatever
comes in.  A channel has one fragment in the queue while it is sending and none otherwise, its timer
runs while it waits and at no other time, and unless it is idle it has a fragment of its own to
repeat; there is at most one confirmation, and the queue never has more than three fragments.  No
event of the lower layer or of a timer throws, but for a fragment that is rejected. -/
theorem keeps_in_step {isMaster : Bool} {aFragSize aNumRetry : ℕ} {ops : List (Op ω)}
    (h : Run.run step (new isMaster aFragSize aNumRetry) ops = some a) :
    (∀ u, (a.channel u).mpTimer = (a.channel u).mpState.isWaiting ∧
      a.mSendQueue.countP (isFor u) = (if (a.channel u).mpState.isSending then 1 else 0) ∧
      ((a.channel u).mpState ≠ .idle → ∃ f, (a.channel u).mpSendAPDU = some f ∧ isFor u f = true)) ∧
    a.mSendQueue.countP isConfirm ≤ (if a.mConfirmSending then 1 else 0) ∧ a.mSendQueue.length ≤ 3 ∧
    (a.mSending = true → a.mSendQueue ≠ []) ∧
    ∀ e ex, a.allowed (.event e) = true → (exec (perform (.event e : Op ω)) a).2 = some ex →
      (∃ apData, e = .receive apData) ∧ ex.isRejection = true := by
  have hcons : Consistent a := consistent_of_run h
  refine ⟨fun u ↦ ?_, hcons.confirms, hcons.length_queue_le, hcons.sending, fun e ex he hex ↦
    hcons.throws he hex⟩
  exact ⟨(hcons.channel u).timer, (hcons.channel u).queued, (hcons.channel u).apdu⟩

/-- A master that has sent a request, and confirms what comes in meanwhile. -/
def requestAndConfirm : List (Op ℕ) :=
  [.event .lowerLayerUp, .sendRequest ((OutAPDU.new 249).set .read true true false false),
    .event (.receive [0xF0, 0x82, 0x00, 0x00]), .checkForSend]

theorem keeps_in_step_requestAndConfirm :
    ∃ a, Run.run step (new true 249 0) requestAndConfirm = some a ∧
    (∀ u, (a.channel u).mpTimer = (a.channel u).mpState.isWaiting ∧
      a.mSendQueue.countP (isFor u) = (if (a.channel u).mpState.isSending then 1 else 0) ∧
      ((a.channel u).mpState ≠ .idle → ∃ f, (a.channel u).mpSendAPDU = some f ∧ isFor u f = true)) ∧
    a.mSendQueue.countP isConfirm ≤ (if a.mConfirmSending then 1 else 0) ∧ a.mSendQueue.length ≤ 3 ∧
    (a.mSending = true → a.mSendQueue ≠ []) ∧
    ∀ e ex, a.allowed (.event e) = true → (exec (perform (.event e : Op ℕ)) a).2 = some ex →
      (∃ apData, e = .receive apData) ∧ ex.isRejection = true := by
  obtain ⟨a, ha⟩ : ∃ a, Run.run step (new true 249 0) requestAndConfirm = some a :=
    Option.isSome_iff_exists.mp (by decide +kernel)
  exact ⟨a, ha, keeps_in_step ha⟩

end AppLayer

end OpenDNP3
