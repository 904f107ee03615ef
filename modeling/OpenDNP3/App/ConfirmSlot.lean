import OpenDNP3.App.LayerSteps

/-!
# The slot of the confirmation

There is one confirmation fragment, and `mConfirmSending` says that it is in use.  As long as it is,
a response that asks for a confirmation is turned away.

The layer is taken apart here at its calls to the outside.  While it calls the lower layer or its
user, either may call it back: the lower layer may report the result of a send at once, and the user
may send at once.  What is left of the interrupted calls is a stack of activities.

* `AppLayer.Activity` and `AppLayer.move` — a call comes in, also while others are under way; or the
  call to the outside on top returns, and the rest of the call that made it runs.
* `AppLayer.slot_of_guarded` — the flag is up exactly while the confirmation is in the queue, in
  every run in which the link never goes down with the confirmation in the queue.
-/

set_option autoImplicit false

namespace OpenDNP3

open Handler

namespace AppLayer

variable {ω : Type}

/-! ## Interrupted calls

A call of the layer may call the lower layer or the user, and these may call the layer again
before they return. So a call is a list of pieces, and between two of them other calls may run. -/

/-- What is left of a call of the layer when its call to the outside returns. -/
inductive Act (ω : Type) where
  /-- The end of `OnSendResult`. -/
  | checkForSend
  /-- The end of `OnResponse`. -/
  | channelOnResponse (r : APDU)
  /-- The end of `OnUnsolResponse`. -/
  | onUnsol (r : APDU)
  /-- The end of `AppLayerChannel::Send`. -/
  | setSendAPDU (aUnsol : Bool) (arAPDU : OutAPDU ω)
  deriving DecidableEq, Repr

/-- The rest of the call runs. -/
def Act.perform : Act ω → M ω Unit
  | .checkForSend => AppLayer.checkForSend
  | .channelOnResponse r => do
    let _ ← AppLayer.channelOnResponse r
    return ()
  | .onUnsol r => do
    let _ ← AppLayer.onUnsol r
    return ()
  | .setSendAPDU u f => modify fun a ↦ a.setChannel u { a.channel u with mpSendAPDU := some f }

/-- `AppLayerChannel::Send` up to its call of the lower layer. -/
def beginSend (aUnsol : Bool) (arAPDU : OutAPDU ω) : M ω (List (Act ω)) := do
  let func ← Handler.lift (getFunction arAPDU)
  let c := (← get).channel aUnsol
  ensure (c.mpState = .idle) c.mpState.invalidState
  let arAPDU ← idleSend aUnsol arAPDU func ((← get).getRetries func)
  return [.setSendAPDU aUnsol arAPDU]

/-- `_OnReceive` up to its call of the lower layer. -/
def beginReceive (apData : List Byte) : M ω (List (Act ω)) := do
  ensure (apData.length ≤ (← get).fragSize)
    (.argument s!"Size {apData.length} exceeds max fragment size of {(← get).fragSize}")
  let mIncoming ← Handler.lift (APDU.interpret apData)
  let arCtrl := mIncoming.getControl
  match mIncoming.getFunction with
  | .confirm =>
    let _ ← onConfirm mIncoming
    return []
  | .response =>
    ensure (arCtrl.uns = false) (.general "Bad unsol bit")
    if arCtrl.con && ((← get).channel false).mpState.acceptsResponse then
      queueConfirm false arCtrl.seq
    return [.channelOnResponse mIncoming]
  | .unsolicitedResponse =>
    ensure (arCtrl.uns = true) (.general "ALERR_BAD_UNSOL_BIT")
    ensure ((← get).isMaster = true) (.general "SERR_FUNC_NOT_SUPPORTED")
    if arCtrl.con then queueConfirm true arCtrl.seq
    return [.onUnsol mIncoming]
  | _ =>
    let _ ← onRequest mIncoming
    return []

/-- An operation up to its call to the outside, and what is left of it then. -/
def begin : Op ω → M ω (List (Act ω))
  | .event (.sendResult aSuccess) => do
    let _ ← onSendResult aSuccess
    return [.checkForSend]
  | .event (.receive apData) =>
    tryCatch (beginReceive apData) fun ex ↦ do
      let _ ← onCatch apData ex
      return []
  | .sendRequest arAPDU => do
    validate arAPDU.control true true false false
    ensure (arAPDU.function.any isRequest = true) (.argument "Non-request function code")
    beginSend false arAPDU
  | .sendResponse arAPDU => do
    validate arAPDU.control false false true false
    ensure (arAPDU.function = some .response) (.argument "Non-response function code")
    beginSend false arAPDU
  | .sendUnsolicited arAPDU => do
    validate arAPDU.control false true true true
    ensure (arAPDU.function = some .unsolicitedResponse)
      (.argument "Non-unsolicited function code")
    beginSend true arAPDU
  | op => do
    let _ ← perform op
    return []

/-- The layer with the calls that are under way. -/
structure Activity (ω : Type) where
  app : AppLayer ω
  acts : List (Act ω)

/-- What can happen next. -/
inductive Move (ω : Type) where
  /-- A call comes in. -/
  | enter (op : Op ω)
  /-- The call to the outside on top returns. -/
  | resume
  /-- The call to the outside on top ends with an exception. -/
  | unwind
  deriving DecidableEq, Repr

/-- **One move**.  An exception ends the call that it is thrown in. -/
def move (c : Activity ω) : Move ω → Option (Activity ω)
  | .enter op =>
    match begin op c.app with
    | .ok acts t => some ⟨t, acts ++ c.acts⟩
    | .error _ t => some ⟨t, c.acts⟩
  | .resume =>
    match c.acts with
    | [] => none
    | act :: acts => some ⟨(exec act.perform c.app).1, acts⟩
  | .unwind =>
    match c.acts with
    | [] => none
    | _ :: acts => some ⟨c.app, acts⟩

/-! ## The invariant -/

/-- The flag counts the confirmations in the queue, and a channel sends none. -/
structure Slot (a : AppLayer ω) : Prop where
  count : a.mSendQueue.countP isConfirm = if a.mConfirmSending then 1 else 0
  apdu : ∀ v f, (a.channel v).mpSendAPDU = some f → isConfirm f = false

variable {a t : AppLayer ω} {u : Bool} {f : OutAPDU ω}

theorem slot_new (isMaster : Bool) (aFragSize aNumRetry : ℕ) :
    Slot (new isMaster aFragSize aNumRetry : AppLayer ω) where
  count := rfl
  apdu v f hf := by
    have hnone : ((new isMaster aFragSize aNumRetry : AppLayer ω).channel v).mpSendAPDU = none := by
      cases v <;> rfl
    exact absurd (hnone.symm.trans hf) (Option.some_ne_none f).symm

/-- The flag is up exactly while the confirmation is in the queue. -/
theorem Slot.flag_iff (h : Slot a) :
    a.mConfirmSending = true ↔ ∃ f ∈ a.mSendQueue, isConfirm f = true := by
  rw [← List.countP_pos_iff, h.count]
  split
  · next hc => simp [hc]
  · next hc => simp [hc]

theorem Slot.setChannel (h : Slot a) {c : AppLayerChannel ω}
    (hc : ∀ f, c.mpSendAPDU = some f → isConfirm f = false) : Slot (a.setChannel u c) where
  count := by simpa using h.count
  apdu v f hf := by
    rw [channel_setChannel] at hf
    split at hf
    · exact hc f hf
    · exact h.apdu v f hf

/-- Another fragment in the queue, which is no confirmation. -/
theorem Slot.enqueue (h : Slot a) (hf : isConfirm f = false) (s : Bool) :
    Slot { a with mSendQueue := a.mSendQueue ++ [f], mSending := s } where
  count := by
    rw [List.countP_append, List.countP_singleton, hf]
    exact h.count
  apdu := h.apdu

theorem isConfirm_eq_false {func : FunctionCodes} (hfunc : f.function = some func)
    (hne : func ≠ .confirm) : isConfirm f = false := by
  rw [isConfirm, hfunc]
  simp [hne]

/-- **Small changes keep the slot**: the confirmation takes it when it is queued, which it is only
if it is free, and frees it when it leaves the queue. -/
theorem closed_slot : Closed (Slot : AppLayer ω → Prop) := by
  intro a t hs h
  cases hs with
  | channel u c hapdu => exact h.setChannel fun f hf ↦ h.apdu u f (hapdu.symm.trans hf)
  | retry u f hsend hf => exact h.enqueue (h.apdu u f hf) true
  | confirm u n hfree =>
    refine ⟨?_, h.apdu⟩
    rw [List.countP_append, h.count, if_neg (by rw [hfree]; exact Bool.false_ne_true)]
    rfl
  | pop f q hq =>
    have hcount := h.count
    rw [hq, List.countP_cons] at hcount
    refine ⟨?_, h.apdu⟩
    change q.countP isConfirm = if (a.mConfirmSending && !isConfirm f) = true then 1 else 0
    cases hf : isConfirm f with
    | false => simpa [hf] using hcount
    | true =>
      simp only [hf, if_true] at hcount
      split at hcount
      · simpa using hcount
      · exact absurd hcount (Nat.succ_ne_zero _)
  | sending s => exact ⟨h.count, h.apdu⟩
  | up => exact ⟨h.count, h.apdu⟩

theorem stable_onUnsol (r : APDU) : Stable Slot (onUnsol r : M ω _) :=
  stable_bind (fun _ h ↦ h) fun _ ↦ stable_ite (stable_pure _) <|
    stable_bind (stable_modify fun _ h ↦ h.setChannel fun f hf ↦ h.apdu true f hf) fun _ ↦
      stable_pure _

/-! ## Calls -/

/-- What is left of a call puts no confirmation into a channel. -/
def Act.Sound : Act ω → Prop
  | .setSendAPDU _ f => isConfirm f = false
  | _ => True

/-- The flag counts the confirmations, and goes on to do so. -/
structure Activity.Sound (c : Activity ω) : Prop where
  slot : Slot c.app
  acts : ∀ act ∈ c.acts, act.Sound

theorem stable_act {act : Act ω} (h : act.Sound) : Stable Slot act.perform := by
  cases act with
  | checkForSend => exact closed_slot.checkForSend
  | channelOnResponse r =>
    exact stable_bind (closed_slot.channelOnResponse r) fun _ ↦ stable_pure _
  | onUnsol r => exact stable_bind (stable_onUnsol r) fun _ ↦ stable_pure _
  | setSendAPDU u f =>
    exact stable_modify fun a ha ↦ ha.setChannel fun g hg ↦ Option.some.inj hg ▸ h

/-- What the start of a call comes to. -/
abbrev wpSound (x : M ω (List (Act ω))) (a : AppLayer ω) : Prop :=
  wp x (fun acts t ↦ Slot t ∧ ∀ act ∈ acts, act.Sound) (fun _ t ↦ Slot t) a

/-- A call that is over, or that leaves behind what is sound. -/
theorem wpSound_of_stable {α : Type} {x : M ω α} (hx : Stable Slot x) {acts : List (Act ω)}
    (hacts : ∀ act ∈ acts, act.Sound) (h : Slot a) :
    wpSound (do let _ ← x; return acts) a := by
  rw [wpSound, wp_bind]
  exact wp_mono (hx a h) (fun _ _ ht ↦ ⟨ht, hacts⟩) (fun _ _ he ↦ he)

theorem sound_nil : ∀ act ∈ ([] : List (Act ω)), act.Sound := fun _ h ↦ absurd h List.not_mem_nil

theorem sound_singleton (act : Act ω) (h : act.Sound) : ∀ b ∈ [act], b.Sound := by
  intro b hb
  rw [List.mem_singleton.mp hb]
  exact h

theorem wp_idleSend_slot (h : Slot a) (hf : isConfirm f = false) (func : FunctionCodes) (n : ℕ) :
    wp (idleSend u f func n) (fun g t ↦ Slot t ∧ isConfirm g = false) (fun _ t ↦ Slot t) a := by
  -- the fragment keeps its function, whatever the sequence number and the next state
  have hsend (seq : Int) (s : ACS) {b : AppLayer ω} (hb : Slot b) :
      wp (do
        modify fun a ↦ a.setChannel u { a.channel u with mpState := s, mNumRetry := n }
        queueFrame (withSequence f seq)
        return withSequence f seq) (fun g t ↦ Slot t ∧ isConfirm g = false)
          (fun _ t ↦ Slot t) b := by
    simp only [wp_bind, wp_modify, wp_queueFrame, wp_pure]
    have hf' : isConfirm (withSequence f seq) = false := hf
    refine ⟨Slot.enqueue (hb.setChannel ?_) hf' true, hf'⟩
    exact fun g hg ↦ hb.apdu u g hg
  have hnext (seq : Int) {b : AppLayer ω} (hb : Slot b) :
      wp (do
        let next ← Handler.lift (nextState seq func f.control.con)
        modify fun a ↦ a.setChannel u { a.channel u with mpState := next, mNumRetry := n }
        queueFrame (withSequence f seq)
        return withSequence f seq) (fun g t ↦ Slot t ∧ isConfirm g = false)
          (fun _ t ↦ Slot t) b := by
    rw [wp_bind]
    cases nextState seq func f.control.con with
    | error e => exact hb
    | ok s => exact hsend seq s hb
  rw [idleSend]
  split
  · rw [wp_bind, incrSequence, wp_modify]
    exact hnext _ (h.setChannel fun g hg ↦ h.apdu u g hg)
  · exact hnext (a.channel u).mSequence h

theorem wpSound_beginSend (h : Slot a) (hf : isConfirm f = false) : wpSound (beginSend u f) a := by
  rw [wpSound, beginSend, wp_bind]
  cases getFunction f with
  | error e => exact h
  | ok func =>
    simp only [wp_lift_ok, wp_bind, wp_get, wp_ensure]
    split
    · refine wp_mono (wp_idleSend_slot h hf func _) (fun g t ht ↦ ⟨ht.1, ?_⟩) (fun _ _ he ↦ he)
      exact sound_singleton _ ht.2
    · exact h

theorem wpSound_beginReceive (h : Slot a) (apData : List Byte) :
    wpSound (beginReceive apData) a := by
  simp only [wpSound, beginReceive, wp_bind, wp_get, wp_ensure]
  split
  · cases APDU.interpret apData with
    | error e => exact h
    | ok r =>
      rw [wp_lift_ok]
      split
      · exact wpSound_of_stable (closed_slot.onConfirm r) sound_nil h
      · rw [wp_bind, wp_ensure]
        split
        · rw [wp_bind, wp_get]
          split
          · exact wpSound_of_stable (closed_slot.queueConfirm _ _)
              (sound_singleton (.channelOnResponse r) trivial) h
          · exact ⟨h, sound_singleton _ trivial⟩
        · exact h
      · rw [wp_bind, wp_ensure]
        split
        · rw [wp_bind, wp_get, wp_bind, wp_ensure]
          split
          · split
            · exact wpSound_of_stable (closed_slot.queueConfirm _ _)
                (sound_singleton (.onUnsol r) trivial) h
            · exact ⟨h, sound_singleton _ trivial⟩
          · exact h
        · exact h
      · exact wpSound_of_stable (closed_slot.onRequest r) sound_nil h
  · exact h

/-- The link goes down while no confirmation is in the queue. -/
theorem stable_onLowerLayerDown (h : Slot a) (hd : ∀ f ∈ a.mSendQueue, isConfirm f = false) :
    wp onLowerLayerDown (fun _ t ↦ Slot t) (fun _ t ↦ Slot t) a := by
  rw [onLowerLayerDown, wp_bind, wp_get, wp_bind, wp_ensure]
  split
  · have hc : a.mConfirmSending = false := by
      refine Bool.eq_false_iff.mpr fun hc ↦ ?_
      obtain ⟨f, hf, hconf⟩ := h.flag_iff.mp hc
      exact Bool.false_ne_true ((hd f hf).symm.trans hconf)
    refine ⟨?_, fun v f hf ↦ h.apdu v f ?_⟩
    · change 0 = if a.mConfirmSending = true then 1 else 0
      rw [hc]
      rfl
    · rw [← hf]
      cases v <;> rfl
  · exact h

/-- The link does not go down while a confirmation is in the queue. -/
def KeepsConfirm (c : Activity ω) : Move ω → Prop
  | .enter (.event .lowerLayerDown) => ∀ f ∈ c.app.mSendQueue, isConfirm f = false
  | _ => True

theorem wpSound_begin (h : Slot a) (op : Op ω)
    (hd : KeepsConfirm ⟨a, []⟩ (.enter op)) : wpSound (begin op) a := by
  have hsend {p : Prop} [Decidable p] {e : Exception} {arCtrl : AppControlField} {w x y z : Bool}
      {u : Bool} {f : OutAPDU ω} (hp : p → isConfirm f = false) :
      wpSound (do validate arCtrl w x y z; ensure p e; beginSend u f) a := by
    rw [wpSound, wp_bind]
    refine wp_mono (stable_validate arCtrl w x y z a h) (fun _ t ht ↦ ?_) (fun _ _ he ↦ he)
    rw [wp_bind, wp_ensure]
    split
    · exact wpSound_beginSend ht (hp ‹_›)
    · exact ht
  cases op with
  | event e =>
    cases e with
    | sendResult aSuccess =>
      exact wpSound_of_stable (closed_slot.onSendResult aSuccess)
        (sound_singleton .checkForSend trivial) h
    | receive apData =>
      change wp (tryCatch _ _) _ _ a
      rw [wp_tryCatch]
      refine wp_mono (wpSound_beginReceive h apData) (fun _ _ ht ↦ ht) (fun e t ht ↦ ?_)
      exact wpSound_of_stable (closed_slot.onCatch apData e) sound_nil ht
    | lowerLayerUp =>
      exact wpSound_of_stable closed_slot.onLowerLayerUp sound_nil h
    | lowerLayerDown =>
      change wpSound (do let _ ← onLowerLayerDown; return []) a
      rw [wpSound, wp_bind]
      exact wp_mono (stable_onLowerLayerDown h hd) (fun _ _ ht ↦ ⟨ht, sound_nil⟩) (fun _ _ he ↦ he)
    | timeout u => exact wpSound_of_stable (closed_slot.timeout u) sound_nil h
  | checkForSend =>
    exact wpSound_of_stable (stable_bind closed_slot.checkForSend fun _ ↦ stable_pure _) sound_nil h
  | sendRequest f =>
    refine hsend fun hreq ↦ ?_
    rw [isConfirm]
    revert hreq
    cases f.function with
    | none => exact fun hreq ↦ Bool.noConfusion hreq
    | some func => cases func <;> first | exact fun _ ↦ rfl | exact Bool.noConfusion
  | sendResponse f => exact hsend fun hresp ↦ isConfirm_eq_false hresp (by decide)
  | sendUnsolicited f => exact hsend fun hresp ↦ isConfirm_eq_false hresp (by decide)
  | cancelResponse => exact wpSound_of_stable (closed_slot.cancel false) sound_nil h
  | cancelUnsolicitedRetries =>
    exact wpSound_of_stable (stable_bind (closed_slot.cancelRetries true) fun _ ↦ stable_pure _)
      sound_nil h

theorem sound_move {c d : Activity ω} {m : Move ω} (hc : c.Sound) (hd : KeepsConfirm c m)
    (h : move c m = some d) : d.Sound := by
  cases m with
  | enter op =>
    have hb := wpSound_begin hc.slot op (by cases op <;> exact hd)
    rw [move] at h
    rw [wpSound, wp] at hb
    split at h
    · next acts t heq =>
      rw [heq] at hb
      rw [← Option.some.inj h]
      refine ⟨hb.1, fun act hact ↦ ?_⟩
      rcases List.mem_append.mp hact with hact | hact
      · exact hb.2 act hact
      · exact hc.acts act hact
    · next e t heq =>
      rw [heq] at hb
      rw [← Option.some.inj h]
      exact ⟨hb, hc.acts⟩
  | resume =>
    rw [move] at h
    split at h
    · contradiction
    · next act acts heq =>
      have hacts := hc.acts
      rw [heq] at hacts
      rw [← Option.some.inj h]
      refine ⟨?_, fun b hb ↦ hacts b (List.mem_cons_of_mem _ hb)⟩
      exact exec_of_wp (Q := fun t _ ↦ Slot t)
        (stable_act (hacts act (List.mem_cons_self ..)) _ hc.slot)
  | unwind =>
    rw [move] at h
    split at h
    · contradiction
    · next act acts heq =>
      have hacts := hc.acts
      rw [heq] at hacts
      rw [← Option.some.inj h]
      exact ⟨hc.slot, fun b hb ↦ hacts b (List.mem_cons_of_mem _ hb)⟩

/-! ## The slot is released

The slot of the confirmation is taken when one is queued. It is free again when the lower layer
has reported the result, however the calls are interrupted. -/

/-- A received response asks for a confirmation, and gets one: it is an unsolicited response to a
master, or a response while the solicited channel accepts one. -/
structure Asks (a : AppLayer ω) (apData : List Byte) (r : APDU) : Prop where
  interpret : APDU.interpret apData = .ok r
  size : apData.length ≤ a.fragSize
  con : r.getControl.con = true
  kind : r.getFunction = .response ∧ r.getControl.uns = false ∧
      (a.channel false).mpState.acceptsResponse = true ∨
    r.getFunction = .unsolicitedResponse ∧ r.getControl.uns = true ∧ a.isMaster = true

/-- A response is confirmed if no confirmation is in the queue. -/
theorem Slot.confirms (h : Slot a) (hq : ∀ f ∈ a.mSendQueue, isConfirm f = false)
    {apData : List Byte} {r : APDU} (hr : Asks a apData r) (acts : List (Act ω)) :
    ∃ d, move ⟨a, acts⟩ (.enter (.event (.receive apData))) = some d ∧
      d.app.mSendQueue = a.mSendQueue ++ [confirmAPDU r.getControl.uns r.getControl.seq] := by
  have hfree : a.mConfirmSending = false := by
    refine Bool.eq_false_iff.mpr fun hc ↦ ?_
    obtain ⟨f, hf, hconf⟩ := h.flag_iff.mp hc
    exact Bool.false_ne_true ((hq f hf).symm.trans hconf)
  have key : wp (begin (.event (.receive apData)))
      (fun _ t ↦ t.mSendQueue = a.mSendQueue ++ [confirmAPDU r.getControl.uns r.getControl.seq])
      (fun _ _ ↦ False) a := by
    change wp (tryCatch _ _) _ _ a
    rw [wp_tryCatch]
    simp only [beginReceive, wp_bind, wp_get, wp_ensure_of hr.size, hr.interpret, wp_lift_ok]
    rcases hr.kind with ⟨hf, hu, hacc⟩ | ⟨hf, hu, hm⟩
    · simp only [hf, wp_bind, wp_get, wp_ensure_of hu, hr.con, hacc, Bool.and_self, if_true,
        queueConfirm, wp_ensure_of hfree, wp_modify, wp_queueFrame, wp_pure, hu]
    · simp only [hf, wp_bind, wp_get, wp_ensure_of hu, wp_ensure_of hm, hr.con, if_true,
        queueConfirm, wp_ensure_of hfree, wp_modify, wp_queueFrame, wp_pure, hu]
  rw [wp] at key
  rw [move]
  split at key
  · next acts t heq => exact ⟨_, by rw [heq], key⟩
  · exact key.elim

/-- **The slot of the confirmation is released.**  In every run in which the link never goes down
with the confirmation in the queue, the flag is up exactly while the confirmation is in the queue,
and a response that asks for a confirmation then gets one if none is in the queue. -/
theorem confirm_slot_released {isMaster : Bool} {aFragSize aNumRetry : ℕ} {moves : List (Move ω)}
    {c : Activity ω} (hrun : Run.run move ⟨new isMaster aFragSize aNumRetry, []⟩ moves = some c)
    (hg : Run.Guarded move KeepsConfirm ⟨new isMaster aFragSize aNumRetry, []⟩ moves) :
    (c.app.mConfirmSending = true ↔ ∃ f ∈ c.app.mSendQueue, isConfirm f = true) ∧
      ∀ apData r, Asks c.app apData r → (∀ f ∈ c.app.mSendQueue, isConfirm f = false) →
        ∃ d, move c (.enter (.event (.receive apData))) = some d ∧
          d.app.mSendQueue =
            c.app.mSendQueue ++ [confirmAPDU r.getControl.uns r.getControl.seq] := by
  have hsound : c.Sound :=
    Run.inv_of_guarded (fun _ _ _ hc hd hm ↦ sound_move hc hd hm)
      ⟨slot_new isMaster aFragSize aNumRetry, sound_nil⟩ hg hrun
  exact ⟨hsound.slot.flag_iff, fun apData r hr hq ↦ hsound.slot.confirms hq hr c.acts⟩

/-- A request is sent, its response is received, and the link goes down before the confirmation is
out. -/
def lostConfirm : List (Move Unit) :=
  [.enter (.event .lowerLayerUp),
   .enter (.sendRequest ((OutAPDU.new 2048).set .read true true false false)), .resume,
   .enter (.event (.sendResult true)), .resume,
   .enter (.event (.receive [0xE0, 0x81, 0, 0])), .resume,
   .enter (.event .lowerLayerDown)]

/-- The next request, whose response asks for a confirmation again. -/
def nextRequest : List (Move Unit) :=
  [.enter (.event .lowerLayerUp),
   .enter (.sendRequest ((OutAPDU.new 2048).set .read true true false false)), .resume,
   .enter (.event (.sendResult true)), .resume]

/-- The same, but the confirmation has been sent when the link goes down. -/
def sentConfirm : List (Move Unit) :=
  [.enter (.event .lowerLayerUp),
   .enter (.sendRequest ((OutAPDU.new 2048).set .read true true false false)), .resume,
   .enter (.event (.sendResult true)), .resume,
   .enter (.event (.receive [0xE0, 0x81, 0, 0])), .resume,
   .enter (.event (.sendResult true)), .resume,
   .enter (.event .lowerLayerDown)]

theorem confirm_slot_released_sent :
    ∃ c, Run.run move ⟨new true 2048 0, []⟩ sentConfirm = some c ∧
      (c.app.mConfirmSending = true ↔ ∃ f ∈ c.app.mSendQueue, isConfirm f = true) := by
  obtain ⟨c, hrun⟩ : ∃ c, Run.run move ⟨new true 2048 0, []⟩ sentConfirm = some c := ⟨_, rfl⟩
  refine ⟨c, hrun, (confirm_slot_released hrun ?_).1⟩
  iterate 9 refine Run.Guarded.cons trivial rfl ?_
  refine Run.Guarded.cons ?_ rfl trivial
  exact fun f hf ↦ absurd hf List.not_mem_nil

/-- After the link went down with the confirmation in the queue, the flag stays up although the
queue is empty, and the response to the next request is not confirmed. -/
theorem confirm_slot_lost :
    (∃ c, Run.run move ⟨new true 2048 0, []⟩ lostConfirm = some c ∧
      c.app.mConfirmSending = true ∧ c.app.mSendQueue = []) ∧
    ∃ c r d, Run.run move ⟨new true 2048 0, []⟩ (lostConfirm ++ nextRequest) = some c ∧
      Asks c.app [0xE0, 0x81, 0, 0] r ∧ c.app.mSendQueue = [] ∧
      move c (.enter (.event (.receive [0xE0, 0x81, 0, 0]))) = some d ∧ d.app.mSendQueue = [] :=
  ⟨⟨_, rfl, rfl, rfl⟩, _, _, _, rfl, ⟨rfl, by decide, rfl, .inl ⟨rfl, rfl, rfl⟩⟩, rfl, rfl, rfl⟩

end AppLayer

end OpenDNP3
