import OpenDNP3.App.ConfirmSlot

/-!
# What one piece of a call does

The layer is run piece by piece here: a call runs up to its call of the lower layer or of the user,
and what is left of it runs when that returns.  In between anything may come in.

* `AppLayer.enter` and `Act.call` — the pieces of `AppLayer.move`, with the call of the user that
  each of them ends with.
* `AppLayer.Steady` — what holds between two pieces, whatever they are.  While a send is under way
  the channel does not have its fragment yet, so this is less than `Consistent`.
-/

set_option autoImplicit false

namespace OpenDNP3

open Handler

namespace AppLayer

variable {ω : Type}

/-! ## The pieces, and the calls that they make -/

/-- `beginReceive`, with the call of the user. -/
def enterReceive (apData : List Byte) : M ω (List (Act ω) × Option UserCall) := do
  ensure (apData.length ≤ (← get).fragSize)
    (.argument s!"Size {apData.length} exceeds max fragment size of {(← get).fragSize}")
  let mIncoming ← Handler.lift (APDU.interpret apData)
  let arCtrl := mIncoming.getControl
  match mIncoming.getFunction with
  | .confirm =>
    let call ← onConfirm mIncoming
    return ([], call)
  | .response =>
    ensure (arCtrl.uns = false) (.general "Bad unsol bit")
    if arCtrl.con && ((← get).channel false).mpState.acceptsResponse then
      queueConfirm false arCtrl.seq
    return ([.channelOnResponse mIncoming], none)
  | .unsolicitedResponse =>
    ensure (arCtrl.uns = true) (.general "ALERR_BAD_UNSOL_BIT")
    ensure ((← get).isMaster = true) (.general "SERR_FUNC_NOT_SUPPORTED")
    if arCtrl.con then queueConfirm true arCtrl.seq
    return ([.onUnsol mIncoming], none)
  | _ =>
    let call ← onRequest mIncoming
    return ([], call)

/-- `begin`, with the call of the user. -/
def enter : Op ω → M ω (List (Act ω) × Option UserCall)
  | .event (.sendResult aSuccess) => do
    let call ← onSendResult aSuccess
    return ([.checkForSend], call)
  | .event (.receive apData) =>
    tryCatch (enterReceive apData) fun ex ↦ do
      let call ← onCatch apData ex
      return ([], call)
  | .sendRequest arAPDU => do
    let acts ← begin (.sendRequest arAPDU)
    return (acts, none)
  | .sendResponse arAPDU => do
    let acts ← begin (.sendResponse arAPDU)
    return (acts, none)
  | .sendUnsolicited arAPDU => do
    let acts ← begin (.sendUnsolicited arAPDU)
    return (acts, none)
  | op => do
    let call ← perform op
    return ([], call)

/-- The rest of a call, with the call of the user. -/
def Act.call : Act ω → M ω (Option UserCall)
  | .checkForSend => do
    AppLayer.checkForSend
    return none
  | .channelOnResponse r => AppLayer.channelOnResponse r
  | .onUnsol r => AppLayer.onUnsol r
  | .setSendAPDU u f => do
    modify fun a ↦ a.setChannel u { a.channel u with mpSendAPDU := some f }
    return none

theorem map_bind_pure {α β γ : Type} (x : M ω α) (f : α → β) (g : β → γ) :
    g <$> (do let a ← x; return f a) = (do let a ← x; return g (f a)) := by
  rw [map_bind]
  exact bind_congr fun a ↦ map_pure g (f a)

theorem fst_enterReceive (apData : List Byte) :
    Prod.fst <$> enterReceive apData = (beginReceive apData : M ω (List (Act ω))) := by
  rw [enterReceive, beginReceive, map_bind]
  refine bind_congr fun a ↦ ?_
  rw [map_bind]
  refine bind_congr fun b ↦ ?_
  rw [map_bind]
  refine bind_congr fun _ ↦ ?_
  rw [map_bind]
  refine bind_congr fun r ↦ ?_
  dsimp only
  generalize r.getFunction = func
  cases func with
  | response =>
    dsimp only
    rw [map_bind]
    refine bind_congr fun _ ↦ ?_
    rw [map_bind]
    refine bind_congr fun c ↦ ?_
    split
    · exact map_bind_pure _ (fun _ ↦ ([Act.channelOnResponse r], none)) _
    · rfl
  | unsolicitedResponse =>
    dsimp only
    rw [map_bind]
    refine bind_congr fun _ ↦ ?_
    rw [map_bind]
    refine bind_congr fun c ↦ ?_
    rw [map_bind]
    refine bind_congr fun _ ↦ ?_
    split
    · exact map_bind_pure _ (fun _ ↦ ([Act.onUnsol r], none)) _
    · rfl
  | _ => exact map_bind_pure _ _ _

/-- The calls of the user are no more than an observation. -/
theorem fst_enter (op : Op ω) : Prod.fst <$> enter op = begin op := by
  cases op with
  | event e =>
    cases e with
    | receive apData =>
      rw [enter, begin, map_tryCatch, fst_enterReceive]
      exact congrArg _ (funext fun ex ↦ map_bind_pure _ _ _)
    | _ => exact map_bind_pure _ _ _
  | sendRequest f => exact (map_bind_pure _ _ _).trans (bind_pure _)
  | sendResponse f => exact (map_bind_pure _ _ _).trans (bind_pure _)
  | sendUnsolicited f => exact (map_bind_pure _ _ _).trans (bind_pure _)
  | _ => exact map_bind_pure _ _ _

theorem perform_eq_call (act : Act ω) : act.perform = (do let _ ← act.call; return ()) := by
  cases act <;> rfl

/-! ## The invariant

Between two pieces a channel may be in the middle of a call. What is known of it then is less
than between two events. -/

/-- **What holds between two pieces.**  A channel that sends may not have its fragment yet. -/
structure Steady (a : AppLayer ω) : Prop where
  timer : ∀ v, (a.channel v).mpTimer = (a.channel v).mpState.isWaiting
  apdu : ∀ v f, (a.channel v).mpSendAPDU = some f → isFor v f = true
  queued : ∀ v, a.mSendQueue.countP (isFor v) = if (a.channel v).mpState.isSending then 1 else 0
  queue : ∀ f ∈ a.mSendQueue, f.function ≠ none
  confirms : a.mSendQueue.countP isConfirm ≤ if a.mConfirmSending then 1 else 0
  sending : a.mSending = true → a.mSendQueue ≠ []

/-- The same while a channel changes its state: its timer is off, and its fragment not queued. -/
structure Freed (a : AppLayer ω) (u : Bool) : Prop where
  timer : ∀ v, (a.channel v).mpTimer = if v = u then false else (a.channel v).mpState.isWaiting
  apdu : ∀ v f, (a.channel v).mpSendAPDU = some f → isFor v f = true
  queued : ∀ v, a.mSendQueue.countP (isFor v) =
    if v ≠ u ∧ (a.channel v).mpState.isSending = true then 1 else 0
  queue : ∀ f ∈ a.mSendQueue, f.function ≠ none
  confirms : a.mSendQueue.countP isConfirm ≤ if a.mConfirmSending then 1 else 0
  sending : a.mSending = true → a.mSendQueue ≠ []

variable {a b t : AppLayer ω} {u : Bool} {f : OutAPDU ω}

theorem steady_new (isMaster : Bool) (aFragSize aNumRetry : ℕ) :
    Steady (new isMaster aFragSize aNumRetry : AppLayer ω) where
  timer v := by cases v <;> rfl
  apdu v f hf := by
    have hnone : ((new isMaster aFragSize aNumRetry : AppLayer ω).channel v).mpSendAPDU = none := by
      cases v <;> rfl
    exact absurd (hnone.symm.trans hf) (Option.some_ne_none f).symm
  queued v := by cases v <;> rfl
  queue f hf := absurd hf List.not_mem_nil
  confirms := Nat.le_refl _
  sending h := Bool.noConfusion h

/-- An idle channel may take a fragment. -/
theorem Steady.freed_of_idle (h : Steady a) (hi : (a.channel u).mpState = .idle) : Freed a u where
  timer v := by
    rw [h.timer]
    split
    · next hv =>
      rw [hv, hi]
      rfl
    · rfl
  apdu := h.apdu
  queued v := by
    rw [h.queued]
    by_cases hv : v = u
    · rw [hv, hi]
      simp [ACS.isSending]
    · simp [hv]
  queue := h.queue
  confirms := h.confirms
  sending := h.sending

/-- The channel is put right, and its fragment is not queued. -/
theorem Freed.steady (h : Freed a u) {c : AppLayerChannel ω} (ht : c.mpTimer = c.mpState.isWaiting)
    (hc : c.mpSendAPDU = (a.channel u).mpSendAPDU) (hs : c.mpState.isSending = false) :
    Steady (a.setChannel u c) where
  timer v := by
    rw [channel_setChannel]
    split
    · exact ht
    · next hv => rw [h.timer, if_neg hv]
  apdu v f hf := by
    rw [channel_setChannel] at hf
    split at hf
    · next hv =>
      rw [hv]
      exact h.apdu u f (hc.symm.trans hf)
    · exact h.apdu v f hf
  queued v := by
    rw [setChannel_mSendQueue, h.queued, channel_setChannel]
    by_cases hv : v = u
    · simp [hv, hs]
    · simp [hv]
  queue := by simpa using h.queue
  confirms := by simpa using h.confirms
  sending := by simpa using h.sending

/-- The channel is put right, and its fragment is queued. -/
theorem Freed.enqueue (h : Freed a u) {c : AppLayerChannel ω} (ht : c.mpTimer = false)
    (hc : c.mpSendAPDU = (a.channel u).mpSendAPDU) (hs : c.mpState.isSending = true)
    (hf : isFor u f = true) :
    Steady { a.setChannel u c with mSendQueue := a.mSendQueue ++ [f], mSending := true } where
  timer v := by
    change ((a.setChannel u c).channel v).mpTimer = ((a.setChannel u c).channel v).mpState.isWaiting
    rw [channel_setChannel]
    split
    · rw [ht, ACS.isWaiting_of_isSending hs]
    · next hv => rw [h.timer, if_neg hv]
  apdu v g hg := by
    change ((a.setChannel u c).channel v).mpSendAPDU = some g at hg
    rw [channel_setChannel] at hg
    split at hg
    · next hv =>
      rw [hv]
      exact h.apdu u g (hc.symm.trans hg)
    · exact h.apdu v g hg
  queued v := by
    change _ = if ((a.setChannel u c).channel v).mpState.isSending = true then 1 else 0
    rw [List.countP_append, List.countP_singleton, h.queued, channel_setChannel]
    by_cases hv : v = u
    · simp [hv, hs, hf]
    · simp [hv, isFor_of_ne hf hv]
  queue g hg := by
    rcases List.mem_append.mp hg with hg | hg
    · exact h.queue g hg
    · rw [List.mem_singleton.mp hg]
      exact function_of_isFor hf
  confirms := by
    rw [List.countP_append, List.countP_singleton, isConfirm_of_isFor hf]
    simpa using h.confirms
  sending _ := by simp

/-- The timer of a waiting channel is off. -/
theorem Steady.freed_stopTimer (h : Steady a) (hw : (a.channel u).mpState.isWaiting = true) :
    Freed (a.stopTimer u) u where
  timer v := by
    rw [stopTimer, channel_setChannel]
    split
    · rfl
    · exact h.timer v
  apdu v f hf := by
    rw [stopTimer, channel_setChannel] at hf
    split at hf
    · next hv => exact hv ▸ h.apdu u f hf
    · exact h.apdu v f hf
  queued v := by
    rw [stopTimer, setChannel_mSendQueue, h.queued, channel_setChannel]
    by_cases hv : v = u
    · simp [hv, ACS.isSending_of_isWaiting hw]
    · simp [hv]
  queue := by simpa [stopTimer] using h.queue
  confirms := by simpa [stopTimer] using h.confirms
  sending := by simpa [stopTimer] using h.sending

/-- The fragment of a channel leaves the queue. -/
theorem Steady.freed_dequeue (h : Steady a) {q : List (OutAPDU ω)} (hq : a.mSendQueue = f :: q)
    (hf : isFor u f = true) :
    (a.channel u).mpState.isSending = true ∧
      Freed { a with mSendQueue := q, mSending := false } u := by
  have hu := h.queued u
  rw [hq, List.countP_cons_of_pos hf] at hu
  have hs : (a.channel u).mpState.isSending = true := by
    split at hu
    · assumption
    · exact absurd hu (Nat.succ_ne_zero _)
  rw [if_pos hs] at hu
  have hc := h.confirms
  rw [hq, List.countP_cons_of_neg (by rw [isConfirm_of_isFor hf]; exact Bool.false_ne_true)] at hc
  refine ⟨hs, fun v ↦ ?_, h.apdu, fun v ↦ ?_, fun g hg ↦ ?_, hc, fun hs ↦ Bool.noConfusion hs⟩
  · change (a.channel v).mpTimer = if v = u then false else (a.channel v).mpState.isWaiting
    rw [h.timer]
    split
    · next hv => rw [hv, ACS.isWaiting_of_isSending hs]
    · rfl
  · change q.countP (isFor v) = if v ≠ u ∧ (a.channel v).mpState.isSending = true then 1 else 0
    by_cases hv : v = u
    · rw [if_neg (fun hn ↦ hn.1 hv), hv]
      exact Nat.succ.inj hu
    · have hch := h.queued v
      rw [hq, List.countP_cons_of_neg (by rw [isFor_of_ne hf hv]; exact Bool.false_ne_true)] at hch
      rw [hch]
      simp [hv]
  · exact h.queue g (by rw [hq]; exact List.mem_cons_of_mem _ hg)

/-- The confirmation leaves the queue. -/
theorem Steady.dequeue_confirm (h : Steady a) {q : List (OutAPDU ω)} (hq : a.mSendQueue = f :: q)
    (hf : isConfirm f = true) :
    a.mConfirmSending = true ∧
      Steady { a with mSendQueue := q, mSending := false, mConfirmSending := false } := by
  have hc := h.confirms
  rw [hq, List.countP_cons_of_pos hf] at hc
  have hs : a.mConfirmSending = true := by
    split at hc
    · assumption
    · exact absurd hc (Nat.not_succ_le_zero _)
  rw [if_pos hs] at hc
  refine ⟨hs, h.timer, h.apdu, fun v ↦ ?_, fun g hg ↦ ?_, Nat.le_of_succ_le_succ hc,
    fun hs ↦ Bool.noConfusion hs⟩
  · have hch := h.queued v
    rw [hq, List.countP_cons_of_neg (by
      intro hv
      rw [isConfirm_of_isFor hv] at hf
      exact Bool.noConfusion hf)] at hch
    exact hch
  · exact h.queue g (by rw [hq]; exact List.mem_cons_of_mem _ hg)

/-- The confirmation is queued. -/
theorem Steady.enqueue_confirm (h : Steady a) (hfree : a.mConfirmSending = false) (n : ℕ) :
    Steady { a with
      mSendQueue := a.mSendQueue ++ [confirmAPDU u n]
      mSending := true
      mConfirmSending := true } := by
  have hc := h.confirms
  rw [if_neg (by rw [hfree]; exact Bool.false_ne_true)] at hc
  refine ⟨h.timer, h.apdu, fun v ↦ ?_, fun g hg ↦ ?_, ?_, fun _ ↦ by simp⟩
  · rw [List.countP_append, List.countP_singleton]
    exact h.queued v
  · rcases List.mem_append.mp hg with hg | hg
    · exact h.queue g hg
    · rw [List.mem_singleton.mp hg]
      exact Option.some_ne_none _
  · rw [List.countP_append, Nat.le_zero.mp hc]
    exact Nat.le_refl 1

end AppLayer

end OpenDNP3
