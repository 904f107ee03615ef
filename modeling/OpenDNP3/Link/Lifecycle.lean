import OpenDNP3.Link.Monitor

/-!
# The life cycle of a port

A user of the monitor makes requests from outside of the calls that it gets, and starts reads and
writes at any time when the port can read or write, also within such a call (`Start`).  The port
calls back in any order.

The port may begin to close on its own, after an error, while the other of reading and writing is
still pending.  The monitor is not told and stays in `Open` or `OpenOne`, and a request to close in
these states calls `AsyncClose`, which throws since the port is closing already.  Without such a
request (`Allowed`) nothing is ever thrown, and the port has a life as in `Life`.

* `Living` and `Sound` — the invariant, within an operation and between operations.
* `LifecycleRun.lifecycle` — every run.
-/

set_option autoImplicit false

namespace OpenDNP3

open Handler

namespace MonitorState

/-- The states after `Shutdown`. -/
def isStopped : MonitorState → Bool
  | .shutdown | .openingStopping | .shutingDown => true
  | _ => false

/-- The monitor may go from `old` to `m` when it tells the port to close. -/
def Closes (m old : MonitorState) : Prop :=
  m.phase = old.phase ∧ m.isWaiting = old.isWaiting ∧ m.hasClosed = true ∧ old.hasClosed = false ∧
    old.phase ≠ .idle

instance (m old : MonitorState) : Decidable (m.Closes old) :=
  inferInstanceAs (Decidable (_ ∧ _))

end MonitorState

namespace Monitored

variable {υ : Type} {s : Monitored υ} {user : Callbacks υ} {b : Bool}

/-! ## The invariant

The state of the monitor says what the port is doing, and the log is a life of a port that stands
where this port does. -/

/-- **The monitor knows what the port is doing**, and what has passed between them is a life of the
port; `b` says whether there has been a shutdown. -/
structure Living (b : Bool) (s : Monitored υ) : Prop where
  agrees : Agrees s.mpState s.mState
  timer : s.mpOpenTimer = s.mpState.isWaiting
  up : s.mIsLowerLayerUp = s.mState.mOpen
  /-- A port that is opening closes only because the monitor has told it. -/
  opening : s.mpState.phase = .opening → s.mState.mClosing = true → s.mpState.hasClosed = true
  life : Run.run Life.step .start s.log = some ⟨s.mpState.phase, b⟩

/-- The same between operations, when a port that closes waits for something. -/
structure Sound (s : Monitored υ) : Prop extends Living s.mpState.isStopped s where
  settled : s.mState.mClosing = true → s.mState.callbacksPending = true

theorem sound_init (aUser : υ) : Sound (init aUser) where
  agrees := ⟨fun _ ↦ rfl, fun h ↦ PortPhase.noConfusion h, fun h ↦ PortPhase.noConfusion h,
    fun h ↦ Bool.noConfusion h⟩
  timer := rfl
  up := rfl
  opening h := PortPhase.noConfusion h
  life := rfl
  settled h := Bool.noConfusion h

/-- The operation keeps the invariant and throws nothing. -/
def Keeps (x : Op υ Unit) : Prop := ∀ s, Sound s → wp x (fun _ t ↦ Sound t) (fun _ _ ↦ False) s

/-- What the user does when it is called keeps the invariant. -/
structure Quiet (user : Callbacks υ) : Prop where
  openSuccess : Keeps user.onPhysicalLayerOpenSuccessCallback
  openFailure : Keeps user.onPhysicalLayerOpenFailureCallback
  close : Keeps user.onPhysicalLayerCloseCallback
  receive : Keeps user.onReceive
  sendSuccess : Keeps user.onSendSuccess

/-- One more thing has passed. -/
theorem Living.log (h : Living b s) {e : LifeEvent} {l : Life}
    (hl : Life.step ⟨s.mpState.phase, b⟩ e = some l) :
    Run.run Life.step .start (s.log ++ [e]) = some l := by
  rw [Run.run_append, h.life]
  simpa [Run.run_cons] using hl

/-- The state of the monitor changes, with the port as it is. -/
theorem Living.follow (h : Living b s) {m : MonitorState} (hm : m.Follows s.mpState)
    (hclosed : m.hasClosed = s.mpState.hasClosed) : Living b { s with mpState := m } where
  agrees := h.agrees.follow hm
  timer := h.timer.trans hm.2.1.symm
  up := h.up
  opening hphase hc := hclosed.trans (h.opening (hm.1.symm.trans hphase) hc)
  life := by
    show Run.run Life.step .start s.log = some ⟨m.phase, b⟩
    rw [hm.1]
    exact h.life

theorem Sound.follow (h : Sound s) {m : MonitorState} (hm : m.Follows s.mpState)
    (hclosed : m.hasClosed = s.mpState.hasClosed) (hstop : m.isStopped = s.mpState.isStopped) :
    Sound { s with mpState := m } := by
  have hliving := h.toLiving.follow hm hclosed
  rw [← hstop] at hliving
  exact ⟨hliving, h.settled⟩

/-- **The port is opened**: the timer, if it was running, is not running any more. -/
theorem wp_openInto (h : Living false s) (hold : s.mpState.phase = .idle) {m : MonitorState}
    (hm : m.Opens) (hstop : m.isStopped = false) :
    wp (openInto m) (fun _ t ↦ Sound t) (fun _ _ ↦ False) { s with mpOpenTimer := false } := by
  have hp : s.mState = {} := h.agrees.idle hold
  have hcan : s.mState.canOpen = true := by
    rw [hp]
    rfl
  rw [openInto, wp_bind, changeState, wp_modify, asyncOpen, wp_bind, wp_get, wp_bind,
    wp_ensure_of hcan, wp_bind, wp_modify, logged, wp_modify]
  refine ⟨⟨?_, hm.2.1.symm, h.up, ?_, ?_⟩, fun _ ↦ rfl⟩
  · show Agrees m { s.mState with mOpening := true }
    rw [hp]
    exact .opens hm
  · intro _ hclosing
    have hclosing : s.mState.mClosing = true := hclosing
    rw [hp] at hclosing
    exact Bool.noConfusion hclosing
  · show Run.run Life.step .start (s.log ++ [.asyncOpen]) = some ⟨m.phase, m.isStopped⟩
    rw [hm.1, hstop]
    refine h.log ?_
    rw [hold]
    rfl

/-- A monitor that is not waiting opens the port. -/
theorem wp_openFrom (h : Living false s) (hold : s.mpState.phase = .idle)
    (hw : s.mpState.isWaiting = false) {m : MonitorState} (hm : m.Opens)
    (hstop : m.isStopped = false) :
    wp (openInto m) (fun _ t ↦ Sound t) (fun _ _ ↦ False) s := by
  have hopen := wp_openInto h hold hm hstop
  rwa [← hw, ← h.timer] at hopen

theorem wp_start (h : Sound s) : wp start (fun _ t ↦ Sound t) (fun _ _ ↦ False) s := by
  have hliving := h.toLiving
  rw [start, wp_bind, wp_get]
  cases hs : s.mpState with
  | suspended =>
    rw [hs] at hliving
    exact wp_openFrom hliving (by rw [hs]; rfl) (by rw [hs]; rfl) (by decide) rfl
  | init =>
    rw [hs] at hliving
    exact wp_openFrom hliving (by rw [hs]; rfl) (by rw [hs]; rfl) (by decide) rfl
  | openingOne => exact h.follow (by rw [hs]; decide) (by rw [hs]; rfl) (by rw [hs]; rfl)
  | openingSuspending => exact h.follow (by rw [hs]; decide) (by rw [hs]; rfl) (by rw [hs]; rfl)
  | openedOne => exact h.follow (by rw [hs]; decide) (by rw [hs]; rfl) (by rw [hs]; rfl)
  | waitingOne => exact h.follow (by rw [hs]; decide) (by rw [hs]; rfl) (by rw [hs]; rfl)
  | suspending => exact h.follow (by rw [hs]; decide) (by rw [hs]; rfl) (by rw [hs]; rfl)
  | _ => exact h

theorem wp_startOne (h : Sound s) : wp startOne (fun _ t ↦ Sound t) (fun _ _ ↦ False) s := by
  have hliving := h.toLiving
  rw [startOne, wp_bind, wp_get]
  cases hs : s.mpState with
  | suspended =>
    rw [hs] at hliving
    exact wp_openFrom hliving (by rw [hs]; rfl) (by rw [hs]; rfl) (by decide) rfl
  | init =>
    rw [hs] at hliving
    exact wp_openFrom hliving (by rw [hs]; rfl) (by rw [hs]; rfl) (by decide) rfl
  | opening => exact h.follow (by rw [hs]; decide) (by rw [hs]; rfl) (by rw [hs]; rfl)
  | openingClosing => exact h.follow (by rw [hs]; decide) (by rw [hs]; rfl) (by rw [hs]; rfl)
  | opened => exact h.follow (by rw [hs]; decide) (by rw [hs]; rfl) (by rw [hs]; rfl)
  | waiting => exact h.follow (by rw [hs]; decide) (by rw [hs]; rfl) (by rw [hs]; rfl)
  | closing => exact h.follow (by rw [hs]; decide) (by rw [hs]; rfl) (by rw [hs]; rfl)
  | _ => exact h

/-- The timer expires, and the port is opened again. -/
theorem wp_onOpenTimerExpiration (h : Sound s) (ht : s.mpOpenTimer = true) :
    wp onOpenTimerExpiration (fun _ t ↦ Sound t) (fun _ _ ↦ False) s := by
  have hliving := h.toLiving
  have hw : s.mpState.isWaiting = true := h.timer.symm.trans ht
  rw [onOpenTimerExpiration, wp_bind, wp_get, wp_bind, wp_ensure_of ht, wp_bind, wp_modify,
    onOpenTimeout, wp_bind, wp_get]
  dsimp only
  cases hs : s.mpState with
  | waiting =>
    rw [hs] at hliving
    exact wp_openInto hliving (by rw [hs]; rfl) (by decide) rfl
  | waitingOne =>
    rw [hs] at hliving
    exact wp_openInto hliving (by rw [hs]; rfl) (by decide) rfl
  | _ => exact Bool.noConfusion (hw.symm.trans (congrArg MonitorState.isWaiting hs))

/-! ## Closing

A request to close makes the port wait for the callbacks that are due, and the last of them takes
it down. -/

theorem wp_checkForClose {Q : Bool → Monitored υ → Prop} {E : Exception → Monitored υ → Prop} :
    wp checkForClose Q E s = if s.mState.mClosing && !s.mState.callbacksPending then
      Q true { s with mState := { s.mState with mClosing := false, mOpen := false } }
        else Q false s := by
  rw [checkForClose, wp_bind, wp_get]
  by_cases hdue : (s.mState.mClosing && !s.mState.callbacksPending) = true
  · simp only [if_pos hdue]
    rfl
  · simp only [if_neg hdue]
    rfl

/-- The state after the layer has gone down, when the monitor is in `m`. -/
def downIn (s : Monitored υ) (m : MonitorState) : Monitored υ :=
  { s with
    mState := {}
    mIsLowerLayerUp := false
    log := s.log ++ [.onLowerLayerDown false]
    mpState := m }

/-- A layer that was up has gone down. -/
theorem Living.down (h : Living b s) (hphase : s.mpState.phase = .opened) {m : MonitorState}
    (hm : m.phase = .idle) (hw : m.isWaiting = false) (hc : m.hasClosed = false) :
    Living b (s.downIn m) where
  agrees := ⟨fun _ ↦ rfl, fun ho ↦ PortPhase.noConfusion (hm.symm.trans ho),
    fun ho ↦ PortPhase.noConfusion (hm.symm.trans ho), fun hh ↦ Bool.noConfusion (hc.symm.trans hh)⟩
  timer := by
    show s.mpOpenTimer = m.isWaiting
    rw [h.timer, hw]
    exact LinkRouter.isWaiting_of_phase (by rw [hphase]; exact PortPhase.noConfusion)
  up := rfl
  opening ho := PortPhase.noConfusion (hm.symm.trans ho)
  life := by
    show Run.run Life.step .start (s.log ++ [.onLowerLayerDown false]) = some ⟨m.phase, b⟩
    rw [hm]
    refine h.log ?_
    rw [hphase]
    rfl

/-- The monitor stays where it is after the layer has gone down. -/
theorem Living.down_sound (h : Living b s) (hphase : s.mpState.phase = .opened) {m : MonitorState}
    (hm : m.phase = .idle) (hw : m.isWaiting = false) (hc : m.hasClosed = false)
    (hstop : m.isStopped = b) : Sound (s.downIn m) := by
  have hdown := h.down hphase hm hw hc
  rw [← hstop] at hdown
  exact ⟨hdown, fun h ↦ Bool.noConfusion h⟩

/-- `OnLayerClose` leaves a monitor that is idle, or opens the port again. -/
theorem wp_onLayerClose (h : Living s.mpState.isStopped s) (hphase : s.mpState.phase = .opened) :
    wp onLayerClose (fun _ t ↦ Sound t) (fun _ _ ↦ False) (s.downIn s.mpState) := by
  have hs' : (s.downIn s.mpState).mpState = s.mpState := rfl
  rw [onLayerClose, wp_bind, wp_get, hs']
  cases hs : s.mpState with
  | opened =>
    have hdown := h.down hphase (m := .suspended) rfl rfl rfl
    rw [hs] at hdown
    exact wp_openFrom hdown rfl rfl (m := .opening) (by decide) rfl
  | closing =>
    have hdown := h.down hphase (m := .suspended) rfl rfl rfl
    rw [hs] at hdown
    exact wp_openFrom hdown rfl rfl (m := .opening) (by decide) rfl
  | openedOne => exact h.down_sound hphase rfl rfl rfl (by rw [hs]; rfl)
  | suspending => exact h.down_sound hphase rfl rfl rfl (by rw [hs]; rfl)
  | shutingDown => exact h.down_sound hphase rfl rfl rfl (by rw [hs]; rfl)
  | _ => exact PortPhase.noConfusion (hphase.symm.trans (congrArg MonitorState.phase hs))

/-- **A port that is due to close goes down**, and then waits for nothing. -/
theorem wp_closeIfDue (huser : Quiet user) (h : Living s.mpState.isStopped s) :
    wp (closeIfDue user) (fun _ t ↦ Sound t) (fun _ _ ↦ False) s := by
  rw [closeIfDue, wp_bind, wp_checkForClose]
  by_cases hdue : (s.mState.mClosing && !s.mState.callbacksPending) = true
  · rw [if_pos hdue, if_pos rfl]
    rw [Bool.and_eq_true, Bool.not_eq_true'] at hdue
    obtain ⟨hclosing, hpending⟩ := hdue
    obtain ⟨hopening, hreading, hwriting⟩ :
        s.mState.mOpening = false ∧ s.mState.mReading = false ∧ s.mState.mWriting = false := by
      simpa [PhysState.callbacksPending, and_assoc] using hpending
    have hphase : s.mpState.phase = .opened := by
      cases hm : s.mpState.phase with
      | opened => rfl
      | idle => exact Bool.noConfusion (hclosing.symm.trans (by rw [h.agrees.idle hm]))
      | opening => exact Bool.noConfusion (hopening.symm.trans (h.agrees.opening hm).1)
    have hup : s.mIsLowerLayerUp = true := h.up.trans (h.agrees.opened hphase).1
    rw [onLowerLayerDown, wp_bind, wp_get, wp_bind, logged, wp_modify, wp_bind, wp_get, wp_bind,
      wp_ensure_of hup, wp_bind, wp_modify, wp_bind]
    dsimp only
    rw [LinkRouter.closed_eq hpending, hreading, hwriting]
    refine wp_mono (wp_onLayerClose h hphase) (fun _ t ht ↦ huser.close t ht) fun _ _ he ↦ he
  · rw [if_neg hdue, if_neg Bool.false_ne_true]
    refine ⟨h, fun hc ↦ ?_⟩
    by_contra hpending
    exact hdue (by rw [hc, Bool.eq_false_iff.mpr hpending]; rfl)

/-- **What must hold of a request to close**: the port is not closing on its own. -/
def MayClose (s : Monitored υ) : Prop :=
  s.mpState = .opened ∨ s.mpState = .openedOne → s.mState.mClosing = false

instance (s : Monitored υ) : Decidable s.MayClose :=
  inferInstanceAs (Decidable (_ ∨ _ → _))

/-- A port that the monitor has not told to close is not closing. -/
theorem Living.not_closing (h : Living b s) (hmay : s.MayClose) (hphase : s.mpState.phase ≠ .idle)
    (hclosed : s.mpState.hasClosed = false) : s.mState.mClosing = false := by
  by_contra hc
  have hc : s.mState.mClosing = true := by simpa using hc
  cases hs : s.mpState with
  | opening => exact Bool.noConfusion (hclosed.symm.trans (h.opening (by rw [hs]; rfl) hc))
  | openingOne => exact Bool.noConfusion (hclosed.symm.trans (h.opening (by rw [hs]; rfl) hc))
  | opened => exact Bool.noConfusion ((hmay (.inl hs)).symm.trans hc)
  | openedOne => exact Bool.noConfusion ((hmay (.inr hs)).symm.trans hc)
  | openingClosing | openingStopping | openingSuspending | closing | suspending | shutingDown =>
    rw [hs] at hclosed
    exact Bool.noConfusion hclosed
  | shutdown | suspended | init | waiting | waitingOne =>
    rw [hs] at hphase
    exact hphase rfl

/-- **The port is told to close**. -/
theorem wp_closeInto (huser : Quiet user) {m old : MonitorState} (h : Living m.isStopped s)
    (hs : s.mpState = old) (hm : m.Closes old) (hmay : s.MayClose) :
    wp (closeInto user m) (fun _ t ↦ Sound t) (fun _ _ ↦ False) s := by
  subst hs
  obtain ⟨hphase, hw, hc, hold, hidle⟩ := hm
  have hclosing := h.not_closing hmay hidle hold
  have hcan : s.mState.canClose = true := by
    rw [PhysState.canClose, hclosing]
    cases hp : s.mpState.phase with
    | idle => exact absurd hp hidle
    | opening => simp [(h.agrees.opening hp).1]
    | opened => simp [(h.agrees.opened hp).1]
  rw [closeInto, wp_bind, changeState, wp_modify, asyncClose, wp_bind, startClose, wp_bind, wp_get,
    wp_bind, wp_ensure_of hcan, wp_modify]
  refine wp_closeIfDue huser ⟨⟨?_, ?_, ?_, ?_⟩, ?_, h.up, fun _ _ ↦ hc, ?_⟩
  · exact fun hi ↦ absurd (hphase.symm.trans hi) hidle
  · exact fun ho ↦ h.agrees.opening (hphase.symm.trans ho)
  · exact fun ho ↦ h.agrees.opened (hphase.symm.trans ho)
  · exact fun _ ↦ rfl
  · exact h.timer.trans hw.symm
  · show Run.run Life.step .start s.log = some ⟨m.phase, m.isStopped⟩
    rw [hphase]
    exact h.life

/-- The timer is cancelled. -/
theorem wp_cancelOpenTimer {m old : MonitorState} (h : Living m.isStopped s) (hs : s.mpState = old)
    (hw : old.isWaiting = true)
    (hm : m.phase = .idle ∧ m.isWaiting = false ∧ m.hasClosed = false ∧ old.phase = .idle) :
    wp (do cancelOpenTimer; changeState m) (fun _ t ↦ Sound t) (fun _ _ ↦ False) s := by
  subst hs
  obtain ⟨hm, hmw, hc, hphase⟩ := hm
  have htimer : s.mpOpenTimer = true := h.timer.trans hw
  have hp := h.agrees.idle hphase
  rw [wp_bind, cancelOpenTimer, wp_bind, wp_get, wp_bind, wp_ensure_of htimer, wp_modify,
    changeState, wp_modify]
  refine ⟨⟨⟨fun _ ↦ hp, ?_, ?_, ?_⟩, hmw.symm, h.up, ?_, ?_⟩, ?_⟩
  · exact fun ho ↦ PortPhase.noConfusion (hm.symm.trans ho)
  · exact fun ho ↦ PortPhase.noConfusion (hm.symm.trans ho)
  · exact fun hh ↦ Bool.noConfusion (hc.symm.trans hh)
  · exact fun ho ↦ PortPhase.noConfusion (hm.symm.trans ho)
  · show Run.run Life.step .start s.log = some ⟨m.phase, m.isStopped⟩
    rw [hm, ← hphase]
    exact h.life
  · intro hclosing
    have hclosing : s.mState.mClosing = true := hclosing
    rw [hp] at hclosing
    exact Bool.noConfusion hclosing

theorem wp_close (huser : Quiet user) (h : Sound s) (hmay : s.MayClose) :
    wp (close user) (fun _ t ↦ Sound t) (fun _ _ ↦ False) s := by
  have hliving := h.toLiving
  rw [close, wp_bind, wp_get]
  cases hs : s.mpState with
  | opening => exact wp_closeInto huser (by rwa [hs] at hliving) hs (by decide) hmay
  | openingOne => exact wp_closeInto huser (by rwa [hs] at hliving) hs (by decide) hmay
  | opened => exact wp_closeInto huser (by rwa [hs] at hliving) hs (by decide) hmay
  | openedOne => exact wp_closeInto huser (by rwa [hs] at hliving) hs (by decide) hmay
  | _ => exact h

theorem wp_suspend (huser : Quiet user) (h : Sound s) (hmay : s.MayClose) :
    wp (suspend user) (fun _ t ↦ Sound t) (fun _ _ ↦ False) s := by
  have hliving := h.toLiving
  rw [suspend, wp_bind, wp_get]
  cases hs : s.mpState with
  | opening => exact wp_closeInto huser (by rwa [hs] at hliving) hs (by decide) hmay
  | openingOne => exact wp_closeInto huser (by rwa [hs] at hliving) hs (by decide) hmay
  | openingClosing => exact h.follow (by rw [hs]; decide) (by rw [hs]; rfl) (by rw [hs]; rfl)
  | opened => exact wp_closeInto huser (by rwa [hs] at hliving) hs (by decide) hmay
  | openedOne => exact wp_closeInto huser (by rwa [hs] at hliving) hs (by decide) hmay
  | waiting => exact wp_cancelOpenTimer (by rwa [hs] at hliving) hs rfl (by decide)
  | waitingOne => exact wp_cancelOpenTimer (by rwa [hs] at hliving) hs rfl (by decide)
  | closing => exact h.follow (by rw [hs]; decide) (by rw [hs]; rfl) (by rw [hs]; rfl)
  | _ => exact h

/-- **After a shutdown the port is not opened again**, whatever the monitor was doing. -/
theorem wp_onShutdownRequest (huser : Quiet user) (h : Living true s)
    (hsettled : s.mState.mClosing = true → s.mState.callbacksPending = true) (hmay : s.MayClose) :
    wp (onShutdownRequest user) (fun _ t ↦ Sound t) (fun _ _ ↦ False) s := by
  have hfollow : ∀ m : MonitorState, m.Follows s.mpState → m.hasClosed = s.mpState.hasClosed →
      m.isStopped = true → Sound { s with mpState := m } := by
    intro m hm hclosed hstop
    have hliving := h.follow hm hclosed
    rw [← hstop] at hliving
    exact ⟨hliving, hsettled⟩
  rw [onShutdownRequest, wp_bind, wp_get]
  cases hs : s.mpState with
  | suspended => exact hfollow .shutdown (by rw [hs]; decide) (by rw [hs]; rfl) rfl
  | init => exact hfollow .shutdown (by rw [hs]; decide) (by rw [hs]; rfl) rfl
  | opening => exact wp_closeInto huser h hs (by decide) hmay
  | openingOne => exact wp_closeInto huser h hs (by decide) hmay
  | openingClosing => exact hfollow .openingStopping (by rw [hs]; decide) (by rw [hs]; rfl) rfl
  | openingSuspending => exact hfollow .openingStopping (by rw [hs]; decide) (by rw [hs]; rfl) rfl
  | opened => exact wp_closeInto huser h hs (by decide) hmay
  | openedOne => exact wp_closeInto huser h hs (by decide) hmay
  | waiting => exact wp_cancelOpenTimer h hs rfl (by decide)
  | waitingOne => exact wp_cancelOpenTimer h hs rfl (by decide)
  | closing => exact hfollow .shutingDown (by rw [hs]; decide) (by rw [hs]; rfl) rfl
  | suspending => exact hfollow .shutingDown (by rw [hs]; decide) (by rw [hs]; rfl) rfl
  | shutdown | openingStopping | shutingDown =>
    exact hfollow s.mpState ⟨rfl, rfl, id⟩ rfl (by rw [hs]; rfl)

theorem wp_shutdown (huser : Quiet user) (h : Sound s) (hmay : s.MayClose) :
    wp (shutdown user) (fun _ t ↦ Sound t) (fun _ _ ↦ False) s := by
  rw [shutdown, wp_bind, logged, wp_modify]
  refine wp_onShutdownRequest huser ?_ h.settled hmay
  exact ⟨h.agrees, h.timer, h.up, h.opening, h.toLiving.log (Life.step_shutdown _)⟩

/-- **A request**. -/
theorem wp_request (huser : Quiet user) (h : Sound s) {r : MonitorRequest}
    (hmay : r = .close ∨ r = .suspend ∨ r = .shutdown → s.MayClose) :
    wp (request user r) (fun _ t ↦ Sound t) (fun _ _ ↦ False) s := by
  cases r with
  | start => exact wp_start h
  | startOne => exact wp_startOne h
  | close => exact wp_close huser h (hmay (.inl rfl))
  | suspend => exact wp_suspend huser h (hmay (.inr (.inl rfl)))
  | shutdown => exact wp_shutdown huser h (hmay (.inr (.inr rfl)))

/-! ## Callbacks

The user of the monitor is told of an opening, a failure and a closing, and may make requests of
the monitor in turn; so the user is assumed to keep the invariant too. -/

/-- The state after an opening has failed, when the monitor is in `m`. -/
def failedIn (s : Monitored υ) (m : MonitorState) (aTimer : Bool) : Monitored υ :=
  { s with mState := {}, log := s.log ++ [.onOpenFailure], mpState := m, mpOpenTimer := aTimer }

/-- The monitor after an opening has failed. -/
theorem Sound.failed (h : Sound s) (hphase : s.mpState.phase = .opening) {m : MonitorState}
    (hm : m.phase = .idle) (hc : m.hasClosed = false) (hstop : m.isStopped = s.mpState.isStopped) :
    Sound (s.failedIn m m.isWaiting) where
  agrees := ⟨fun _ ↦ rfl, fun ho ↦ PortPhase.noConfusion (hm.symm.trans ho),
    fun ho ↦ PortPhase.noConfusion (hm.symm.trans ho), fun hh ↦ Bool.noConfusion (hc.symm.trans hh)⟩
  timer := rfl
  up := h.up.trans (h.agrees.opening hphase).2.1
  opening ho := PortPhase.noConfusion (hm.symm.trans ho)
  life := by
    show Run.run Life.step .start (s.log ++ [.onOpenFailure]) = some ⟨m.phase, m.isStopped⟩
    rw [hm, hstop]
    refine h.log ?_
    rw [hphase]
    rfl
  settled hc := Bool.noConfusion hc

theorem wp_startOpenTimer {Q : Unit → Monitored υ → Prop} {E : Exception → Monitored υ → Prop}
    (h : s.mpOpenTimer = false) (hQ : Q () { s with mpOpenTimer := true }) :
    wp startOpenTimer Q E s := by
  rw [startOpenTimer, wp_bind, wp_get, wp_bind, wp_ensure_of h]
  exact hQ

/-- **An opening fails**: the monitor waits, is suspended or has been shut down. -/
theorem wp_onOpenFailure (h : Sound s) (hphase : s.mpState.phase = .opening) :
    wp onOpenFailure (fun _ t ↦ Sound t) (fun _ _ ↦ False)
      (s.failedIn s.mpState s.mpOpenTimer) := by
  have htimer : s.mpOpenTimer = false :=
    h.timer.trans (LinkRouter.isWaiting_of_phase (by rw [hphase]; exact PortPhase.noConfusion))
  have hs' : (s.failedIn s.mpState s.mpOpenTimer).mpState = s.mpState := rfl
  have hwait : s.mpState.isStopped = false →
      wp (do changeState .waiting; startOpenTimer) (fun _ t ↦ Sound t) (fun _ _ ↦ False)
        (s.failedIn s.mpState s.mpOpenTimer) := by
    intro hstop
    rw [wp_bind, changeState, wp_modify]
    refine wp_startOpenTimer htimer ?_
    exact h.failed hphase (m := .waiting) rfl rfl hstop.symm
  have hidle : ∀ m : MonitorState, m.phase = .idle → m.hasClosed = false → m.isWaiting = false →
      m.isStopped = s.mpState.isStopped →
      wp (changeState m) (fun _ t ↦ Sound t) (fun _ _ ↦ False)
        (s.failedIn s.mpState s.mpOpenTimer) := by
    intro m hm hc hw hstop
    have hfailed := h.failed hphase hm hc hstop
    rwa [hw, ← htimer] at hfailed
  rw [onOpenFailure, wp_bind, wp_get, hs']
  cases hs : s.mpState with
  | opening =>
    rw [hs] at hwait
    exact hwait rfl
  | openingClosing =>
    rw [hs] at hwait
    exact hwait rfl
  | openingOne =>
    rw [hs] at hidle
    exact hidle .suspended rfl rfl rfl rfl
  | openingSuspending =>
    rw [hs] at hidle
    exact hidle .suspended rfl rfl rfl rfl
  | openingStopping =>
    rw [hs] at hidle
    exact hidle .shutdown rfl rfl rfl rfl
  | _ => exact PortPhase.noConfusion (hphase.symm.trans (congrArg MonitorState.phase hs))

theorem wp_failOpening (huser : Quiet user) (h : Sound s) (hphase : s.mpState.phase = .opening) :
    wp (failOpening user) (fun _ t ↦ Sound t) (fun _ _ ↦ False)
      { s with mState := { s.mState with mOpening := false } } := by
  obtain ⟨-, hopen, hreading, hwriting⟩ := h.agrees.opening hphase
  have hrest : wp (do logged .onOpenFailure; onOpenFailure; user.onPhysicalLayerOpenFailureCallback)
      (fun _ t ↦ Sound t) (fun _ _ ↦ False) { s with mState := {} } := by
    have hfail := wp_onOpenFailure h hphase
    rw [wp_bind, logged, wp_modify, wp_bind]
    exact wp_mono hfail (fun _ t ht ↦ huser.openFailure t ht) fun _ _ he ↦ he
  rw [failOpening, wp_bind, wp_checkForClose]
  dsimp only
  rw [PhysState.callbacksPending, hopen, hreading, hwriting]
  -- whether it was to close or not, the port is closed
  split
  · exact hrest
  · next hdue =>
    have hclosing : s.mState.mClosing = false := by simpa using hdue
    rw [hclosing]
    exact hrest

/-- **The port has opened**. -/
theorem wp_openSuccess (huser : Quiet user) (h : Sound s) (hphase : s.mpState.phase = .opening)
    (hclosing : s.mState.mClosing = false) :
    wp (onLowerLayerUp user) (fun _ t ↦ Sound t) (fun _ _ ↦ False)
      { s with mState := { s.mState with mOpening := false, mOpen := true } } := by
  obtain ⟨-, hopen, hreading, hwriting⟩ := h.agrees.opening hphase
  have hup : s.mIsLowerLayerUp = false := h.up.trans hopen
  have hp : { s.mState with mOpening := false, mOpen := true } =
      ({ mOpen := true } : PhysState) := by
    dsimp only
    rw [hclosing, hreading, hwriting]
  have hsound : ∀ m : MonitorState, m.phase = .opened → m.isWaiting = s.mpState.isWaiting →
      m.hasClosed = false → m.isStopped = false → s.mpState.isStopped = false →
      Sound { s with
        mState := { mOpen := true }
        mIsLowerLayerUp := true
        log := s.log ++ [.onLowerLayerUp]
        mpState := m } := by
    intro m hm hw hc hstop hold
    refine ⟨⟨⟨?_, ?_, fun _ ↦ ⟨rfl, rfl⟩, ?_⟩, h.timer.trans hw.symm, rfl, ?_, ?_⟩, ?_⟩
    · exact fun hi ↦ PortPhase.noConfusion (hm.symm.trans hi)
    · exact fun hi ↦ PortPhase.noConfusion (hm.symm.trans hi)
    · exact fun hh ↦ Bool.noConfusion (hc.symm.trans hh)
    · exact fun hi ↦ PortPhase.noConfusion (hm.symm.trans hi)
    · show Run.run Life.step .start (s.log ++ [.onLowerLayerUp]) = some ⟨m.phase, m.isStopped⟩
      rw [hm, hstop]
      refine h.log ?_
      rw [hphase, hold]
      rfl
    · exact fun hh ↦ Bool.noConfusion hh
  rw [onLowerLayerUp, wp_bind, logged, wp_modify, wp_bind, wp_get, wp_bind, wp_ensure_of hup,
    wp_bind, wp_modify, wp_bind, onLayerOpen, wp_bind, wp_get]
  dsimp only
  rw [hp]
  cases hs : s.mpState with
  | opening =>
    rw [hs] at hsound
    exact huser.openSuccess _ (hsound .opened rfl rfl rfl rfl rfl)
  | openingOne =>
    rw [hs] at hsound
    exact huser.openSuccess _ (hsound .openedOne rfl rfl rfl rfl rfl)
  | openingClosing | openingStopping | openingSuspending =>
    have hclosed := h.agrees.closing (by rw [hs]; rfl)
    exact Bool.noConfusion (hclosing.symm.trans hclosed)
  | _ => exact PortPhase.noConfusion (hphase.symm.trans (congrArg MonitorState.phase hs))

/-- The phase of a port that calls back. -/
theorem Sound.phase_of_mOpening (h : Sound s) (ho : s.mState.mOpening = true) :
    s.mpState.phase = .opening := by
  cases hm : s.mpState.phase with
  | opening => rfl
  | idle => exact Bool.noConfusion (ho.symm.trans (by rw [h.agrees.idle hm]))
  | opened => exact Bool.noConfusion (ho.symm.trans (h.agrees.opened hm).2)

theorem wp_onOpenCallback (huser : Quiet user) (h : Sound s) (ho : s.mState.mOpening = true)
    (arErr : Bool) :
    wp (onOpenCallback user arErr) (fun _ t ↦ Sound t) (fun _ _ ↦ False) s := by
  have hphase := h.phase_of_mOpening ho
  rw [onOpenCallback, wp_bind, wp_get, wp_bind, wp_ensure_of ho, wp_bind, wp_modify]
  cases arErr with
  | true => exact wp_failOpening huser h hphase
  | false =>
    rw [if_neg Bool.false_ne_true, wp_bind, wp_get]
    dsimp only
    by_cases hclosing : s.mState.mClosing = true
    · rw [if_pos hclosing]
      exact wp_failOpening huser h hphase
    · rw [if_neg hclosing, wp_bind, wp_modify]
      have hup := wp_openSuccess huser h hphase (Bool.eq_false_iff.mpr hclosing)
      exact hup

/-- While the port is open, reads and writes come and go, and it may begin to close. -/
theorem Living.whileOpen (h : Living b s) (hphase : s.mpState.phase = .opened) {p : PhysState}
    (hopen : p.mOpen = s.mState.mOpen) (hopening : p.mOpening = s.mState.mOpening)
    (hclosing : s.mState.mClosing = true → p.mClosing = true) :
    Living b { s with mState := p } where
  agrees := by
    refine ⟨fun hi ↦ PortPhase.noConfusion (hphase.symm.trans hi),
      fun hi ↦ PortPhase.noConfusion (hphase.symm.trans hi), fun _ ↦ ?_,
      fun hh ↦ hclosing (h.agrees.closing hh)⟩
    rw [hopen, hopening]
    exact h.agrees.opened hphase
  timer := h.timer
  up := h.up.trans hopen.symm
  opening hi := PortPhase.noConfusion (hphase.symm.trans hi)
  life := h.life

theorem Sound.phase_of_mOpen (h : Sound s) (ho : s.mState.mOpen = true) :
    s.mpState.phase = .opened :=
  h.agrees.phase_of_mOpen ho

theorem Sound.phase_of_pending (h : Sound s)
    (hp : s.mState.mReading = true ∨ s.mState.mWriting = true) :
    s.mpState.phase = .opened := by
  cases hm : s.mpState.phase with
  | opened => rfl
  | idle =>
    rw [h.agrees.idle hm] at hp
    rcases hp with hp | hp
    · exact Bool.noConfusion hp
    · exact Bool.noConfusion hp
  | opening =>
    obtain ⟨-, -, hreading, hwriting⟩ := h.agrees.opening hm
    rw [hreading, hwriting] at hp
    rcases hp with hp | hp
    · exact Bool.noConfusion hp
    · exact Bool.noConfusion hp

theorem wp_closeOnError (h : Living s.mpState.isStopped s) (hphase : s.mpState.phase = .opened) :
    wp closeOnError (fun _ t ↦ Living t.mpState.isStopped t) (fun _ _ ↦ False) s := by
  rw [closeOnError, wp_bind, wp_get]
  by_cases hcan : s.mState.canClose = true
  · rw [if_pos hcan, startClose, wp_bind, wp_get, wp_bind, wp_ensure_of hcan, wp_modify]
    exact h.whileOpen hphase rfl rfl fun _ ↦ rfl
  · rw [if_neg hcan]
    exact h

/-- **A read or a write ends**: `x` is what the user does when it is told. -/
theorem wp_endIO (huser : Quiet user) {x : Op υ Unit} (hx : Keeps x) (h : Sound s)
    (hphase : s.mpState.phase = .opened) {p : PhysState} (hopen : p.mOpen = s.mState.mOpen)
    (hopening : p.mOpening = s.mState.mOpening) (hclosing : p.mClosing = s.mState.mClosing)
    (arErr : Bool) :
    wp (do
        if arErr then closeOnError
        else if s.mState.mClosing then pure ()
        else x
        closeIfDue user)
      (fun _ t ↦ Sound t) (fun _ _ ↦ False) { s with mState := p } := by
  have hliving : Living s.mpState.isStopped { s with mState := p } :=
    h.toLiving.whileOpen hphase hopen hopening fun hc ↦ hclosing.trans hc
  dsimp only
  cases arErr with
  | true =>
    have herr := wp_closeOnError (s := { s with mState := p }) hliving hphase
    rw [if_pos rfl, wp_bind]
    exact wp_mono herr (fun _ t ht ↦ wp_closeIfDue huser ht) fun _ _ he ↦ he
  | false =>
    rw [if_neg Bool.false_ne_true]
    by_cases hc : s.mState.mClosing = true
    · rw [if_pos hc]
      exact wp_closeIfDue (s := { s with mState := p }) huser hliving
    · rw [if_neg hc, wp_bind]
      have hsound : Sound { s with mState := p } :=
        ⟨hliving, fun hp ↦ absurd (hclosing.symm.trans hp) hc⟩
      exact wp_mono (hx _ hsound) (fun _ t ht ↦ wp_closeIfDue huser ht.toLiving) fun _ _ he ↦ he

theorem wp_onReadCallback (huser : Quiet user) (h : Sound s) (hr : s.mState.mReading = true)
    (arErr : Bool) :
    wp (onReadCallback user arErr) (fun _ t ↦ Sound t) (fun _ _ ↦ False) s := by
  rw [onReadCallback, wp_bind, wp_get, wp_bind, wp_ensure_of hr, wp_bind, wp_modify]
  have hend := wp_endIO huser huser.receive h (h.phase_of_pending (.inl hr))
    (p := { s.mState with mReading := false }) rfl rfl rfl arErr
  exact hend

theorem wp_onWriteCallback (huser : Quiet user) (h : Sound s) (hw : s.mState.mWriting = true)
    (arErr : Bool) :
    wp (onWriteCallback user arErr) (fun _ t ↦ Sound t) (fun _ _ ↦ False) s := by
  rw [onWriteCallback, wp_bind, wp_get, wp_bind, wp_ensure_of hw, wp_bind, wp_modify]
  have hend := wp_endIO huser huser.sendSuccess h (h.phase_of_pending (.inr hw))
    (p := { s.mState with mWriting := false }) rfl rfl rfl arErr
  exact hend

/-- Something is read or written while the port is open. -/
theorem Sound.begin (h : Sound s) {p : PhysState} (hcan : s.mState.mOpen = true)
    (hnot : s.mState.mClosing = false) (hopen : p.mOpen = s.mState.mOpen)
    (hopening : p.mOpening = s.mState.mOpening) (hclosing : p.mClosing = s.mState.mClosing) :
    Sound { s with mState := p } := by
  refine ⟨h.toLiving.whileOpen (h.phase_of_mOpen hcan) hopen hopening fun hc ↦
    hclosing.trans hc, ?_⟩
  exact fun hc ↦ Bool.noConfusion (hnot.symm.trans (hclosing.symm.trans hc))

end Monitored

/-! ## Runs -/

/-- What a user starts. -/
inductive Start where
  | read | write
  deriving DecidableEq, Repr

namespace Start

/-- Start a read or a write, if the port can. -/
def op : Start → Monitored.Op Unit Unit
  | .read => do if (← get).mState.canRead then Monitored.asyncRead
  | .write => do if (← get).mState.canWrite then Monitored.asyncWrite

end Start

/-- A user that starts these when it is called. -/
def Callbacks.starting (l : List Start) : Callbacks Unit where
  onPhysicalLayerOpenSuccessCallback := l.forM Start.op
  onPhysicalLayerOpenFailureCallback := l.forM Start.op
  onPhysicalLayerCloseCallback := l.forM Start.op
  onReceive := l.forM Start.op
  onSendSuccess := l.forM Start.op

namespace Monitored

theorem keeps_start (i : Start) : Keeps i.op := by
  intro s h
  cases i with
  | read =>
    rw [Start.op, wp_bind, wp_get]
    by_cases hcan : s.mState.canRead = true
    · rw [if_pos hcan, asyncRead, wp_bind, wp_get, wp_bind, wp_ensure_of hcan, wp_modify]
      simp only [PhysState.canRead, Bool.and_eq_true, Bool.not_eq_true'] at hcan
      exact h.begin hcan.1.1 hcan.1.2 rfl rfl rfl
    · rw [if_neg hcan]
      exact h
  | write =>
    rw [Start.op, wp_bind, wp_get]
    by_cases hcan : s.mState.canWrite = true
    · rw [if_pos hcan, asyncWrite, wp_bind, wp_get, wp_bind, wp_ensure_of hcan, wp_modify]
      simp only [PhysState.canWrite, Bool.and_eq_true, Bool.not_eq_true'] at hcan
      exact h.begin hcan.1.1 hcan.1.2 rfl rfl rfl
    · rw [if_neg hcan]
      exact h

/-- A user that starts reads and writes is quiet. -/
theorem quiet_starting (l : List Start) : Quiet (.starting l) := by
  have hkeeps : Keeps (l.forM Start.op) := fun s h ↦ wp_forM (fun i _ s hs ↦ keeps_start i s hs) h
  exact ⟨hkeeps, hkeeps, hkeeps, hkeeps, hkeeps⟩

end Monitored

/-- What happens to a monitor and its port.  A list says what the user starts when it is called. -/
inductive MonitorEvent where
  | request (aRequest : MonitorRequest) (aStarts : List Start)
  | onOpenTimerExpiration
  | start (i : Start)
  | onOpenCallback (arErr : Bool) (aStarts : List Start)
  | onReadCallback (arErr : Bool) (aStarts : List Start)
  | onWriteCallback (arErr : Bool) (aStarts : List Start)
  deriving DecidableEq, Repr

/-- A monitor, and what has been thrown out of it. -/
structure LifecycleRun where
  monitored : Monitored Unit
  thrown : List Exception

namespace LifecycleRun

/-- The operation that handles an event. -/
def op : MonitorEvent → Monitored.Op Unit Unit
  | .request r l => Monitored.request (.starting l) r
  | .onOpenTimerExpiration => Monitored.onOpenTimerExpiration
  | .start i => i.op
  | .onOpenCallback arErr l => Monitored.onOpenCallback (.starting l) arErr
  | .onReadCallback arErr l => Monitored.onReadCallback (.starting l) arErr
  | .onWriteCallback arErr l => Monitored.onWriteCallback (.starting l) arErr

/-- Callbacks come only if they are due, and reads and writes are started only when the port can. -/
def possible (s : Monitored Unit) : MonitorEvent → Bool
  | .request _ _ => true
  | .onOpenTimerExpiration => s.mpOpenTimer
  | .start .read => s.mState.canRead
  | .start .write => s.mState.canWrite
  | .onOpenCallback _ _ => s.mState.mOpening
  | .onReadCallback _ _ => s.mState.mReading
  | .onWriteCallback _ _ => s.mState.mWriting

/-- **One event**, if it can happen. -/
def step (s : LifecycleRun) (e : MonitorEvent) : Option LifecycleRun :=
  if possible s.monitored e then
    some {
      monitored := (exec (op e) s.monitored).1
      thrown := s.thrown ++ (exec (op e) s.monitored).2.toList }
  else none

/-- The constructor. -/
def init : LifecycleRun := ⟨.init (), []⟩

/-- **The condition**: the port is not told to close while it is closing on its own. -/
def Allowed (s : LifecycleRun) : MonitorEvent → Prop
  | .request .close _ | .request .suspend _ | .request .shutdown _ => s.monitored.MayClose
  | _ => True

instance (s : LifecycleRun) (e : MonitorEvent) : Decidable (s.Allowed e) := by
  unfold Allowed
  split <;> infer_instance

/-- **One allowed event** throws nothing and keeps the invariant. -/
theorem wp_op {s : LifecycleRun} {e : MonitorEvent} (h : s.monitored.Sound)
    (hpossible : possible s.monitored e = true) (hallowed : s.Allowed e) :
    wp (op e) (fun _ t ↦ t.Sound) (fun _ _ ↦ False) s.monitored := by
  cases e with
  | request r l =>
    refine Monitored.wp_request (Monitored.quiet_starting l) h fun hr ↦ ?_
    rcases hr with rfl | rfl | rfl
    · exact hallowed
    · exact hallowed
    · exact hallowed
  | onOpenTimerExpiration => exact Monitored.wp_onOpenTimerExpiration h hpossible
  | start i => exact Monitored.keeps_start i _ h
  | onOpenCallback arErr l =>
    exact Monitored.wp_onOpenCallback (Monitored.quiet_starting l) h hpossible arErr
  | onReadCallback arErr l =>
    exact Monitored.wp_onReadCallback (Monitored.quiet_starting l) h hpossible arErr
  | onWriteCallback arErr l =>
    exact Monitored.wp_onWriteCallback (Monitored.quiet_starting l) h hpossible arErr

/-- **The invariant** of allowed runs. -/
theorem sound_step {s t : LifecycleRun} {e : MonitorEvent} (h : s.monitored.Sound ∧ s.thrown = [])
    (hallowed : s.Allowed e) (hstep : s.step e = some t) : t.monitored.Sound ∧ t.thrown = [] := by
  obtain ⟨hsound, hthrown⟩ := h
  rw [step] at hstep
  split at hstep
  · next hpossible =>
    have hop := wp_op hsound hpossible hallowed
    have hexec := exec_of_wp (Q := fun u e ↦ u.Sound ∧ e = none)
      (wp_mono hop (fun _ t ht ↦ ⟨ht, rfl⟩) fun _ _ he ↦ he.elim)
    cases hstep
    refine ⟨hexec.1, ?_⟩
    show s.thrown ++ (exec (op e) s.monitored).2.toList = []
    rw [hexec.2, hthrown]
    rfl
  · cases hstep

end LifecycleRun

/-! ## Lives in numbers

The life of a port has as many endings as beginnings, up to the one that is under way. So the
calls of the monitor and the answers of the port can be counted. -/

namespace Life

/-- How many openings are not answered yet. -/
def unanswered (l : Life) : ℕ := if l.phase = .opening then 1 else 0

/-- How many layers are up. -/
def ups (l : Life) : ℕ := if l.phase = .opened then 1 else 0

/-- What a step counts. -/
theorem counts_step {l l' : Life} {e : LifeEvent} (h : l.step e = some l') :
    [e].count .asyncOpen + l.unanswered =
      [e].count .onOpenFailure + [e].count .onLowerLayerUp + l'.unanswered ∧
    [e].count .onLowerLayerUp + l.ups = [e].count (.onLowerLayerDown false) + l'.ups ∧
    e ≠ .onLowerLayerDown true ∧ (l'.isShutdown = true ↔ l.isShutdown = true ∨ e = .shutdown) ∧
    (l.isShutdown = true → e ≠ .asyncOpen) := by
  obtain ⟨p, b⟩ := l
  cases e with
  | shutdown =>
    rw [step_shutdown] at h
    cases h
    simp [unanswered, ups]
  | onLowerLayerDown q => cases p <;> cases b <;> cases q <;> cases h <;> decide
  | _ => cases p <;> cases b <;> cases h <;> decide

/-- What a life counts. -/
theorem counts_run {l l' : Life} {log : List LifeEvent} (h : Run.run step l log = some l') :
    log.count .asyncOpen + l.unanswered =
      log.count .onOpenFailure + log.count .onLowerLayerUp + l'.unanswered ∧
    log.count .onLowerLayerUp + l.ups = log.count (.onLowerLayerDown false) + l'.ups ∧
    .onLowerLayerDown true ∉ log ∧ (l'.isShutdown = true ↔ l.isShutdown = true ∨ .shutdown ∈ log) ∧
    (l.isShutdown = true → .asyncOpen ∉ log) := by
  induction log generalizing l with
  | nil =>
    rw [Run.run_nil, Option.some_inj] at h
    subst h
    simp
  | cons e log ih =>
    obtain ⟨l₁, hstep, hrun⟩ := Run.run_cons_eq_some.mp h
    obtain ⟨hopen, hup, hdown, hshut, hafter⟩ := counts_step hstep
    obtain ⟨hopens, hups, hdowns, hshuts, hafters⟩ := ih hrun
    have hcount : ∀ x, (e :: log).count x = [e].count x + log.count x := by
      intro x
      rw [← List.count_append]
      rfl
    refine ⟨?_, ?_, ?_, ?_, ?_⟩
    · rw [hcount, hcount, hcount]
      omega
    · rw [hcount, hcount]
      omega
    · exact List.not_mem_cons_of_ne_of_not_mem hdown.symm hdowns
    · rw [hshuts, hshut, List.mem_cons, or_assoc, eq_comm (a := e)]
    · intro hl
      exact List.not_mem_cons_of_ne_of_not_mem (hafter hl).symm (hafters (hshut.mpr (.inl hl)))

end Life

namespace LifecycleRun

/-- After a shutdown the monitor is stopped; it waits only for what is pending. -/
theorem shutdown_of_sound {s : Monitored Unit} (h : s.Sound) (hstop : s.mpState.isStopped = true)
    (hpending : s.mState.callbacksPending = false) : s.mpState = .shutdown := by
  cases hs : s.mpState with
  | shutdown => rfl
  | openingStopping =>
    have hopening := (h.agrees.opening (by rw [hs]; rfl)).1
    rw [PhysState.callbacksPending, hopening] at hpending
    exact Bool.noConfusion hpending
  | shutingDown =>
    have hclosing := h.settled (h.agrees.closing (by rw [hs]; rfl))
    exact Bool.noConfusion (hpending.symm.trans hclosing)
  | _ =>
    rw [hs] at hstop
    exact Bool.noConfusion hstop

/-- **The life cycle of the port**, in every run in which no request to close comes while the port
is closing on its own.  Nothing is thrown; the timer is running exactly in `Waiting` and
`WaitingOne`; what has passed between the monitor and the port is a life of the port (`Life`), and
so every opening but the one that is pending has been answered by either a failure or a layer that
is up, and every layer that was up but the one that is has gone down, with nothing pending; there is
no opening after a shutdown; and after a shutdown the monitor is in `Shutdown` when nothing is
pending. -/
theorem lifecycle {es : List MonitorEvent} {s : LifecycleRun}
    (hguard : Run.Guarded step Allowed init es) (hrun : Run.run step init es = some s) :
    s.thrown = [] ∧
    (s.monitored.mpOpenTimer = true ↔
      s.monitored.mpState = .waiting ∨ s.monitored.mpState = .waitingOne) ∧
    (∃ l, Run.run Life.step .start s.monitored.log = some l ∧
      (l.phase = .opening ↔ s.monitored.mState.mOpening = true) ∧
      (l.phase = .opened ↔ s.monitored.mState.mOpen = true)) ∧
    s.monitored.log.count .asyncOpen = s.monitored.log.count .onOpenFailure +
      s.monitored.log.count .onLowerLayerUp + (if s.monitored.mState.mOpening then 1 else 0) ∧
    s.monitored.log.count .onLowerLayerUp =
      s.monitored.log.count (.onLowerLayerDown false) +
        (if s.monitored.mState.mOpen then 1 else 0) ∧
    .onLowerLayerDown true ∉ s.monitored.log ∧
    (∀ before after, s.monitored.log = before ++ .shutdown :: after → .asyncOpen ∉ after) ∧
    (.shutdown ∈ s.monitored.log → s.monitored.mState.callbacksPending = false →
      s.monitored.mpState = .shutdown) := by
  obtain ⟨hsound, hthrown⟩ : s.monitored.Sound ∧ s.thrown = [] :=
    Run.inv_of_guarded (fun _ _ _ hs hg h ↦ sound_step hs hg h)
      ⟨Monitored.sound_init (), rfl⟩ hguard hrun
  obtain ⟨hopens, hups, hdowns, hshut, -⟩ := Life.counts_run hsound.life
  have hopening : s.monitored.mpState.phase = .opening ↔ s.monitored.mState.mOpening = true :=
    ⟨fun h ↦ (hsound.agrees.opening h).1, fun h ↦ hsound.phase_of_mOpening h⟩
  have hopened : s.monitored.mpState.phase = .opened ↔ s.monitored.mState.mOpen = true :=
    ⟨fun h ↦ (hsound.agrees.opened h).1, fun h ↦ hsound.phase_of_mOpen h⟩
  refine ⟨hthrown, ?_, ⟨_, hsound.life, hopening, hopened⟩, ?_, ?_, hdowns, ?_, ?_⟩
  · rw [hsound.timer]
    cases s.monitored.mpState <;> decide
  · simpa [Life.unanswered, Life.start, hopening] using hopens
  · simpa [Life.ups, Life.start, hopened] using hups
  · intro before after hlog
    have hlife := hsound.life
    rw [hlog, Run.run_append, Option.bind_eq_some_iff] at hlife
    obtain ⟨l, -, hafter⟩ := hlife
    obtain ⟨l', hstep, hafter⟩ := Run.run_cons_eq_some.mp hafter
    rw [Life.step_shutdown] at hstep
    cases hstep
    exact (Life.counts_run hafter).2.2.2.2 rfl
  · intro hmem hpending
    exact shutdown_of_sound hsound (hshut.mpr (.inr hmem)) hpending

/-- A port that fails to open, opens, closes after an error of a write and a read that follows it,
opens again, and is shut down while it is open. -/
def failsAndReopens : List MonitorEvent :=
  [.request .start [], .onOpenCallback true [], .onOpenTimerExpiration,
    .onOpenCallback false [.read, .write], .onWriteCallback true [], .onReadCallback false [],
    .onOpenCallback false [.read], .onReadCallback false [.read], .request .shutdown [],
    .onReadCallback true []]

theorem lifecycle_failsAndReopens : ∃ s, Run.run step init failsAndReopens = some s ∧
    s.thrown = [] ∧
    (s.monitored.mpOpenTimer = true ↔
      s.monitored.mpState = .waiting ∨ s.monitored.mpState = .waitingOne) ∧
    (∃ l, Run.run Life.step .start s.monitored.log = some l ∧
      (l.phase = .opening ↔ s.monitored.mState.mOpening = true) ∧
      (l.phase = .opened ↔ s.monitored.mState.mOpen = true)) ∧
    s.monitored.log.count .asyncOpen = s.monitored.log.count .onOpenFailure +
      s.monitored.log.count .onLowerLayerUp + (if s.monitored.mState.mOpening then 1 else 0) ∧
    s.monitored.log.count .onLowerLayerUp =
      s.monitored.log.count (.onLowerLayerDown false) +
        (if s.monitored.mState.mOpen then 1 else 0) ∧
    .onLowerLayerDown true ∉ s.monitored.log ∧
    (∀ before after, s.monitored.log = before ++ .shutdown :: after → .asyncOpen ∉ after) ∧
    (.shutdown ∈ s.monitored.log → s.monitored.mState.callbacksPending = false →
      s.monitored.mpState = .shutdown) := by
  obtain ⟨s, hrun⟩ : ∃ s, Run.run step init failsAndReopens = some s :=
    Option.isSome_iff_exists.mp (by decide +kernel)
  exact ⟨s, hrun, lifecycle (by decide +kernel) hrun⟩

/-- **A read fails while a write is pending, and then the user closes**: the port is closing
already, and `AsyncClose` throws. -/
theorem close_throws : ∃ s, Run.run step init
    [.request .start [], .onOpenCallback false [.read, .write], .onReadCallback true [],
      .request .close []] = some s ∧
    s.thrown = [.invalidState "StartClose: Open: 1 Opening: 0 Reading: 0 Writing: 1 Closing: 1"] :=
  ⟨_, rfl, by decide +kernel⟩

end LifecycleRun

end OpenDNP3
