import OpenDNP3.Lib.Run
import OpenDNP3.Link.Router

/-!
# The invariant of the router

Anything may happen to a router, in any order and also from within the calls that it makes: frames
are transmitted, contexts come and go, the port opens, fails, starts to close and closes.  Whatever
happens, frames are written in the order in which they were accepted, and the frame that is being
written is the head of the queue.

* `RouterRun` and `RouterRun.step` — the router with a record of the frames that it has accepted.
* `Agrees` — the monitor knows what the port is doing.
* `RouterRun.Allowed` — the two things that must not happen.  A context must not be removed while a
  frame of its route is in the queue, and nothing may be transmitted through a port that is closing,
  unless a frame is being written; the first makes the assertion of `_OnSendSuccess` fail, and the
  second makes `Transmit` throw.
* `Sound` — the invariant, and `Keeps`, that an operation keeps it.  The requests of the monitor are
  the first that do.
-/

set_option autoImplicit false

namespace OpenDNP3

open Handler

/-! ## Runs -/

/-- What can happen to a router. -/
inductive RouterEvent (κ α : Type) where
  | transmit (arFrame : Frame α)
  | addContext (apContext : κ) (arRoute : LinkRoute)
  | removeContext (arRoute : LinkRoute)
  | request (aRequest : MonitorRequest)
  | asyncClose
  | onOpenCallback (arErr : Bool)
  | onReadCallback (arErr : Bool)
  | onWriteCallback (arErr : Bool)
  | onOpenTimerExpiration
  | resume
  | unwind
  deriving DecidableEq, Repr

/-- The frames that were accepted while a connection was open, and those that were written to it. -/
structure RouterSession (α : Type) where
  accepted : List (Frame α)
  written : List (Frame α)

/-- A router with its record; `accepted` and `completed` are about the connection that is, or was
last, open: the frames that `Transmit` has accepted, and the number of writes that have
succeeded. -/
structure RouterRun (κ α : Type) where
  router : LinkRouter κ α
  accepted : List (Frame α)
  completed : ℕ
  past : List (RouterSession α)

namespace RouterRun

variable {κ α : Type} [DecidableEq κ]

/-- The operation that handles an event. -/
def op : RouterEvent κ α → LinkRouter.Op κ α Unit
  | .transmit fr => LinkRouter.transmit fr
  | .addContext k r => LinkRouter.addContext k r
  | .removeContext r => LinkRouter.removeContext r
  | .request q => LinkRouter.request q
  | .asyncClose => LinkRouter.asyncClose
  | .onOpenCallback arErr => LinkRouter.onOpenCallback arErr
  | .onReadCallback arErr => LinkRouter.onReadCallback arErr
  | .onWriteCallback arErr => LinkRouter.onWriteCallback arErr
  | .onOpenTimerExpiration => LinkRouter.onOpenTimerExpiration
  | .resume => LinkRouter.resume
  | .unwind => LinkRouter.unwind

/-- Callbacks come only if they are due, and not within a call of a context; but a port may
fail to open within the call that opens it. -/
def possible (s : LinkRouter κ α) : RouterEvent κ α → Bool
  | .onOpenCallback arErr => s.mState.mOpening && (arErr || s.stack.isEmpty)
  | .onReadCallback _ => s.mState.mReading && s.stack.isEmpty
  | .onWriteCallback _ => s.mState.mWriting && s.stack.isEmpty
  | .onOpenTimerExpiration => s.mpOpenTimer && s.stack.isEmpty
  | .resume | .unwind => !s.stack.isEmpty
  | _ => true

/-- The record after an event. -/
def record (s : RouterRun κ α) (e : RouterEvent κ α) (t : LinkRouter κ α)
    (thrown : Option Exception) :
    RouterRun κ α :=
  match e with
  | .transmit fr =>
    { s with router := t, accepted := if thrown = none then s.accepted ++ [fr] else s.accepted }
  | .onWriteCallback false => { s with router := t, completed := s.completed + 1 }
  | .onOpenCallback arErr =>
    if arErr || s.router.mState.mClosing then { s with router := t }
    else { router := t, accepted := [], completed := 0, past := s.past ++
      [⟨s.accepted, s.router.stream⟩] }
  | _ => { s with router := t }

/-- **One event**, if it can happen. -/
def step (s : RouterRun κ α) (e : RouterEvent κ α) : Option (RouterRun κ α) :=
  if possible s.router e then
    some (s.record e (exec (op e) s.router).1 (exec (op e) s.router).2)
  else none

/-- The constructor. -/
def init : RouterRun κ α where
  router := .init
  accepted := []
  completed := 0
  past := []

/-- What must hold of a router when an event comes. -/
def Allowed (s : RouterRun κ α) : RouterEvent κ α → Prop
  | .transmit fr => s.router.isBound fr.route → s.router.mIsLowerLayerUp = true →
      s.router.mState.mClosing = true → s.router.mTransmitting = true
  | .removeContext r => ∀ fr ∈ s.router.mTransmitQueue, fr.route ≠ r
  | _ => True

instance (s : RouterRun κ α) (e : RouterEvent κ α) : Decidable (s.Allowed e) := by
  cases e <;> unfold Allowed <;> infer_instance

end RouterRun

/-! ## The invariant

The queue, the flags of the port and the frames that have been written say the same about what
has been done of what was accepted. -/

/-- What a state of the monitor says of the port. -/
inductive PortPhase where
  | idle | opening | opened
  deriving DecidableEq, Repr

namespace MonitorState

/-- The port is closed, opening or open. -/
def phase : MonitorState → PortPhase
  | .shutdown | .suspended | .init | .waiting | .waitingOne => .idle
  | .opening | .openingOne | .openingClosing | .openingStopping | .openingSuspending => .opening
  | .opened | .openedOne | .closing | .suspending | .shutingDown => .opened

/-- The port has been told to close. -/
def hasClosed : MonitorState → Bool
  | .openingClosing | .openingStopping | .openingSuspending => true
  | .closing | .suspending | .shutingDown => true
  | _ => false

/-- The timer of the monitor is running. -/
def isWaiting : MonitorState → Bool
  | .waiting | .waitingOne => true
  | _ => false

/-- The monitor may go from `old` to `m` while the port stays as it is. -/
def Follows (m old : MonitorState) : Prop :=
  m.phase = old.phase ∧ m.isWaiting = old.isWaiting ∧ (m.hasClosed = true → old.hasClosed = true)

instance (m old : MonitorState) : Decidable (m.Follows old) := by
  unfold Follows
  infer_instance

/-- The monitor goes to `m` when it opens the port. -/
def Opens (m : MonitorState) : Prop :=
  m.phase = .opening ∧ m.isWaiting = false ∧ m.hasClosed = false

instance (m : MonitorState) : Decidable m.Opens := by
  unfold Opens
  infer_instance

end MonitorState

/-- **The monitor knows what the port is doing.** -/
structure Agrees (m : MonitorState) (p : PhysState) : Prop where
  idle : m.phase = .idle → p = {}
  opening : m.phase = .opening →
    p.mOpening = true ∧ p.mOpen = false ∧ p.mReading = false ∧ p.mWriting = false
  opened : m.phase = .opened → p.mOpen = true ∧ p.mOpening = false
  closing : m.hasClosed = true → p.mClosing = true

namespace Agrees

variable {m : MonitorState} {p : PhysState}

theorem follow {old : MonitorState} (h : Agrees old p) (hm : m.Follows old) : Agrees m p where
  idle hi := h.idle (hm.1.symm.trans hi)
  opening ho := h.opening (hm.1.symm.trans ho)
  opened ho := h.opened (hm.1.symm.trans ho)
  closing hc := h.closing (hm.2.2 hc)

/-- The port has been told to open. -/
theorem opens (hm : m.Opens) : Agrees m { mOpening := true } where
  idle hi := PortPhase.noConfusion (hm.1.symm.trans hi)
  opening _ := ⟨rfl, rfl, rfl, rfl⟩
  opened ho := PortPhase.noConfusion (hm.1.symm.trans ho)
  closing h := Bool.noConfusion (hm.2.2.symm.trans h)

theorem phase_of_mOpen (h : Agrees m p) (ho : p.mOpen = true) : m.phase = .opened := by
  cases hm : m.phase with
  | opened => rfl
  | idle => exact Bool.noConfusion (ho.symm.trans (by rw [h.idle hm]))
  | opening => exact Bool.noConfusion (ho.symm.trans (h.opening hm).2.1)

/-- While the port is open, callbacks become due and come. -/
theorem whileOpen {q : PhysState} (h : Agrees m p) (ho : p.mOpen = true) (hq : q.mOpen = p.mOpen)
    (hq' : q.mOpening = p.mOpening) (hc : q.mClosing = p.mClosing) : Agrees m q := by
  have hm := h.phase_of_mOpen ho
  refine ⟨fun hi ↦ PortPhase.noConfusion (hm.symm.trans hi),
    fun hi ↦ PortPhase.noConfusion (hm.symm.trans hi), fun _ ↦ ?_, fun hh ↦ hc.trans (h.closing hh)⟩
  rw [hq, hq']
  exact h.opened hm

end Agrees

namespace LinkRouter

variable {κ α : Type}

/-- **The invariant**: `a` are the frames that have been accepted for the current connection, and
`c` is the number of writes that have succeeded. -/
structure Sound (a : List (Frame α)) (c : ℕ) (s : LinkRouter κ α) : Prop where
  agrees : Agrees s.mpState s.mState
  timer : s.mpOpenTimer = s.mpState.isWaiting
  up : s.mIsLowerLayerUp = s.mState.mOpen
  bound : ∀ fr ∈ s.mTransmitQueue, s.isBound fr.route
  transmitting : s.mTransmitting = true ↔ s.mTransmitQueue ≠ []
  idle : s.mState.mOpen = false → s.mTransmitQueue = []
  writing : s.mState.mWriting = true → s.mTransmitting = true
  busy : s.mTransmitting = true → s.mState.mClosing = false → s.mState.mWriting = true
  writes : s.writes = if s.mState.mWriting then 1 else 0
  pre : s.stream <+: a
  order : s.mState.mOpen = true → s.mState.mClosing = false →
    ∃ done, done.length = c ∧ a = done ++ s.mTransmitQueue ∧
      s.stream = done ++ s.mTransmitQueue.take 1

variable {a : List (Frame α)} {c : ℕ} {s : LinkRouter κ α}

theorem sound_init : Sound [] 0 (init : LinkRouter κ α) where
  agrees := ⟨fun _ ↦ rfl, fun h ↦ PortPhase.noConfusion h, fun h ↦ PortPhase.noConfusion h,
    fun h ↦ Bool.noConfusion h⟩
  timer := rfl
  up := rfl
  bound _ h := absurd h List.not_mem_nil
  transmitting := ⟨fun h ↦ Bool.noConfusion h, fun h ↦ absurd rfl h⟩
  idle _ := rfl
  writing h := Bool.noConfusion h
  busy h := Bool.noConfusion h
  writes := rfl
  pre := List.prefix_rfl
  order h := Bool.noConfusion h

/-- The monitor and the port move on, and the connection stays as it is. -/
theorem Sound.move (h : Sound a c s) (m : MonitorState) (t : Bool) (p : PhysState)
    (hag : Agrees m p) (ht : t = m.isWaiting) (hopen : p.mOpen = s.mState.mOpen)
    (hw : p.mWriting = s.mState.mWriting)
    (hc : s.mState.mOpen = true → p.mClosing = false → s.mState.mClosing = false) :
    Sound a c { s with mpState := m, mpOpenTimer := t, mState := p } where
  agrees := hag
  timer := ht
  up := h.up.trans hopen.symm
  bound := h.bound
  transmitting := h.transmitting
  idle hp := h.idle (hopen.symm.trans hp)
  writing hp := h.writing (hw.symm.trans hp)
  busy htr hp := by
    have hup : s.mState.mOpen = true := by
      by_contra hn
      exact h.transmitting.mp htr (h.idle (Bool.eq_false_iff.mpr hn))
    exact hw.trans (h.busy htr (hc hup hp))
  writes := by
    change s.writes = if p.mWriting then 1 else 0
    rw [hw]
    exact h.writes
  pre := h.pre
  order ho hp := by
    have hup : s.mState.mOpen = true := hopen.symm.trans ho
    exact h.order hup (hc hup hp)

/-- Contexts are told something, or are called. -/
theorem Sound.tell (h : Sound a c s) (o : κ → Bool) (st : List (Return κ)) :
    Sound a c { s with online := o, stack := st } :=
  { h with }

/-- An assertion has not failed. -/
def IsThrown (e : Exception) : Prop := ∀ aCondition, e ≠ .assertion aCondition

/-- The operation keeps the invariant, whether it returns or throws, and no assertion fails in
it. -/
def Keeps (a : List (Frame α)) (c : ℕ) {β : Type} (x : Op κ α β) : Prop :=
  ∀ s, Sound a c s → wp x (fun _ t ↦ Sound a c t) (fun e t ↦ Sound a c t ∧ IsThrown e) s

/-! ## Requests and the port -/

theorem keeps_bind {β γ : Type} {x : Op κ α β} {f : β → Op κ α γ} (hx : Keeps a c x)
    (hf : ∀ b, Keeps a c (f b)) : Keeps a c (x >>= f) := by
  intro s h
  rw [wp_bind]
  exact wp_mono (hx s h) (fun b t ht ↦ hf b t ht) fun _ _ he ↦ he

theorem keeps_called (r : Return κ) : Keeps (α := α) a c (called r) :=
  fun s h ↦ h.tell s.online (r :: s.stack)

/-- The state of the monitor changes, with the port as it is. -/
theorem Sound.follow (h : Sound a c s) {m old : MonitorState} (hs : s.mpState = old)
    (hm : m.Follows old) : Sound a c { s with mpState := m } := by
  subst hs
  exact h.move m s.mpOpenTimer s.mState (h.agrees.follow hm) (h.timer.trans hm.2.1.symm) rfl rfl
    fun _ hp ↦ hp

/-- The port is opened; the timer, if it was running, is not running any more. -/
theorem wp_openInto (h : Sound a c s) {m old : MonitorState} (hs : s.mpState = old)
    (hold : old.phase = .idle) (hm : m.Opens) :
    wp (do changeState m; asyncOpen) (fun _ t ↦ Sound a c t)
      (fun e t ↦ Sound a c t ∧ IsThrown e) { s with mpOpenTimer := false } := by
  have hp : s.mState = {} := h.agrees.idle (hs ▸ hold)
  have hcan : s.mState.canOpen = true := by
    rw [hp]
    rfl
  rw [wp_bind, changeState, wp_modify, asyncOpen, wp_bind, wp_get, wp_bind, wp_ensure_of hcan,
    wp_modify]
  refine h.move m false { s.mState with mOpening := true } ?_ hm.2.1.symm rfl rfl fun _ hp ↦ hp
  rw [hp]
  exact .opens hm

/-- A monitor that is not waiting opens the port. -/
theorem wp_openFrom (h : Sound a c s) {m old : MonitorState} (hs : s.mpState = old)
    (hold : old.phase = .idle) (hw : old.isWaiting = false) (hm : m.Opens) :
    wp (do changeState m; asyncOpen) (fun _ t ↦ Sound a c t)
      (fun e t ↦ Sound a c t ∧ IsThrown e) s := by
  have hopen := wp_openInto h hs hold hm
  rwa [← hw, ← hs, ← h.timer] at hopen

theorem keeps_start : Keeps (κ := κ) (α := α) a c start := by
  intro s h
  rw [start, wp_bind, wp_get]
  cases hs : s.mpState with
  | suspended => exact wp_openFrom h hs rfl rfl (by decide)
  | init => exact wp_openFrom h hs rfl rfl (by decide)
  | openingOne => exact h.follow hs (by decide)
  | openingSuspending => exact h.follow hs (by decide)
  | openedOne => exact h.follow hs (by decide)
  | waitingOne => exact h.follow hs (by decide)
  | suspending => exact h.follow hs (by decide)
  | _ => exact h

theorem keeps_startOne : Keeps (κ := κ) (α := α) a c startOne := by
  intro s h
  rw [startOne, wp_bind, wp_get]
  cases hs : s.mpState with
  | suspended => exact wp_openFrom h hs rfl rfl (by decide)
  | init => exact wp_openFrom h hs rfl rfl (by decide)
  | opening => exact h.follow hs (by decide)
  | openingClosing => exact h.follow hs (by decide)
  | opened => exact h.follow hs (by decide)
  | waiting => exact h.follow hs (by decide)
  | closing => exact h.follow hs (by decide)
  | _ => exact h

/-- The timer of the monitor expires, and the port is opened again. -/
theorem wp_onOpenTimerExpiration (h : Sound a c s) (ht : s.mpOpenTimer = true) :
    wp onOpenTimerExpiration (fun _ t ↦ Sound a c t) (fun e t ↦ Sound a c t ∧ IsThrown e) s := by
  have hw : s.mpState.isWaiting = true := h.timer.symm.trans ht
  rw [onOpenTimerExpiration, wp_bind, wp_get, wp_bind, wp_ensure_of ht, wp_bind, wp_modify,
    onOpenTimeout, wp_bind, wp_get]
  dsimp only
  cases hs : s.mpState with
  | waiting => exact wp_openInto h hs rfl (by decide)
  | waitingOne => exact wp_openInto h hs rfl (by decide)
  | _ => exact Bool.noConfusion (hw.symm.trans (congrArg MonitorState.isWaiting hs))

/-! ## Closing -/

/-- The timer of the monitor is cancelled. -/
theorem wp_cancelOpenTimer (h : Sound a c s) {m old : MonitorState} (hs : s.mpState = old)
    (hold : old.isWaiting = true) (hm : m.phase = old.phase) (hw : m.isWaiting = false)
    (hc : m.hasClosed = false) :
    wp (do cancelOpenTimer; changeState m) (fun _ t ↦ Sound a c t)
      (fun e t ↦ Sound a c t ∧ IsThrown e) s := by
  subst hs
  have htimer : s.mpOpenTimer = true := h.timer.trans hold
  rw [wp_bind, cancelOpenTimer, wp_bind, wp_get, wp_bind, wp_ensure_of htimer, wp_modify,
    changeState, wp_modify]
  refine h.move m false s.mState ?_ hw.symm rfl rfl fun _ hp ↦ hp
  exact ⟨fun hi ↦ h.agrees.idle (hm.symm.trans hi), fun ho ↦ h.agrees.opening (hm.symm.trans ho),
    fun ho ↦ h.agrees.opened (hm.symm.trans ho), fun hh ↦ Bool.noConfusion (hc.symm.trans hh)⟩

theorem wp_checkForClose {Q : Bool → LinkRouter κ α → Prop}
    {E : Exception → LinkRouter κ α → Prop} :
    wp checkForClose Q E s = if s.mState.mClosing && !s.mState.callbacksPending then
      Q true { s with mState := { s.mState with mClosing := false, mOpen := false } }
        else Q false s := by
  rw [checkForClose, wp_bind, wp_get]
  by_cases hdue : (s.mState.mClosing && !s.mState.callbacksPending) = true
  · simp only [if_pos hdue]
    rfl
  · simp only [if_neg hdue]
    rfl

theorem closed_eq {p : PhysState} (hp : p.callbacksPending = false) :
    { p with mClosing := false, mOpen := false } = ({} : PhysState) := by
  obtain ⟨hopening, hreading, hwriting⟩ :
      p.mOpening = false ∧ p.mReading = false ∧ p.mWriting = false := by
    simpa [PhysState.callbacksPending, and_assoc] using hp
  rw [hopening, hreading, hwriting]

theorem isWaiting_of_phase {m : MonitorState} (hm : m.phase ≠ .idle) : m.isWaiting = false := by
  revert hm
  cases m <;> simp [MonitorState.phase, MonitorState.isWaiting]

end LinkRouter

end OpenDNP3
