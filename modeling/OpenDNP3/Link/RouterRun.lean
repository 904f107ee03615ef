import OpenDNP3.Link.RouterSteps

/-!
# What the router writes

Every event that is allowed keeps the invariant, so it holds after every run of allowed events, and
what it says of the stream of each connection holds of the run.

* `RouterRun.recorded_step` — one event.
* `RouterRun.writes_in_order` — every run: each connection carries the frames that were accepted for
  it, in their order.
-/

set_option autoImplicit false

namespace OpenDNP3

open Handler

/-! ## Runs keep the invariant

A session ends when the port closes, and what was accepted and what was written of it are kept.
So an event keeps the invariant of the session, or begins another one. -/

namespace RouterRun

open LinkRouter

variable {κ α : Type} [DecidableEq κ] {s t : RouterRun κ α} {e : RouterEvent κ α}

/-- The invariant, and what is left of it of connections that are over. -/
structure Recorded (s : RouterRun κ α) : Prop where
  sound : LinkRouter.Sound s.accepted s.completed s.router
  past : ∀ session ∈ s.past, session.written <+: session.accepted

omit [DecidableEq κ] in
theorem recorded_init : Recorded (init : RouterRun κ α) where
  sound := sound_init
  past _ h := absurd h List.not_mem_nil

/-- What an event leaves: the record is right, and no assertion has failed. -/
def Handled (s : RouterRun κ α) (e : RouterEvent κ α) (t : LinkRouter κ α)
    (thrown : Option Exception) :
    Prop :=
  Recorded (s.record e t thrown) ∧ ∀ x ∈ thrown, IsThrown x

omit [DecidableEq κ] in
theorem handled_none {t : LinkRouter κ α} (h : Recorded (s.record e t none)) : s.Handled e t none :=
  ⟨h, fun _ hx ↦ absurd hx (Option.not_mem_none _)⟩

omit [DecidableEq κ] in
theorem handled_some {t : LinkRouter κ α} {x : Exception} (h : Recorded (s.record e t (some x)))
    (hx : IsThrown x) : s.Handled e t (some x) :=
  ⟨h, fun _ hy ↦ Option.some.inj hy ▸ hx⟩

theorem handled_of_wp {e : RouterEvent κ α}
    (he : ∀ t thrown, s.record e t thrown = { s with router := t })
    (hpast : ∀ session ∈ s.past, session.written <+: session.accepted)
    (h : wp (op e) (fun _ t ↦ LinkRouter.Sound s.accepted s.completed t)
      (fun x t ↦ LinkRouter.Sound s.accepted s.completed t ∧ IsThrown x) s.router) :
    wp (op e) (fun _ t ↦ s.Handled e t none) (fun x t ↦ s.Handled e t (some x)) s.router := by
  refine wp_mono h (fun _ t ht ↦ handled_none ?_) fun x t ht ↦ handled_some ?_ ht.2
  · rw [he]
    exact ⟨ht, hpast⟩
  · rw [he]
    exact ⟨ht.1, hpast⟩

/-- **What one event does.** -/
theorem wp_op (h : s.Recorded) (hg : s.Allowed e) (hp : possible s.router e = true) :
    wp (op e) (fun _ t ↦ s.Handled e t none) (fun x t ↦ s.Handled e t (some x)) s.router := by
  have hsound := h.sound
  cases e with
  | transmit fr =>
    exact wp_mono (wp_transmit hsound fr hg) (fun _ t ht ↦ handled_none ⟨ht, h.past⟩)
      fun x t ht ↦ handled_some ⟨ht.1, h.past⟩ ht.2.1
  | addContext k r => exact handled_of_wp (fun _ _ ↦ rfl) h.past (keeps_addContext k r _ hsound)
  | removeContext r => exact handled_of_wp (fun _ _ ↦ rfl) h.past (wp_removeContext hsound hg)
  | request q => exact handled_of_wp (fun _ _ ↦ rfl) h.past (keeps_request q _ hsound)
  | asyncClose => exact handled_of_wp (fun _ _ ↦ rfl) h.past (keeps_asyncClose _ hsound)
  | onOpenCallback arErr =>
    have ho : s.router.mState.mOpening = true := ((Bool.and_eq_true _ _).mp hp).1
    have hopen := wp_onOpenCallback hsound ho arErr
    have hrecord {t : LinkRouter κ α} {thrown : Option Exception}
        (ht : if arErr || s.router.mState.mClosing then LinkRouter.Sound s.accepted s.completed t
          else LinkRouter.Sound [] 0 t) :
        Recorded (s.record (.onOpenCallback arErr) t thrown) := by
      rw [record]
      split at ht
      · next hf =>
        rw [if_pos hf]
        exact ⟨ht, h.past⟩
      · next hf =>
        rw [if_neg hf]
        refine ⟨ht, fun session hsession ↦ ?_⟩
        rcases List.mem_append.mp hsession with hsession | hsession
        · exact h.past session hsession
        · rw [List.mem_singleton.mp hsession]
          exact hsound.pre
    exact wp_mono hopen (fun _ t ht ↦ handled_none (hrecord ht))
      fun x t ht ↦ handled_some (hrecord ht.1) ht.2
  | onReadCallback arErr =>
    have hr : s.router.mState.mReading = true := ((Bool.and_eq_true _ _).mp hp).1
    exact handled_of_wp (fun _ _ ↦ rfl) h.past (wp_onReadCallback hsound hr arErr)
  | onWriteCallback arErr =>
    have hw : s.router.mState.mWriting = true := ((Bool.and_eq_true _ _).mp hp).1
    have hwrite := wp_onWriteCallback hsound hw arErr
    have hrecord {t : LinkRouter κ α} {thrown : Option Exception}
        (ht : LinkRouter.Sound s.accepted (if arErr then s.completed else s.completed + 1) t) :
        Recorded (s.record (.onWriteCallback arErr) t thrown) := by
      cases arErr with
      | true => exact ⟨ht, h.past⟩
      | false => exact ⟨ht, h.past⟩
    exact wp_mono hwrite (fun _ t ht ↦ handled_none (hrecord ht))
      fun x t ht ↦ handled_some (hrecord ht.1) ht.2
  | onOpenTimerExpiration =>
    have ht : s.router.mpOpenTimer = true := ((Bool.and_eq_true _ _).mp hp).1
    exact handled_of_wp (fun _ _ ↦ rfl) h.past (wp_onOpenTimerExpiration hsound ht)
  | resume => exact handled_of_wp (fun _ _ ↦ rfl) h.past (keeps_resume _ hsound)
  | unwind => exact handled_of_wp (fun _ _ ↦ rfl) h.past (keeps_unwind _ hsound)

theorem recorded_step (h : s.Recorded) (hg : s.Allowed e) (hstep : s.step e = some t) :
    t.Recorded := by
  rw [step] at hstep
  split at hstep
  · next hp =>
    rw [← Option.some.inj hstep]
    exact (exec_of_wp (wp_op h hg hp)).1
  · contradiction

/-- **The router writes what it accepts, in order.**  In every run in which no context is removed
while a frame of its route is in the queue, and in which nothing is transmitted through a port that
is closing unless a frame is being written: every frame in the queue belongs to a context that is
bound; no assertion fails; `Transmit` does not throw if the context is bound and the layer up; what
is written to a connection is a prefix of what was accepted for it, and while the connection is
open, of the frames accepted exactly one more than the number of writes that succeeded has been
written, if there is one more; no two writes overlap. -/
theorem writes_in_order {es : List (RouterEvent κ α)} (hg : Run.Guarded step Allowed init es)
    (hrun : Run.run step init es = some s) :
    (∀ fr ∈ s.router.mTransmitQueue, s.router.isBound fr.route) ∧
    (∀ e, s.Allowed e → possible s.router e = true →
      ∀ aCondition, (exec (op e) s.router).2 ≠ some (.assertion aCondition)) ∧
    (∀ fr, s.router.isBound fr.route → s.router.mIsLowerLayerUp = true → s.Allowed (.transmit fr) →
      (exec (op (.transmit fr)) s.router).2 = none) ∧
    (∀ session ∈ s.past ++ [⟨s.accepted, s.router.stream⟩], session.written <+: session.accepted) ∧
    (s.router.mState.mOpen = true → s.router.mState.mClosing = false →
      s.router.stream = s.accepted.take (s.completed + 1) ∧
      (s.router.stream = s.accepted ∨ s.router.mState.mWriting = true)) ∧
    s.router.writes ≤ 1 := by
  have h : s.Recorded :=
    Run.inv_of_guarded (fun _ _ _ h hg hstep ↦ recorded_step h hg hstep) recorded_init hg hrun
  have hsound := h.sound
  refine ⟨hsound.bound, fun e he hp aCondition hx ↦ ?_, fun fr hbound hup hallowed ↦ ?_,
    fun session hsession ↦ ?_, fun ho hc ↦ ?_, ?_⟩
  · exact (exec_of_wp (wp_op h he hp)).2 _ hx aCondition rfl
  · have htransmit : wp (op (.transmit fr)) (fun _ _ ↦ (none : Option Exception) = none)
        (fun x _ ↦ some x = none) s.router :=
      wp_mono (wp_transmit hsound fr hallowed) (fun _ _ _ ↦ rfl)
        fun _ _ hx ↦ absurd ⟨hbound, hup⟩ hx.2.2
    exact exec_of_wp (Q := fun _ thrown ↦ thrown = none) htransmit
  · rcases List.mem_append.mp hsession with hsession | hsession
    · exact h.past session hsession
    · rw [List.mem_singleton.mp hsession]
      exact hsound.pre
  · obtain ⟨done, hlen, ha, hstream⟩ := hsound.order ho hc
    constructor
    · rw [hstream, ha, ← hlen, List.take_append, List.take_of_length_le (Nat.le_succ _),
        Nat.add_sub_cancel_left]
    · by_cases hq : s.router.mTransmitQueue = []
      · left
        rw [hstream, ha, hq, List.take_nil]
      · exact .inr (hsound.busy (hsound.transmitting.mpr hq) hc)
  · rw [hsound.writes]
    split <;> omega

/-! ## Three runs -/

/-- A frame of the first of two link layers, and one of the second. -/
def firstFrame : Frame Unit := .ack true false 1 1024

@[inherit_doc firstFrame]
def secondFrame : Frame Unit := .ack true false 1 2048

/-- Two link layers share the port, which opens. -/
def sharing : List (RouterEvent ℕ Unit) :=
  [.addContext 0 firstFrame.route, .addContext 1 secondFrame.route, .onOpenCallback false, .resume,
    .resume]

/-- Both send, and what they send is written. -/
def shared : List (RouterEvent ℕ Unit) :=
  sharing ++ [.transmit firstFrame, .transmit secondFrame, .onWriteCallback false,
    .onWriteCallback false]

theorem writes_in_order_shared :
    ∃ s, Run.run step init shared = some s ∧ s.router.stream = [firstFrame, secondFrame] ∧
      s.router.writes ≤ 1 := by
  obtain ⟨s, hrun⟩ : ∃ s, Run.run step init shared = some s := ⟨_, rfl⟩
  have hstream : (Run.run step init shared).map (·.router.stream) =
      some [firstFrame, secondFrame] := by
    decide +kernel
  have hg : Run.Guarded step Allowed init shared := by decide +kernel
  rw [hrun] at hstream
  exact ⟨s, hrun, Option.some.inj hstream, (writes_in_order hg hrun).2.2.2.2.2⟩

/-- The first link layer is removed while its frame is being written. -/
def removal : List (RouterEvent ℕ Unit) :=
  sharing ++ [.transmit firstFrame, .removeContext firstFrame.route, .resume]

/-- The port is told to close while it is reading. -/
def closing : List (RouterEvent ℕ Unit) := sharing ++ [.request .close]

/-- **Two ways to go wrong**: when the write ends, the context of the frame is gone, and the
assertion fails; and a link layer that transmits through a port that is closing gets an exception,
although its context is bound and the layer is up. -/
theorem writes_wrongly :
    (∃ s, Run.run step init removal = some s ∧
      possible s.router (.onWriteCallback false) = true ∧
      (exec (op (.onWriteCallback false)) s.router).2 = some (.assertion "pContext != NULL")) ∧
    ∃ s, Run.run step init closing = some s ∧
      s.router.isBound firstFrame.route ∧ s.router.mIsLowerLayerUp = true ∧
      (exec (op (.transmit firstFrame)) s.router).2.isSome = true := by
  refine ⟨⟨_, rfl, ?_, ?_⟩, ⟨_, rfl, ?_, ?_, ?_⟩⟩
  all_goals decide +kernel

end RouterRun

end OpenDNP3
