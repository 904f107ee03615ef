import OpenDNP3.Lib.Run
import OpenDNP3.Link.Layer

/-!
# The primary station over a whole run

Anything may happen to a link layer here, in any order: any frame may arrive, the timer may expire,
the layer below may come up or go down, and the layer above may send when it has nothing
outstanding.  An operation calls the layer above last, if at all, so what the layer above does
inside the call is an event that comes next.

* `LinkStation` and `LinkStation.step` — the link layer, with a record of each send: the frames that
  the primary station has transmitted for it, and the results that it has reported.
* `LinkStation.Sound` — the timer runs exactly while the primary station waits, which it does
  exactly while a send is outstanding; what has been transmitted and the retries that are left are
  bounded together.
* `LinkStation.timer_agrees` — what this says of every run.
-/

set_option autoImplicit false

namespace OpenDNP3

/-- The frame goes from a primary to a secondary station. -/
def Frame.isPrimary {α : Type} : Frame α → Bool
  | .testLinkStatus .. | .resetLinkStates .. | .requestLinkStatus .. => true
  | .confirmedUserData .. | .unconfirmedUserData .. => true
  | _ => false

/-- The primary station waits for the other side. -/
def PLLS.isWaiting : PLLS → Bool
  | .resetLinkWait | .confDataWait => true
  | _ => false

/-- What became of one send. -/
structure SendRecord where
  /-- The frames that the primary station has transmitted. -/
  frames : ℕ := 0
  /-- The results that it has reported. -/
  results : ℕ := 0
  /-- The layer below has gone down, and the results that were reported after that. -/
  down : Bool := false
  late : ℕ := 0
  deriving DecidableEq, Repr

/-- A link layer with the records of the sends that it has accepted; `current` is about the last
one, and `outstanding` says that it has neither been reported on nor cut off. -/
structure LinkStation (α : Type) where
  layer : LinkLayer α
  outstanding : Bool
  current : SendRecord
  past : List SendRecord
  thrown : List Exception

/-- What can happen to a link layer. -/
inductive LinkEvent (α : Type) where
  | frame (arFrame : Frame α)
  | timeout
  | lowerLayerUp
  | lowerLayerDown
  | send (aData : α)
  deriving DecidableEq, Repr

namespace LinkStation

variable {α : Type}

/-- The constructor. -/
def init (arConfig : LinkConfig) : LinkStation α where
  layer := .init arConfig
  outstanding := false
  current := {}
  past := []
  thrown := []

/-- A result is reported. -/
def report (s : LinkStation α) : LinkStation α :=
  { s with
    outstanding := false
    current := if s.current.down then { s.current with late := s.current.late + 1 }
      else { s.current with results := s.current.results + 1 } }

/-- What the layer does to the outside is recorded. -/
def act (s : LinkStation α) : LinkAction α → LinkStation α
  | .transmit fr =>
    if fr.isPrimary then { s with current := { s.current with frames := s.current.frames + 1 } }
    else s
  | .onSendSuccess | .onSendFailure => s.report
  | .onLowerLayerDown => { s with outstanding := false, current := { s.current with down := true } }
  | _ => s

/-- An operation of the layer; one that throws changes nothing. -/
def perform (s : LinkStation α) : Except Exception (LinkLayer.Outcome α) → LinkStation α
  | .ok (layer, actions) => actions.foldl act { s with layer }
  | .error e => { s with thrown := s.thrown ++ [e] }

/-- A send that is accepted opens a record. -/
def performSend (s : LinkStation α) : Except Exception (LinkLayer.Outcome α) → LinkStation α
  | .ok (layer, actions) =>
    actions.foldl act
      { s with layer, outstanding := true, past := s.past ++ [s.current], current := {} }
  | .error e => { s with thrown := s.thrown ++ [e] }

/-- **One event**, if it can happen: the timer expires only if it runs, and the layer above sends
only if it has nothing outstanding. -/
def step (s : LinkStation α) : LinkEvent α → Option (LinkStation α)
  | .frame fr => some (s.perform (s.layer.onFrame fr))
  | .timeout => if s.layer.mpTimer then some (s.perform s.layer.onTimeout) else none
  | .lowerLayerUp => some (s.perform s.layer.onLowerLayerUp)
  | .lowerLayerDown => some (s.perform s.layer.onLowerLayerDown)
  | .send aData => if s.outstanding then none else some (s.performSend (s.layer.send aData))

/-! ## The invariant

A send is under way exactly while the station is not idle, and the retries that it has left are
bounded by the configuration. From this follows how many frames it may still transmit. -/

/-- The frames that the primary station may still transmit for the send that is outstanding. -/
def budget (ll : LinkLayer α) : ℕ :=
  match ll.mpPriState with
  | .resetLinkWait => ll.mRetryRemaining + 1
  | .confDataWait => ll.mRetryRemaining
  | _ => 0

/-- The record of a send, with at most `n` retries, that is over. -/
structure Closed (n : ℕ) (r : SendRecord) : Prop where
  frames : r.frames ≤ n + 2
  results : r.results ≤ 1
  late : r.late = 0

/-- What `LinkLayer` itself throws when it is used while it is down, or told again what it knows. -/
def isMisuse (e : Exception) : Prop :=
  e = .invalidState "LowerLayerDown" ∨ e = .invalidState "LowerLayerUp"

/-- **The invariant of the primary station.** -/
structure Sound (n : ℕ) (s : LinkStation α) : Prop where
  config : s.layer.mCONFIG.numRetry = n
  timer : s.layer.mpTimer = s.layer.mpPriState.isWaiting
  outstanding : s.outstanding = s.layer.mpPriState.isWaiting
  frames : s.current.frames + budget s.layer ≤ n + 2
  results : s.current.results + (if s.outstanding then 1 else 0) ≤ 1
  down : s.outstanding = true → s.current.down = false
  late : s.current.late = 0
  past : ∀ r ∈ s.past, Closed n r
  thrown : ∀ e ∈ s.thrown, isMisuse e

variable {s t : LinkStation α} {n : ℕ} {ll : LinkLayer α}

theorem sound_init (arConfig : LinkConfig) :
    Sound arConfig.numRetry (init arConfig : LinkStation α) where
  config := rfl
  timer := rfl
  outstanding := rfl
  frames := Nat.zero_le _
  results := Nat.zero_le _
  down h := Bool.noConfusion h
  late := rfl
  past _ hr := absurd hr List.not_mem_nil
  thrown _ he := absurd he List.not_mem_nil

theorem Sound.throw (h : Sound n s) {e : Exception} (he : isMisuse e) :
    Sound n { s with thrown := s.thrown ++ [e] } :=
  { h with
    thrown := fun e' he' ↦ by
      rcases List.mem_append.mp he' with he' | he'
      · exact h.thrown e' he'
      · exact List.mem_singleton.mp he' ▸ he }

/-- The layer changes in what the invariant does not look at. -/
theorem Sound.setLayer (h : Sound n s) (hc : ll.mCONFIG = s.layer.mCONFIG)
    (ht : ll.mpTimer = s.layer.mpTimer) (hs : ll.mpPriState = s.layer.mpPriState)
    (hr : ll.mRetryRemaining = s.layer.mRetryRemaining) : Sound n { s with layer := ll } where
  config := by
    change ll.mCONFIG.numRetry = n
    rw [hc, h.config]
  timer := by
    change ll.mpTimer = ll.mpPriState.isWaiting
    rw [ht, hs, h.timer]
  outstanding := by
    change s.outstanding = ll.mpPriState.isWaiting
    rw [hs, h.outstanding]
  frames := by
    have hb : budget ll = budget s.layer := by rw [budget, budget, hs, hr]
    change s.current.frames + budget ll ≤ n + 2
    rw [hb]
    exact h.frames
  results := h.results
  down := h.down
  late := h.late
  past := h.past
  thrown := h.thrown

/-- The primary station goes on waiting. -/
theorem Sound.wait (h : Sound n s) (hc : ll.mCONFIG = s.layer.mCONFIG) (ht : ll.mpTimer = true)
    (hs : s.layer.mpPriState.isWaiting = true) (hw : ll.mpPriState.isWaiting = true)
    (hb : budget ll ≤ budget s.layer) : Sound n { s with layer := ll } where
  config := (congrArg LinkConfig.numRetry hc).trans h.config
  timer := ht.trans hw.symm
  outstanding := h.outstanding.trans (hs.trans hw.symm)
  frames := by
    have hframes := h.frames
    change s.current.frames + budget ll ≤ n + 2
    omega
  results := h.results
  down := h.down
  late := h.late
  past := h.past
  thrown := h.thrown

/-- The primary station transmits one more frame, in exchange for a retry or for the reset. -/
theorem Sound.transmit (h : Sound n s) (ll : LinkLayer α) (fr : Frame α)
    (hc : ll.mCONFIG = s.layer.mCONFIG)
    (ht : ll.mpTimer = true) (hs : s.layer.mpPriState.isWaiting = true)
    (hw : ll.mpPriState.isWaiting = true) (hb : budget ll + 1 ≤ budget s.layer) :
    Sound n (act { s with layer := ll } (.transmit fr)) := by
  have hwait := h.wait hc ht hs hw (Nat.le_of_succ_le hb)
  have hframes := h.frames
  rw [act]
  split
  · refine { hwait with frames := ?_ }
    change s.current.frames + 1 + budget ll ≤ n + 2
    omega
  · exact hwait

/-- The delayed frame is transmitted, if there is one. -/
theorem Sound.delayed (h : Sound n s) (aFCB : Bool) (hc : ll.mCONFIG = s.layer.mCONFIG)
    (ht : ll.mpTimer = true) (hs : s.layer.mpPriState.isWaiting = true)
    (hw : ll.mpPriState.isWaiting = true) (hb : budget ll + 1 ≤ budget s.layer) :
    Sound n (s.perform (.ok (ll.sendDelayedUserData aFCB))) := by
  have hwait {d : Option (Frame α)} :
      Sound n { s with layer := { ll with mDelayedPriFrame := d } } :=
    h.wait hc ht hs hw (Nat.le_of_succ_le hb)
  rw [LinkLayer.sendDelayedUserData, perform]
  cases ll.mDelayedPriFrame with
  | none => exact hwait
  | some fr =>
    exact h.transmit { ll with mDelayedPriFrame := some (fr.withFcb aFCB) } _ hc ht hs hw hb

/-- The primary station reports a result, and no longer waits. -/
theorem Sound.report (h : Sound n s) (hc : ll.mCONFIG = s.layer.mCONFIG) (ht : ll.mpTimer = false)
    (hs : s.layer.mpPriState.isWaiting = true) (hw : ll.mpPriState.isWaiting = false) :
    Sound n (LinkStation.report { s with layer := ll }) := by
  have hout : s.outstanding = true := h.outstanding.trans hs
  have hresults := h.results
  rw [if_pos hout] at hresults
  have hbudget : budget ll = 0 := by
    rw [budget]
    revert hw
    cases ll.mpPriState <;> first | exact fun _ ↦ rfl | exact fun hw ↦ Bool.noConfusion hw
  rw [LinkStation.report, if_neg (by rw [h.down hout]; exact Bool.false_ne_true)]
  refine ⟨(congrArg LinkConfig.numRetry hc).trans h.config, ht.trans hw.symm, hw.symm, ?_, ?_,
    fun h ↦ Bool.noConfusion h, h.late, h.past, h.thrown⟩
  · change s.current.frames + budget ll ≤ n + 2
    rw [hbudget]
    exact Nat.le_trans (Nat.le_add_right _ _) h.frames
  · exact hresults

/-! ## Events -/

/-- The primary station is not waiting for what it has received. -/
theorem Sound.nothing (h : Sound n s) : Sound n (s.perform (.ok (s.layer, []))) := h

theorem waiting_cases (hw : ll.mpPriState.isWaiting = true) :
    ll.mpPriState = .resetLinkWait ∨ ll.mpPriState = .confDataWait := by
  revert hw
  cases ll.mpPriState <;> simp [PLLS.isWaiting]

theorem idle_cases (hw : ll.mpPriState.isWaiting = false) :
    ll.mpPriState = .secNotReset ∨ ll.mpPriState = .secReset := by
  revert hw
  cases ll.mpPriState <;> simp [PLLS.isWaiting]

theorem sound_priAck (h : Sound n s) : Sound n (s.perform s.layer.priAck) := by
  have htimer := h.timer
  by_cases hw : s.layer.mpPriState.isWaiting = true
  · rw [hw] at htimer
    by_cases hs : s.layer.mpPriState = .confDataWait
    · rw [LinkLayer.priAck_confDataWait hs htimer]
      exact h.report rfl rfl hw rfl
    · have hr := (waiting_cases hw).resolve_right hs
      have hack : s.layer.priAck = .ok (LinkLayer.sendDelayedUserData
          { s.layer with mNextWriteFCB := true, mpPriState := .confDataWait } true) := by
        simp only [LinkLayer.priAck, hr, LinkLayer.cancelTimer, LinkLayer.startTimer, htimer]
        rfl
      rw [hack]
      refine h.delayed true rfl htimer hw rfl (Nat.le_of_eq ?_)
      rw [budget, budget, hr]
  · rw [LinkLayer.priAck_of_idle (idle_cases (Bool.eq_false_iff.mpr hw))]
    exact h.nothing

theorem priFailure_of_waiting (hs : ll.mpPriState = .resetLinkWait ∨ ll.mpPriState = .confDataWait)
    (ht : ll.mpTimer = true) : ll.priFailure = .ok ({ ll with
      mpTimer := false, mpPriState := .secNotReset }, [.onSendFailure]) := by
  rcases hs with hs | hs <;> simp only [LinkLayer.priFailure, hs, LinkLayer.cancelTimer, ht] <;> rfl

theorem priFailure_of_idle (hs : ll.mpPriState = .secNotReset ∨ ll.mpPriState = .secReset) :
    ll.priFailure = .ok (ll, []) := by
  rcases hs with hs | hs <;> simp only [LinkLayer.priFailure, hs] <;> rfl

theorem sound_priFailure (h : Sound n s) : Sound n (s.perform s.layer.priFailure) := by
  by_cases hw : s.layer.mpPriState.isWaiting = true
  · rw [priFailure_of_waiting (waiting_cases hw) (h.timer.trans hw)]
    exact h.report rfl rfl hw rfl
  · rw [priFailure_of_idle (idle_cases (Bool.eq_false_iff.mpr hw))]
    exact h.nothing

theorem sound_onTimeout (h : Sound n s) (ht : s.layer.mpTimer = true) :
    Sound n (s.perform s.layer.onTimeout) := by
  have hw : s.layer.mpPriState.isWaiting = true := h.timer.symm.trans ht
  have hstates := waiting_cases hw
  by_cases hr : 0 < s.layer.mRetryRemaining
  · rcases hstates with hs | hs
    · rw [LinkLayer.onTimeout_resetLinkWait hs ht hr]
      refine h.transmit { s.layer with mRetryRemaining := s.layer.mRetryRemaining - 1 }
        s.layer.resetLinksFrame rfl ht hw (by rw [hs]; rfl) ?_
      rw [budget, budget, hs]
      change s.layer.mRetryRemaining - 1 + 1 + 1 ≤ s.layer.mRetryRemaining + 1
      omega
    · have hretry : s.layer.onTimeout = .ok (LinkLayer.sendDelayedUserData
          { s.layer with mRetryRemaining := s.layer.mRetryRemaining - 1 }
          s.layer.mNextWriteFCB) := by
        simp only [LinkLayer.onTimeout, ht, LinkLayer.priOnTimeout, hs, LinkLayer.retry, if_pos hr,
          LinkLayer.startTimer]
        rfl
      rw [hretry]
      refine h.delayed _ rfl ht hw (by rw [hs]; rfl) ?_
      rw [budget, budget, hs]
      change s.layer.mRetryRemaining - 1 + 1 ≤ s.layer.mRetryRemaining
      omega
  · rw [LinkLayer.onTimeout_failure hstates ht (Nat.eq_zero_of_not_pos hr)]
    exact h.report rfl rfl hw rfl

/-- What the secondary station does does not concern the primary one. -/
theorem Sound.secondary (h : Sound n s) {actions : List (LinkAction α)}
    (hc : ll.mCONFIG = s.layer.mCONFIG) (ht : ll.mpTimer = s.layer.mpTimer)
    (hs : ll.mpPriState = s.layer.mpPriState) (hr : ll.mRetryRemaining = s.layer.mRetryRemaining)
    (ha : ∀ action ∈ actions, ∀ t : LinkStation α, t.act action = t) :
    Sound n (s.perform (.ok (ll, actions))) := by
  have hlayer := h.setLayer hc ht hs hr
  rw [perform]
  induction actions with
  | nil => exact hlayer
  | cons action actions ih =>
    rw [List.foldl_cons, ha action (List.mem_cons_self ..)]
    exact ih fun action' h' ↦ ha action' (List.mem_cons_of_mem _ h')

theorem act_ackFrame (ll : LinkLayer α) :
    ∀ action ∈ [LinkAction.transmit ll.ackFrame], ∀ t : LinkStation α, t.act action = t := by
  intro action ha t
  rw [List.mem_singleton.mp ha]
  rfl

theorem act_onReceive (aData : α) :
    ∀ action ∈ [LinkAction.onReceive aData], ∀ t : LinkStation α, t.act action = t := by
  intro action ha t
  rw [List.mem_singleton.mp ha]
  rfl

/-- A frame that is not for this layer is dropped. -/
theorem Sound.validated (h : Sound n s) {m : Bool} {src dest : BitVec 16}
    {x : Except Exception (LinkLayer.Outcome α)} (hx : Sound n (s.perform x)) :
    Sound n (s.perform (do
      if ← s.layer.validate m src dest then x else return (s.layer, []))) := by
  rw [LinkLayer.validate]
  by_cases ho : s.layer.mIsOnline = true
  · simp only [ho, Bool.not_true, Bool.false_eq_true, if_false]
    split
    · exact h.nothing
    · split
      · exact h.nothing
      · split
        · exact h.nothing
        · exact hx
  · simp only [ho]
    exact h.throw (.inl rfl)

/-- **A frame arrives.** -/
theorem sound_onFrame (h : Sound n s) (fr : Frame α) :
    Sound n (s.perform (s.layer.onFrame fr)) := by
  have hack := act_ackFrame s.layer
  cases fr with
  | ack => exact h.validated (sound_priAck h)
  | nack => exact h.validated (sound_priFailure h)
  | linkStatus => exact h.validated (sound_priFailure h)
  | notSupported => exact h.validated (sound_priFailure h)
  | testLinkStatus m fcb =>
    refine h.validated ?_
    rw [LinkLayer.secTestLinkStatus]
    split
    · exact h.nothing
    · split
      · exact h.secondary rfl rfl rfl rfl hack
      · exact h.nothing
  | resetLinkStates => exact h.validated (h.secondary rfl rfl rfl rfl hack)
  | requestLinkStatus =>
    refine h.validated (h.secondary rfl rfl rfl rfl fun action ha t ↦ ?_)
    rw [List.mem_singleton.mp ha]
    rfl
  | confirmedUserData m fcb dest src data =>
    refine h.validated ?_
    rw [LinkLayer.secConfirmedUserData]
    split
    · exact h.nothing
    · split
      · refine h.secondary rfl rfl rfl rfl fun action ha ↦ ?_
        rcases List.mem_cons.mp ha with rfl | ha
        · exact hack _ (List.mem_singleton_self _)
        · exact act_onReceive data action ha
      · exact h.secondary rfl rfl rfl rfl hack
  | unconfirmedUserData m dest src data =>
    exact h.validated (h.secondary rfl rfl rfl rfl (act_onReceive data))

/-- The link comes up. -/
theorem sound_onLowerLayerUp (h : Sound n s) : Sound n (s.perform s.layer.onLowerLayerUp) := by
  rw [LinkLayer.onLowerLayerUp]
  split
  · exact h.throw (.inr rfl)
  · refine h.secondary rfl rfl rfl rfl fun action ha t ↦ ?_
    rw [List.mem_singleton.mp ha]
    rfl

/-- The link goes down, and what is outstanding is cut off. -/
theorem sound_onLowerLayerDown (h : Sound n s) :
    Sound n (s.perform s.layer.onLowerLayerDown) := by
  have hdown {b : Bool} (hb : b = false) : Sound n (s.perform (.ok ({ s.layer with
      mpTimer := b, mIsOnline := false, mpPriState := .secNotReset, mpSecState := .notReset },
      [.onLowerLayerDown]))) := by
    refine ⟨h.config, hb, rfl, Nat.le_trans (Nat.le_add_right _ _) h.frames,
      Nat.le_trans (Nat.le_add_right _ _) h.results, fun h ↦ Bool.noConfusion h, h.late, h.past,
      h.thrown⟩
  rw [LinkLayer.onLowerLayerDown]
  by_cases ho : s.layer.mIsOnline = true
  · simp only [ho, Bool.not_true, Bool.false_eq_true, if_false]
    by_cases ht : s.layer.mpTimer = true
    · simp only [ht, if_true, LinkLayer.cancelTimer]
      exact hdown rfl
    · simp only [ht]
      exact hdown (Bool.eq_false_iff.mpr ht)
  · simp only [ho]
    exact h.throw (.inl rfl)

/-- **The layer above sends**, and has nothing outstanding. -/
theorem sound_send (h : Sound n s) (hout : s.outstanding = false) (aData : α) :
    Sound n (s.performSend (s.layer.send aData)) := by
  have hw : s.layer.mpPriState.isWaiting = false := h.outstanding.symm.trans hout
  have htimer : s.layer.mpTimer = false := h.timer.trans hw
  have hstates := idle_cases hw
  have hclosed : ∀ r ∈ s.past ++ [s.current], Closed n r := by
    intro r hr
    rcases List.mem_append.mp hr with hr | hr
    · exact h.past r hr
    · rw [List.mem_singleton.mp hr]
      exact ⟨Nat.le_trans (Nat.le_add_right _ _) h.frames,
        Nat.le_trans (Nat.le_add_right _ _) h.results, h.late⟩
  by_cases ho : s.layer.mIsOnline = true
  · by_cases hconf : s.layer.mCONFIG.useConfirms = true
    · rcases hstates with hs | hs
      · rw [LinkLayer.send_secNotReset ho hconf hs htimer]
        refine ⟨h.config, rfl, rfl, ?_, Nat.le_refl _, fun _ ↦ rfl, rfl, hclosed, h.thrown⟩
        change 0 + 1 + (s.layer.mCONFIG.numRetry + 1) ≤ n + 2
        rw [h.config]
        omega
      · rw [LinkLayer.send_secReset ho hconf hs htimer]
        refine ⟨h.config, rfl, rfl, ?_, Nat.le_refl _, fun _ ↦ rfl, rfl, hclosed, h.thrown⟩
        change 0 + 1 + s.layer.mCONFIG.numRetry ≤ n + 2
        rw [h.config]
        omega
    · have hsend : s.layer.send aData = s.layer.sendUnconfirmedUserData aData := by
        rcases hstates with hs | hs <;>
          simp only [LinkLayer.send, ho, hconf, LinkLayer.priSendUnconfirmed, hs] <;> rfl
      rw [hsend]
      refine ⟨h.config, h.timer, hw.symm, ?_, Nat.le_refl _, fun h ↦ Bool.noConfusion h, rfl,
        hclosed, h.thrown⟩
      have hbudget : budget s.layer = 0 := by
        rcases hstates with hs | hs <;> rw [budget, hs]
      change 0 + 1 + budget s.layer ≤ n + 2
      rw [hbudget]
      omega
  · have hsend : s.layer.send aData = .error (.invalidState "LowerLayerDown") := by
      simp only [LinkLayer.send, ho]
      rfl
    rw [hsend]
    exact h.throw (.inl rfl)

theorem sound_step {e : LinkEvent α} (h : Sound n s) (hstep : s.step e = some t) : Sound n t := by
  cases e with
  | frame fr =>
    rw [← Option.some.inj hstep]
    exact sound_onFrame h fr
  | timeout =>
    rw [step] at hstep
    split at hstep
    · next ht =>
      rw [← Option.some.inj hstep]
      exact sound_onTimeout h ht
    · contradiction
  | lowerLayerUp =>
    rw [← Option.some.inj hstep]
    exact sound_onLowerLayerUp h
  | lowerLayerDown =>
    rw [← Option.some.inj hstep]
    exact sound_onLowerLayerDown h
  | send aData =>
    rw [step] at hstep
    split at hstep
    · contradiction
    · next hout =>
      rw [← Option.some.inj hstep]
      exact sound_send h (Bool.eq_false_iff.mpr hout) aData

/-- **The primary station and its timer agree**, in every run.  The timer runs exactly while the
primary station waits; no assertion fails, and no state throws; each send is reported on at most
once, not after the layer below went down, and takes at most two frames more than it has retries. -/
theorem timer_agrees {arConfig : LinkConfig} {es : List (LinkEvent α)}
    (hrun : Run.run step (init arConfig) es = some s) :
    (s.layer.mpTimer = true ↔
      s.layer.mpPriState = .resetLinkWait ∨ s.layer.mpPriState = .confDataWait) ∧
    (∀ e ∈ s.thrown, e = .invalidState "LowerLayerDown" ∨ e = .invalidState "LowerLayerUp") ∧
    ∀ r ∈ s.past ++ [s.current], r.results ≤ 1 ∧ r.late = 0 ∧ r.frames ≤ arConfig.numRetry + 2 := by
  have h : Sound arConfig.numRetry s :=
    Run.inv_of_run (fun _ _ _ h hstep ↦ sound_step h hstep) (sound_init arConfig) hrun
  refine ⟨?_, h.thrown, fun r hr ↦ ?_⟩
  · rw [h.timer]
    cases s.layer.mpPriState <;> simp [PLLS.isWaiting]
  · rcases List.mem_append.mp hr with hr | hr
    · have hclosed := h.past r hr
      exact ⟨hclosed.results, hclosed.late, hclosed.frames⟩
    · rw [List.mem_singleton.mp hr]
      exact ⟨Nat.le_trans (Nat.le_add_right _ _) h.results, h.late,
        Nat.le_trans (Nat.le_add_right _ _) h.frames⟩

/-- A link that retries once. -/
def retrying : LinkConfig where
  isMaster := true
  useConfirms := true
  numRetry := 1
  localAddr := 1
  remoteAddr := 1024

/-- The reset of the link is confirmed after it was sent twice, and the data are not confirmed. -/
def slow : List (LinkEvent Unit) :=
  [.lowerLayerUp, .send (), .timeout, .frame (.ack false false 1 1024), .timeout]

/-- These are all the frames that one send may take. -/
theorem timer_agrees_slow :
    ∃ s, Run.run step (init retrying) slow = some s ∧ s.current.frames = 3 ∧
      (s.layer.mpTimer = true ↔
        s.layer.mpPriState = .resetLinkWait ∨ s.layer.mpPriState = .confDataWait) := by
  obtain ⟨s, hrun⟩ : ∃ s, Run.run step (init retrying) slow = some s := ⟨_, rfl⟩
  have hframes : (Run.run step (init retrying) slow).map (·.current.frames) = some 3 := by
    decide +kernel
  rw [hrun] at hframes
  exact ⟨s, hrun, Option.some.inj hframes, (timer_agrees hrun).1⟩

end LinkStation

end OpenDNP3
