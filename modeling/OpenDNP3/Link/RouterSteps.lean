import OpenDNP3.Link.RouterInvariant

/-!
# The operations of the router keep its invariant

The operations that call contexts, and those that the port calls.  A context that is removed takes
its route with it, and a frame of this route may still be in the queue; a frame may be transmitted
through a port that is closing.  These are the two cases in which the invariant is not enough, and
the lemmas exclude them by a hypothesis.
-/

set_option autoImplicit false

namespace OpenDNP3

open Handler

namespace LinkRouter

variable {κ α : Type} {a : List (Frame α)} {c : ℕ} {s : LinkRouter κ α}

section Contexts

variable [DecidableEq κ]

theorem isThrown_invalidState (aState : String) : IsThrown (.invalidState aState) :=
  fun _ h ↦ Exception.noConfusion h

theorem isThrown_argument (aMessage : String) : IsThrown (.argument aMessage) :=
  fun _ h ↦ Exception.noConfusion h

theorem keeps_contextUp (k : κ) : Keeps (α := α) a c (contextUp k) := by
  intro s h
  rw [contextUp, wp_bind, wp_get, wp_bind, wp_ensure]
  split
  · exact h.tell _ s.stack
  · exact ⟨h, isThrown_invalidState _⟩

theorem keeps_contextDown (k : κ) : Keeps (α := α) a c (contextDown k) := by
  intro s h
  rw [contextDown, wp_bind, wp_get, wp_bind, wp_ensure]
  split
  · exact h.tell _ s.stack
  · exact ⟨h, isThrown_invalidState _⟩

theorem keeps_tellOpened (ks : List κ) : Keeps (α := α) a c (tellOpened ks) := by
  cases ks with
  | nil => exact fun _ h ↦ h
  | cons k rest => exact keeps_bind (keeps_contextUp k) fun _ ↦ keeps_called _

theorem keeps_tellClosed (ks : List κ) : Keeps (α := α) a c (tellClosed ks) := by
  cases ks with
  | nil => exact fun _ h ↦ h
  | cons k rest => exact keeps_bind (keeps_contextDown k) fun _ ↦ keeps_called _

/-- **The connection is lost**: the queue is emptied, and the contexts are told. -/
theorem wp_onPhysicalLayerCloseCallback (h : Sound a c s) (hw : s.mState.mWriting = false)
    (m : MonitorState) (p : PhysState) (hag : Agrees m p) (ht : m.isWaiting = s.mpState.isWaiting)
    (hp : p.mOpen = false ∧ p.mWriting = false) :
    wp onPhysicalLayerCloseCallback (fun _ t ↦ Sound a c t) (fun e t ↦ Sound a c t ∧ IsThrown e)
      { s with mpState := m, mState := p, mIsLowerLayerUp := false } := by
  rw [onPhysicalLayerCloseCallback, wp_bind, wp_modify, wp_bind, wp_modify, wp_bind, wp_get]
  refine keeps_tellClosed _ _
    ⟨hag, h.timer.trans ht.symm, hp.1.symm, ?_, ?_, fun _ ↦ rfl, ?_, ?_, ?_,
    h.pre, ?_⟩
  · exact fun fr hfr ↦ absurd hfr List.not_mem_nil
  · exact ⟨fun h ↦ Bool.noConfusion h, fun h ↦ absurd rfl h⟩
  · exact fun hpw ↦ Bool.noConfusion (hp.2.symm.trans hpw)
  · exact fun h ↦ Bool.noConfusion h
  · have hwrites := h.writes
    rw [hw] at hwrites
    change s.writes = if p.mWriting = true then 1 else 0
    rw [hwrites, hp.2]
  · exact fun ho ↦ Bool.noConfusion (hp.1.symm.trans ho)

/-- The port has closed. -/
theorem wp_onLowerLayerDown (h : Sound a c s) (hs : s.mpState.phase = .opened)
    (hw : s.mState.mWriting = false) :
    wp onLowerLayerDown (fun _ t ↦ Sound a c t) (fun e t ↦ Sound a c t ∧ IsThrown e)
      { s with mState := {} } := by
  have hup : s.mIsLowerLayerUp = true := h.up.trans (h.agrees.opened hs).1
  -- the state that the monitor goes to, and the port after it
  have hclosed {m : MonitorState} (hm : m.phase = .idle) (hc : m.hasClosed = false) : Agrees m {} :=
    ⟨fun _ ↦ rfl, fun h ↦ PortPhase.noConfusion (hm.symm.trans h),
      fun h ↦ PortPhase.noConfusion (hm.symm.trans h), fun h ↦ Bool.noConfusion (hc.symm.trans h)⟩
  rw [onLowerLayerDown, wp_bind, wp_get, wp_bind, wp_ensure_of hup, wp_bind, wp_modify, wp_bind,
    onLayerClose, wp_bind, wp_get]
  dsimp only
  cases hm : s.mpState with
  | opened =>
    exact wp_onPhysicalLayerCloseCallback h hw .opening { mOpening := true } (.opens (by decide))
      (by rw [hm]; rfl) ⟨rfl, rfl⟩
  | closing =>
    exact wp_onPhysicalLayerCloseCallback h hw .opening { mOpening := true } (.opens (by decide))
      (by rw [hm]; rfl) ⟨rfl, rfl⟩
  | openedOne =>
    exact wp_onPhysicalLayerCloseCallback h hw .suspended {} (hclosed rfl rfl) (by rw [hm]; rfl)
      ⟨rfl, rfl⟩
  | suspending =>
    exact wp_onPhysicalLayerCloseCallback h hw .suspended {} (hclosed rfl rfl) (by rw [hm]; rfl)
      ⟨rfl, rfl⟩
  | shutingDown =>
    exact wp_onPhysicalLayerCloseCallback h hw .shutdown {} (hclosed rfl rfl) (by rw [hm]; rfl)
      ⟨rfl, rfl⟩
  | _ => exact PortPhase.noConfusion (hs.symm.trans (congrArg MonitorState.phase hm))

/-- **A port that is closing closes** as soon as no callback is due. -/
theorem keeps_closeIfDue : Keeps (κ := κ) (α := α) a c closeIfDue := by
  intro s h
  rw [closeIfDue, wp_bind, wp_checkForClose]
  split
  · next hdue =>
    obtain ⟨hclosing, hpending⟩ : s.mState.mClosing = true ∧ s.mState.callbacksPending = false := by
      simpa using hdue
    have hphase : s.mpState.phase = .opened := by
      cases hs : s.mpState.phase with
      | opened => rfl
      | idle => exact Bool.noConfusion (hclosing.symm.trans (by rw [h.agrees.idle hs]))
      | opening =>
        rw [PhysState.callbacksPending, (h.agrees.opening hs).1] at hpending
        exact Bool.noConfusion hpending
    have hw : s.mState.mWriting = false := by
      rw [PhysState.callbacksPending, Bool.or_eq_false_iff] at hpending
      exact hpending.2
    rw [closed_eq hpending]
    exact wp_onLowerLayerDown h hphase hw
  · exact h

/-- The port is to close, and the monitor may have gone to another state before. -/
theorem wp_asyncClose (h : Sound a c s) {m : MonitorState} (hm : m.phase = s.mpState.phase)
    (hs : s.mpState.phase ≠ .idle) :
    wp asyncClose (fun _ t ↦ Sound a c t) (fun e t ↦ Sound a c t ∧ IsThrown e)
      { s with mpState := m } := by
  have hag {p : PhysState} (hp : p = { s.mState with mClosing := true }) : Agrees m p := by
    refine ⟨fun hi ↦ absurd (hm.symm.trans hi) hs, fun ho ↦ ?_, fun ho ↦ ?_, fun _ ↦ by rw [hp]⟩
    · rw [hp]
      exact h.agrees.opening (hm.symm.trans ho)
    · rw [hp]
      exact h.agrees.opened (hm.symm.trans ho)
  have hw : m.isWaiting = s.mpState.isWaiting :=
    (isWaiting_of_phase (hm ▸ hs)).trans (isWaiting_of_phase hs).symm
  have htimer : s.mpOpenTimer = m.isWaiting := h.timer.trans hw.symm
  change wp (startClose >>= fun _ ↦ closeIfDue) _ _ _
  rw [wp_bind, startClose, wp_bind, wp_get, wp_bind, wp_ensure]
  split
  · rw [wp_modify]
    exact keeps_closeIfDue _ (h.move m _ { s.mState with mClosing := true } (hag rfl) htimer rfl rfl
      fun _ hp ↦ Bool.noConfusion hp)
  · next hcan =>
    -- the port has been closing already
    refine ⟨h.move m _ s.mState (hag ?_) htimer rfl rfl fun _ hp ↦ hp, isThrown_invalidState _⟩
    have hopen : (s.mState.mOpen || s.mState.mOpening) = true := by
      cases hphase : s.mpState.phase with
      | idle => exact absurd hphase hs
      | opening => rw [(h.agrees.opening hphase).1, Bool.or_true]
      | opened => rw [(h.agrees.opened hphase).1, Bool.true_or]
    have hclosing : s.mState.mClosing = true := by
      simpa [PhysState.canClose, hopen] using hcan
    rw [← hclosing]

theorem keeps_asyncClose : Keeps (κ := κ) (α := α) a c asyncClose := by
  intro s h
  by_cases hs : s.mpState.phase = .idle
  · have hcan : ¬s.mState.canClose = true := by
      rw [h.agrees.idle hs]
      exact Bool.false_ne_true
    rw [asyncClose, wp_bind, startClose, wp_bind, wp_get, wp_bind, wp_ensure, if_neg hcan]
    exact ⟨h, isThrown_invalidState _⟩
  · exact wp_asyncClose h rfl hs

theorem wp_closeInto (h : Sound a c s) {m old : MonitorState} (hs : s.mpState = old)
    (hm : m.phase = old.phase) (hold : old.phase ≠ .idle) :
    wp (closeInto m) (fun _ t ↦ Sound a c t) (fun e t ↦ Sound a c t ∧ IsThrown e) s := by
  subst hs
  rw [closeInto, wp_bind, changeState, wp_modify]
  exact wp_asyncClose h hm hold

theorem keeps_close : Keeps (κ := κ) (α := α) a c close := by
  intro s h
  rw [close, wp_bind, wp_get]
  cases hs : s.mpState with
  | opening => exact wp_closeInto h hs rfl (by decide)
  | openingOne => exact wp_closeInto h hs rfl (by decide)
  | opened => exact wp_closeInto h hs rfl (by decide)
  | openedOne => exact wp_closeInto h hs rfl (by decide)
  | _ => exact h

theorem keeps_suspend : Keeps (κ := κ) (α := α) a c suspend := by
  intro s h
  rw [suspend, wp_bind, wp_get]
  cases hs : s.mpState with
  | opening => exact wp_closeInto h hs rfl (by decide)
  | openingOne => exact wp_closeInto h hs rfl (by decide)
  | openingClosing => exact h.follow hs (by decide)
  | opened => exact wp_closeInto h hs rfl (by decide)
  | openedOne => exact wp_closeInto h hs rfl (by decide)
  | waiting => exact wp_cancelOpenTimer h hs rfl rfl rfl rfl
  | waitingOne => exact wp_cancelOpenTimer h hs rfl rfl rfl rfl
  | closing => exact h.follow hs (by decide)
  | _ => exact h

theorem keeps_shutdown : Keeps (κ := κ) (α := α) a c shutdown := by
  intro s h
  rw [shutdown, wp_bind, wp_get]
  cases hs : s.mpState with
  | suspended => exact h.follow hs (by decide)
  | init => exact h.follow hs (by decide)
  | opening => exact wp_closeInto h hs rfl (by decide)
  | openingOne => exact wp_closeInto h hs rfl (by decide)
  | openingClosing => exact h.follow hs (by decide)
  | openingSuspending => exact h.follow hs (by decide)
  | opened => exact wp_closeInto h hs rfl (by decide)
  | openedOne => exact wp_closeInto h hs rfl (by decide)
  | waiting => exact wp_cancelOpenTimer h hs rfl rfl rfl rfl
  | waitingOne => exact wp_cancelOpenTimer h hs rfl rfl rfl rfl
  | closing => exact h.follow hs (by decide)
  | suspending => exact h.follow hs (by decide)
  | _ => exact h

theorem keeps_request (q : MonitorRequest) : Keeps (κ := κ) (α := α) a c (request q) := by
  cases q with
  | start => exact keeps_start
  | startOne => exact keeps_startOne
  | close => exact keeps_close
  | suspend => exact keeps_suspend
  | shutdown => exact keeps_shutdown

/-! ## Contexts come and go

A context that is added or removed while the port is open is called, so the operation is
interrupted. -/

omit [DecidableEq κ] in
/-- The map of the contexts changes, and every frame in the queue still finds its context. -/
theorem Sound.setMap (h : Sound a c s) (map : List (LinkRoute × κ))
    (hmap : ∀ fr ∈ s.mTransmitQueue, fr.route ∈ map.map (·.1)) :
    Sound a c { s with mAddressMap := map } :=
  { h with bound := hmap }

theorem keeps_addContext (k : κ) (r : LinkRoute) : Keeps (α := α) a c (addContext k r) := by
  intro s h
  rw [addContext, wp_bind, wp_get, wp_bind, wp_ensure]
  split
  · cases s.mAddressMap.find? (·.2 = k) with
    | some v => exact ⟨h, isThrown_argument _⟩
    | none =>
      have hmap : Sound a c { s with mAddressMap := s.mAddressMap ++ [(r, k)] } := by
        refine h.setMap _ fun fr hfr ↦ ?_
        rw [List.map_append]
        exact List.mem_append_left _ (h.bound fr hfr)
      by_cases hs : s.mpState.getState = .opened
      · simp only [if_pos hs]
        exact keeps_bind (keeps_contextUp k) (fun _ ↦ keeps_called .addContext) _ hmap
      · simp only [if_neg hs]
        exact keeps_start _ hmap
  · exact ⟨h, isThrown_argument _⟩

theorem keeps_suspendIfUnused : Keeps (κ := κ) (α := α) a c suspendIfUnused := by
  intro s h
  rw [suspendIfUnused, wp_bind, wp_get]
  split
  · exact keeps_suspend s h
  · exact h

/-- A context goes that has no frame in the queue. -/
theorem wp_removeContext (h : Sound a c s) {r : LinkRoute}
    (hr : ∀ fr ∈ s.mTransmitQueue, fr.route ≠ r) :
    wp (removeContext r) (fun _ t ↦ Sound a c t) (fun e t ↦ Sound a c t ∧ IsThrown e) s := by
  rw [removeContext, wp_bind, wp_get]
  cases s.mAddressMap.find? (·.1 = r) with
  | none => exact ⟨h, isThrown_argument _⟩
  | some v =>
    have hmap : Sound a c { s with mAddressMap := s.mAddressMap.filter (·.1 ≠ r) } := by
      refine h.setMap _ fun fr hfr ↦ ?_
      obtain ⟨entry, hentry, hroute⟩ := List.mem_map.mp (h.bound fr hfr)
      refine List.mem_map.mpr ⟨entry, List.mem_filter.mpr ⟨hentry, ?_⟩, hroute⟩
      exact decide_eq_true (hroute ▸ hr fr hfr)
    by_cases hs : s.mpState.getState = .opened
    · simp only [if_pos hs]
      exact keeps_bind (keeps_contextDown v.2) (fun _ ↦ keeps_called .removeContext) _ hmap
    · simp only [if_neg hs]
      exact keeps_suspendIfUnused _ hmap

/-! ## Reading and opening -/

omit [DecidableEq κ] in
/-- Where the port can read, it begins to. -/
theorem wp_asyncReadIfCan {β : Type} {x : Op κ α β} (h : Sound a c s) (hx : Keeps a c x) :
    wp (do if (← get).mState.canRead then asyncRead
           x) (fun _ t ↦ Sound a c t) (fun e t ↦ Sound a c t ∧ IsThrown e) s := by
  rw [wp_bind, wp_get]
  by_cases hcan : s.mState.canRead = true
  · have hopen : s.mState.mOpen = true := by
      rw [PhysState.canRead, Bool.and_assoc, Bool.and_eq_true] at hcan
      exact hcan.1
    simp only [if_pos hcan]
    rw [wp_bind, asyncRead, wp_bind, wp_get, wp_bind, wp_ensure_of hcan, wp_modify]
    exact hx _ (h.move s.mpState s.mpOpenTimer { s.mState with mReading := true }
      (h.agrees.whileOpen hopen rfl rfl rfl) h.timer rfl rfl fun _ hp ↦ hp)
  · simp only [if_neg hcan]
    exact hx _ h

theorem keeps_continuation (r : Return κ) : Keeps (α := α) a c (continuation r) := by
  cases r with
  | onReceive => exact fun s h ↦ wp_asyncReadIfCan h keeps_closeIfDue
  | addContext => exact keeps_start
  | removeContext => exact keeps_suspendIfUnused
  | opened rest => exact keeps_tellOpened rest
  | closed rest => exact keeps_tellClosed rest

theorem keeps_resume : Keeps (κ := κ) (α := α) a c resume := by
  intro s h
  rw [resume, wp_bind, wp_get]
  cases s.stack with
  | nil => exact h
  | cons r rest => exact keeps_continuation r _ (h.tell s.online rest)

omit [DecidableEq κ] in
theorem keeps_unwind : Keeps (κ := κ) (α := α) a c unwind :=
  fun s h ↦ h.tell s.online s.stack.tail

omit [DecidableEq κ] in
theorem keeps_closeOnError : Keeps (κ := κ) (α := α) a c closeOnError := by
  intro s h
  rw [closeOnError, wp_bind, wp_get]
  by_cases hcan : s.mState.canClose = true
  · simp only [if_pos hcan]
    rw [startClose, wp_bind, wp_get, wp_bind, wp_ensure_of hcan, wp_modify]
    refine h.move s.mpState s.mpOpenTimer { s.mState with mClosing := true } ?_ h.timer rfl rfl
      fun _ hp ↦ Bool.noConfusion hp
    refine ⟨fun hi ↦ ?_, h.agrees.opening, h.agrees.opened, fun _ ↦ rfl⟩
    rw [h.agrees.idle hi] at hcan
    exact Bool.noConfusion hcan
  · simp only [if_neg hcan]
    exact h

/-- A read ends. -/
theorem wp_onReadCallback (h : Sound a c s) (hr : s.mState.mReading = true) (arErr : Bool) :
    wp (onReadCallback arErr) (fun _ t ↦ Sound a c t) (fun e t ↦ Sound a c t ∧ IsThrown e) s := by
  have hread : Sound a c { s with mState := { s.mState with mReading := false } } := by
    refine h.move s.mpState s.mpOpenTimer { s.mState with mReading := false } ?_ h.timer rfl rfl
      fun _ hp ↦ hp
    refine ⟨fun hi ↦ ?_, fun ho ↦ ?_, h.agrees.opened, h.agrees.closing⟩
    · exact Bool.noConfusion (hr.symm.trans (by rw [h.agrees.idle hi]))
    · exact Bool.noConfusion (hr.symm.trans (h.agrees.opening ho).2.2.1)
  rw [onReadCallback, wp_bind, wp_get, wp_bind, wp_ensure_of hr, wp_bind, wp_modify]
  cases arErr with
  | true => exact keeps_bind keeps_closeOnError (fun _ ↦ keeps_closeIfDue) _ hread
  | false =>
    by_cases hc : s.mState.mClosing = true
    · simp only [Bool.false_eq_true, if_false, if_pos hc]
      exact keeps_closeIfDue _ hread
    · simp only [Bool.false_eq_true, if_false, if_neg hc]
      exact keeps_called .onReceive _ hread

omit [DecidableEq κ] in
/-- The port has not opened. -/
theorem wp_failOpening (h : Sound a c s) (hs : s.mpState.phase = .opening) :
    wp failOpening (fun _ t ↦ Sound a c t) (fun e t ↦ Sound a c t ∧ IsThrown e)
      { s with mState := { s.mState with mOpening := false } } := by
  obtain ⟨-, hopen, hreading, hwriting⟩ := h.agrees.opening hs
  have htimer : s.mpOpenTimer = false :=
    h.timer.trans (isWaiting_of_phase fun hi ↦ PortPhase.noConfusion (hs.symm.trans hi))
  have hidle {m : MonitorState} {b : Bool} (hm : m.phase = .idle) (hc : m.hasClosed = false)
      (hb : b = m.isWaiting) :
        Sound a c { s with mpState := m, mpOpenTimer := b, mState := {} } := by
    refine h.move m b {} ?_ hb hopen.symm hwriting.symm fun ho ↦ Bool.noConfusion
      (hopen.symm.trans ho)
    exact ⟨fun _ ↦ rfl, fun h ↦ PortPhase.noConfusion (hm.symm.trans h),
      fun h ↦ PortPhase.noConfusion (hm.symm.trans h), fun h ↦ Bool.noConfusion (hc.symm.trans h)⟩
  have hwait : wp (do changeState .waiting; startOpenTimer) (fun _ t ↦ Sound a c t)
      (fun e t ↦ Sound a c t ∧ IsThrown e) { s with mState := {} } := by
    rw [wp_bind, changeState, wp_modify, startOpenTimer, wp_bind, wp_get, wp_bind,
      wp_ensure_of htimer, wp_modify]
    exact hidle rfl rfl rfl
  have hfail : wp onOpenFailure (fun _ t ↦ Sound a c t) (fun e t ↦ Sound a c t ∧ IsThrown e)
      { s with mState := {} } := by
    rw [onOpenFailure, wp_bind, wp_get]
    dsimp only
    cases hm : s.mpState with
    | opening => exact hwait
    | openingClosing => exact hwait
    | openingOne => exact hidle rfl rfl htimer
    | openingSuspending => exact hidle rfl rfl htimer
    | openingStopping => exact hidle rfl rfl htimer
    | _ => exact PortPhase.noConfusion (hs.symm.trans (congrArg MonitorState.phase hm))
  have hport : ({ s.mState with mOpening := false } : PhysState) =
      { mClosing := s.mState.mClosing } := by
    dsimp only
    rw [hopen, hreading, hwriting]
  rw [hport, failOpening, wp_bind, wp_checkForClose]
  cases s.mState.mClosing with
  | true => exact hfail
  | false => exact hfail

/-- **A connection is opened.** -/
theorem wp_onLowerLayerUp (h : Sound a c s) (hs : s.mpState.phase = .opening)
    (hc : s.mState.mClosing = false) :
    wp onLowerLayerUp (fun _ t ↦ Sound [] 0 t) (fun e t ↦ Sound [] 0 t ∧ IsThrown e)
      { s with mState := { s.mState with mOpening := false, mOpen := true }, stream := [] } := by
  obtain ⟨-, hopen, hreading, hwriting⟩ := h.agrees.opening hs
  have hup : s.mIsLowerLayerUp = false := h.up.trans hopen
  have hopened {m : MonitorState} (hm : m.phase = .opened) (hcl : m.hasClosed = false) :
      Sound [] 0 { s with
        mState := { s.mState with mOpening := false, mOpen := true }, stream := [],
        mIsLowerLayerUp := true, mpState := m } := by
    have hqueue := h.idle hopen
    have hphase : m.phase ≠ .idle := fun hi ↦ PortPhase.noConfusion (hm.symm.trans hi)
    refine ⟨⟨fun hi ↦ absurd hi hphase, fun ho ↦ PortPhase.noConfusion (hm.symm.trans ho),
      fun _ ↦ ⟨rfl, rfl⟩, fun hh ↦ Bool.noConfusion (hcl.symm.trans hh)⟩, ?_, rfl, h.bound,
      h.transmitting, fun ho ↦ Bool.noConfusion ho, h.writing, h.busy, h.writes,
        List.prefix_rfl, ?_⟩
    · refine (h.timer.trans (isWaiting_of_phase fun hi ↦ ?_)).trans (isWaiting_of_phase hphase).symm
      exact PortPhase.noConfusion (hs.symm.trans hi)
    · intro _ _
      refine ⟨[], rfl, ?_, ?_⟩
      · change [] = [] ++ s.mTransmitQueue
        rw [hqueue, List.append_nil]
      · change [] = [] ++ s.mTransmitQueue.take 1
        rw [hqueue, List.take_nil, List.append_nil]
  have hcallback : Keeps (κ := κ) (α := α) [] 0 onPhysicalLayerOpenSuccessCallback :=
    fun t ht ↦ wp_asyncReadIfCan ht fun u hu ↦ keeps_tellOpened _ u hu
  rw [onLowerLayerUp, wp_bind, wp_get, wp_bind, wp_ensure_of hup, wp_bind, wp_modify, wp_bind,
    onLayerOpen, wp_bind, wp_get]
  dsimp only
  cases hm : s.mpState with
  | opening => exact hcallback _ (hopened rfl rfl)
  | openingOne => exact hcallback _ (hopened rfl rfl)
  | openingClosing => exact Bool.noConfusion (hc.symm.trans (h.agrees.closing (by rw [hm]; rfl)))
  | openingStopping => exact Bool.noConfusion (hc.symm.trans (h.agrees.closing (by rw [hm]; rfl)))
  | openingSuspending => exact Bool.noConfusion (hc.symm.trans (h.agrees.closing (by rw [hm]; rfl)))
  | _ => exact PortPhase.noConfusion (hs.symm.trans (congrArg MonitorState.phase hm))

/-! ## Writing

The frame at the head of the queue is being written, unless the port is closing, in which case
the frame stays where it is until the queue is emptied. -/

omit [DecidableEq κ] in
/-- **The next frame is written**, if there is one. -/
theorem wp_checkForSend (h : Sound a c { s with mTransmitQueue := [] }) (ho : s.mState.mOpen = true)
    (hc : s.mState.mClosing = false) (hb : ∀ fr ∈ s.mTransmitQueue, s.isBound fr.route) :
    wp checkForSend (fun _ t ↦ Sound (a ++ s.mTransmitQueue) c t) (fun _ _ ↦ False) s := by
  have htr : s.mTransmitting = false := Bool.eq_false_iff.mpr fun hn ↦ h.transmitting.mp hn rfl
  have hw : s.mState.mWriting = false :=
    Bool.eq_false_iff.mpr fun hn ↦ h.transmitting.mp (h.writing hn) rfl
  obtain ⟨done, hlen, ha, hstream⟩ := h.order ho hc
  rw [List.append_nil] at ha
  rw [List.take_nil, List.append_nil] at hstream
  subst ha
  rw [checkForSend, wp_bind, wp_get]
  cases hq : s.mTransmitQueue with
  | nil =>
    rw [List.append_nil]
    rwa [← hq] at h
  | cons fr rest =>
    have hcan : s.mState.canWrite = true := by
      rw [PhysState.canWrite, ho, hc, hw]
      rfl
    have hwrites : s.writes = 0 := h.writes.trans (by rw [hw]; rfl)
    have hstream' : s.stream ++ [fr] = a ++ s.mTransmitQueue.take 1 := by
      rw [hq, List.take_succ_cons, List.take_zero]
      exact congrArg (· ++ [fr]) hstream
    have hne : s.mTransmitQueue ≠ [] := by
      rw [hq]
      exact List.cons_ne_nil _ _
    simp only [htr, Bool.not_false, if_true]
    rw [wp_bind, wp_modify, asyncWrite, wp_bind, wp_get, wp_bind, wp_ensure_of hcan,
      wp_modify, ← hq]
    refine ⟨h.agrees.whileOpen ho rfl rfl rfl, h.timer, h.up, hb, ⟨fun _ ↦ hne, fun _ ↦ rfl⟩,
      fun hp ↦ Bool.noConfusion (ho.symm.trans hp), fun _ ↦ rfl, fun _ _ ↦ rfl, ?_, ?_, ?_⟩
    · exact congrArg (· + 1) hwrites
    · change s.stream ++ [fr] <+: a ++ s.mTransmitQueue
      rw [hstream']
      exact (List.prefix_append_right_inj a).mpr (List.take_prefix _ _)
    · exact fun _ _ ↦ ⟨a, hlen, rfl, hstream'⟩

omit [DecidableEq κ] in
theorem wp_checkForSend_of_transmitting {Q : Unit → LinkRouter κ α → Prop}
    {E : Exception → LinkRouter κ α → Prop} (htr : s.mTransmitting = true) :
    wp checkForSend Q E s ↔ Q () s := by
  rw [checkForSend, wp_bind, wp_get]
  cases s.mTransmitQueue with
  | nil => exact Iff.rfl
  | cons fr rest =>
    simp only [htr, Bool.not_true, Bool.false_eq_true, if_false]
    exact Iff.rfl

/-- What `Transmit` requires. -/
def CanTransmit (s : LinkRouter κ α) (fr : Frame α) : Prop :=
  s.isBound fr.route ∧ s.mIsLowerLayerUp = true

omit [DecidableEq κ] in
/-- **A frame is transmitted.** -/
theorem wp_transmit (h : Sound a c s) (fr : Frame α)
    (hg : s.isBound fr.route → s.mIsLowerLayerUp = true → s.mState.mClosing = true →
      s.mTransmitting = true) :
    wp (transmit fr) (fun _ t ↦ Sound (a ++ [fr]) c t)
      (fun e t ↦ Sound a c t ∧ IsThrown e ∧ ¬s.CanTransmit fr) s := by
  rw [transmit, wp_bind, wp_get]
  by_cases hbound : s.isBound fr.route
  · simp only [if_pos hbound]
    rw [wp_bind, wp_ensure]
    by_cases hup : s.mIsLowerLayerUp = true
    · rw [if_pos hup, wp_bind, wp_modify]
      have hopen : s.mState.mOpen = true := h.up.symm.trans hup
      have hpushed : ∀ fr' ∈ s.mTransmitQueue ++ [fr], s.isBound fr'.route := by
        intro fr' hfr
        rcases List.mem_append.mp hfr with hfr | hfr
        · exact h.bound fr' hfr
        · exact List.mem_singleton.mp hfr ▸ hbound
      by_cases htr : s.mTransmitting = true
      · -- the frame waits behind the one that is being written
        have hne : s.mTransmitQueue ≠ [] := h.transmitting.mp htr
        have hne' : s.mTransmitQueue ++ [fr] ≠ [] := List.append_ne_nil_of_left_ne_nil hne _
        have hsound : Sound (a ++ [fr]) c
            { s with mTransmitQueue := s.mTransmitQueue ++ [fr] } := by
          refine { h with
            bound := hpushed
            transmitting := ⟨fun _ ↦ hne', fun _ ↦ htr⟩
            idle := fun hp ↦ Bool.noConfusion (hopen.symm.trans hp)
            pre := h.pre.trans (List.prefix_append a [fr])
            order := fun ho hc ↦ ?_ }
          obtain ⟨done, hlen, ha, hstream⟩ := h.order ho hc
          refine ⟨done, hlen, ?_, ?_⟩
          · rw [ha, List.append_assoc]
          · change s.stream = done ++ (s.mTransmitQueue ++ [fr]).take 1
            rw [List.take_append_of_le_length (List.length_pos_iff.mpr hne)]
            exact hstream
        exact (wp_checkForSend_of_transmitting
          (s := { s with mTransmitQueue := s.mTransmitQueue ++ [fr] }) htr).mpr hsound
      · -- nothing is being written, and the queue has been empty
        have hq : s.mTransmitQueue = [] := by
          by_contra hn
          exact htr (h.transmitting.mpr hn)
        have hclosing : s.mState.mClosing = false :=
          Bool.eq_false_iff.mpr fun hc ↦ htr (hg hbound hup hc)
        have hidle : Sound a c { s with mTransmitQueue := [] } := by
          rwa [← hq]
        refine wp_mono (wp_checkForSend (s := { s with mTransmitQueue := s.mTransmitQueue ++ [fr] })
          hidle hopen hclosing hpushed) (fun _ t ht ↦ ?_) fun _ _ he ↦ he.elim
        rwa [hq] at ht
    · rw [if_neg hup]
      exact ⟨h, isThrown_invalidState _, fun hcan ↦ hup hcan.2⟩
  · simp only [if_neg hbound]
    exact ⟨h, isThrown_argument _, fun hcan ↦ hbound hcan.1⟩

omit [DecidableEq κ] in
/-- A write ends, and the port is closing. -/
theorem Sound.writeEnds (h : Sound a c s) (hw : s.mState.mWriting = true) (c' : ℕ) (p : PhysState)
    (hp : p = { s.mState with mWriting := false, mClosing := true }) :
    Sound a c' { s with mState := p, writes := s.writes - 1 } := by
  have hopen : s.mState.mOpen = true := by
    by_contra hn
    exact h.transmitting.mp (h.writing hw) (h.idle (Bool.eq_false_iff.mpr hn))
  have hphase := h.agrees.phase_of_mOpen hopen
  have hwrites : s.writes = 1 := h.writes.trans (by rw [hw]; rfl)
  subst hp
  refine ⟨⟨fun hi ↦ PortPhase.noConfusion (hphase.symm.trans hi),
    fun hi ↦ PortPhase.noConfusion (hphase.symm.trans hi), h.agrees.opened, fun _ ↦ rfl⟩,
      h.timer, h.up,
    h.bound, h.transmitting, h.idle, fun hp ↦ Bool.noConfusion hp, fun _ hp ↦
      Bool.noConfusion hp, ?_,
    h.pre, fun _ hp ↦ Bool.noConfusion hp⟩
  exact congrArg (· - 1) hwrites

omit [DecidableEq κ] in
/-- **A write has succeeded**, and the frame that was written leaves the queue. -/
theorem wp_onSendSuccess {fr : Frame α} {rest : List (Frame α)} (hq : s.mTransmitQueue = fr :: rest)
    (htr : s.mTransmitting = true) (hb : ∀ fr' ∈ s.mTransmitQueue, s.isBound fr'.route)
    (ho : s.mState.mOpen = true) (hc : s.mState.mClosing = false)
    (h : Sound a c { s with mTransmitting := false, mTransmitQueue := [] }) :
    wp onSendSuccess (fun _ t ↦ Sound (a ++ rest) c t) (fun _ _ ↦ False) s := by
  have hpos : s.mTransmitQueue.length > 0 := by
    rw [hq]
    exact Nat.succ_pos _
  have hhead : ∀ fr' ∈ s.mTransmitQueue.head?, s.isBound fr'.route := by
    intro fr' hfr
    exact hb fr' (List.mem_of_head? hfr)
  rw [onSendSuccess, wp_bind, wp_get, wp_bind, wp_ensure_of hpos, wp_bind, wp_ensure_of htr,
    wp_bind, wp_ensure_of hhead, wp_bind, wp_modify, wp_bind, wp_modify]
  dsimp only
  rw [hq, List.tail_cons]
  refine wp_checkForSend (s := { s with mTransmitting := false, mTransmitQueue := rest }) h ho hc ?_
  intro fr' hfr
  exact hb fr' (hq ▸ List.mem_cons_of_mem _ hfr)

/-- **A write ends**, with an error or without. -/
theorem wp_onWriteCallback (h : Sound a c s) (hw : s.mState.mWriting = true) (arErr : Bool) :
    wp (onWriteCallback arErr) (fun _ t ↦ Sound a (if arErr then c else c + 1) t)
      (fun e t ↦ Sound a (if arErr then c else c + 1) t ∧ IsThrown e) s := by
  have hopen : s.mState.mOpen = true := by
    by_contra hn
    exact h.transmitting.mp (h.writing hw) (h.idle (Bool.eq_false_iff.mpr hn))
  have hstate (hc : s.mState.mClosing = true) : ({ s.mState with mWriting := false } : PhysState) =
      { s.mState with mWriting := false, mClosing := true } := by
    dsimp only
    rw [hc]
  rw [onWriteCallback, wp_bind, wp_get, wp_bind, wp_ensure_of hw, wp_bind, wp_modify]
  by_cases hc : s.mState.mClosing = true
  · -- nobody is told, and the port may close
    have hclosing (c' : ℕ) := h.writeEnds hw c' _ (hstate hc)
    cases arErr with
    | true => exact keeps_bind keeps_closeOnError (fun _ ↦ keeps_closeIfDue) _ (hclosing c)
    | false =>
      simp only [Bool.false_eq_true, if_false, if_pos hc]
      exact keeps_closeIfDue _ (hclosing (c + 1))
  · cases arErr with
    | true =>
      have hcan : ({ s.mState with mWriting := false } : PhysState).canClose = true := by
        rw [PhysState.canClose, hopen, Bool.eq_false_iff.mpr hc]
        rfl
      simp only [if_true]
      rw [wp_bind, closeOnError, wp_bind, wp_get, if_pos hcan, startClose, wp_bind, wp_get, wp_bind,
        wp_ensure_of hcan, wp_modify]
      exact keeps_closeIfDue _ (h.writeEnds hw c _ rfl)
    | false =>
      have hc' : s.mState.mClosing = false := Bool.eq_false_iff.mpr hc
      have hwrites : s.writes = 1 := h.writes.trans (by rw [hw]; rfl)
      obtain ⟨done, hlen, ha, hstream⟩ := h.order hopen hc'
      obtain ⟨fr, rest, hq⟩ := List.exists_cons_of_ne_nil (h.transmitting.mp (h.writing hw))
      rw [hq] at ha hstream
      have hdone : s.stream = done ++ [fr] := hstream
      have hidle : Sound (done ++ [fr]) (c + 1) { s with
          mState := { s.mState with mWriting := false }, writes :=
            s.writes - 1, mTransmitting := false,
          mTransmitQueue := [] } := by
        refine ⟨h.agrees.whileOpen hopen rfl rfl rfl, h.timer, h.up,
          fun _ hf ↦ absurd hf List.not_mem_nil,
          ⟨fun hp ↦ Bool.noConfusion hp, fun hp ↦ absurd rfl hp⟩, fun _ ↦ rfl,
          fun hp ↦ Bool.noConfusion hp, fun hp ↦ Bool.noConfusion hp, congrArg (· - 1) hwrites,
          hdone ▸ List.prefix_rfl, fun _ _ ↦ ⟨done ++ [fr], ?_, (List.append_nil _).symm,
            hdone.trans (List.append_nil _).symm⟩⟩
        rw [List.length_append, hlen, List.length_singleton]
      have hsend := wp_onSendSuccess (s := { s with
        mState := { s.mState with mWriting := false }, writes := s.writes - 1 }) hq (h.writing hw)
        h.bound hopen hc' hidle
      rw [List.append_assoc, List.singleton_append, ← ha] at hsend
      simp only [Bool.false_eq_true, if_false, if_neg hc]
      rw [wp_bind]
      exact wp_mono hsend (fun _ t ht ↦ keeps_closeIfDue t ht) fun _ _ he ↦ he.elim

/-- **The port has opened or failed to open**; only the opening of a connection starts a new
record. -/
theorem wp_onOpenCallback (h : Sound a c s) (ho : s.mState.mOpening = true) (arErr : Bool) :
    let failed := arErr || s.mState.mClosing
    wp (onOpenCallback arErr) (fun _ t ↦ if failed then Sound a c t else Sound [] 0 t)
      (fun e t ↦ (if failed then Sound a c t else Sound [] 0 t) ∧ IsThrown e) s := by
  have hphase : s.mpState.phase = .opening := by
    cases hs : s.mpState.phase with
    | opening => rfl
    | idle => exact Bool.noConfusion (ho.symm.trans (by rw [h.agrees.idle hs]))
    | opened => exact Bool.noConfusion (ho.symm.trans (h.agrees.opened hs).2)
  have hfail := wp_failOpening h hphase
  intro failed
  rw [onOpenCallback, wp_bind, wp_get, wp_bind, wp_ensure_of ho, wp_bind, wp_modify]
  by_cases hf : failed = true
  · simp only [if_pos hf]
    rcases (Bool.or_eq_true _ _).mp hf with herr | hc
    · simp only [if_pos herr]
      exact hfail
    · split
      · exact hfail
      · rw [wp_bind, wp_get]
        simp only [if_pos hc]
        exact hfail
  · simp only [if_neg hf]
    obtain ⟨herr, hc⟩ : arErr = false ∧ s.mState.mClosing = false :=
      (Bool.or_eq_false_iff).mp (Bool.eq_false_iff.mpr hf)
    have hup := wp_onLowerLayerUp h hphase hc
    refine wp_ite (fun hn ↦ Bool.noConfusion (herr.symm.trans hn)) fun _ ↦ ?_
    rw [wp_bind, wp_get]
    refine wp_ite (fun hn ↦ Bool.noConfusion (hc.symm.trans hn)) fun _ ↦ ?_
    rw [wp_bind, wp_modify]
    exact hup

end Contexts

end LinkRouter

end OpenDNP3
