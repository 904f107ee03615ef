import OpenDNP3.Vto.Invariant

/-!
# The remote connection of a virtual terminal channel

Messages about the remote connection take effect, as long as no flush of the queue finds a message
in it (`Allowed`): a flush drops the message, and the copy that it would have changed keeps the old
state.

* `MayReceive` — a message that does not cause such a flush.
* `VtoRun.messages_take_effect` — every run.
-/

set_option autoImplicit false

namespace OpenDNP3

open Handler

namespace VtoRouter

/-! ## Messages from the remote side

Data and messages about the remote connection arrive in one stream. A message that causes a flush
drops what waits in the queue, and another message may be among it. -/

/-- **The condition on a message**, while a connection message is pending: it does not cause a
flush. -/
def MayReceive (kind : VtoRouterKind) (v : VtoView) (d : VtoData) : Prop :=
  Pending v.queue →
    match d.mType with
    | .data => v.local = false
    | .remoteOpened => False
    | .remoteClosed => kind = .client ∨ v.local = false

instance (kind : VtoRouterKind) (v : VtoView) (d : VtoData) : Decidable (MayReceive kind v d) := by
  unfold MayReceive
  cases d.mType <;> infer_instance

section Receive

variable {calm : Bool} {kind : VtoRouterKind} {user : Callbacks VtoRouter} {s : Monitored VtoRouter}
  {d : VtoData}

theorem Good.agreed (h : Good calm (view s)) :
    Agreed s.user.mPhysLayerTxBuffer s.user.mRemoteConnected s.user.mInstRemoteConnected := h.1.1

/-- An entry that is accepted. -/
theorem wp_accept {E : Exception → Monitored VtoRouter → Prop}
    {Q : Unit → Monitored VtoRouter → Prop} (h : wp (checkForPhysWrite kind user) Q E
      { s with user := { s.user with mPhysLayerTxBuffer := s.user.mPhysLayerTxBuffer ++ [d] } }) :
    wp (do
      update fun u ↦ { u with mPhysLayerTxBuffer := u.mPhysLayerTxBuffer ++ [d] }
      checkForPhysWrite kind user) Q E s := by
  rw [wp_bind, update, wp_modify]
  exact h

theorem wp_receiveData (huser : KeepsEmpty user) (h : Good calm (view s)) (hd : d.mType = .data)
    (hmay : MayReceive kind (view s) d) :
    wp (onVtoDataReceived kind user d) (fun _ t ↦ Good calm (view t))
      (fun _ t ↦ Weak (view t)) s := by
  rw [onVtoDataReceived, checkIncomingVtoData, wp_bind, wp_bind, wp_get]
  simp only [hd]
  refine wp_ite (fun hinst ↦ ?_) fun hinst ↦ ?_
  · -- only data is waiting
    refine wp_accept ?_
    refine wp_mono (wp_checkForPhysWrite calm huser ⟨?_, h.1.2⟩) (fun _ _ ht ↦ ht.1) fun _ _ ht ↦ ht
    have hagreed := h.agreed
    have hp : ¬Pending s.user.mPhysLayerTxBuffer :=
      fun hp ↦ Bool.noConfusion (hinst.symm.trans (hagreed.pending hp).2)
    show Agreed (s.user.mPhysLayerTxBuffer ++ [d])
      s.user.mRemoteConnected s.user.mInstRemoteConnected
    rw [(hagreed.eq_of_not_pending hp).1, hinst]
    refine .same (fun x hx ↦ ?_) Bool.noConfusion
    rcases List.mem_append.mp hx with hx | hx
    · exact Bool.eq_false_iff.mpr fun hconn ↦ hp ⟨x, hx, hconn⟩
    · rw [List.mem_singleton.mp hx]
      exact isConnection_eq_false.mpr hd
  · rw [wp_bind, handleReceivingDataWhenRemoteClosed, wp_bind, wp_get]
    refine wp_ite (fun hlocal ↦ ?_) fun _ ↦ ?_
    · have hp : ¬Pending s.user.mPhysLayerTxBuffer := by
        intro hp
        have hclosed := hmay hp
        rw [hd] at hclosed
        exact Bool.noConfusion (hlocal.symm.trans hclosed)
      exact wp_mono (wp_closeAndFlushBuffers calm huser h.1 hp) (fun _ _ ht ↦ ht) fun _ _ ht ↦ ht
    · have hnotify := (total_notifyRemoteSideOfState (G := fun v ↦ Good calm v.1) false).stable s h
      exact wp_mono hnotify (fun _ _ ht ↦ ht) fun _ _ ht ↦ ht.1

theorem wp_receiveClosed (huser : KeepsEmpty user) (h : Good calm (view s))
    (hd : d.mType = .remoteClosed) (hmay : MayReceive kind (view s) d) :
    wp (onVtoDataReceived kind user d) (fun _ t ↦ Good calm (view t))
      (fun _ t ↦ Weak (view t)) s := by
  rw [onVtoDataReceived, checkIncomingVtoData, wp_bind, wp_bind, wp_get]
  simp only [hd]
  refine wp_ite (fun hinst ↦ ?_) fun hinst ↦ ?_
  · rw [wp_bind, update, wp_modify, wp_pure, if_pos rfl]
    refine wp_accept ?_
    refine wp_mono (wp_checkForPhysWrite calm huser ⟨?_, h.1.2⟩) (fun _ _ ht ↦ ht.1) fun _ _ ht ↦ ht
    have hagreed := h.agreed
    have hp : ¬Pending s.user.mPhysLayerTxBuffer :=
      fun hp ↦ Bool.noConfusion (hinst.symm.trans (hagreed.pending hp).2)
    show Agreed (s.user.mPhysLayerTxBuffer ++ [d]) s.user.mRemoteConnected false
    rw [(hagreed.eq_of_not_pending hp).1, hinst]
    refine .closes (fun x hx ↦ ?_) hd
    exact Bool.eq_false_iff.mpr fun hconn ↦ hp ⟨x, hx, hconn⟩
  · rw [wp_bind]
    cases kind with
    | client => exact h
    | server =>
      rw [handleDuplicateClose, wp_bind, wp_get]
      refine wp_ite (fun hlocal ↦ ?_) fun _ ↦ h
      have hp : ¬Pending s.user.mPhysLayerTxBuffer := by
        intro hp
        have hclosed := hmay hp
        rw [hd] at hclosed
        rcases hclosed with hclosed | hclosed
        · cases hclosed
        · exact Bool.noConfusion (hlocal.symm.trans hclosed)
      exact wp_mono (wp_closeAndFlushBuffers calm huser h.1 hp) (fun _ _ ht ↦ ht) fun _ _ ht ↦ ht

/-- An opening is accepted only by an empty queue. -/
theorem Good.empty (h : Good calm (view s)) (hinst : s.user.mInstRemoteConnected = false)
    (hp : ¬Pending s.user.mPhysLayerTxBuffer) :
    s.user.mPhysLayerTxBuffer = [] ∧ s.user.mRemoteConnected = false := by
  obtain ⟨heq, hqueue⟩ := h.agreed.eq_of_not_pending hp
  have hremote := heq.trans hinst
  exact ⟨hqueue hremote, hremote⟩

theorem wp_receiveOpened (huser : KeepsEmpty user) (h : Good calm (view s))
    (hd : d.mType = .remoteOpened) (hmay : MayReceive kind (view s) d) :
    wp (onVtoDataReceived kind user d) (fun _ t ↦ Good calm (view t))
      (fun _ t ↦ Weak (view t)) s := by
  have hp : ¬Pending s.user.mPhysLayerTxBuffer := by
    intro hp
    have hno := hmay hp
    rw [hd] at hno
    exact hno
  rw [onVtoDataReceived, checkIncomingVtoData, wp_bind, wp_bind, wp_get]
  simp only [hd]
  refine wp_ite (fun hinst ↦ ?_) fun hinst ↦ ?_
  · rw [wp_bind, handleDuplicateOpen, wp_bind, wp_get]
    refine wp_ite (fun _ ↦ ?_) fun _ ↦ h
    exact wp_mono (wp_closeAndFlushBuffers calm huser h.1 hp) (fun _ _ ht ↦ ht) fun _ _ ht ↦ ht
  · obtain ⟨hqueue, hremote⟩ := h.empty (Bool.eq_false_iff.mpr hinst) hp
    rw [wp_bind, update, wp_modify, wp_pure, if_pos rfl]
    refine wp_accept ?_
    have hconn : d.isConnection = true := by
      rw [VtoData.isConnection, hd]
      rfl
    have htake := wp_takeMessage kind user (d := d)
      (s := { s with user := { s.user with
        mInstRemoteConnected := true
        mPhysLayerTxBuffer := s.user.mPhysLayerTxBuffer ++ [d] } }) huser hconn
      (by rw [hqueue]; rfl) (by rw [hd]; rfl) (by rw [hremote]; exact Bool.false_ne_true) h.1.2
    exact wp_mono htake (fun _ _ ht ↦ ht.good) fun _ _ ht ↦ ht.weak

/-- **A message from the remote side**. -/
theorem wp_onVtoDataReceived (huser : KeepsEmpty user) (h : Good calm (view s))
    (hmay : MayReceive kind (view s) d) :
    wp (onVtoDataReceived kind user d) (fun _ t ↦ Good calm (view t))
      (fun _ t ↦ Weak (view t)) s := by
  cases hd : d.mType with
  | data => exact wp_receiveData huser h hd hmay
  | remoteOpened => exact wp_receiveOpened huser h hd hmay
  | remoteClosed => exact wp_receiveClosed huser h hd hmay

/-- The local connection is told to be up. -/
theorem total_setLocalConnected_true {r : List MonitorRequest} {m : MonitorState} {c : Bool} :
    Total (fun s ↦ s.user.requested = r ∧ s.mpState = m ∧ s.mState.isClosed = c)
      (setLocalConnected kind user true) := by
  intro s hs
  rw [setLocalConnected, wp_bind, wp_get]
  refine wp_ite (fun _ ↦ ?_) fun _ ↦ hs
  rw [wp_bind, update, wp_modify, wp_bind, handleSetLocalConnected.eq_def, wp_bind, wp_get]
  exact total_notifyRemoteSideOfState
    (G := fun v ↦ v.1.requested = r ∧ v.2.1 = m ∧ v.2.2 = c) true _ hs

/-- What it means that the router tries to open its local connection: it asks the monitor, and if
the local connection is closed and may be opened, it is being opened. -/
def TriesToOpen (s t : Monitored VtoRouter) : Prop :=
  t.user.requested = s.user.requested ++ [.startOne] ∧
    ((s.mpState = .suspended ∨ s.mpState = .init) ∧ s.mState.isClosed = true →
      t.mState.mOpening = true)

/-- **`StartOne`** is a try to open the local connection. -/
theorem wp_startOne {u : Monitored VtoRouter} (hr : s.user.requested = u.user.requested)
    (hm : s.mpState = u.mpState) (hc : s.mState.isClosed = u.mState.isClosed) :
    wp startOne (fun _ t ↦ TriesToOpen u t) (fun _ t ↦ TriesToOpen u t) s := by
  have hrequested : ∀ t : Monitored VtoRouter, t.user.requested = s.user.requested ++ [.startOne] →
      t.user.requested = u.user.requested ++ [.startOne] := by
    rintro t ht
    rw [ht, hr]
  have hopen : ∀ m, wp (Monitored.openInto m) (fun _ t ↦ TriesToOpen u t)
    (fun _ t ↦ TriesToOpen u t)
      { s with user := { s.user with requested := s.user.requested ++ [.startOne] } } := by
    intro m
    rw [Monitored.openInto, wp_bind, Monitored.changeState, wp_modify, Monitored.asyncOpen, wp_bind,
      wp_get, wp_bind, wp_ensure]
    split
    · rw [wp_bind, wp_modify, Monitored.logged, wp_modify]
      exact ⟨hrequested _ rfl, fun _ ↦ rfl⟩
    · next hno =>
      refine ⟨hrequested _ rfl, fun hu ↦ absurd ?_ hno⟩
      show s.mState.isClosed = true
      exact hc.trans hu.2
  have hother : ∀ t : Monitored VtoRouter, t.user.requested = s.user.requested ++ [.startOne] →
      s.mpState ≠ .suspended → s.mpState ≠ .init → TriesToOpen u t := by
    intro t ht hsuspended hinit
    refine ⟨hrequested t ht, fun hu ↦ ?_⟩
    rcases hu.1 with hu | hu
    · exact absurd (hm.trans hu) hsuspended
    · exact absurd (hm.trans hu) hinit
  rw [startOne, wp_bind, update, wp_modify, Monitored.startOne, wp_bind, wp_get]
  dsimp only
  split
  · exact hopen _
  · exact hopen _
  all_goals
    refine hother _ rfl ?_ ?_
    all_goals
      clear hm hopen hother
      rintro hu
      simp_all

/-- **An opening that is accepted** makes the client try to open its local connection. -/
theorem wp_triesToOpen (h : Good calm (view s)) (hd : d.mType = .remoteOpened)
    (hinst : s.user.mInstRemoteConnected = false) (hp : ¬Pending s.user.mPhysLayerTxBuffer) :
    wp (onVtoDataReceived .client user d) (fun _ t ↦ TriesToOpen s t)
      (fun _ t ↦ TriesToOpen s t) s := by
  obtain ⟨hqueue, hremote⟩ := h.empty hinst hp
  have hdata : ¬d.mType = .data := by
    rw [hd]
    decide
  rw [onVtoDataReceived, checkIncomingVtoData, wp_bind, wp_bind, wp_get]
  simp only [hd, hinst]
  rw [if_neg Bool.false_ne_true, wp_bind, update, wp_modify, wp_pure, if_pos rfl]
  refine wp_accept ?_
  rw [checkForPhysWrite, wp_bind, wp_get]
  simp only [hqueue, List.nil_append]
  rw [if_neg hdata, wp_bind, update, wp_modify, doVtoRemoteConnectedChanged, wp_bind, wp_get]
  dsimp only
  rw [hd, if_pos (by rw [hremote]; decide), wp_bind, update, wp_modify,
    handleVtoRemoteConnectedChanged, wp_bind, wp_get]
  dsimp only
  rw [if_pos (by decide), wp_bind]
  refine wp_mono (total_setLocalConnected_true _ ⟨rfl, rfl, rfl⟩) (fun _ t ht ↦ ?_)
    fun _ _ he ↦ he.elim
  exact wp_startOne ht.1 ht.2.1 ht.2.2

end Receive

end VtoRouter

/-! ## Every run -/

namespace VtoRun

open VtoRouter

variable (kind : VtoRouterKind)

/-- **The condition**: no flush of the queue finds a connection message.  While one is pending, the
local connection is not lost or refused, no opening follows it, and no message that is refused
closes the local connection. -/
def Allowed (s : VtoRun) : VtoEvent → Prop
  | .onVtoDataReceived d => MayReceive kind (view s.monitored) d
  | .onBufferAvailable _ | .onOpenTimerExpiration => True
  | .onOpenCallback arErr =>
    arErr = true ∨ s.monitored.mState.mClosing = true → Spared (view s.monitored)
  | .onReadCallback arErr _ =>
    arErr = true ∨ s.monitored.mState.mClosing = true → s.monitored.mState.mWriting = false →
      Spared (view s.monitored)
  | .onWriteCallback arErr =>
    arErr = true ∨ s.monitored.mState.mClosing = true → s.monitored.mState.mReading = false →
      Spared (view s.monitored)

instance (v : VtoView) : Decidable (Spared v) := inferInstanceAs (Decidable (_ → _))

instance (s : VtoRun) (e : VtoEvent) : Decidable (s.Allowed kind e) := by
  unfold Allowed
  cases e <;> infer_instance

variable {kind}

/-- **One allowed event**. -/
theorem wp_op {calm : Bool} {s : VtoRun} {e : VtoEvent} (h : Good calm (view s.monitored))
    (hpossible : possible s.monitored e = true) (hallowed : s.Allowed kind e) :
    wp (op kind e) (fun _ t ↦ Good calm (view t)) (fun _ t ↦ Weak (view t)) s.monitored := by
  have huser := handles_callbacks calm kind
  cases e with
  | onVtoDataReceived d =>
    exact wp_onVtoDataReceived (fun _ _ ↦ keepsFlushed_callbacks [] 1) h hallowed
  | onBufferAvailable n =>
    have hwrite : Stable (fun s ↦ Good calm (view s)) (op kind (.onBufferAvailable n)) :=
      (total_bind (total_update (G := fun v ↦ Good calm v.1) fun _ ↦ rfl)
        fun _ ↦ total_checkForVtoWrite (G := fun v ↦ Good calm v.1)).stable
    exact wp_mono (hwrite _ h) (fun _ _ ht ↦ ht) fun _ _ ht ↦ ht.1
  | onOpenTimerExpiration =>
    have htimer := stable_onOpenTimerExpiration (F := Good calm) _ h
    exact wp_mono htimer (fun _ _ ht ↦ ht) fun _ _ ht ↦ ht.1
  | onOpenCallback arErr => exact wp_onOpenCallback (huser [] 1) h.1 hallowed
  | onReadCallback arErr d => exact wp_onReadCallback (huser d 1) h hallowed
  | onWriteCallback arErr => exact wp_onWriteCallback (huser [] 1) h hpossible hallowed

/-- **The invariant** of allowed runs. -/
def Inv (s : VtoRun) : Prop := Good (decide (s.thrown = [])) (view s.monitored)

theorem inv_step {s t : VtoRun} {e : VtoEvent} (h : Inv s) (hallowed : s.Allowed kind e)
    (hstep : step kind s e = some t) : Inv t := by
  rw [step] at hstep
  split at hstep
  · next hpossible =>
    have hexec := exec_of_wp (Q := fun u x ↦ Good (decide (s.thrown ++ x.toList = [])) (view u))
      (wp_mono (wp_op h hpossible hallowed) (fun _ t ht ↦ ?_) fun _ t ht ↦ ?_)
    · cases hstep
      exact hexec
    · rw [Option.toList_none, List.append_nil]
      exact ht
    · refine ⟨ht, fun _ _ _ hcalm ↦ ?_⟩
      exact absurd (of_decide_eq_true hcalm) (by simp)
  · cases hstep

theorem inv_init (aAvailable : ℕ) : Inv (init kind aAvailable) := by
  have hnew : ∀ calm, Good calm (view (.init (.init aAvailable))) := fun calm ↦
    Flushed.good (b := false) ⟨rfl, rfl, rfl, Bool.noConfusion⟩
  cases kind with
  | client => exact hnew true
  | server =>
    have hstart := stable_start (F := Good true) _ (hnew true)
    exact exec_of_wp (Q := fun u _ ↦ Good true (view u)) hstart

/-- **The messages about the remote connection take effect**, in every run in which no flush of the
queue finds one of them.  As long as nothing has been thrown, one is at the front of the queue only
while a write is pending or the local connection is closing; whenever the queue is empty, the copies
of the state of the remote connection agree; and every opening that is accepted makes the client try
to open its local connection. -/
theorem messages_take_effect {aAvailable : ℕ} {es : List VtoEvent} {s : VtoRun}
    (hguard : Run.Guarded (step kind) (Allowed kind) (init kind aAvailable) es)
    (hrun : Run.run (step kind) (init kind aAvailable) es = some s) :
    (s.thrown = [] → ∀ d ∈ s.monitored.user.mPhysLayerTxBuffer.head?, d.isConnection = true →
      s.monitored.mState.mWriting = true ∨ s.monitored.mState.mClosing = true) ∧
    (s.monitored.user.mPhysLayerTxBuffer = [] →
      s.monitored.user.mRemoteConnected = s.monitored.user.mInstRemoteConnected) ∧
    ∀ d t, kind = .client → d.mType = .remoteOpened →
      s.monitored.user.mInstRemoteConnected = false → ¬Pending s.monitored.user.mPhysLayerTxBuffer →
      step kind s (.onVtoDataReceived d) = some t → TriesToOpen s.monitored t.monitored := by
  have hs : Inv s :=
    Run.inv_of_guarded (fun _ _ _ hs hg h ↦ inv_step hs hg h) (inv_init aAvailable) hguard hrun
  have hagreed := Good.agreed hs
  refine ⟨fun hthrown d hd hconn ↦ hs.2 d hd hconn (decide_eq_true hthrown), fun hqueue ↦ ?_, ?_⟩
  · rw [hqueue] at hagreed
    exact hagreed.remote_eq
  · rintro d t rfl hd hinst hp hstep
    have htries := exec_of_wp (Q := fun u _ ↦ TriesToOpen s.monitored u)
      (@wp_triesToOpen _ (callbacks .client [] 1) _ _ hs hd hinst hp)
    have hpossible : possible s.monitored (.onVtoDataReceived d) = true := rfl
    rw [step, if_pos hpossible, Option.some_inj] at hstep
    subst hstep
    exact htries

/-- A client that opens its local connection, and whose remote side closes while an entry of data is
written and another waits; then both are written, and the local connection is closed. -/
def closesBehindData : List VtoEvent :=
  [.onVtoDataReceived ⟨.remoteOpened, []⟩, .onOpenCallback false, .onVtoDataReceived ⟨.data, [1]⟩,
    .onVtoDataReceived ⟨.data, [2]⟩, .onVtoDataReceived ⟨.remoteClosed, []⟩, .onWriteCallback false,
    .onWriteCallback false, .onReadCallback true []]

theorem messages_take_effect_closesBehindData : ∃ s,
    Run.run (step .client) (init .client 2048) closesBehindData = some s ∧
    (s.thrown = [] → ∀ d ∈ s.monitored.user.mPhysLayerTxBuffer.head?, d.isConnection = true →
      s.monitored.mState.mWriting = true ∨ s.monitored.mState.mClosing = true) ∧
    (s.monitored.user.mPhysLayerTxBuffer = [] →
      s.monitored.user.mRemoteConnected = s.monitored.user.mInstRemoteConnected) ∧
    ∀ d t, VtoRouterKind.client = .client → d.mType = .remoteOpened →
      s.monitored.user.mInstRemoteConnected = false → ¬Pending s.monitored.user.mPhysLayerTxBuffer →
      step .client s (.onVtoDataReceived d) = some t → TriesToOpen s.monitored t.monitored := by
  obtain ⟨s, hrun⟩ : ∃ s, Run.run (step .client) (init .client 2048) closesBehindData = some s :=
    Option.isSome_iff_exists.mp (by decide +kernel)
  exact ⟨s, hrun, messages_take_effect (by decide +kernel) hrun⟩

/-- **A message waits at the front** until the write of the data before it has ended; and one that
waits while the local connection is refused is dropped, so that the copies differ on an empty
queue. -/
theorem messages_wait :
    (∃ s, Run.run (step .client) (init .client 2048) (closesBehindData.take 6) = some s ∧
      s.thrown = [] ∧ s.monitored.user.mPhysLayerTxBuffer.head? = some ⟨.remoteClosed, []⟩) ∧
    ∃ s, Run.run (step .client) (init .client 2048)
        [.onVtoDataReceived ⟨.remoteOpened, []⟩, .onVtoDataReceived ⟨.data, [1]⟩,
          .onVtoDataReceived ⟨.remoteClosed, []⟩, .onOpenCallback true] = some s ∧
      s.thrown = [] ∧ s.monitored.user.mPhysLayerTxBuffer = [] ∧
      s.monitored.user.mRemoteConnected = true ∧ s.monitored.user.mInstRemoteConnected = false := by
  refine ⟨?_, ?_⟩
  · obtain ⟨s, hrun, hs⟩ :
        ∃ s ∈ Run.run (step .client) (init .client 2048) (closesBehindData.take 6),
        s.thrown = [] ∧ s.monitored.user.mPhysLayerTxBuffer.head? = some ⟨.remoteClosed, []⟩ := by
      decide +kernel
    exact ⟨s, hrun, hs⟩
  · obtain ⟨s, hrun, hs⟩ : ∃ s ∈ Run.run (step .client) (init .client 2048)
        [.onVtoDataReceived ⟨.remoteOpened, []⟩, .onVtoDataReceived ⟨.data, [1]⟩,
          .onVtoDataReceived ⟨.remoteClosed, []⟩, .onOpenCallback true],
        s.thrown = [] ∧ s.monitored.user.mPhysLayerTxBuffer = [] ∧
        s.monitored.user.mRemoteConnected = true ∧ s.monitored.user.mInstRemoteConnected =
          false := by
      decide +kernel
    exact ⟨s, hrun, hs⟩

end VtoRun

end OpenDNP3
