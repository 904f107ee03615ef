import OpenDNP3.Vto.Run

/-!
# The two copies of the remote state

`CheckForPhysWrite` takes one entry from the front of the queue.  A message about the remote
connection that waits behind data gets to the front when this data is handed to the local
connection, and is taken when the write has ended.  So the two copies of the state of the remote
connection agree whenever the queue is empty, and at most one message is pending, that the remote
side has closed (`Agreed`).

* `Agreed` and `Good` — the invariant.
* Then what the local connection does: its writes, the calls of the monitor and those of the port
  keep the invariant.
-/

set_option autoImplicit false

namespace OpenDNP3

open Handler

namespace VtoRouter

/-! ## The invariant -/

/-- **The queue and the copies of the remote state.**  Both copies are the same and only data is
waiting, none if the remote connection is closed; or the last entry says that it has closed, and one
of the copies knows this already. -/
inductive Agreed : List VtoData → Bool → Bool → Prop
  | same {q : List VtoData} {b : Bool} (hdata : ∀ d ∈ q, d.isConnection = false)
      (hclosed : b = false → q = []) : Agreed q b b
  | closes {q : List VtoData} {d : VtoData} (hdata : ∀ d ∈ q, d.isConnection = false)
      (hd : d.mType = .remoteClosed) : Agreed (q ++ [d]) true false

/-- A connection message is pending. -/
def Pending (q : List VtoData) : Prop := ∃ d ∈ q, d.isConnection = true

instance (q : List VtoData) : Decidable (Pending q) := inferInstanceAs (Decidable (∃ d ∈ q, _))

/-- What always holds. -/
def Weak (v : VtoView) : Prop :=
  Agreed v.queue v.remote v.inst ∧ (v.writing = true → v.isOpen = true)

/-- **What holds after an event**, as long as all is `calm` and nothing has been thrown: a
connection message at the front waits for the end of a write, or for the local connection to
close. -/
def Good (calm : Bool) (v : VtoView) : Prop :=
  Weak v ∧ ∀ d ∈ v.queue.head?, d.isConnection = true → calm = true → v.writing = true ∨
    v.closing = true

theorem Agreed.remote_eq {r i : Bool} (h : Agreed [] r i) : r = i := by
  generalize hq : ([] : List VtoData) = q at h
  cases h with
  | same _ _ => rfl
  | closes _ _ => simp at hq

/-- The message that is pending says that the remote connection has closed. -/
theorem Agreed.pending {q : List VtoData} {r i : Bool} (h : Agreed q r i) (hp : Pending q) :
    r = true ∧ i = false := by
  cases h with
  | same hdata _ =>
    obtain ⟨d, hd, hconn⟩ := hp
    exact absurd hconn (by rw [hdata d hd]; exact Bool.false_ne_true)
  | closes _ _ => exact ⟨rfl, rfl⟩

/-- Without one, the copies are the same. -/
theorem Agreed.eq_of_not_pending {q : List VtoData} {r i : Bool} (h : Agreed q r i)
    (hp : ¬Pending q) :
    r = i ∧ (r = false → q = []) := by
  cases h with
  | same _ hclosed => exact ⟨rfl, hclosed⟩
  | @closes q d _ hd =>
    refine absurd ⟨d, List.mem_append_right q List.mem_cons_self, ?_⟩ hp
    rw [VtoData.isConnection, hd]
    rfl

/-- Data is taken from the front. -/
theorem Agreed.tail {d : VtoData} {rest : List VtoData} {r i : Bool} (h : Agreed (d :: rest) r i)
    (hd : d.isConnection = false) : Agreed rest r i := by
  generalize hq : d :: rest = q at h
  cases h with
  | same hdata hclosed =>
    subst hq
    refine .same (fun x hx ↦ hdata x (List.mem_cons_of_mem d hx)) fun hb ↦ ?_
    exact absurd (hclosed hb) (List.cons_ne_nil d rest)
  | @closes q c hdata hc =>
    cases q with
    | nil =>
      cases hq
      rw [VtoData.isConnection, hc] at hd
      exact absurd hd (by decide)
    | cons x q =>
      cases hq
      exact .closes (fun y hy ↦ hdata y (List.mem_cons_of_mem d hy)) hc

/-- A message at the front is the only entry. -/
theorem Agreed.front {d : VtoData} {rest : List VtoData} {r i : Bool} (h : Agreed (d :: rest) r i)
    (hd : d.isConnection = true) : rest = [] ∧ d.mType = .remoteClosed ∧ r = true ∧ i = false := by
  generalize hq : d :: rest = q at h
  cases h with
  | same hdata _ =>
    subst hq
    exact absurd hd (by rw [hdata d List.mem_cons_self]; exact Bool.false_ne_true)
  | @closes q c hdata hc =>
    cases q with
    | nil =>
      cases hq
      exact ⟨rfl, hc, rfl, rfl⟩
    | cons x q =>
      cases hq
      exact absurd hd (by rw [hdata d List.mem_cons_self]; exact Bool.false_ne_true)

theorem Flushed.weak {b : Bool} {v : VtoView} (h : Flushed b b v) : Weak v := by
  obtain ⟨hq, hr, hi, hw⟩ := h
  refine ⟨?_, hw⟩
  rw [hq, hr, hi]
  exact .same (fun _ hd ↦ absurd hd List.not_mem_nil) fun _ ↦ rfl

theorem Flushed.good {b calm : Bool} {v : VtoView} (h : Flushed b b v) : Good calm v := by
  refine ⟨h.weak, fun d hd ↦ ?_⟩
  rw [h.1] at hd
  exact absurd hd (by simp)

theorem isConnection_eq_false {d : VtoData} : d.isConnection = false ↔ d.mType = .data := by
  rw [VtoData.isConnection, decide_eq_false_iff_not, not_not]

/-! ## Writing to the local connection -/

section Handlers

variable {calm : Bool} {kind : VtoRouterKind} {user : Callbacks VtoRouter} {s : Monitored VtoRouter}

/-- The user leaves an empty queue as it is when the connection closes. -/
def KeepsEmpty (user : Callbacks VtoRouter) : Prop :=
  ∀ r i, KeepsFlushed r i user.onPhysicalLayerCloseCallback

variable (kind user) in
/-- A connection message that is alone in the queue is taken. -/
theorem wp_takeMessage (huser : KeepsEmpty user) {d : VtoData} (hd : d.isConnection = true)
    (hqueue : s.user.mPhysLayerTxBuffer = [d])
    (hinst : s.user.mInstRemoteConnected = decide (d.mType = .remoteOpened))
    (hremote : s.user.mRemoteConnected ≠ s.user.mInstRemoteConnected)
    (hport : s.mState.mWriting = true → s.mState.mOpen = true) :
    wp (checkForPhysWrite kind user)
      (fun _ t ↦ Flushed s.user.mInstRemoteConnected s.user.mInstRemoteConnected (view t))
      (fun _ t ↦ Flushed s.user.mInstRemoteConnected s.user.mInstRemoteConnected (view t)) s := by
  have hdata : ¬d.mType = .data := by
    rw [← isConnection_eq_false, hd]
    exact Bool.noConfusion
  rw [checkForPhysWrite, wp_bind, wp_get]
  simp only [hqueue]
  rw [if_neg hdata, wp_bind, update, wp_modify, doVtoRemoteConnectedChanged, wp_bind, wp_get]
  dsimp only
  rw [← hinst, if_pos hremote, wp_bind, update, wp_modify]
  exact keepsFlushed_handleVtoRemoteConnectedChanged (huser _ _) _ ⟨rfl, rfl, rfl, hport⟩

variable (calm) in
/-- **`CheckForPhysWrite`** leaves a message at the front only if it has begun a write, and closes
the local connection only after a flush. -/
theorem wp_checkForPhysWrite (huser : KeepsEmpty user) (h : Weak (view s)) :
    wp (checkForPhysWrite kind user)
      (fun _ t ↦ Good calm (view t) ∧
        (t.mState.mClosing = true → s.mState.mClosing = true ∨ t.user.mPhysLayerTxBuffer = []))
      (fun _ t ↦ Weak (view t)) s := by
  obtain ⟨hagreed, hport⟩ := h
  have hagreed : Agreed s.user.mPhysLayerTxBuffer s.user.mRemoteConnected
      s.user.mInstRemoteConnected :=
    hagreed
  cases hqueue : s.user.mPhysLayerTxBuffer with
  | nil =>
    rw [checkForPhysWrite, wp_bind, wp_get]
    simp only [hqueue]
    refine ⟨⟨⟨hagreed, hport⟩, fun d hd ↦ ?_⟩, .inl⟩
    have hd : d ∈ s.user.mPhysLayerTxBuffer.head? := hd
    rw [hqueue] at hd
    exact absurd hd (by simp)
  | cons d rest =>
    cases hd : d.isConnection with
    | true =>
      rw [hqueue] at hagreed
      obtain ⟨hrest, htype, hremote, hinst⟩ := hagreed.front hd
      rw [hrest] at hqueue
      have hflushed := wp_takeMessage kind user huser hd hqueue (by rw [hinst, htype]; rfl)
        (by rw [hremote, hinst]; decide) hport
      exact wp_mono hflushed (fun _ _ ht ↦ ⟨ht.good, fun _ ↦ .inr ht.1⟩) fun _ _ ht ↦ ht.weak
    | false =>
      have hdata := isConnection_eq_false.mp hd
      rw [checkForPhysWrite, wp_bind, wp_get]
      simp only [hqueue]
      rw [if_pos hdata]
      by_cases hcan : s.mState.canWrite = true
      · rw [if_pos hcan, wp_bind, update, wp_modify, asyncWrite, wp_bind, wp_ensure]
        rw [hqueue] at hagreed
        have hweak := hagreed.tail hd
        split
        · rw [Monitored.asyncWrite, wp_bind, wp_get, wp_bind, wp_ensure_of hcan, wp_modify]
          simp only [PhysState.canWrite, Bool.and_eq_true] at hcan
          exact ⟨⟨⟨hweak, fun _ ↦ hcan.1.1⟩, fun _ _ _ _ ↦ .inl rfl⟩, .inl⟩
        · exact ⟨hweak, hport⟩
      · rw [if_neg hcan]
        refine ⟨⟨⟨hagreed, hport⟩, fun x hx hconn ↦ ?_⟩, .inl⟩
        have hx : x ∈ s.user.mPhysLayerTxBuffer.head? := hx
        rw [hqueue] at hx
        cases Option.some.inj hx
        exact absurd hconn (by rw [hd]; exact Bool.false_ne_true)

/-- **The condition on a flush**: no connection message is pending, or nothing will be flushed since
the local connection is not open. -/
def Spared (v : VtoView) : Prop := Pending v.queue → v.local = false

variable (calm) in
/-- The local connection is closed after a flush that finds no message. -/
theorem wp_closeAndFlushBuffers (huser : KeepsEmpty user) (h : Weak (view s))
    (hp : ¬Pending s.user.mPhysLayerTxBuffer) :
    wp (closeAndFlushBuffers user) (fun _ t ↦ Good calm (view t)) (fun _ t ↦ Weak (view t)) s := by
  have hagreed : Agreed s.user.mPhysLayerTxBuffer s.user.mRemoteConnected
      s.user.mInstRemoteConnected :=
    h.1
  have hremote := (hagreed.eq_of_not_pending hp).1
  have hclose := keepsFlushed_close (huser s.user.mInstRemoteConnected s.user.mInstRemoteConnected)
    { s with user := { s.user with mPhysLayerTxBuffer := [] } } ⟨rfl, hremote, rfl, h.2⟩
  rw [closeAndFlushBuffers, wp_bind, flushBuffers, update, wp_modify]
  exact wp_mono hclose (fun _ _ ht ↦ ht.good) fun _ _ ht ↦ ht.weak

theorem wp_setLocalConnected_true (h : Weak (view s)) :
    wp (setLocalConnected kind user true) (fun _ t ↦ Weak (view t))
      (fun _ t ↦ Weak (view t)) s := by
  rw [setLocalConnected, wp_bind, wp_get]
  refine wp_ite (fun _ ↦ ?_) fun _ ↦ h
  rw [wp_bind, update, wp_modify, wp_bind, handleSetLocalConnected.eq_def, wp_bind, wp_get]
  exact (total_notifyRemoteSideOfState (G := fun v ↦ Weak v.1) true).stable _ h

theorem wp_setLocalConnected_false (huser : KeepsEmpty user) (h : Weak (view s))
    (hspared : Spared (view s)) :
    wp (setLocalConnected kind user false) (fun _ t ↦ Weak (view t))
      (fun _ t ↦ Weak (view t)) s := by
  rw [setLocalConnected, wp_bind, wp_get]
  refine wp_ite (fun hlocal ↦ ?_) fun _ ↦ h
  have hp : ¬Pending s.user.mPhysLayerTxBuffer := fun hp ↦ hlocal (hspared hp)
  have hagreed : Agreed s.user.mPhysLayerTxBuffer s.user.mRemoteConnected
      s.user.mInstRemoteConnected :=
    h.1
  have hremote := (hagreed.eq_of_not_pending hp).1
  have hnotify : ∀ t, Weak (view t) → wp (notifyRemoteSideOfState false)
      (fun _ t ↦ Weak (view t)) (fun _ t ↦ Weak (view t)) t :=
    (total_notifyRemoteSideOfState (G := fun v ↦ Weak v.1) false).stable
  rw [wp_bind, update, wp_modify, wp_bind, handleSetLocalConnected.eq_def, wp_bind, wp_get]
  dsimp only
  cases kind with
  | client =>
    have hclose := wp_closeAndFlushBuffers false
      (s := { s with user := { s.user with mLocalConnected := false } }) huser h hp
    exact wp_mono hclose (fun _ t ht ↦ hnotify t ht.1) fun _ _ ht ↦ ht
  | server =>
    refine hnotify _ (Flushed.weak ⟨rfl, hremote, rfl, h.2⟩)

/-! ## Calls of the monitor -/

/-- **The local connection has closed, or has not opened**. -/
theorem wp_onPhysicalLayerCloseCallback (huser : KeepsEmpty user) (h : Weak (view s))
    (hspared : Spared (view s)) :
    wp (onPhysicalLayerCloseCallback kind user) (fun _ t ↦ Good calm (view t))
      (fun _ t ↦ Weak (view t))
      s := by
  rw [onPhysicalLayerCloseCallback, wp_bind]
  refine wp_mono (wp_setLocalConnected_false huser h hspared) (fun _ t ht ↦ ?_) fun _ _ ht ↦ ht
  rw [wp_bind]
  refine wp_mono (wp_checkForPhysWrite calm huser ht) (fun _ u hu ↦ ?_) fun _ _ hu ↦ hu
  have hwrite := (total_checkForVtoWrite (G := fun v ↦ Good calm v.1)).stable u hu.1
  exact wp_mono hwrite (fun _ _ hw ↦ hw) fun _ _ hw ↦ hw.1

/-- **The local connection has opened**. -/
theorem wp_onPhysicalLayerOpenSuccessCallback (huser : KeepsEmpty user) (h : Weak (view s)) :
    wp (onPhysicalLayerOpenSuccessCallback kind user) (fun _ t ↦ Good calm (view t))
      (fun _ t ↦ Weak (view t)) s := by
  rw [onPhysicalLayerOpenSuccessCallback, wp_bind]
  refine wp_mono (wp_setLocalConnected_true h) (fun _ t ht ↦ ?_) fun _ _ ht ↦ ht
  refine wp_bind_of_stable (total_checkForPhysRead (G := fun v ↦ Weak v.1)).stable ht
    (fun _ _ hu ↦ hu) fun _ u hu ↦ ?_
  rw [wp_bind]
  refine wp_mono (wp_checkForPhysWrite calm huser hu) (fun _ w hw ↦ ?_) fun _ _ hw ↦ hw
  have hwrite := (total_checkForVtoWrite (G := fun v ↦ Good calm v.1)).stable w hw.1
  exact wp_mono hwrite (fun _ _ hw ↦ hw) fun _ _ hw ↦ hw.1

end Handlers

/-- What the calls of the monitor do. -/
structure Handles (calm : Bool) (user : Callbacks VtoRouter) : Prop where
  openSuccess : ∀ s, Weak (view s) → wp user.onPhysicalLayerOpenSuccessCallback
    (fun _ t ↦ Good calm (view t)) (fun _ t ↦ Weak (view t)) s
  openFailure : ∀ s, Weak (view s) → Spared (view s) → wp user.onPhysicalLayerOpenFailureCallback
    (fun _ t ↦ Good calm (view t)) (fun _ t ↦ Weak (view t)) s
  close : ∀ s, Weak (view s) → Spared (view s) → wp user.onPhysicalLayerCloseCallback
    (fun _ t ↦ Good calm (view t)) (fun _ t ↦ Weak (view t)) s
  receive : ∀ G : VtoView × MonitorState × Bool → Prop,
    Stable (fun s ↦ G (fullView s)) user.onReceive
  sendSuccess : ∀ s, Weak (view s) → wp user.onSendSuccess
    (fun _ t ↦ Good calm (view t) ∧
      (t.mState.mClosing = true → s.mState.mClosing = true ∨ t.user.mPhysLayerTxBuffer = []))
    (fun _ t ↦ Weak (view t)) s

theorem handles_callbacks (calm : Bool) (kind : VtoRouterKind) (apData : List Byte) (n : ℕ) :
    Handles calm (callbacks kind apData (n + 1)) := by
  have huser : KeepsEmpty (callbacks kind apData n) := fun _ _ ↦ keepsFlushed_callbacks apData n
  refine ⟨?_, ?_, ?_, ?_, ?_⟩
  · exact fun s h ↦ wp_onPhysicalLayerOpenSuccessCallback huser h
  · exact fun s h hspared ↦ wp_onPhysicalLayerCloseCallback huser h hspared
  · exact fun s h hspared ↦ wp_onPhysicalLayerCloseCallback huser h hspared
  · exact fun G ↦ (total_onReceive apData).stable
  · exact fun s h ↦ wp_checkForPhysWrite calm huser h

/-! ## The port

The port goes down when the last callback has come, and comes up when an opening has succeeded.
In both cases the router is told, and the queue is looked at again. -/

section Port

variable {calm : Bool} {user : Callbacks VtoRouter} {s : Monitored VtoRouter}

/-- The port is about to go down. -/
def IsDue (p : PhysState) : Prop := (p.mClosing && !p.callbacksPending) = true

instance (p : PhysState) : Decidable (IsDue p) := inferInstanceAs (Decidable (_ = true))

theorem wp_onLowerLayerDown (huser : Handles calm user) (h : Weak (view s))
    (hspared : Spared (view s)) :
    wp (Monitored.onLowerLayerDown user) (fun _ t ↦ Good calm (view t))
      (fun _ t ↦ Weak (view t)) s := by
  have hboth : Weak (view s) ∧ Spared (view s) := ⟨h, hspared⟩
  rw [Monitored.onLowerLayerDown, wp_bind, wp_get]
  refine wp_bind_of_stable (stable_logged (F := fun v ↦ Weak v ∧ Spared v) _) hboth
    (fun _ _ ht ↦ ht.1) fun _ t ht ↦ ?_
  rw [wp_bind, wp_get, wp_bind, wp_ensure]
  split
  · rw [wp_bind, wp_modify]
    refine wp_bind_of_stable (stable_onLayerClose (F := fun v ↦ Weak v ∧ Spared v)) ht
      (fun _ _ hu ↦ hu.1) fun _ u hu ↦ ?_
    exact huser.close u hu.1 hu.2
  · exact ht.1

/-- **The port closes if it is due**. -/
theorem wp_closeIfDue (huser : Handles calm user) (h : Good calm (view s))
    (hspared : IsDue s.mState → Spared (view s)) :
    wp (Monitored.closeIfDue user) (fun _ t ↦ Good calm (view t)) (fun _ t ↦ Weak (view t)) s := by
  rw [Monitored.closeIfDue, wp_bind, Monitored.wp_checkForClose]
  split
  · next hdue =>
    have hwriting : s.mState.mWriting = false := by
      rw [Bool.and_eq_true, Bool.not_eq_true'] at hdue
      cases hw : s.mState.mWriting with
      | false => rfl
      | true => simp [PhysState.callbacksPending, hw] at hdue
    rw [if_pos rfl]
    refine wp_onLowerLayerDown huser ⟨h.1.1, fun hw ↦ ?_⟩ (hspared hdue)
    have hw : s.mState.mWriting = true := hw
    exact Bool.noConfusion (hwriting.symm.trans hw)
  · rw [if_neg Bool.false_ne_true]
    exact h

/-- **An opening fails**. -/
theorem wp_failOpening (huser : Handles calm user) (h : Weak (view s)) (hspared : Spared (view s)) :
    wp (Monitored.failOpening user) (fun _ t ↦ Good calm (view t)) (fun _ t ↦ Weak (view t)) s := by
  have hboth : Weak (view s) ∧ Spared (view s) := ⟨h, hspared⟩
  have hrest : ∀ t, Weak (view t) ∧ Spared (view t) →
      wp (do
          Monitored.logged .onOpenFailure
          Monitored.onOpenFailure
          user.onPhysicalLayerOpenFailureCallback)
        (fun _ t ↦ Good calm (view t)) (fun _ t ↦ Weak (view t)) t := by
    intro t ht
    refine wp_bind_of_stable (stable_logged (F := fun v ↦ Weak v ∧ Spared v) _) ht
      (fun _ _ hu ↦ hu.1) fun _ u hu ↦ ?_
    refine wp_bind_of_stable (stable_onOpenFailure (F := fun v ↦ Weak v ∧ Spared v)) hu
      (fun _ _ hw ↦ hw.1) fun _ w hw ↦ ?_
    exact huser.openFailure w hw.1 hw.2
  rw [Monitored.failOpening, wp_bind, Monitored.wp_checkForClose]
  split
  · next hdue =>
    refine hrest _ ⟨⟨h.1, fun hw ↦ ?_⟩, hspared⟩
    have hw : s.mState.mWriting = true := hw
    simp [PhysState.callbacksPending, hw] at hdue
  · exact hrest s hboth

theorem wp_onLowerLayerUp (huser : Handles calm user) (h : Weak (view s)) :
    wp (Monitored.onLowerLayerUp user) (fun _ t ↦ Good calm (view t))
      (fun _ t ↦ Weak (view t)) s := by
  rw [Monitored.onLowerLayerUp]
  refine wp_bind_of_stable (stable_logged (F := Weak) _) h (fun _ _ ht ↦ ht) fun _ t ht ↦ ?_
  rw [wp_bind, wp_get, wp_bind, wp_ensure]
  split
  · rw [wp_bind, wp_modify]
    refine wp_bind_of_stable (stable_onLayerOpen (F := Weak)) ht (fun _ _ hu ↦ hu) fun _ u hu ↦ ?_
    exact huser.openSuccess u hu
  · exact ht

/-- **The port has opened, or not**. -/
theorem wp_onOpenCallback (huser : Handles calm user) (h : Weak (view s)) {arErr : Bool}
    (hspared : arErr = true ∨ s.mState.mClosing = true → Spared (view s)) :
    wp (Monitored.onOpenCallback user arErr) (fun _ t ↦ Good calm (view t))
      (fun _ t ↦ Weak (view t)) s := by
  rw [Monitored.onOpenCallback, wp_bind, wp_get, wp_bind, wp_ensure]
  split
  · rw [wp_bind, wp_modify]
    refine wp_ite (fun herr ↦ wp_failOpening huser h (hspared (.inl herr))) fun _ ↦ ?_
    rw [wp_bind, wp_get]
    refine wp_ite (fun hc ↦ wp_failOpening huser h (hspared (.inr hc))) fun _ ↦ ?_
    rw [wp_bind, wp_modify]
    exact wp_onLowerLayerUp huser ⟨h.1, fun _ ↦ rfl⟩
  · exact h

/-- An error is a reason to close. -/
theorem wp_closeOnError {Q : Unit → Monitored VtoRouter → Prop}
    {E : Exception → Monitored VtoRouter → Prop}
    (hQ : s.mState.canClose = true → Q () { s with mState := { s.mState with mClosing := true } })
    (hQ' : ¬s.mState.canClose = true → Q () s) : wp Monitored.closeOnError Q E s := by
  rw [Monitored.closeOnError, wp_bind, wp_get]
  refine wp_ite (fun hcan ↦ ?_) hQ'
  rw [Monitored.startClose, wp_bind, wp_get, wp_bind, wp_ensure_of hcan, wp_modify]
  exact hQ hcan

/-- **A read has ended**. -/
theorem wp_onReadCallback (huser : Handles calm user) (h : Good calm (view s)) {arErr : Bool}
    (hspared : arErr = true ∨ s.mState.mClosing = true → s.mState.mWriting = false →
      Spared (view s)) :
    wp (Monitored.onReadCallback user arErr) (fun _ t ↦ Good calm (view t))
      (fun _ t ↦ Weak (view t)) s := by
  have hdue : ∀ p : PhysState, IsDue p → p.mWriting = false := by
    intro p hp
    simp only [IsDue, PhysState.callbacksPending, Bool.and_eq_true, Bool.not_eq_true',
      Bool.or_eq_false_iff]
      at hp
    exact hp.2.2
  rw [Monitored.onReadCallback, wp_bind, wp_get, wp_bind, wp_ensure]
  split
  · rw [wp_bind, wp_modify]
    dsimp only
    refine wp_ite (fun herr ↦ ?_) fun _ ↦ wp_ite (fun hc ↦ ?_) fun hc ↦ ?_
    · rw [wp_bind]
      refine wp_closeOnError (fun _ ↦ ?_) fun _ ↦ ?_
      · refine wp_closeIfDue huser ⟨h.1, fun _ _ _ _ ↦ .inr rfl⟩ fun hp ↦ ?_
        have hidle := hdue _ hp
        exact hspared (.inl herr) hidle
      · refine wp_closeIfDue huser h fun hp ↦ ?_
        have hidle := hdue _ hp
        exact hspared (.inl herr) hidle
    · refine wp_closeIfDue huser h fun hp ↦ ?_
      have hidle := hdue _ hp
      exact hspared (.inr hc) hidle
    · have hreceive := huser.receive (fun v ↦ Good calm v.1 ∧ v.1.closing = false)
        { s with mState := { s.mState with mReading := false } } ⟨h, Bool.eq_false_iff.mpr hc⟩
      rw [wp_bind]
      refine wp_mono hreceive (fun _ t ht ↦ ?_) fun _ _ ht ↦ ht.1.1
      refine wp_closeIfDue huser ht.1 fun hp ↦ ?_
      have hclosing : t.mState.mClosing = false := ht.2
      rw [IsDue, hclosing] at hp
      exact Bool.noConfusion hp
  · exact h.1

/-- **A write has ended**. -/
theorem wp_onWriteCallback (huser : Handles calm user) (h : Good calm (view s))
    (hw : s.mState.mWriting = true) {arErr : Bool}
    (hspared : arErr = true ∨ s.mState.mClosing = true → s.mState.mReading = false →
      Spared (view s)) :
    wp (Monitored.onWriteCallback user arErr) (fun _ t ↦ Good calm (view t))
      (fun _ t ↦ Weak (view t)) s := by
  have hdue : ∀ p : PhysState, IsDue p → p.mReading = false := by
    intro p hp
    simp only [IsDue, PhysState.callbacksPending, Bool.and_eq_true, Bool.not_eq_true',
      Bool.or_eq_false_iff]
      at hp
    exact hp.2.1.2
  have hopen : s.mState.mOpen = true := h.1.2 hw
  have hweak : ∀ p : PhysState, p.mWriting = false → Weak (view { s with mState := p }) :=
    fun p hp ↦ ⟨h.1.1, fun hq ↦ Bool.noConfusion (hp.symm.trans hq)⟩
  have hgood : ∀ p : PhysState, p.mWriting = false → p.mClosing = true →
      Good calm (view { s with mState := p }) := fun p hp hc ↦ ⟨hweak p hp, fun _ _ _ _ ↦ .inr hc⟩
  rw [Monitored.onWriteCallback, wp_bind, wp_get, wp_bind, wp_ensure_of hw, wp_bind, wp_modify]
  dsimp only
  refine wp_ite (fun herr ↦ ?_) fun _ ↦ wp_ite (fun hc ↦ ?_) fun hc ↦ ?_
  · rw [wp_bind]
    refine wp_closeOnError (fun _ ↦ ?_) fun hcan ↦ ?_
    · refine wp_closeIfDue huser (hgood _ rfl rfl) fun hp ↦ ?_
      have hidle := hdue _ hp
      exact hspared (.inl herr) hidle
    · have hclosing : s.mState.mClosing = true := by
        simpa [PhysState.canClose, hopen] using hcan
      exact wp_closeIfDue huser (hgood _ rfl hclosing) fun hp ↦ by
        have hidle := hdue _ hp
        exact hspared (.inl herr) hidle
  · refine wp_closeIfDue huser (hgood _ rfl hc) fun hp ↦ ?_
    have hidle := hdue _ hp
    exact hspared (.inr hc) hidle
  · have hsent := huser.sendSuccess _ (hweak { s.mState with mWriting := false } rfl)
    rw [wp_bind]
    refine wp_mono hsent (fun _ t ht ↦ ?_) fun _ _ ht ↦ ht
    obtain ⟨hgood, hclosed⟩ := ht
    refine wp_closeIfDue huser hgood fun hp ↦ ?_
    have hp : (t.mState.mClosing && !t.mState.callbacksPending) = true := hp
    rcases hclosed (Bool.and_eq_true_iff.mp hp).1 with hbefore | hqueue
    · exact absurd hbefore hc
    · rintro ⟨d, hd, -⟩
      have hd : d ∈ t.user.mPhysLayerTxBuffer := hd
      rw [hqueue] at hd
      exact absurd hd List.not_mem_nil

end Port

end VtoRouter

end OpenDNP3
