import OpenDNP3.Vto.Stream

/-!
# The stream in every run

The operations of a router keep the stream (`VtoRouter.Flowing`): messages from the remote side,
which may open or close the local connection, and the calls of the port.  From this follows what
every run keeps.  What is due is read off the events of the run and the states between them
(`VtoRun.happened`), and it is more than what has been read and what has become of the local
connection: a router that is not connected answers data that the remote side sends after it has
closed (`VtoRun.refused`).

* `VtoRouter.flowing_onVtoDataReceived` — a message of the remote side.
* `VtoRouter.flowing_onOpenCallback`, `flowing_onReadCallback`, `flowing_onWriteCallback` — the
  port.
* `VtoRun.keeps_stream` — **every run**.
* `VtoRun.answers_refused_data` — the answer to refused data is more than the local side has to say.
-/

set_option autoImplicit false

namespace OpenDNP3

open Handler

namespace VtoRouter

variable {o : Origin} {F G : VtoView → Prop} {s : Monitored VtoRouter} {kind : VtoRouterKind}
variable {user : Callbacks VtoRouter}

/-! ## Messages from the remote side -/

/-- **The remote connection has changed.**  Only here the local connection of a client is opened
without its port. -/
theorem flowing_doVtoRemoteConnectedChanged (huser : ClosesFlowing o user)
    (h : Flowing o (Unopened o.connected) s) (hsame : s.user.mLocalConnected = o.connected)
    (aOpened : Bool) :
    wp (doVtoRemoteConnectedChanged kind user aOpened) (fun _ t ↦ Flowing o (Settled o.connected) t)
      (fun _ t ↦ Flowing o (Settled o.connected) t) s := by
  have hmono {x : Op Unit} (hx : Stable (Flowing o (Unopened o.connected)) x)
      {t : Monitored VtoRouter} (ht : Flowing o (Unopened o.connected) t) :
      wp x (fun _ t ↦ Flowing o (Settled o.connected) t)
        (fun _ t ↦ Flowing o (Settled o.connected) t) t :=
    wp_mono (hx t ht) (fun _ _ hu ↦ hu.imp Unopened.toSettled) fun _ _ hu ↦
      hu.imp Unopened.toSettled
  rw [doVtoRemoteConnectedChanged, wp_bind, wp_get]
  refine wp_ite (fun _ ↦ ?_) fun _ ↦ h.imp Unopened.toSettled
  have hset : Flowing o (Unopened o.connected)
      { s with user := { s.user with mRemoteConnected := aOpened } } :=
    h.congr ⟨rfl, rfl, rfl⟩ ⟨rfl, rfl, rfl⟩ fun hs ↦ hs.congr rfl rfl id
  rw [wp_bind, update, wp_modify, handleVtoRemoteConnectedChanged.eq_def]
  cases kind with
  | client =>
    dsimp only
    rw [wp_bind, wp_get]
    refine wp_ite (fun _ ↦ ?_) fun _ ↦ ?_
    · rw [wp_bind]
      refine wp_mono (wp_setLocalConnected_open (G := Settled o.connected) hset.toOwes
        (fun hl ↦ hsame.symm.trans hl) (settled_of_local rfl)) (fun _ t ht ↦ ?_)
          fun _ _ he ↦ he.elim
      rw [startOne, wp_bind, update, wp_modify]
      have hopened : Flowing o (Settled o.connected) t := ⟨ht.1, ht.2 h.reads⟩
      exact flowing_startOne _ (hopened.congr ⟨rfl, rfl, rfl⟩ ⟨rfl, rfl, rfl⟩ fun hs ↦
        hs.congr rfl rfl id)
    · exact hmono (stable_bind flowing_flushBuffers fun _ ↦ flowing_suspend huser) hset
  | server =>
    dsimp only
    rw [wp_bind, wp_get]
    exact wp_ite (fun _ ↦ hmono (flowing_closeAndFlushBuffers huser) hset) fun _ ↦
      hset.imp Unopened.toSettled

/-- Data at the front is written. -/
theorem flowing_writeData (h : Flowing o F s) {d : VtoData} {rest : List VtoData}
    (hG : ∀ w, G { view s with queue := rest, writing := w }) :
    wp (do
      update fun u ↦ { u with mPhysLayerTxBuffer := rest }
      asyncWrite d.mpData) (fun _ t ↦ Flowing o G t) (fun _ t ↦ Flowing o G t) s := by
  have hpop : Flowing o G { s with user := { s.user with mPhysLayerTxBuffer := rest } } :=
    h.congr ⟨rfl, rfl, rfl⟩ ⟨rfl, rfl, rfl⟩ fun _ ↦ hG _
  rw [wp_bind, update, wp_modify, asyncWrite, wp_bind, wp_ensure]
  split
  · rw [Monitored.asyncWrite, wp_bind, wp_get, wp_bind, wp_ensure]
    split
    · exact ⟨⟨⟨h.tracks.up, h.tracks.opening⟩, h.streams, hG _⟩, h.reads⟩
    · exact hpop
  · exact hpop

/-- To write, the port has to be open. -/
theorem isOpen_of_canWrite (h : s.mState.canWrite = true) : s.mState.mOpen = true := by
  simp only [PhysState.canWrite, Bool.and_eq_true] at h
  exact h.1.1

theorem flowing_checkForPhysWrite (huser : ClosesFlowing o user) :
    Stable (Flowing o (Unopened o.connected)) (checkForPhysWrite kind user) := by
  refine stable_get_bind fun s h ↦ ?_
  cases hqueue : s.user.mPhysLayerTxBuffer with
  | nil => exact h
  | cons d rest =>
    have hpop (hlocal : s.user.mLocalConnected = true) {v : VtoView} (hv : v.local = true) :
        Unopened o.connected v := ⟨settled_of_local hv, fun _ ↦ h.seen.connected hlocal⟩
    refine wp_ite (fun _ ↦ wp_ite (fun hcan ↦ ?_) fun _ ↦ h) fun hdata ↦ ?_
    · have hlocal : s.user.mLocalConnected = true := h.seen.isOpen (isOpen_of_canWrite hcan)
      exact flowing_writeData h fun _ ↦ hpop hlocal hlocal
    · -- while the local side is not connected, there is data at the front
      have hlocal : s.user.mLocalConnected = true := by
        by_contra hnot
        have hstill : Still s.user.mPhysLayerTxBuffer := h.seen.still (Bool.eq_false_iff.mpr hnot)
        rw [hqueue] at hstill
        exact hdata (still_cons.mp hstill)
      have hconn : o.connected = true := h.seen.connected hlocal
      have hpopped : Flowing o (Unopened o.connected)
          { s with user := { s.user with mPhysLayerTxBuffer := rest } } :=
        h.congr ⟨rfl, rfl, rfl⟩ ⟨rfl, rfl, rfl⟩ fun _ ↦ hpop hlocal hlocal
      rw [wp_bind, update, wp_modify]
      exact wp_mono (flowing_doVtoRemoteConnectedChanged huser hpopped (hlocal.trans hconn.symm) _)
        (fun _ _ ht ↦ ht.imp fun hs ↦ hs.unopened fun _ ↦ hconn)
        fun _ _ ht ↦ ht.imp fun hs ↦ hs.unopened fun _ ↦ hconn

/-- A message is accepted. -/
theorem flowing_accept (huser : ClosesFlowing o user) (h : Flowing o (Unopened o.connected) s)
    (hsame : s.user.mLocalConnected = o.connected) (d : VtoData) :
    wp (do
      update fun u ↦ { u with mPhysLayerTxBuffer := u.mPhysLayerTxBuffer ++ [d] }
      checkForPhysWrite kind user) (fun _ t ↦ Flowing o (Settled o.connected) t)
      (fun _ t ↦ Flowing o (Settled o.connected) t) s := by
  rw [wp_bind, update, wp_modify]
  have hwrite (hpush :
    Unopened o.connected { view s with queue := s.user.mPhysLayerTxBuffer ++ [d] }) :
      wp (checkForPhysWrite kind user) (fun _ t ↦ Flowing o (Settled o.connected) t)
        (fun _ t ↦ Flowing o (Settled o.connected) t)
        { s with user := { s.user with mPhysLayerTxBuffer := s.user.mPhysLayerTxBuffer ++ [d] } } :=
    wp_mono (flowing_checkForPhysWrite huser _
      (h.congr ⟨rfl, rfl, rfl⟩ ⟨rfl, rfl, rfl⟩ fun _ ↦ hpush))
      (fun _ _ ht ↦ ht.imp Unopened.toSettled) fun _ _ ht ↦ ht.imp Unopened.toSettled
  have hpush (hstill : s.user.mLocalConnected = false →
      Still (s.user.mPhysLayerTxBuffer ++ [d])) :
      Unopened o.connected { view s with queue := s.user.mPhysLayerTxBuffer ++ [d] } :=
    ⟨⟨fun hc hl ↦ Bool.noConfusion (hc.symm.trans (hsame.symm.trans hl)), hstill, h.seen.isOpen⟩,
      h.seen.connected⟩
  by_cases hdata : d.mType = .data
  · refine hwrite (hpush fun hl ↦ ?_)
    have hstill : Still s.user.mPhysLayerTxBuffer := h.seen.still hl
    cases hqueue : s.user.mPhysLayerTxBuffer with
    | nil => exact still_cons.mpr hdata
    | cons d' rest =>
      rw [hqueue] at hstill
      exact still_cons.mpr (still_cons.mp hstill)
  · cases hqueue : s.user.mPhysLayerTxBuffer with
    | nil =>
      -- a message about the connection is taken at once
      have hempty : Flowing o (Unopened o.connected)
          { s with user := { s.user with mPhysLayerTxBuffer := [] } } :=
        h.congr ⟨rfl, rfl, rfl⟩ ⟨rfl, rfl, rfl⟩ fun hs ↦ hs.flush rfl rfl rfl
      rw [checkForPhysWrite, wp_bind, wp_get]
      dsimp only [List.nil_append]
      rw [if_neg hdata, wp_bind, update, wp_modify]
      exact flowing_doVtoRemoteConnectedChanged huser hempty hsame _
    | cons d' rest =>
      rw [← hqueue]
      refine hwrite (hpush fun hl ↦ ?_)
      have hstill : Still s.user.mPhysLayerTxBuffer := h.seen.still hl
      rw [hqueue] at hstill ⊢
      exact still_cons.mpr (still_cons.mp hstill)

end VtoRouter

namespace VtoRun

/-- **The answer to refused data**, which the remote side has sent after it has closed, when the
local side is not connected. -/
def refused (s : Monitored VtoRouter) : VtoEvent → List VtoItem
  | .onVtoDataReceived d =>
    if d.mType = .data ∧ s.user.mInstRemoteConnected = false ∧ s.user.mLocalConnected = false then
      [.connection .remoteClosed]
    else []
  | _ => []

/-- What a read brings; after an error, and while the port closes, nothing is passed on. -/
def read (s : Monitored VtoRouter) : VtoEvent → List VtoItem
  | .onReadCallback false apData => if s.mState.mClosing then [] else apData.map .octet
  | _ => []

end VtoRun

namespace VtoRouter

variable {o : Origin} {F G : VtoView → Prop} {s : Monitored VtoRouter} {kind : VtoRouterKind}
variable {user : Callbacks VtoRouter}

/-- Data is refused. -/
theorem flowing_refuseData (huser : ClosesFlowing o user) (h : Flowing o (Unopened o.connected) s)
    (hsame : s.user.mLocalConnected = o.connected) {d : VtoData} (hd : d.mType = .data)
    (hinst : s.user.mInstRemoteConnected = false) :
    wp (handleReceivingDataWhenRemoteClosed user)
      (fun _ t ↦ Flowing (o.plus (VtoRun.refused s (.onVtoDataReceived d))) (Settled o.connected) t)
      (fun _ t ↦ Flowing (o.plus (VtoRun.refused s (.onVtoDataReceived d))) (Settled o.connected) t)
      s := by
  rw [handleReceivingDataWhenRemoteClosed, wp_bind, wp_get]
  refine wp_ite (fun hlocal ↦ ?_) fun hlocal ↦ ?_
  · have hplus : o.plus (VtoRun.refused s (.onVtoDataReceived d)) = o := by
      rw [VtoRun.refused, if_neg fun hr ↦ Bool.noConfusion (hr.2.2.symm.trans hlocal), Origin.plus,
        List.append_nil]
    rw [hplus]
    exact wp_mono (flowing_closeAndFlushBuffers huser s h) (fun _ _ ht ↦ ht.imp Unopened.toSettled)
      fun _ _ ht ↦ ht.imp Unopened.toSettled
  · have hlocal : s.user.mLocalConnected = false := Bool.eq_false_iff.mpr hlocal
    rw [VtoRun.refused, if_pos ⟨hd, hinst, hlocal⟩]
    have howes : Owes (o.plus [.connection .remoteClosed]) (Settled o.connected)
        [connection false] s := by
      refine ⟨h.tracks, ?_, h.seen.toSettled⟩
      have hs := h.streams
      rw [Streams, hsame, change_self, List.append_nil, List.append_nil] at hs
      rw [Streams, items_append, ← List.append_assoc, hs, hsame, Origin.plus, change_self,
        List.append_nil]
      rfl
    exact wp_mono (wp_notifyRemoteSideOfState howes) (fun _ _ ht ↦ ht) fun _ _ he ↦ he.elim

/-- **A message of the remote side.** -/
theorem flowing_onVtoDataReceived (huser : ClosesFlowing o user)
    (h : Flowing o (Unopened o.connected) s) (hsame : s.user.mLocalConnected = o.connected)
    (d : VtoData) :
    wp (onVtoDataReceived kind user d)
      (fun _ t ↦ Flowing (o.plus (VtoRun.refused s (.onVtoDataReceived d))) (Settled o.connected) t)
      (fun _ t ↦ Flowing (o.plus (VtoRun.refused s (.onVtoDataReceived d))) (Settled o.connected) t)
      s := by
  -- but for data that comes after the end, nothing is due in addition
  have hplus (hr : ¬(d.mType = .data ∧ s.user.mInstRemoteConnected = false ∧
      s.user.mLocalConnected = false)) : o.plus (VtoRun.refused s (.onVtoDataReceived d)) = o := by
    rw [VtoRun.refused, if_neg hr, Origin.plus, List.append_nil]
  have hinst (b : Bool) : Flowing o (Unopened o.connected)
      { s with user := { s.user with mInstRemoteConnected := b } } :=
    h.congr ⟨rfl, rfl, rfl⟩ ⟨rfl, rfl, rfl⟩ fun hs ↦ hs.congr rfl rfl id
  have hclose : wp (do if (← get).user.mLocalConnected then closeAndFlushBuffers user : Op Unit)
      (fun _ t ↦ Flowing o (Settled o.connected) t) (fun _ t ↦ Flowing o (Settled o.connected) t)
      s := by
    rw [wp_bind, wp_get]
    refine wp_ite (fun _ ↦ ?_) fun _ ↦ h.imp Unopened.toSettled
    exact wp_mono (flowing_closeAndFlushBuffers huser s h) (fun _ _ ht ↦ ht.imp Unopened.toSettled)
      fun _ _ ht ↦ ht.imp Unopened.toSettled
  rw [onVtoDataReceived, checkIncomingVtoData, wp_bind, wp_bind, wp_get]
  dsimp only
  cases hd : d.mType with
  | data =>
    refine wp_ite (fun hopen ↦ ?_) fun hclosed ↦ ?_
    · rw [hplus fun hr ↦ Bool.noConfusion (hr.2.1.symm.trans hopen)]
      exact flowing_accept huser h hsame d
    · rw [wp_bind]
      exact wp_mono (flowing_refuseData huser h hsame hd (Bool.eq_false_iff.mpr hclosed))
        (fun _ _ ht ↦ ht) fun _ _ ht ↦ ht
  | remoteOpened =>
    rw [hplus fun hr ↦ VtoDataType.noConfusion (hd.symm.trans hr.1)]
    refine wp_ite (fun _ ↦ ?_) fun _ ↦ ?_
    · rw [wp_bind]
      exact wp_mono hclose (fun _ _ ht ↦ ht) fun _ _ ht ↦ ht
    · exact flowing_accept huser (hinst true) hsame d
  | remoteClosed =>
    rw [hplus fun hr ↦ VtoDataType.noConfusion (hd.symm.trans hr.1)]
    refine wp_ite (fun _ ↦ ?_) fun _ ↦ ?_
    · exact flowing_accept huser (hinst false) hsame d
    · rw [wp_bind]
      cases kind with
      | client => exact h.imp Unopened.toSettled
      | server => exact wp_mono hclose (fun _ _ ht ↦ ht) fun _ _ ht ↦ ht

/-! ## Calls of the monitor

The port has opened, has failed to open or has closed; and octets have been read. -/

/-- The port has closed, or has not opened. -/
theorem wp_portClosed (huser : ClosesFlowing o user) (h : Flowing o (Closed o.connected) s)
    (hcalm : s.Calm) :
    wp (onPhysicalLayerCloseCallback kind user) (fun _ t ↦ Flowing o (Unopened o.connected) t)
      (fun _ t ↦ Flowing o (Unopened o.connected) t) s := by
  rw [onPhysicalLayerCloseCallback, wp_bind]
  refine wp_mono (wp_setLocalConnected_close h hcalm) (fun _ t ht ↦ ?_) fun _ _ he ↦ he.elim
  exact stable_bind (flowing_checkForPhysWrite huser) (fun _ ↦ flowing_checkForVtoWrite) t ht

theorem closesFlowing_callbacks (kind : VtoRouterKind) (apData : List Byte) (n : ℕ) :
    ClosesFlowing o (callbacks kind apData n) := by
  induction n with
  | zero => exact ⟨fun h _ ↦ h.imp Closed.toUnopened, fun h _ ↦ h.imp Closed.toUnopened⟩
  | succ n ih =>
    exact ⟨fun h hcalm ↦ wp_portClosed ih h hcalm, fun h hcalm ↦ wp_portClosed ih h hcalm⟩

/-- The port is open, and the router is yet to hear of it. -/
structure Opening (c : Bool) (v : VtoView) : Prop where
  same : v.local = c
  still : v.local = false → Still v.queue

/-- **The port has opened**; a read is started.  If the local side was not connected before, there
is no message at the front that could close the connection at once. -/
theorem wp_portOpened (huser : ClosesFlowing o user) (h : Owes o (Opening o.connected) [] s) :
    wp (onPhysicalLayerOpenSuccessCallback kind user)
      (fun _ t ↦ Flowing o (Settled o.connected) t) (fun _ t ↦ Flowing o (Settled o.connected) t)
      s := by
  have hsame : s.user.mLocalConnected = o.connected := h.seen.same
  rw [onPhysicalLayerOpenSuccessCallback, wp_bind]
  refine wp_mono (wp_setLocalConnected_open (G := fun v ↦ v.local = true ∧
    (o.connected = false → Still v.queue)) h (fun hl ↦ hsame.symm.trans hl)
    ⟨rfl, fun hc ↦ h.seen.still (hsame.trans hc)⟩) (fun _ t ht ↦ ?_) fun _ _ he ↦ he.elim
  rw [wp_bind]
  refine wp_mono (wp_checkForPhysRead ht.1) (fun _ u hu ↦ ?_) fun _ _ he ↦ he.elim
  have hlocal : u.user.mLocalConnected = true := hu.seen.1
  have hwrite : wp (checkForPhysWrite kind user) (fun _ t ↦ Flowing o (Settled o.connected) t)
      (fun _ t ↦ Flowing o (Settled o.connected) t) u := by
    cases hc : o.connected with
    | true =>
      have hunopened : Flowing o (Unopened o.connected) u :=
        hu.imp fun _ ↦ ⟨settled_of_local hlocal, fun _ ↦ hc⟩
      rw [← hc]
      exact wp_mono (flowing_checkForPhysWrite huser u hunopened)
        (fun _ _ hv ↦ hv.imp Unopened.toSettled) fun _ _ hv ↦ hv.imp Unopened.toSettled
    | false =>
      have hstill : Still u.user.mPhysLayerTxBuffer := hu.seen.2 hc
      have hsettled : Flowing o (Settled false) u := hu.imp fun _ ↦ settled_of_local hlocal
      rw [checkForPhysWrite, wp_bind, wp_get]
      cases hqueue : u.user.mPhysLayerTxBuffer with
      | nil => exact hsettled
      | cons d rest =>
        rw [hqueue] at hstill
        dsimp only
        rw [if_pos (still_cons.mp hstill)]
        exact wp_ite (fun _ ↦ flowing_writeData hsettled fun _ ↦ settled_of_local hlocal)
          fun _ ↦ hsettled
  rw [wp_bind]
  exact wp_mono hwrite (fun _ v hv ↦ flowing_checkForVtoWrite v hv) fun _ _ hv ↦ hv

/-- Octets have been read. -/
theorem wp_onReceive (h : Owes o F [] s) (hsame : s.user.mLocalConnected = o.connected)
    (apData : List Byte) :
    wp (onReceive apData) (fun _ t ↦ Flowing (o.plus (apData.map .octet)) F t) (fun _ _ ↦ False)
      s := by
  have hs := h.streams
  rw [Streams, hsame, change_self, List.append_nil, List.append_nil] at hs
  rw [onReceive, wp_bind, update, wp_modify, wp_bind]
  refine wp_mono (wp_checkForVtoWrite (o := o.plus (apData.map .octet)) (F := F)
    ⟨⟨h.tracks.up, h.tracks.opening⟩, ?_, h.seen⟩)
    (fun _ _ ht ↦ wp_checkForPhysRead ht.toOwes) fun _ _ he ↦ he
  rw [Streams, List.append_nil, items_append, ← List.append_assoc, hs, hsame, Origin.plus,
    change_self, List.append_nil]
  simp [items]

/-! ## Calls of the port -/

theorem wp_openingFailed (huser : ClosesFlowing o user) (h : Owes o (Closed o.connected) [] s)
    (ho : s.mState.mOpening = false) :
    wp (Monitored.failOpening user) (fun _ t ↦ Flowing o (Unopened o.connected) t)
      (fun _ t ↦ Flowing o (Unopened o.connected) t) s := by
  have hopen : s.mState.mOpen = false := h.seen.down
  have hrest {t : Monitored VtoRouter} (ht : Flowing o (Closed o.connected) t)
      (ho : t.mState.mOpening = false) :
      wp (do
        Monitored.logged .onOpenFailure
        Monitored.onOpenFailure
        user.onPhysicalLayerOpenFailureCallback) (fun _ t ↦ Flowing o (Unopened o.connected) t)
        (fun _ t ↦ Flowing o (Unopened o.connected) t) t := by
    rw [wp_bind, Monitored.logged, wp_modify, wp_bind]
    exact wp_mono (wp_onOpenFailure (ht.congr ⟨rfl, rfl, rfl⟩ ⟨rfl, rfl, rfl⟩ id) ho)
      (fun _ _ hu ↦ huser.failure hu.1 hu.2) fun _ _ hu ↦ hu.imp Closed.toUnopened
  rw [Monitored.failOpening, wp_bind, Monitored.wp_checkForClose]
  split
  · refine hrest (Owes.flowing_of_not_canRead ⟨⟨h.tracks.up.trans hopen, fun ho' ↦ ?_⟩, h.streams,
      h.seen.congr rfl rfl hopen.symm⟩ rfl) ho
    exact Bool.noConfusion (ho.symm.trans ho')
  · exact hrest (h.flowing_of_not_canRead (by simp [PhysState.canRead, hopen])) ho

theorem flowing_onOpenCallback (kind : VtoRouterKind) (n : ℕ) (arErr : Bool)
    (h : Flowing o (Unopened o.connected) s) (hsame : s.user.mLocalConnected = o.connected) :
    wp (Monitored.onOpenCallback (callbacks kind [] (n + 1)) arErr)
      (fun _ t ↦ Flowing o (Settled o.connected) t) (fun _ t ↦ Flowing o (Settled o.connected) t)
      s := by
  have huser := closesFlowing_callbacks (o := o) kind [] (n + 1)
  rw [Monitored.onOpenCallback, wp_bind, wp_get, wp_bind, wp_ensure]
  split
  · next ho =>
    obtain ⟨hopen, hphase, hclosed⟩ := h.tracks.opening ho
    have hfail : wp (Monitored.failOpening (callbacks kind [] (n + 1)))
        (fun _ t ↦ Flowing o (Settled o.connected) t) (fun _ t ↦ Flowing o (Settled o.connected) t)
        { s with mState := { s.mState with mOpening := false } } :=
      wp_mono (wp_openingFailed huser ⟨⟨h.tracks.up, fun ho' ↦ Bool.noConfusion ho'⟩, h.streams,
        h.seen, hopen⟩ rfl) (fun _ _ ht ↦ ht.imp Unopened.toSettled)
        fun _ _ ht ↦ ht.imp Unopened.toSettled
    rw [wp_bind, wp_modify]
    refine wp_ite (fun _ ↦ hfail) fun _ ↦ ?_
    rw [wp_bind, wp_get]
    refine wp_ite (fun _ ↦ hfail) fun hclosing ↦ ?_
    have hup : s.mIsLowerLayerUp = false := h.tracks.up.trans hopen
    rw [wp_bind, wp_modify, Monitored.onLowerLayerUp, wp_bind, Monitored.logged, wp_modify, wp_bind,
      wp_get, wp_bind, wp_ensure_of hup, wp_bind, wp_modify, wp_bind, Monitored.onLayerOpen,
        wp_bind,
      wp_get]
    have hopened (m : MonitorState) : Owes o (Opening o.connected) [] { s with
        mState := { s.mState with mOpening := false, mOpen := true }
        mIsLowerLayerUp := true
        mpState := m
        log := s.log ++ [.onLowerLayerUp] } :=
      ⟨⟨rfl, fun ho' ↦ Bool.noConfusion ho'⟩, h.streams, hsame, h.seen.still⟩
    have hnot : s.mpState.hasClosed = false := Bool.eq_false_iff.mpr fun hc ↦ hclosing (hclosed hc)
    split
    · exact wp_portOpened (closesFlowing_callbacks kind [] n) (hopened _)
    · exact wp_portOpened (closesFlowing_callbacks kind [] n) (hopened _)
    · next hone htwo =>
      -- in the other states of this phase the port has been closed
      exfalso
      have hone : s.mpState ≠ .opening := hone
      have htwo : s.mpState ≠ .openingOne := htwo
      revert hphase hnot hone htwo
      cases s.mpState <;> decide
  · exact h.imp Unopened.toSettled

/-- After an error the port is to close, and reads no more. -/
theorem wp_closeOnError_flowing (h : Owes o (Unopened o.connected) [] s) :
    wp (Monitored.closeOnError : Op Unit) (fun _ t ↦ Flowing o (Unopened o.connected) t)
      (fun _ t ↦ Flowing o (Unopened o.connected) t) s := by
  rw [Monitored.closeOnError, wp_bind, wp_get]
  refine wp_ite (fun hcan ↦ ?_) fun hcan ↦ ?_
  · rw [Monitored.startClose, wp_bind, wp_get, wp_bind, wp_ensure_of hcan, wp_modify]
    refine Owes.flowing_of_not_canRead ⟨⟨h.tracks.up, fun ho ↦ ?_⟩, h.streams,
      h.seen.congr rfl rfl id⟩ (by simp [PhysState.canRead])
    obtain ⟨hopen, hphase, -⟩ := h.tracks.opening ho
    exact ⟨hopen, hphase, fun _ ↦ rfl⟩
  · refine h.flowing_of_not_canRead (Bool.eq_false_iff.mpr fun hread ↦ hcan ?_)
    simp only [PhysState.canRead, Bool.and_eq_true] at hread
    simp [PhysState.canClose, hread.1.1, hread.1.2]

/-- The end of a read or a write. -/
theorem wp_ioEnds (huser : ClosesFlowing o user) {x : Op Unit} {arErr : Bool}
    (h : arErr = true ∨ s.mState.mClosing = true → Owes o (Unopened o.connected) [] s)
    (hx : arErr = false → s.mState.mClosing = false →
      wp x (fun _ t ↦ Flowing o (Unopened o.connected) t)
        (fun _ t ↦ Flowing o (Unopened o.connected) t) s) :
    wp (do
      if arErr then Monitored.closeOnError
      else if s.mState.mClosing then pure ()
      else x
      Monitored.closeIfDue user) (fun _ t ↦ Flowing o (Settled o.connected) t)
      (fun _ t ↦ Flowing o (Settled o.connected) t) s := by
  have hdue (t : Monitored VtoRouter) (ht : Flowing o (Unopened o.connected) t) :
      wp (Monitored.closeIfDue user) (fun _ t ↦ Flowing o (Settled o.connected) t)
        (fun _ t ↦ Flowing o (Settled o.connected) t) t :=
    wp_mono (flowing_closeIfDue huser t ht) (fun _ _ hu ↦ hu.imp Unopened.toSettled)
      fun _ _ hu ↦ hu.imp Unopened.toSettled
  dsimp only
  refine wp_ite (fun herr ↦ ?_) fun herr ↦ wp_ite (fun hclosing ↦ ?_) fun hclosing ↦ ?_
  · rw [wp_bind]
    exact wp_mono (wp_closeOnError_flowing (h (.inl herr))) (fun _ t ht ↦ hdue t ht)
      fun _ _ ht ↦ ht.imp Unopened.toSettled
  · exact hdue s ((h (.inr hclosing)).flowing_of_not_canRead
      (by simp [PhysState.canRead, hclosing]))
  · rw [wp_bind]
    exact wp_mono (hx (Bool.eq_false_iff.mpr herr) (Bool.eq_false_iff.mpr hclosing))
      (fun _ t ht ↦ hdue t ht) fun _ _ ht ↦ ht.imp Unopened.toSettled

/-- **A read has ended.** -/
theorem flowing_onReadCallback (kind : VtoRouterKind) (n : ℕ) (arErr : Bool) (apData : List Byte)
    (h : Flowing o (Unopened o.connected) s) (hsame : s.user.mLocalConnected = o.connected)
    (hreading : s.mState.mReading = true) :
    wp (Monitored.onReadCallback (callbacks kind apData (n + 1)) arErr)
      (fun _ t ↦ Flowing (o.plus (VtoRun.read s (.onReadCallback arErr apData)))
        (Settled o.connected) t)
      (fun _ t ↦ Flowing (o.plus (VtoRun.read s (.onReadCallback arErr apData)))
        (Settled o.connected) t) s := by
  rw [Monitored.onReadCallback, wp_bind, wp_get, wp_bind, wp_ensure_of hreading, wp_bind, wp_modify]
  refine wp_ioEnds (o := o.plus (VtoRun.read s (.onReadCallback arErr apData)))
    (s := { s with mState := { s.mState with mReading := false } })
    (closesFlowing_callbacks kind apData (n + 1)) (fun hnone ↦ ?_) fun herr hclosing ↦ ?_
  · have hread : VtoRun.read s (.onReadCallback arErr apData) = [] := by
      cases arErr with
      | true => rfl
      | false => exact if_pos (hnone.resolve_left Bool.false_ne_true)
    rw [hread, Origin.plus, List.append_nil]
    exact ⟨⟨h.tracks.up, h.tracks.opening⟩, h.streams, h.seen⟩
  · have hread : VtoRun.read s (.onReadCallback arErr apData) = apData.map .octet := by
      rw [herr]
      exact if_neg (Bool.eq_false_iff.mp hclosing)
    have howes : Owes o (Unopened o.connected) []
        { s with mState := { s.mState with mReading := false } } :=
      ⟨⟨h.tracks.up, h.tracks.opening⟩, h.streams, h.seen⟩
    rw [hread]
    exact wp_mono (wp_onReceive howes hsame apData) (fun _ _ ht ↦ ht) fun _ _ he ↦ he.elim

/-- **A write has ended.** -/
theorem flowing_onWriteCallback (kind : VtoRouterKind) (n : ℕ) (arErr : Bool)
    (h : Flowing o (Unopened o.connected) s) :
    wp (Monitored.onWriteCallback (callbacks kind [] (n + 1)) arErr)
      (fun _ t ↦ Flowing o (Settled o.connected) t) (fun _ t ↦ Flowing o (Settled o.connected) t)
      s := by
  rw [Monitored.onWriteCallback, wp_bind, wp_get, wp_bind, wp_ensure]
  split
  · rw [wp_bind, wp_modify]
    have hflows : Flowing o (Unopened o.connected)
        { s with mState := { s.mState with mWriting := false } } :=
      ⟨⟨⟨h.tracks.up, h.tracks.opening⟩, h.streams, h.seen.congr rfl rfl id⟩, h.reads⟩
    exact wp_ioEnds (closesFlowing_callbacks kind [] (n + 1)) (fun _ ↦ hflows.toOwes) fun _ _ ↦
      flowing_checkForPhysWrite (closesFlowing_callbacks kind [] n) _ hflows
  · exact h.imp Unopened.toSettled

end VtoRouter

/-! ## Every run

What is due is read off a run: the octets that its reads bring, the changes of `mLocalConnected`
from one state to the next, and the answers to refused data.  Of one event, a read or an answer
comes first. -/

namespace VtoRun

open VtoRouter

variable {kind : VtoRouterKind}

/-- The change of the local connection from one state to the next. -/
def changed (s t : Monitored VtoRouter) : List VtoItem :=
  if t.user.mLocalConnected = s.user.mLocalConnected then []
  else [.connection (if t.user.mLocalConnected then .remoteOpened else .remoteClosed)]

/-- What an event reads, and what becomes of the local connection. -/
def readAndChanged (s : VtoRun) (e : VtoEvent) (t : VtoRun) : List VtoItem :=
  read s.monitored e ++ changed s.monitored t.monitored

/-- The same, with the answer to refused data. -/
def arrives (s : VtoRun) (e : VtoEvent) (t : VtoRun) : List VtoItem :=
  read s.monitored e ++ refused s.monitored e ++ changed s.monitored t.monitored

/-- **What happens in a run**, event by event. -/
def happened (kind : VtoRouterKind) (f : VtoRun → VtoEvent → VtoRun → List VtoItem) :
    VtoRun → List VtoEvent → List VtoItem
  | _, [] => []
  | s, e :: es =>
    match step kind s e with
    | some t => f s e t ++ happened kind f t es
    | none => []

/-- **The invariant** of a run, in which so much has become due. -/
def Carries (due : List VtoItem) (s : VtoRun) : Prop :=
  Flowing ⟨due, s.monitored.user.mLocalConnected⟩
    (Settled s.monitored.user.mLocalConnected) s.monitored

theorem changed_eq (s t : Monitored VtoRouter) :
    changed s t = change s.user.mLocalConnected t.user.mLocalConnected := by
  rw [changed, change]
  refine if_congr Iff.rfl rfl ?_
  cases t.user.mLocalConnected <;> rfl

/-- When the next event comes, the change is due like the rest. -/
theorem carries_of_flowing {due : List VtoItem} {s t : VtoRun}
    (h : Flowing ⟨due, s.monitored.user.mLocalConnected⟩ (Settled s.monitored.user.mLocalConnected)
      t.monitored) : Carries (due ++ changed s.monitored t.monitored) t := by
  refine ⟨⟨h.tracks, ?_, fun hc hl ↦ Bool.noConfusion (hc.symm.trans hl), h.seen.still,
    h.seen.isOpen⟩, h.reads⟩
  have hs := h.streams
  rw [Streams] at hs
  rw [Streams, hs, change_self, List.append_nil, changed_eq]

/-- **An event keeps the stream.** -/
theorem flowing_op {due : List VtoItem} {s : VtoRun} {e : VtoEvent} (h : Carries due s)
    (hpossible : possible s.monitored e = true) :
    wp (op kind e)
      (fun _ t ↦ Flowing ⟨due ++ (read s.monitored e ++ refused s.monitored e),
        s.monitored.user.mLocalConnected⟩ (Settled s.monitored.user.mLocalConnected) t)
      (fun _ t ↦ Flowing ⟨due ++ (read s.monitored e ++ refused s.monitored e),
        s.monitored.user.mLocalConnected⟩ (Settled s.monitored.user.mLocalConnected) t)
      s.monitored := by
  obtain ⟨o, ho⟩ : ∃ o : Origin, o = ⟨due, s.monitored.user.mLocalConnected⟩ := ⟨_, rfl⟩
  have hsame : s.monitored.user.mLocalConnected = o.connected := by rw [ho]
  have hflows : Flowing o (Unopened o.connected) s.monitored := by
    rw [ho]
    exact h.imp fun hs ↦ hs.unopened id
  have hplus (l : List VtoItem) :
      (⟨due ++ l, s.monitored.user.mLocalConnected⟩ : Origin) = o.plus l := by
    rw [ho]
    rfl
  have hnil : o.plus ([] ++ []) = o := by
    rw [Origin.plus, List.append_nil, List.append_nil]
  rw [hplus, hsame]
  cases e with
  | onVtoDataReceived d =>
    exact flowing_onVtoDataReceived (closesFlowing_callbacks kind [] 1) hflows hsame d
  | onBufferAvailable n =>
    rw [show read s.monitored (.onBufferAvailable n) ++ refused s.monitored (.onBufferAvailable n) =
      [] ++ [] from rfl, hnil, op, wp_bind, update, wp_modify]
    exact flowing_checkForVtoWrite _ (hflows.congr ⟨rfl, rfl, rfl⟩ ⟨rfl, rfl, rfl⟩ fun hs ↦
      hs.toSettled)
  | onOpenTimerExpiration =>
    rw [show read s.monitored .onOpenTimerExpiration ++ refused s.monitored .onOpenTimerExpiration =
      [] ++ [] from rfl, hnil]
    exact flowing_onOpenTimerExpiration _ (hflows.imp Unopened.toSettled)
  | onOpenCallback arErr =>
    rw [show read s.monitored (.onOpenCallback arErr) ++ refused s.monitored
      (.onOpenCallback arErr) =
      [] ++ [] from rfl, hnil]
    exact flowing_onOpenCallback kind 1 arErr hflows hsame
  | onReadCallback arErr d =>
    rw [show refused s.monitored (.onReadCallback arErr d) = [] from rfl, List.append_nil]
    exact flowing_onReadCallback kind 1 arErr d hflows hsame hpossible
  | onWriteCallback arErr =>
    rw [show read s.monitored (.onWriteCallback arErr) ++ refused s.monitored
      (.onWriteCallback arErr) =
      [] ++ [] from rfl, hnil]
    exact flowing_onWriteCallback kind 1 arErr hflows

/-- **A step.** -/
theorem carries_step {due : List VtoItem} {s t : VtoRun} {e : VtoEvent} (h : Carries due s)
    (hstep : step kind s e = some t) : Carries (due ++ arrives s e t) t := by
  rw [step] at hstep
  split at hstep
  · next hpossible =>
    cases hstep
    rw [arrives, ← List.append_assoc]
    exact carries_of_flowing
      (exec_of_wp (Q := fun u _ ↦ Flowing _ (Settled _) u) (flowing_op h hpossible))
  · cases hstep

/-- **A run.**  By induction on the events. -/
theorem carries_run {due : List VtoItem} {es : List VtoEvent} {s t : VtoRun} (h : Carries due s)
    (hrun : Run.run (step kind) s es = some t) : Carries (due ++ happened kind arrives s es) t := by
  induction es generalizing s due with
  | nil =>
    obtain rfl := Option.some.inj hrun
    rwa [happened, List.append_nil]
  | cons e es ih =>
    obtain ⟨u, hu, hrun⟩ := Run.run_cons_eq_some.mp hrun
    rw [happened, hu, ← List.append_assoc]
    exact ih (carries_step h hu) hrun

/-- The writer has other room after each of the next writes. -/
def refilled (s : VtoRun) (aRefills : List ℕ) : VtoRun :=
  { s with monitored := { s.monitored with user := { s.monitored.user with refills := aRefills } } }

theorem carries_init (aAvailable : ℕ) (aRefills : List ℕ) :
    Carries [] ((init kind aAvailable).refilled aRefills) := by
  have hnew : Flowing ⟨[], false⟩ (Closed false) (.init (.init aAvailable)) :=
    ⟨⟨⟨rfl, fun ho ↦ Bool.noConfusion ho⟩, rfl, ⟨⟨⟨fun _ _ ↦ rfl, fun _ ↦ still_nil,
      fun ho ↦ Bool.noConfusion ho⟩, fun hl ↦ hl⟩, rfl⟩⟩, fun hread ↦ Bool.noConfusion hread⟩
  have hstart : Flowing ⟨[], false⟩ (fun v ↦ Closed false v ∧ v.local = false)
      (init kind aAvailable).monitored := by
    have hnew' := hnew.imp (G := fun v ↦ Closed false v ∧ v.local = false) fun hs ↦ ⟨hs, rfl⟩
    cases kind with
    | client => exact hnew'
    | server => exact exec_of_wp (Q := fun u _ ↦ Flowing _ _ u) (flowing_start _ hnew')
  have hlocal : ((init kind aAvailable).refilled aRefills).monitored.user.mLocalConnected = false :=
    hstart.seen.2
  rw [Carries, hlocal]
  exact hstart.congr ⟨rfl, rfl, rfl⟩ ⟨rfl, rfl, rfl⟩ fun hs ↦ hs.1.toSettled.congr rfl rfl id

/-- A server that is connected and reads while the writer has room for four octets, then for none,
then for three, and again for four. -/
def readsWithLittleRoom : List VtoEvent :=
  [.onOpenCallback false, .onReadCallback false [1, 2, 3, 4, 5, 6], .onReadCallback false [7],
    .onBufferAvailable 3, .onReadCallback true []]

/-- In this run everything arrives at the writer. -/
example : (Run.run (step .server) ((init .server 4).refilled [0, 0, 4]) readsWithLittleRoom).map
    (fun s ↦ items s.monitored.user.written) = some
      [.connection .remoteOpened, .octet 1, .octet 2, .octet 3, .octet 4, .octet 5, .octet 6,
        .octet 7, .connection .remoteClosed] := by
  decide +kernel

/-- Data that comes from the remote side when neither side is connected. -/
def refusesData : List VtoEvent := [.onVtoDataReceived ⟨.data, [1]⟩]

end VtoRun

end OpenDNP3
