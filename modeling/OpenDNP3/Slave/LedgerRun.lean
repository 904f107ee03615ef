import OpenDNP3.Slave.Ledger

/-!
# What an event does to the ledger

The callbacks of a slave one by one.  Unsolicited responses are no concern of the ledger, and to
send one never fails, so only the request that was deferred can change the ledger when a callback
ends.

A request in hand is one that was received and is neither executed nor deferred yet.  A
`RequestInvariant` has a property of the ledger for the time between requests and one for a request
in hand, and `RequestInvariant.handle` is what it comes to: every event of the outstation keeps the
first.
-/

set_option autoImplicit false

namespace OpenDNP3

open Handler

namespace Slave

open Ledger

variable {ν ρ υ : Type} {V W : Ledger → Prop} {s : Slave ν ρ} {env : Environment ρ υ}

/-! ## Unsolicited responses -/

/-- **An idle slave can always send an unsolicited response.** -/
theorem wp_startUnsolicited (hq : Quietly V) (hs : In (· = .idle) V s) (aMask : ClassMask) :
    wp (startUnsolicited env aMask) (fun _ t ↦ Keeps V t) (fun _ _ ↦ False) s := by
  have hc := hs.couples
  have hst := hs.state
  have hchange : Couples s.mpAppLayer .waitForUnsolSuccess :=
    hc.change (by rw [hst]; decide) (by decide) fun u hu ↦ .inl (by
      rw [hst]
      cases u with
      | false => rfl
      | true => exact Bool.noConfusion hu)
  have hup : s.mpAppLayer.mIsLowerLayerUp = true := hc.up.mpr (by rw [hst]; decide)
  have hidle : (s.mpAppLayer.channel true).mpState = .idle := hc.free true (by rw [hst]; rfl)
  simp only [startUnsolicited, changeState, loadUnsol, sendUnsolicited, setRspIIN, wp_bind, wp_get,
    wp_modify]
  generalize hf : addData _ _ = f
  have hfunction : f.function = some .unsolicitedResponse := by rw [← hf]; rfl
  have hcontrol : f.control = ⟨true, true, true, true, 0⟩ := by rw [← hf]; rfl
  have hiin (iin : IINField) : f.setIIN iin = .ok { f with iin := iin } := by
    simp only [OutAPDU.setIIN, hfunction]
    rfl
  rw [hiin, wp_lift_ok, onApp, wp_zoom]
  refine wp_mono (wp_and (AppLayer.wp_sendUnsolicited (f := { f with iin := _ }) hc.consistent hup
    hc.outstation hidle hfunction ?_ ?_ ?_)
    (stable_sendUnsolicited_couples (p := 0 ≤ (s.mpAppLayer.channel false).mSequence) rfl
      { f with iin := _ } s.mpAppLayer ⟨hchange, id⟩)) (fun _ t ht ↦ ?_) fun _ _ he ↦ he.1
  · rw [hcontrol]
  · rw [hcontrol]
  · rw [hcontrol]
  · refine ⟨ht.2.1, trivial, hq _ _ (.of_conditions _ (fun h ↦ ?_) (fun h ↦ ?_) ht.2.2 id)
      hs.ledger⟩
    · exact Bool.noConfusion h
    · exact AS.noConfusion h

theorem wp_idleOnDataUpdate (hq : Quietly V) (hs : In (· = .idle) V s) :
    wp (idleOnDataUpdate env) (fun _ t ↦ Keeps V t) (fun _ _ ↦ False) s := by
  have hflush : wp (flushUpdates env : M ν ρ Unit) (fun _ t ↦ In (· = .idle) V t)
    (fun _ _ ↦ False) s := hs
  rw [idleOnDataUpdate, wp_bind]
  refine wp_mono hflush (fun _ t ht ↦ ?_) fun _ _ he ↦ he
  have hkeep : Keeps V t := ht.mono (fun _ ↦ trivial) id
  rw [wp_bind, wp_get]
  split
  · split
    · exact wp_startUnsolicited hq ht _
    · split
      · next htimer =>
        rw [startUnsolTimer, wp_bind, wp_get, wp_bind, wp_ensure_of (by simpa using htimer)]
        exact hkeep
      · exact hkeep
  · exact hkeep

theorem wp_idleOnUnsolExpiration (hq : Quietly V) (hs : In (· = .idle) V s) :
    wp (idleOnUnsolExpiration env) (fun _ t ↦ Keeps V t) (fun _ _ ↦ False) s := by
  rw [idleOnUnsolExpiration, wp_bind, wp_get]
  split
  · split
    · exact wp_startUnsolicited hq hs _
    · exact (hs.mono (fun _ ↦ trivial) id : Keeps V s)
  · exact wp_startUnsolicited hq hs _

theorem wp_flushDeferredUpdate (hq : Quietly V) (hs : Keeps V s) :
    wp (flushDeferredUpdate env) (fun _ t ↦ Keeps V t) (fun _ _ ↦ False) s := by
  rw [flushDeferredUpdate, wp_bind, wp_get]
  split
  · next hidle =>
    rw [wp_bind, wp_modify]
    exact wp_idleOnDataUpdate hq ⟨hs.couples, hidle.1, hs.ledger⟩
  · exact hs

theorem wp_flushDeferredUnsol (hq : Quietly V) (hs : Keeps V s) :
    wp (flushDeferredUnsol env) (fun _ t ↦ Keeps V t) (fun _ _ ↦ False) s := by
  rw [flushDeferredUnsol, wp_bind, wp_get]
  split
  · next hidle =>
    rw [wp_bind, wp_modify]
    exact wp_idleOnUnsolExpiration hq ⟨hs.couples, hidle.1, hs.ledger⟩
  · exact hs

/-! ## Callbacks -/

/-- The slave stops waiting for a channel that has become idle. -/
theorem wp_release (hq : Quietly V) (hs : Keeps V s) {st st' : AS} (hst : s.mpState = st) {u : Bool}
    (hidle : (s.mpAppLayer.channel u).mpState = .idle)
    (h : st ≠ .closed ∧ st' ≠ .closed ∧ st'.waits (!u) = st.waits (!u) ∧
      (st'.isResponding = true → st.isResponding = true)) :
    wp (changeState st' : M ν ρ Unit) (fun _ t ↦ Keeps V t) (fun _ _ ↦ False) s := by
  obtain ⟨hopen, hopen', hother, hresponding⟩ := h
  refine ⟨hs.couples.change (hst ▸ hopen) hopen' fun v hv ↦ ?_, trivial,
    hq _ _ (.of_conditions _ (fun h ↦ ?_) (fun h ↦ absurd h hopen') id id) hs.ledger⟩
  · by_cases hvu : v = u
    · exact .inr (hvu ▸ hidle)
    · obtain rfl : v = !u := by cases v <;> cases u <;> simp_all
      exact .inl (by rw [hst, ← hother, hv])
  · exact (congrArg AS.isResponding hst).trans (hresponding h)

section Callbacks

variable [SetpointValue ν] (hq : Quietly V)
  (hreq : ∀ s : Slave ν ρ, Keeps V s →
    wp (flushDeferredRequest env) (fun _ t ↦ Keeps V t) (fun _ t ↦ Keeps W t) s)

include hq hreq

theorem wp_flushDeferredEvents (hs : Keeps V s) :
    wp (flushDeferredEvents env) (fun _ t ↦ Keeps V t) (fun _ t ↦ Keeps W t) s := by
  rw [flushDeferredEvents, wp_bind]
  refine wp_mono (wp_flushDeferredUpdate hq hs) (fun _ t ht ↦ ?_) fun _ _ he ↦ he.elim
  rw [wp_bind]
  refine wp_mono (hreq t ht) (fun _ u hu ↦ ?_) fun _ _ he ↦ he
  exact wp_mono (wp_flushDeferredUnsol hq hu) (fun _ _ h ↦ h) fun _ _ he ↦ he.elim

/-- Every callback ends with the events that were deferred. -/
theorem wp_callback {x : M ν ρ Unit} (hx : wp x (fun _ t ↦ Keeps V t) (fun _ t ↦ Keeps W t) s) :
    wp (do x; flushDeferredEvents env) (fun _ t ↦ Keeps V t) (fun _ t ↦ Keeps W t) s := by
  rw [wp_bind]
  exact wp_mono hx (fun _ _ ht ↦ wp_flushDeferredEvents hq hreq ht) fun _ _ he ↦ he

theorem wp_onDataUpdate (hs : Keeps V s) :
    wp (onDataUpdate env) (fun _ t ↦ Keeps V t) (fun _ t ↦ Keeps W t) s := by
  refine wp_callback hq hreq ?_
  rw [stateOnDataUpdate, wp_bind, wp_get]
  split
  · exact hs
  · next hidle =>
    exact wp_mono (wp_idleOnDataUpdate hq ⟨hs.couples, hidle, hs.ledger⟩) (fun _ _ h ↦ h)
      fun _ _ he ↦ he.elim
  · exact hs

theorem wp_onUnsolTimerExpiration (hs : Keeps V s) :
    wp (onUnsolTimerExpiration env) (fun _ t ↦ Keeps V t) (fun _ t ↦ Keeps W t) s := by
  rw [onUnsolTimerExpiration, wp_bind, wp_modify]
  refine wp_callback hq hreq ?_
  rw [stateOnUnsolExpiration, wp_bind, wp_get]
  split
  · next hidle =>
    exact wp_mono (wp_idleOnUnsolExpiration hq ⟨hs.couples, hidle, hs.ledger⟩) (fun _ _ h ↦ h)
      fun _ _ he ↦ he.elim
  · exact hs

/-- The link is up: the layer is, and the slave is about to leave its closed state. -/
theorem wp_onLowerLayerUp (hst : s.mpState = .closed) (hc : Couples s.mpAppLayer .idle)
    (hV : V s.ledger) :
    wp (onLowerLayerUp env) (fun _ t ↦ Keeps V t) (fun _ t ↦ Keeps W t) s := by
  have hidle (t : Slave ν ρ) (ht : Couples t.mpAppLayer .idle ∧ V t.ledger) :
      wp (changeState .idle : M ν ρ Unit) (fun _ t ↦ Keeps V t) (fun _ t ↦ Keeps W t) t :=
    ⟨ht.1, trivial, hq _ _ (.of_conditions _ (fun h ↦ Bool.noConfusion h)
      (fun h ↦ AS.noConfusion h) id id) ht.2⟩
  refine wp_callback hq hreq ?_
  rw [stateOnLowerLayerUp, wp_bind, wp_get, wp_bind, wp_ensure_of hst]
  split
  · split
    · exact hidle _ ⟨hc, hV⟩
    · exact hidle _ ⟨hc, hV⟩
  · exact hidle _ ⟨hc, hV⟩

/-- **The response was sent**, and confirmed if it had to be. -/
theorem wp_onSolSendSuccess (hrespond : ∀ a, a.responding → V a → V (a.note .respond))
    (hVW : ∀ a, V a → W a) (hs : Keeps V s) (hidle : (s.mpAppLayer.channel false).mpState = .idle)
    (hwait : s.mpState.isResponding = true) :
    wp (onSolSendSuccess env) (fun _ t ↦ Keeps V t) (fun _ t ↦ Keeps W t) s := by
  refine wp_callback hq hreq ?_
  rw [stateOnSolSendSuccess, wp_bind, wp_get]
  split
  · next hst =>
    have hclear : wp (clearWritten env : M ν ρ Unit)
        (fun _ t ↦ Keeps V t ∧ t.mpState = .waitForRspSuccess ∧
          (t.mpAppLayer.channel false).mpState = .idle) (fun _ _ ↦ False) s := ⟨hs, hst, hidle⟩
    rw [wp_bind]
    refine wp_mono hclear (fun _ t ht ↦ ?_) fun _ _ he ↦ he.elim
    obtain ⟨ht, hst, hidle⟩ := ht
    rw [wp_bind, wp_get]
    split
    · exact wp_mono (wp_release hq ht hst hidle (by decide)) (fun _ _ h ↦ h) fun _ _ he ↦ he.elim
    · refine wp_mono (stable_bind (stable_loadResponse hq env) (fun _ ↦
        stable_send (T := (· = .waitForRspSuccess)) (fun _ h ↦ h ▸ rfl) hq hrespond) _
        ⟨ht.couples, hst, ht.ledger⟩) (fun _ t ht ↦ ?_) fun _ t ht ↦ ?_
      · exact ht.mono (fun _ ↦ trivial) id
      · exact ht.mono (fun _ ↦ trivial) (hVW _)
  · next hst =>
    exact wp_mono (wp_release hq hs hst hidle (by decide)) (fun _ _ h ↦ h) fun _ _ he ↦ he.elim
  · next h1 h2 =>
    revert hwait h1 h2
    cases s.mpState <;> simp [AS.isResponding]

/-- The response was not sent, or not confirmed, or it was canceled. -/
theorem wp_onSolFailure (hs : Keeps V s) (hidle : (s.mpAppLayer.channel false).mpState = .idle)
    (hwait : s.mpState.isResponding = true) :
    wp (onSolFailure env) (fun _ t ↦ Keeps V t) (fun _ t ↦ Keeps W t) s := by
  refine wp_callback hq hreq ?_
  rw [stateOnSolFailure, wp_bind, wp_get]
  split
  · next hst =>
    rw [wp_bind]
    exact wp_mono (wp_release hq hs hst hidle (by decide)) (fun _ _ h ↦ h) fun _ _ he ↦ he.elim
  · next hst =>
    exact wp_mono (wp_release hq hs hst hidle (by decide)) (fun _ _ h ↦ h) fun _ _ he ↦ he.elim
  · next h1 h2 =>
    revert hwait h1 h2
    cases s.mpState <;> simp [AS.isResponding]

theorem wp_onUnsolSendSuccess (hs : Keeps V s)
    (hidle : (s.mpAppLayer.channel true).mpState = .idle) (hwait : s.mpState.isReporting = true) :
    wp (onUnsolSendSuccess env) (fun _ t ↦ Keeps V t) (fun _ t ↦ Keeps W t) s := by
  refine wp_callback hq hreq ?_
  rw [stateOnUnsolSendSuccess, wp_bind, wp_get]
  split
  · next hst =>
    rw [wp_bind]
    exact wp_mono (wp_release hq hs hst hidle (by decide)) (fun _ _ h ↦ h) fun _ _ he ↦ he.elim
  · next hst =>
    rw [wp_bind]
    exact wp_mono (wp_release hq hs hst hidle (by decide)) (fun _ _ h ↦ h) fun _ _ he ↦ he.elim
  · next h1 h2 =>
    revert hwait h1 h2
    cases s.mpState <;> simp [AS.isReporting]

theorem wp_onUnsolFailure (hVW : ∀ a, V a → W a) (hs : Keeps V s)
    (hidle : (s.mpAppLayer.channel true).mpState = .idle) (hwait : s.mpState.isReporting = true) :
    wp (onUnsolFailure env) (fun _ t ↦ Keeps V t) (fun _ t ↦ Keeps W t) s := by
  have htimer {t : Slave ν ρ} (ht : Keeps V t) :
      wp (startUnsolTimer : M ν ρ Unit) (fun _ t ↦ Keeps V t) (fun _ t ↦ Keeps W t) t := by
    rw [startUnsolTimer, wp_bind, wp_get, wp_bind, wp_ensure]
    split
    · exact ht
    · exact ht.mono id (hVW _)
  have hreset {t : Slave ν ρ} (ht : Keeps V t) : Keeps V { t with
      mRspContext := env.rspContext.reset t.mRspContext } := ht
  refine wp_callback hq hreq ?_
  rw [stateOnUnsolFailure, wp_bind, wp_get]
  split
  · next hst =>
    rw [wp_bind]
    refine wp_mono (wp_release hq hs hst hidle (by decide)) (fun _ t ht ↦ ?_) fun _ _ he ↦ he.elim
    exact htimer (hreset ht)
  · next hst =>
    rw [wp_bind]
    refine wp_mono (wp_release hq hs hst hidle (by decide)) (fun _ t ht ↦ ?_) fun _ _ he ↦ he.elim
    rw [wp_bind, resetRspContext, wp_modify, wp_bind, wp_get]
    split
    · exact htimer (hreset ht)
    · exact wp_onUnsolTimerExpiration hq hreq (hreset ht)
  · next h1 h2 =>
    revert hwait h1 h2
    cases s.mpState <;> simp [AS.isReporting]

/-- **The link goes up.** -/
theorem wp_lowerLayerUp (hs : Keeps V s) (hlink : s.mpAppLayer.mIsLowerLayerUp = false) :
    wp ((station env).callBack AppLayer.onLowerLayerUp) (fun _ t ↦ Keeps V t)
      (fun _ t ↦ Keeps W t) s := by
  have hst : s.mpState = .closed := by
    by_contra hopen
    exact Bool.noConfusion (hlink.symm.trans (hs.couples.up.mpr hopen))
  rw [Station.callBack, wp_bind, Station.onApp, wp_zoom]
  refine wp_mono (AppLayer.wp_onLowerLayerUp hs.couples.consistent hlink) (fun call a ha ↦ ?_)
    fun _ _ he ↦ he.elim
  obtain ⟨rfl, hconsistent, rfl⟩ := ha
  refine wp_onLowerLayerUp hq hreq hst ⟨hconsistent, hs.couples.outstation, ?_, hs.couples.request,
    fun u _ ↦ ?_⟩ hs.ledger
  · exact ⟨fun _ h ↦ AS.noConfusion h, fun _ ↦ rfl⟩
  · refine hs.couples.free u ?_
    rw [hst]
    cases u <;> rfl

end Callbacks

/-! ## Requests

A request is executed at once, or waits until the response before it has been sent. In either
case it is executed at most once. -/

/-- **A property of the ledger that every change of it keeps**: `P` between requests, and `Q r` with
the request `r` in hand. -/
structure RequestInvariant (ν : Type) {ρ υ : Type} [SetpointValue ν] (env : Environment ρ υ)
    (P : Ledger → Prop) (Q : Request → Ledger → Prop) : Prop where
  quiet : Quietly P
  quietIn : ∀ r, Quietly (Q r)
  respond : ∀ a, a.responding → P a → P (a.note .respond)
  defer : ∀ r a, Q r a → P { a with deferred := some r }
  drop : ∀ r a, Q r a → Q r { a with deferred := none }
  take : ∀ r a, a.deferred = some r → P a → Q r { a with deferred := none }
  serve : ∀ r next (s : Slave ν ρ), Ready s.mpState next → s.mpState.isResponding = false →
    Couples s.mpAppLayer s.mpState → Q r s.ledger →
    wp (doRequest env next r) (fun _ t ↦ Keeps P t) (fun _ t ↦ Keeps P t) s
  /-- The deferred request is executed with another one in hand. -/
  nested : ∀ r (s : Slave ν ρ), Keeps (Q r) s →
    wp (flushDeferredRequest env) (fun _ t ↦ Keeps (Q r) t) (fun _ t ↦ Keeps P t) s
  unknown : ∀ a, P a → P (a.receive none)
  answerUnknown : ∀ a n, P a → a.received[n]? = some ⟨none, a.connection⟩ →
    P { a with executing := n, responding := True }

namespace RequestInvariant

variable [SetpointValue ν] {P : Ledger → Prop} {Q : Request → Ledger → Prop}
  (h : RequestInvariant ν env P Q)

include h

theorem flushDeferredRequest (hs : Keeps P s) :
    wp (flushDeferredRequest env) (fun _ t ↦ Keeps P t) (fun _ t ↦ Keeps P t) s := by
  rw [Slave.flushDeferredRequest, wp_bind, wp_get]
  split
  · next r hst hr =>
    rw [wp_bind, wp_modify]
    refine h.serve r .waitForRspSuccess _ ⟨rfl, ?_, ?_⟩ ?_ hs.couples (h.take r _ hr hs.ledger)
    · rw [hst]
      rfl
    · rw [hst]
      decide
    · rw [hst]
      rfl
  · exact hs

/-- **A request is executed or deferred.** -/
theorem onRequest {r : Request} (hs : Keeps (Q r) s) (hopen : s.mpState ≠ .closed)
    (hlose : s.mpState = .waitForRspSuccess → (s.mpAppLayer.channel false).mpState = .idle →
      P s.ledger) :
    wp (onRequest env r) (fun _ t ↦ Keeps P t) (fun _ t ↦ Keeps P t) s := by
  have hdefer {t : Slave ν ρ} (ht : Keeps (Q r) t) :
      wp (deferRequest r : M ν ρ Unit) (fun _ t ↦ Keeps P t) (fun _ t ↦ Keeps P t) t :=
    ⟨ht.couples, trivial, h.defer r _ ht.ledger⟩
  refine wp_callback h.quiet (fun t ht ↦ h.flushDeferredRequest ht) ?_
  rw [stateOnRequest, wp_bind, wp_get]
  split
  · exact absurd ‹_› hopen
  · next hst =>
    exact h.serve r _ s ⟨rfl, by rw [hst]; rfl, hopen⟩ (by rw [hst]; rfl) hs.couples hs.ledger
  · next hst =>
    have hwait : s.mpState.isResponding = true := by rw [hst]; rfl
    rw [wp_bind, cancelResponse, wp_bind, onApp, wp_zoom]
    refine wp_mono (wp_cancel_couples (p := 0 ≤ (s.mpAppLayer.channel false).mSequence) hwait
      ⟨hs.couples, id⟩) (fun call a ha ↦ ?_) fun _ a ha ↦ ?_
    · obtain ⟨ha, hcall⟩ := ha
      have ht : Keeps (Q r) { s with mpAppLayer := a } :=
        ⟨ha.1, trivial, h.quietIn r _ _ (.of_conditions _ id id ha.2 id) hs.ledger⟩
      rcases hcall with rfl | ⟨rfl, hidle⟩
      · exact hdefer ht
      · exact wp_mono (wp_onSolFailure (h.quietIn r) (h.nested r) ht hidle hwait)
          (fun _ _ hu ↦ hdefer hu) fun _ _ he ↦ he
    · obtain ⟨rfl, hidle⟩ := ha
      exact ⟨hs.couples, trivial, hlose hst hidle⟩
  · next hst =>
    split
    · obtain ⟨hc, hn⟩ := stable_cancelRetries_couples
        (p := 0 ≤ (s.mpAppLayer.channel false).mSequence) _ ⟨hs.couples, id⟩
      exact hdefer ⟨hc, trivial, h.quietIn r _ _ (.of_conditions _ id id hn id) hs.ledger⟩
    · rw [wp_bind, wp_modify]
      refine h.serve r _ _ ⟨rfl, ?_, hopen⟩ ?_ hs.couples (h.drop r _ hs.ledger)
      · rw [hst]
        rfl
      · rw [hst]
        rfl
  · exact hdefer hs

/-- A request with an unknown object is answered, or it is not. -/
theorem onUnknownObject {n : ℕ} (hs : Keeps P s)
    (hn : s.received[n]? = some ⟨none, s.connection⟩) :
    wp (onUnknownObject env n) (fun _ t ↦ Keeps P t) (fun _ t ↦ Keeps P t) s := by
  refine wp_callback h.quiet (fun t ht ↦ h.flushDeferredRequest ht) ?_
  rw [stateOnUnknown, wp_bind, wp_get]
  split
  · next hst =>
    have hV : Quietly fun a ↦ P { a with responding := True } := fun a b hab ↦
      h.quiet _ _ ⟨hab.deferred, hab.last, hab.received, hab.connection, hab.executing, hab.history,
        fun _ ↦ trivial, hab.closed, hab.numbered, hab.answers⟩
    have hhandle : Stable (In (· = .idle) fun a ↦ P { a with responding := True })
        (handleUnknown : M ν ρ Unit) :=
      stable_bind (fun t ht ↦ ⟨ht.couples, ht.state,
        hV _ _ (.of_conditions _ id id id fun _ ↦ ⟨rfl, rfl⟩) ht.ledger⟩) fun _ _ ht ↦ ht
    rw [wp_bind, wp_modify, wp_bind]
    refine wp_mono (hhandle _ ⟨hs.couples, hst, h.answerUnknown s.ledger n hs.ledger hn⟩)
      (fun _ t ht ↦ ?_)
      fun _ t ht ↦ ?_
    · have hchange : wp (changeState .waitForRspSuccess : M ν ρ Unit)
          (fun _ t ↦ In (· = .waitForRspSuccess) P t) (fun _ _ ↦ False) t := by
        refine ⟨ht.couples.change (by rw [ht.state]; decide) (fun hc ↦ AS.noConfusion hc)
          (fun u hu ↦ ?_), rfl, h.quiet { t.ledger with responding := True } _
            ⟨rfl, rfl, rfl, rfl, rfl,
            rfl, fun _ ↦ trivial, fun hc ↦ AS.noConfusion hc, id, id⟩ ht.ledger⟩
        cases u with
        | false => exact Bool.noConfusion hu
        | true => exact .inl (by rw [ht.state]; rfl)
      rw [wp_bind]
      refine wp_mono hchange (fun _ u hu ↦ ?_) fun _ _ he ↦ he.elim
      refine wp_mono (stable_send (T := (· = .waitForRspSuccess)) (fun _ h ↦ h ▸ rfl) h.quiet
        h.respond u hu) (fun _ _ hv ↦ ?_) fun _ _ hv ↦ ?_
      · exact hv.mono (fun _ ↦ trivial) id
      · exact hv.mono (fun _ ↦ trivial) id
    · refine ht.mono (fun _ ↦ trivial) (h.quiet { t.ledger with responding := True } _
        ⟨rfl, rfl, rfl, rfl, rfl, rfl, fun _ ↦ trivial, id, id, id⟩)
  · exact hs

/-! ### Events -/

/-- What the slave has to know of a request that it is handed. -/
structure Accepts (P : Ledger → Prop) (Q : Request → Ledger → Prop) (s : Slave ν ρ) (r : APDU)
    (aSeqInfo : SequenceInfo) : Prop where
  notClosed : s.mpState ≠ .closed
  inHand : Q ⟨r, aSeqInfo, s.received.length⟩ (s.ledger.receive (some r))
  /-- A slave that waits for a response that was never sent refuses the request. -/
  lose : s.mpState = .waitForRspSuccess → (s.mpAppLayer.channel false).mpState = .idle →
    P (s.ledger.receive (some r))

/-- The application layer has done something that is no concern of the ledger. -/
theorem post {a : AppLayer (List Byte)} {call : Option UserCall} (hs : Keeps P s)
    (hp : AppLayer.Post s.mpAppLayer call a) : Keeps P { s with mpAppLayer := a } :=
  ⟨hs.couples.post hp, trivial,
    h.quiet _ _ (.of_conditions _ id id hp.keeps.sequence id) hs.ledger⟩

/-- **The calls of the application layer.** -/
theorem user {a : AppLayer (List Byte)} {call : UserCall} (hs : Keeps P s)
    (hp : AppLayer.Post s.mpAppLayer (some call) a)
    (hreq : ∀ r aSeqInfo, call = .onRequest r aSeqInfo → Accepts P Q s r aSeqInfo) :
    wp (user env call) (fun _ t ↦ Keeps P t) (fun _ t ↦ Keeps P t) { s with mpAppLayer := a } := by
  have ht := h.post hs hp
  have hflush := fun t ht ↦ h.flushDeferredRequest (s := t) ht
  have hwaits {u : Bool} (hu : (s.mpAppLayer.channel u).mpState.use ≠ .nothing) :
      s.mpState.waits u = true := by
    rw [← Bool.not_eq_false]
    intro hw
    exact hu (ACS.use_eq_nothing.mpr (hs.couples.free u hw))
  have hcalled := hp.called
  cases call with
  | onLowerLayerUp => exact hcalled.elim
  | onLowerLayerDown => exact hcalled.elim
  | onSendSuccess u =>
    have hu : (s.mpAppLayer.channel u).mpState.use ≠ .nothing := by
      rcases hcalled.1 with hu | hu
      · rw [hu]; exact fun h ↦ ACS.Use.noConfusion h
      · rw [hu]; exact fun h ↦ ACS.Use.noConfusion h
    have hidle := ACS.use_eq_nothing.mp hcalled.2.1
    cases u with
    | true => exact wp_onUnsolSendSuccess h.quiet hflush ht hidle (hwaits hu)
    | false => exact wp_onSolSendSuccess h.quiet hflush h.respond (fun _ ↦ id) ht hidle (hwaits hu)
  | onFailure u =>
    have hidle := ACS.use_eq_nothing.mp hcalled.2.1
    cases u with
    | true => exact wp_onUnsolFailure h.quiet hflush (fun _ ↦ id) ht hidle (hwaits hcalled.1)
    | false => exact wp_onSolFailure h.quiet hflush ht hidle (hwaits hcalled.1)
  | onRequest r aSeqInfo =>
    obtain ⟨-, -, hseq, huse⟩ := hcalled
    have hr := hreq r aSeqInfo rfl
    rw [Slave.user, wp_bind, arrive, wp_bind, wp_get, wp_bind, wp_modify, wp_pure]
    refine h.onRequest ⟨ht.couples, trivial, ?_⟩ hr.notClosed fun hst hidle ↦ ?_
    · exact h.quietIn _ _ _ (.of_conditions _ id id (fun _ ↦ hseq) id) hr.inHand
    · have hidle' : (s.mpAppLayer.channel false).mpState = .idle :=
        ACS.use_eq_nothing.mp ((huse false).symm.trans (ACS.use_eq_nothing.mpr hidle))
      exact h.quiet _ _ (.of_conditions _ id id (fun _ ↦ hseq) id) (hr.lose hst hidle')
  | onUnknownObject =>
    rw [Slave.user, wp_bind, arrive, wp_bind, wp_get, wp_bind, wp_modify, wp_pure]
    refine h.onUnknownObject ⟨ht.couples, trivial, ?_⟩ ?_
    · exact h.quiet _ _ (.of_conditions _ id id (fun _ ↦ hcalled.2.1) id) (h.unknown _ hs.ledger)
    · exact List.getElem?_concat_length
  | _ => exact ht

/-- An operation of the layer, and the call that it makes. -/
theorem callBack {x : AppLayer.M (List Byte) (Option UserCall)} (hs : Keeps P s)
    (hx : wp x (fun call a ↦ AppLayer.Post s.mpAppLayer call a ∧
        ∀ r aSeqInfo, call = some (.onRequest r aSeqInfo) → Accepts P Q s r aSeqInfo)
      (fun _ a ↦ AppLayer.Post s.mpAppLayer none a) s.mpAppLayer) :
    wp ((station env).callBack x) (fun _ t ↦ Keeps P t) (fun _ t ↦ Keeps P t) s := by
  rw [Station.callBack, wp_bind, Station.onApp, wp_zoom]
  refine wp_mono hx (fun call a ha ↦ ?_) fun _ a ha ↦ h.post hs ha
  cases call with
  | none => exact h.post hs ha.1
  | some call => exact h.user hs ha.1 fun r i hc ↦ ha.2 r i (congrArg some hc)

/-- An operation that does not hand up a request. -/
theorem callBack_of_handsNoRequest {x : AppLayer.M (List Byte) (Option UserCall)} (hs : Keeps P s)
    (hx : wp x (fun call a ↦ AppLayer.Post s.mpAppLayer call a)
      (fun _ a ↦ AppLayer.Post s.mpAppLayer none a) s.mpAppLayer)
    (hno : AppLayer.HandsNoRequest x) :
    wp ((station env).callBack x) (fun _ t ↦ Keeps P t) (fun _ t ↦ Keeps P t) s := by
  refine h.callBack hs (wp_mono (wp_and hx (hno _)) (fun call a ha ↦ ⟨ha.1, fun r i hc ↦ ?_⟩)
    fun _ a ha ↦ ha.1)
  subst hc
  exact ha.2.elim

/-- The link goes down. -/
theorem lowerLayerDown (hs : Keeps P s) (hlink : s.mpAppLayer.mIsLowerLayerUp = true)
    (hdown : P s.ledger.disconnect) :
    wp ((station env).callBack AppLayer.onLowerLayerDown) (fun _ t ↦ Keeps P t)
      (fun _ t ↦ Keeps P t) s := by
  rw [Station.callBack, wp_bind, Station.onApp, wp_zoom]
  refine wp_mono (AppLayer.wp_onLowerLayerDown hlink) (fun call a ha ↦ ?_) fun _ _ he ↦ he.elim
  obtain ⟨rfl, ha⟩ := ha
  have hclosed : Couples a .closed := by
    refine ⟨ha.consistent, ha.isMaster.trans hs.couples.outstation, ⟨fun hup ↦ ?_, fun hc ↦ ?_⟩,
      fun u hu ↦ ?_, fun u _ ↦ ha.idle u⟩
    · exact Bool.noConfusion (ha.down.symm.trans hup)
    · exact absurd rfl hc
    · rw [ha.idle u] at hu
      exact ACS.Use.noConfusion hu
  change wp (onLowerLayerDown env) _ _ _
  rw [onLowerLayerDown, wp_bind, wp_modify]
  refine wp_callback h.quiet (fun t ht ↦ h.flushDeferredRequest ht) ?_
  rw [stateOnLowerLayerDown, wp_bind, wp_get, wp_bind, wp_ensure]
  refine (if_pos (hs.couples.up.mp hlink)).mpr ?_
  exact ⟨hclosed, trivial, h.quiet s.ledger.disconnect _ ⟨rfl, rfl, rfl, rfl, rfl, rfl,
    fun hr ↦ Bool.noConfusion hr, fun _ ↦ trivial, False.elim, id⟩ hdown⟩

/-- A received fragment. -/
theorem receive (hs : Keeps P s) (apData : List Byte)
    (haccept : ∀ r, s.mpAppLayer.Takes apData r → s.mpState ≠ .closed →
      Accepts P Q s r (s.mpAppLayer.sequenceInfo r)) :
    wp ((station env).onReceive apData) (fun _ t ↦ Keeps P t) (fun _ t ↦ Keeps P t) s := by
  rw [Station.onReceive, wp_bind, wp_get, wp_bind, wp_ensure]
  split
  · next hup =>
    have hopen := hs.couples.up.mp hup
    rw [wp_tryCatch, wp_bind]
    refine wp_mono (h.callBack hs (wp_mono (wp_and
      (AppLayer.wp_receive hs.couples.consistent apData) (AppLayer.wp_receive_takes apData _))
      (fun call a ha ↦ ⟨ha.1, fun r i hc ↦ ?_⟩) fun _ a ha ↦ ha.1.2)) (fun _ t ht ↦ ht)
      fun ex t ht ↦ ?_
    · obtain ⟨htakes, rfl⟩ := ha.2 r i hc
      exact haccept r htakes hopen
    · split
      · rw [wp_bind]
        exact h.callBack_of_handsNoRequest ht
          (wp_mono (AppLayer.wp_catchObject ht.couples.consistent
          apData) (fun _ _ ha ↦ ha) fun _ _ ha ↦ ha.2) (.catchObject apData)
      · split
        · exact ht
        · exact ht
  · exact hs

/-- The result of a send. -/
theorem sendResult (hs : Keeps P s) (aSuccess : Bool) :
    wp ((station env).callBack (AppLayer.onSendResult aSuccess)) (fun _ t ↦ Keeps P t)
      (fun _ t ↦ Keeps P t) s := by
  refine h.callBack_of_handsNoRequest hs ?_ (.onSendResult aSuccess)
  by_cases hsending : s.mpAppLayer.mSending = true
  · exact wp_mono (AppLayer.wp_onSendResult hs.couples.consistent hsending aSuccess)
      (fun _ _ ha ↦ ha) fun _ _ he ↦ he.elim
  · rw [AppLayer.onSendResult, wp_bind, wp_get, wp_bind, wp_ensure, if_neg hsending]
    exact AppLayer.Post.none hs.couples.consistent

/-- **Every event keeps the property.** -/
theorem handle (hs : Keeps P s) (e : SlaveEvent υ)
    (haccept : ∀ apData r, e = .app (.receive apData) → s.mpAppLayer.Takes apData r →
      s.mpState ≠ .closed → Accepts P Q s r (s.mpAppLayer.sequenceInfo r))
    (hdown : e = .app .lowerLayerDown → P s.ledger.disconnect) :
    wp (handle env e) (fun _ t ↦ Keeps P t) (fun _ t ↦ Keeps P t) s := by
  have hflush := fun t ht ↦ h.flushDeferredRequest (s := t) ht
  cases e with
  | app e =>
    rw [Slave.handle, wp_bind]
    cases e with
    | lowerLayerUp =>
      rw [Station.handle, wp_bind]
      cases hlink : s.mpAppLayer.mIsLowerLayerUp with
      | false => exact wp_lowerLayerUp h.quiet hflush hs hlink
      | true =>
        refine h.callBack hs ?_
        rw [AppLayer.onLowerLayerUp, wp_bind, wp_get, wp_bind, wp_ensure,
          if_neg (by simp [hlink])]
        exact AppLayer.Post.none hs.couples.consistent
    | lowerLayerDown =>
      rw [Station.handle, wp_bind]
      cases hlink : s.mpAppLayer.mIsLowerLayerUp with
      | true => exact h.lowerLayerDown hs hlink (hdown rfl)
      | false =>
        refine h.callBack hs ?_
        rw [AppLayer.onLowerLayerDown, wp_bind, wp_get, wp_bind, wp_ensure,
          if_neg (by simp [hlink])]
        exact AppLayer.Post.none hs.couples.consistent
    | sendResult aSuccess =>
      rw [Station.handle, wp_bind]
      refine wp_mono (h.sendResult hs aSuccess) (fun _ t ht ↦ ?_) fun _ _ ht ↦ ht
      rw [wp_bind, Station.onApp, wp_zoom]
      exact wp_mono (AppLayer.wp_checkForSend ht.couples.consistent) (fun _ a ha ↦ h.post ht ha)
        fun _ _ he ↦ he.elim
    | receive apData => exact h.receive hs apData fun r hr hopen ↦ haccept apData r rfl hr hopen
    | timeout u =>
      rw [Station.handle, wp_bind, wp_get]
      split
      · next htimer =>
        rw [wp_bind]
        exact h.callBack_of_handsNoRequest hs (wp_mono
          (AppLayer.wp_timeout hs.couples.consistent htimer) (fun _ _ ha ↦ ha) fun _ _ he ↦ he.elim)
          (.timeout u)
      · exact hs
  | update aUpdate => exact hs
  | onDataUpdate => exact wp_onDataUpdate h.quiet hflush hs
  | unsolTimer =>
    rw [Slave.handle, wp_bind, wp_get]
    split
    · exact wp_onUnsolTimerExpiration h.quiet hflush hs
    · exact hs
  | timeTimer =>
    rw [Slave.handle, wp_bind, wp_get]
    split
    · exact hs
    · exact hs

end RequestInvariant

end Slave

end OpenDNP3
