import OpenDNP3.Lib.Run
import OpenDNP3.Slave.LedgerRun
import OpenDNP3.Slave.Selection

/-!
# What survives a disconnect

When the link goes down, the slave forgets what it was waiting for, but not the request that it has
deferred.  It executes that request as soon as the link is up again, and the exception of its
answer, which has no sequence number to answer with, comes out of `OnLowerLayerUp`: this is
`deferred_request_survives`.

`Slave.nothing_survives` says that this is the only way: if no request is deferred when the link
goes down, whatever the slave does is done for a request that it has received over the same
connection, and `OnLowerLayerUp` does not throw.
-/

set_option autoImplicit false

namespace OpenDNP3

open Handler

namespace Ledger

/-! ## Requests of a connection -/

/-- The request with the given number was received over this connection. -/
def From (a : Ledger) (n : ℕ) : Prop := a.received[n]?.map (·.connection) = some a.connection

/-- **Whatever was done was done over the connection that the request was received over.** -/
structure Connected (a : Ledger) : Prop where
  history : ∀ e ∈ a.history, a.received[e.request]?.map (·.connection) = some e.connection
  deferred : ∀ r, a.deferred = some r → a.From r.number
  executing : a.responding → a.From a.executing
  closed : a.closed → a.deferred = none

/-- … with a request in hand. -/
structure Holding (n : ℕ) (a : Ledger) : Prop extends Connected a where
  hand : a.From n
  notClosed : ¬a.closed

/-- … while another request, or the same, is executed. -/
structure Executing (n : ℕ) (a : Ledger) : Prop extends Holding n a where
  current : a.From a.executing

variable {a b : Ledger} {n : ℕ}

theorem From.receive (h : a.From n) (apdu : Option APDU) : (a.receive apdu).From n := by
  rw [From] at h ⊢
  change (a.received ++ [_])[n]?.map _ = _
  rw [List.getElem?_append_left]
  · exact h
  · by_contra hn
    rw [List.getElem?_eq_none (Nat.le_of_not_lt hn)] at h
    contradiction

theorem quietly_connected : Quietly Connected := by
  rintro ⟨⟩ ⟨⟩ ⟨rfl, -, rfl, rfl, rfl, rfl, hresponding, hclosed, -, -⟩ h
  exact ⟨h.history, h.deferred, fun hr ↦ h.executing (hresponding hr),
    fun hc ↦ h.closed (hclosed hc)⟩

theorem quietly_holding (n : ℕ) : Quietly (Holding n) := by
  intro a b hq h
  refine ⟨quietly_connected a b hq h.toConnected, ?_, fun hc ↦ h.notClosed (hq.closed hc)⟩
  rw [From, hq.received, hq.connection]
  exact h.hand

theorem quietly_executing (n : ℕ) : Quietly (Executing n) := by
  intro a b hq h
  refine ⟨quietly_holding n a b hq h.toHolding, ?_⟩
  rw [From, hq.received, hq.connection, hq.executing]
  exact h.current

/-- Something is done for a request of this connection. -/
theorem Connected.note (h : Connected a) (hfrom : a.From a.executing) (aAct : SlaveAct) :
    Connected (a.note aAct) where
  history e he := by
    rcases List.mem_append.mp he with he | he
    · exact h.history e he
    · rw [List.mem_singleton.mp he]
      exact hfrom
  deferred := h.deferred
  executing := h.executing
  closed := h.closed

theorem Executing.note (h : Executing n a) (aAct : SlaveAct) : Executing n (a.note aAct) :=
  ⟨⟨h.toConnected.note h.current aAct, h.hand, h.notClosed⟩, h.current⟩

theorem serving_executing (n : ℕ) : Slave.Serving (Executing n) where
  quiet := quietly_executing n
  start _ h := ⟨⟨⟨h.history, h.deferred, fun _ ↦ h.current, h.closed⟩, h.hand, h.notClosed⟩,
    h.current⟩
  effect _ aAct _ h := h.note aAct
  respond _ _ h := h.note _

/-- A request that is received is in hand. -/
theorem Connected.receive (h : Connected a) (apdu : Option APDU) : Connected (a.receive apdu) where
  history e he := by
    have hold := h.history e he
    change (a.received ++ [_])[e.request]?.map _ = _
    rw [List.getElem?_append_left]
    · exact hold
    · by_contra hn
      rw [List.getElem?_eq_none (Nat.le_of_not_lt hn)] at hold
      contradiction
  deferred r hr := (h.deferred r hr).receive apdu
  executing hr := (h.executing hr).receive apdu
  closed := h.closed

/-- The deferred request is taken up, or lost. -/
theorem Connected.drop (h : Connected a) : Connected { a with deferred := none } where
  history := h.history
  deferred r hr := by
    change none = some r at hr
    contradiction
  executing := h.executing
  closed _ := rfl

end Ledger

namespace Slave

open Ledger

variable {ν ρ υ : Type} [SetpointValue ν] {env : Environment ρ υ} {s : Slave ν ρ}

/-! ## Every event -/

/-- A request is executed, with one in hand that was received over this connection. -/
theorem wp_doRequest_holding {next : AS} {r : Request} {n : ℕ} (hr : Ready s.mpState next)
    (hc : Couples s.mpAppLayer s.mpState) (h : Holding n s.ledger)
    (hfrom : s.ledger.From r.number) :
    wp (doRequest env next r) (fun _ t ↦ Keeps (Holding n) t)
      (fun _ t ↦ Keeps (Holding n) t) s := by
  have hstart : Executing n (s.ledger.start r) := by
    refine Executing.note (a := { s.ledger with executing := r.number }) ⟨⟨⟨h.history, h.deferred,
      fun _ ↦ hfrom, h.closed⟩, h.hand, h.notClosed⟩, hfrom⟩ _
  refine wp_mono (wp_doRequest (serving_executing n) (serving_executing n)
    (fun _ _ h ↦ h.note _) hr hc hstart) (fun _ t ht ↦ ?_) fun _ t ht ↦ ?_
  · obtain ⟨hc, a, ha, -, ht⟩ := ht
    rw [ite_self] at ha
    refine ⟨hc, trivial, ?_⟩
    rw [ht]
    exact ⟨⟨ha.history, ha.deferred, ha.executing, ha.closed⟩, ha.hand, ha.notClosed⟩
  · rw [ite_self] at ht
    exact ht.mono id Executing.toHolding

/-- **The invariant of the connection.** -/
theorem requestInvariant_connected :
    RequestInvariant ν env Connected fun r ↦ Holding r.number where
  quiet := quietly_connected
  quietIn r := quietly_holding r.number
  respond _ hr h := h.note (h.executing hr) _
  defer r a h := ⟨h.history, fun q hq ↦ Option.some.inj hq ▸ h.hand, h.executing,
    fun hc ↦ absurd hc h.notClosed⟩
  drop r a h := ⟨h.toConnected.drop, h.hand, h.notClosed⟩
  take r a hr h := by
    refine ⟨h.drop, h.deferred r hr, fun hc ↦ ?_⟩
    rw [h.closed hc] at hr
    contradiction
  serve r next s hr _ hc h := by
    refine wp_mono (wp_doRequest_holding hr hc h h.hand) (fun _ t ht ↦ ?_) fun _ t ht ↦ ?_
    · exact ht.mono id Holding.toConnected
    · exact ht.mono id Holding.toConnected
  nested r s hs := by
    rw [flushDeferredRequest, wp_bind, wp_get]
    split
    · next q hst hq =>
      rw [wp_bind, wp_modify]
      have h := hs.ledger
      refine wp_mono (wp_doRequest_holding (n := r.number) ⟨rfl, ?_, ?_⟩ hs.couples
        ⟨h.toConnected.drop, h.hand, h.notClosed⟩ (h.deferred q hq)) (fun _ _ ht ↦ ht)
        fun _ t ht ↦ ?_
      · rw [hst]
        rfl
      · rw [hst]
        decide
      · exact ht.mono id Holding.toConnected
    · exact hs
  unknown a h := h.receive none
  answerUnknown a n h hn := ⟨h.history, h.deferred, fun _ ↦ by rw [From, hn]; rfl, h.closed⟩

/-! ## Every run -/

/-- No request is deferred when the link goes down. -/
def NothingDeferredOnDown (s : Slave ν ρ) (e : SlaveEvent υ) : Prop :=
  e = .app .lowerLayerDown → s.mDeferredRequest = none

instance [DecidableEq υ] (s : Slave ν ρ) (e : SlaveEvent υ) :
    Decidable (NothingDeferredOnDown s e) :=
  inferInstanceAs (Decidable (_ → _))

theorem keeps_connected_of_step (hs : Keeps Connected s) {e : SlaveEvent υ}
    (hg : NothingDeferredOnDown s e) : Keeps Connected (exec (handle env e) s).1 := by
  refine exec_of_wp (Q := fun t _ ↦ Keeps Connected t)
    (requestInvariant_connected.handle hs e (fun apData r _ _ hopen ↦ ?_) fun he ↦ ?_)
  · have h : Holding s.received.length (s.ledger.receive (some r)) := by
      refine ⟨hs.ledger.receive _, ?_, hopen⟩
      change (s.received ++ [_])[s.received.length]?.map _ = _
      rw [List.getElem?_concat_length]
      rfl
    exact ⟨hopen, h, fun _ _ ↦ h.toConnected⟩
  · have h := hs.ledger
    refine ⟨h.history, fun r hr ↦ ?_, False.elim, fun _ ↦ hg he⟩
    change s.mDeferredRequest = some r at hr
    rw [hg he] at hr
    contradiction

/-- With nothing deferred, `OnLowerLayerUp` does not throw. -/
theorem thrown_lowerLayerUp (hs : Keeps Connected s)
    (hlink : s.mpAppLayer.mIsLowerLayerUp = false) :
    thrown env s (.app .lowerLayerUp) = none := by
  have hclosed : s.mpState = .closed := by
    by_contra hopen
    exact Bool.noConfusion (hlink.symm.trans (hs.couples.up.mpr hopen))
  have hq : Quietly fun a ↦ a.deferred = none := fun a b hab h ↦ hab.deferred.trans h
  refine exec_of_wp (Q := fun _ ex ↦ ex = none) (x := handle env (.app .lowerLayerUp)) ?_
  rw [handle, wp_bind, Station.handle, wp_bind]
  refine wp_mono (wp_lowerLayerUp (W := fun _ ↦ False) hq (fun t ht ↦ ?_)
    (hs.mono id fun h ↦ h.closed hclosed) hlink) (fun _ _ _ ↦ rfl) fun _ _ ht ↦ ht.ledger.elim
  rw [flushDeferredRequest, wp_bind, wp_get]
  split
  · next r _ hr => exact absurd (hr.symm.trans ht.ledger) (Option.some_ne_none r)
  · exact ht

/-- **No request survives a disconnect**, if none is deferred when the link goes down: whatever is
done for a request is done over the connection that it was received over, and `OnLowerLayerUp` does
not throw. -/
theorem nothing_survives {arCfg : SlaveConfig} {aFragSize aNumRetry : ℕ} {m : DNPCommandMaster ν}
    {r : ρ} {es : List (SlaveEvent υ)}
    (hguard : Run.Guarded (step env) NothingDeferredOnDown
      (new arCfg (AppLayer.new false aFragSize aNumRetry) m r) es)
    (hrun : Run.run (step env) (new arCfg (AppLayer.new false aFragSize aNumRetry) m r) es =
      some s) :
    (∀ e ∈ s.history, s.received[e.request]?.map (·.connection) = some e.connection) ∧
      (s.mpAppLayer.mIsLowerLayerUp = false → thrown env s (.app .lowerLayerUp) = none) := by
  have hs : Keeps Connected s := by
    refine Run.inv_of_guarded (fun s e t hs hg hstep ↦ ?_) ?_ hguard hrun
    · obtain rfl := Option.some.inj hstep
      exact keeps_connected_of_step hs hg
    · refine ⟨couples_new aFragSize aNumRetry, trivial, fun e he ↦ absurd he List.not_mem_nil,
        fun q hq ↦ ?_, fun hr ↦ Bool.noConfusion hr, fun _ ↦ rfl⟩
      change none = some q at hq
      contradiction
  exact ⟨hs.ledger.history, fun hlink ↦ thrown_lowerLayerUp hs hlink⟩

/-- The link goes down twice, once while the slave waits for its response. -/
def reconnects : List (SlaveEvent Unit) :=
  [.app .lowerLayerUp, .app (.receive [0xC0, 2, 80, 1, 0, 7, 7, 0]), .app .lowerLayerDown,
   .app .lowerLayerUp, .app (.receive [0xC0, 2, 80, 1, 0, 7, 7, 0]), .app (.sendResult true),
   .app .lowerLayerDown]

/-- The request of each connection is performed, and the link may go up again. -/
theorem nothing_survives_reconnects : ∃ s,
    Run.run (step accepting) twoPointSlave reconnects = some s ∧ s.history.length = 8 ∧
    (∀ e ∈ s.history, s.received[e.request]?.map (·.connection) = some e.connection) ∧
    thrown accepting s (.app .lowerLayerUp) = none := by
  obtain ⟨s, hrun⟩ : ∃ s, Run.run (step accepting) twoPointSlave reconnects = some s := ⟨_, rfl⟩
  have hend : (Run.run (step accepting) twoPointSlave reconnects).map (fun s ↦
      (s.history.length, s.mpAppLayer.mIsLowerLayerUp)) = some (8, false) := by decide +kernel
  rw [hrun] at hend
  obtain ⟨hlen, hlink⟩ := Prod.mk.inj (Option.some.inj hend)
  obtain ⟨hhistory, hup⟩ := nothing_survives (s := s) (by decide +kernel) hrun
  exact ⟨s, hrun, hlen, hhistory, hup hlink⟩

/-- A request is received while the slave waits for its last response, and the link goes down. -/
def deferredAndDown : List (SlaveEvent Unit) :=
  [.app .lowerLayerUp, .app (.receive [0xC0, 1, 60, 2, 6]),
   .app (.receive [0xC1, 2, 80, 1, 0, 7, 7, 0]), .app .lowerLayerDown]

/-- **A deferred request survives the disconnect**: `OnLowerLayerUp` throws, and has cleared the
internal indication that the `WRITE` of the last connection asked it to. -/
theorem deferred_request_survives : ∃ s t,
    Run.run (step accepting) twoPointSlave deferredAndDown = some s ∧
    s.mpAppLayer.mIsLowerLayerUp = false ∧ thrown accepting s (.app .lowerLayerUp) ≠ none ∧
    step accepting s (.app .lowerLayerUp) = some t ∧
    t.received[1]?.map (·.connection) = some 0 ∧ ⟨1, 1, .clearIIN 7⟩ ∈ t.history := by
  obtain ⟨s, hrun⟩ : ∃ s, Run.run (step accepting) twoPointSlave deferredAndDown = some s :=
    ⟨_, rfl⟩
  obtain ⟨t, hstep⟩ : ∃ t, step accepting s (.app .lowerLayerUp) = some t := ⟨_, rfl⟩
  have hs : (Run.run (step accepting) twoPointSlave deferredAndDown).map (fun s ↦
      (s.mpAppLayer.mIsLowerLayerUp, (thrown accepting s (.app .lowerLayerUp)).isSome)) =
      some (false, true) := by decide +kernel
  have ht : ((Run.run (step accepting) twoPointSlave deferredAndDown).bind fun s ↦
      step accepting s (.app .lowerLayerUp)).map (fun t ↦ (t.received[1]?.map (·.connection),
        decide (⟨1, 1, .clearIIN 7⟩ ∈ t.history))) = some (some 0, true) := by decide +kernel
  rw [hrun] at hs ht
  rw [Option.bind_some, hstep] at ht
  obtain ⟨hlink, hthrown⟩ := Prod.mk.inj (Option.some.inj hs)
  obtain ⟨hreceived, hmem⟩ := Prod.mk.inj (Option.some.inj ht)
  exact ⟨s, t, hrun, hlink, Option.isSome_iff_ne_none.mp hthrown, hstep, hreceived,
    of_decide_eq_true hmem⟩

end Slave

end OpenDNP3
