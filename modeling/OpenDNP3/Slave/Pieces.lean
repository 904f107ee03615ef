import OpenDNP3.Slave.Outstation

/-!
# What the pieces of the slave do

All that a piece of the slave can do, said once.

* `Slave.Carefree` — a predicate that does not mind what the execution of a request works on, nor
  the command master and the history.
* `Slave.Piece.wp_doRequest` — a request is executed: either a response is to be sent in the next
  state, or the request is one without an answer and the state is as before.
* `SlaveRest.Does` and `SlaveRest.does_perform` — every outcome of a piece, with the state of the
  slave after it.
* `Outstation.Moves` and `Outstation.moves_of_step` — every outcome of a move; the invariants of the
  outstation are proved by cases over these.
-/

set_option autoImplicit false

namespace OpenDNP3

open Handler

namespace Slave

variable {ν ρ υ : Type} {I J : Slave ν ρ → Prop}

/-- **The predicate does not look at what a request works on.** -/
structure Carefree (I : Slave ν ρ → Prop) : Prop where
  response : ∀ s f, I s → I { s with mResponse := f }
  rspIIN : ∀ s iin, I s → I { s with mRspIIN := iin }
  iin : ∀ s iin b, I s → I { s with mIIN := iin, mpTimeTimer := b }
  history : ∀ s h, I s → I { s with history := h }
  commands : ∀ s m n q, I s → I { s with mpCmdMaster := m, timesRead := n, mSequence := q }

theorem Carefree.tolerant (hI : Carefree I) : Tolerant I where
  response s f _ hs := hI.response s f hs
  rspIIN := hI.rspIIN
  iin := hI.iin
  effect s _ _ hs := hI.history s _ hs

theorem Carefree.note (hI : Carefree I) (aAct : SlaveAct) : Stable I (Slave.note aAct) :=
  stable_modify fun s hs ↦ hI.history s _ hs

/-! ## Executing a request -/

section Requests

variable [SetpointValue ν] (env : Environment ρ υ)

theorem Carefree.handleSelect (hI : Carefree I) (arRequest : APDU) (aSeqInfo : SequenceInfo) :
    Stable I (handleSelect env arRequest aSeqInfo : M ν ρ Unit) :=
  stable_bind (stable_modify fun s hs ↦ hI.commands s _ s.timesRead s.mSequence hs) fun _ ↦
    hI.tolerant.forEachCommand fun _ _ _ _ ↦
      hI.tolerant.select fun s hs ↦ hI.commands s _ (s.timesRead + 1) s.mSequence hs

theorem Carefree.operate (hI : Carefree I) (aType : CommandTypes) (arCmd : CommandRequestInfo ν)
    (aDirect : Bool) (aIndex : ℕ) : Stable I (operate env aType arCmd aDirect aIndex : M ν ρ _) :=
  hI.tolerant.operate fun s n hs ↦ hI.commands s _ (s.timesRead + 1) n hs

theorem Carefree.handleOperate (hI : Carefree I) (arRequest : APDU) (aSeqInfo : SequenceInfo) :
    Stable I (handleOperate env arRequest aSeqInfo : M ν ρ Unit) := by
  refine stable_bind (fun _ h ↦ h) fun _ ↦ stable_ite (stable_pure _) ?_
  exact stable_bind (hI.note _) fun _ ↦
    hI.tolerant.forEachCommand fun _ _ _ _ ↦ hI.operate env _ _ _ _

theorem Carefree.handleDirectOperate (hI : Carefree I) (arRequest : APDU)
    (aSeqInfo : SequenceInfo) :
    Stable I (handleDirectOperate env arRequest aSeqInfo : M ν ρ Unit) :=
  hI.tolerant.forEachCommand fun _ _ _ _ ↦ hI.operate env _ _ _ _

/-- **What a request may find**: the predicate `I` holds before it and goes over into `J` with the
next state, which the rest of a request keeps. -/
structure Executes (I J : Slave ν ρ → Prop) (apNext : AS) (arRequest : APDU) : Prop where
  before : Carefree I
  after : Carefree J
  changeState : ∀ s b, I s ∨ J s → J { s with mpState := apNext, mpTimeTimer := b }
  read : ∀ s n, J s → J { s with mRspContext :=
    (env.rspContext.loadResponse n
      (env.rspContext.configure arRequest (env.rspContext.reset s.mRspContext)).2).2 }
  unsol : ∀ s, s.mConfig.mDisableUnsol = false → J s → J { s with mDeferredUnsol := true }
  mask : ∀ s m, J s → J { s with mConfig := { s.mConfig with mUnsolMask := m } }

namespace Piece

variable {env} {apNext : AS} {arRequest : APDU} (h : Executes env I J apNext arRequest)

/-- What is left of a request: a response to be sent, or nothing. -/
def Leaves (I J : Slave ν ρ → Prop) (frames : List SlaveRest) (t : Slave ν ρ) : Prop :=
  frames = [.send false] ∧ J t ∨ frames = [] ∧ I t

include h

omit [SetpointValue ν] in
/-- The next state, and then what keeps the predicate and leaves a response to be sent. -/
theorem wp_next {x : M ν ρ (List SlaveRest)} {s : Slave ν ρ} (hs : I s ∨ J s)
    (hx : ∀ t, J t → wp x (fun frames t ↦ frames = [.send false] ∧ J t) (fun _ t ↦ J t) t) :
    wp (do changeState apNext; x) (Leaves I J) (fun _ t ↦ I t ∨ J t) s := by
  rw [wp_bind, Slave.changeState, wp_modify]
  refine wp_mono (hx _ (h.changeState s _ hs)) ?_ ?_
  · intro frames t ht
    exact .inl ht
  · intro _ t ht
    exact .inr ht

omit h [SetpointValue ν] in
/-- A function of a request, after which the response is to be sent. -/
theorem wp_thenSend {x : M ν ρ Unit} (hx : Stable J x) (t : Slave ν ρ) (ht : J t) :
    wp (do x; return [SlaveRest.send false]) (fun frames t ↦ frames = [.send false] ∧ J t)
      (fun _ t ↦ J t) t := by
  rw [wp_bind]
  refine wp_mono (hx t ht) ?_ fun _ _ he ↦ he
  intro _ t' ht'
  exact ⟨rfl, ht'⟩

omit [SetpointValue ν] in
theorem wp_configureAndSendSimpleResponse (t : Slave ν ρ) (ht : J t) :
    wp (configureAndSendSimpleResponse : M ν ρ (List SlaveRest))
      (fun frames t ↦ frames = [.send false] ∧ J t) (fun _ t ↦ J t) t :=
  wp_thenSend h.after.tolerant.setResponse t ht

omit [SetpointValue ν] in
/-- A request that is not performed again, and then a simple response. -/
theorem wp_unlessPrev {p : Prop} [Decidable p] {aAct : SlaveAct} {x : M ν ρ Unit} (hx : Stable J x)
    (t : Slave ν ρ) (ht : J t) :
    wp (do
        if p then
          note aAct
          x
        configureAndSendSimpleResponse : M ν ρ (List SlaveRest))
      (fun frames t ↦ frames = [.send false] ∧ J t) (fun _ t ↦ J t) t := by
  refine wp_ite ?_ fun _ ↦ wp_configureAndSendSimpleResponse h t ht
  intro _
  rw [wp_bind]
  refine wp_mono (h.after.note aAct t ht) ?_ fun _ _ he ↦ he
  intro _ t' ht'
  rw [wp_bind]
  refine wp_mono (hx t' ht') ?_ fun _ _ he ↦ he
  intro _ u hu
  exact wp_configureAndSendSimpleResponse h u hu

/-- **The functions of a request.** -/
theorem wp_switchOnFunction (aSeqInfo : SequenceInfo) {s : Slave ν ρ} (hs : I s) :
    wp (switchOnFunction env apNext arRequest aSeqInfo) (Leaves I J) (fun _ t ↦ I t ∨ J t) s := by
  have hJ : Tolerant J := h.after.tolerant
  have hs' : I s ∨ J s := .inl hs
  unfold switchOnFunction
  generalize arRequest.getFunction = func
  cases func with
  | read =>
    refine wp_next h hs' fun t ht ↦ ?_
    simp only [resetRspContext, loadResponse, setRspIIN, wp_bind, wp_modify, wp_get, wp_pure]
    have hread := h.read t (t.mResponse.set .response true true false false).remainder ht
    have hiin := fun f iin ↦ h.after.rspIIN _ iin (h.after.response _ f hread)
    exact ⟨trivial, hiin _ _⟩
  | write => exact wp_next h hs' (wp_unlessPrev h (hJ.handleWrite arRequest))
  | proprietaryVtoTransfer => exact wp_next h hs' (wp_unlessPrev h (hJ.handleVtoTransfer arRequest))
  | select => exact wp_next h hs' (wp_thenSend (h.after.handleSelect env arRequest aSeqInfo))
  | operate => exact wp_next h hs' (wp_thenSend (h.after.handleOperate env arRequest aSeqInfo))
  | directOperate =>
    refine wp_next h hs' fun t ht ↦ ?_
    rw [wp_bind]
    refine wp_mono (h.after.note _ t ht) ?_ fun _ _ he ↦ he
    intro _ t' ht'
    exact wp_thenSend (h.after.handleDirectOperate env arRequest aSeqInfo) t' ht'
  | directOperateNoAck =>
    rw [wp_bind]
    refine wp_mono (h.before.note _ s hs) ?_ fun _ _ he ↦ .inl he
    intro _ t ht
    rw [wp_bind]
    refine wp_mono (h.before.handleDirectOperate env arRequest aSeqInfo t ht) ?_
      fun _ _ he ↦ .inl he
    intro _ u hu
    exact .inr ⟨rfl, hu⟩
  | enableUnsolicited =>
    exact wp_next h hs' (wp_thenSend
      (hJ.handleEnableUnsolicited arRequest true (fun _ ↦ h.unsol) h.mask))
  | disableUnsolicited =>
    exact wp_next h hs' (wp_thenSend
      (hJ.handleEnableUnsolicited arRequest false (fun _ ↦ h.unsol) h.mask))
  | delayMeasure => exact wp_next h hs' (wp_thenSend (hJ.configureDelayMeasurement arRequest))
  | _ => exact .inl hs

/-- **A request is executed.** -/
theorem wp_doRequest {r : Request} (hr : r.mRequest = arRequest) {s : Slave ν ρ}
    (hs : I { s with executing := r.number }) :
    wp (doRequest env apNext r)
      (fun frames t ↦ frames = [.send false, .setLastRequest r.mRequest.mBuffer] ∧ J t ∨
        frames = [.setLastRequest r.mRequest.mBuffer] ∧ I t)
      (fun _ t ↦ I t ∨ J t) s := by
  rw [doRequest, wp_bind, wp_modify, wp_bind]
  refine wp_mono (h.before.note _ _ (h.before.rspIIN _ {} hs)) ?_ fun _ _ he ↦ .inl he
  intro _ t ht
  rw [wp_bind, wp_tryCatch, hr]
  refine wp_mono (wp_switchOnFunction h r.mSeqInfo ht) ?_ ?_
  · rintro frames u (⟨rfl, hu⟩ | ⟨rfl, hu⟩)
    · exact .inl ⟨rfl, hu⟩
    · exact .inr ⟨rfl, hu⟩
  · intro ex u hu
    cases ex with
    | notSupported m =>
      refine wp_mono (wp_next (x := do
        setRspIIN (·.setFuncNotSupported true)
        configureAndSendSimpleResponse) h hu fun v hv ↦ ?_) ?_ fun _ _ he ↦ he
      · rw [wp_bind]
        refine wp_mono (h.after.tolerant.setRspIIN _ v hv) ?_ fun _ _ he ↦ he
        intro _ w hw
        exact wp_configureAndSendSimpleResponse h w hw
      · rintro frames v (⟨rfl, hv⟩ | ⟨rfl, hv⟩)
        · exact .inl ⟨rfl, hv⟩
        · exact .inr ⟨rfl, hv⟩
    | _ => exact hu

/-- What becomes of a request, as far as any two predicates can tell; `none` is an exception. -/
def Requested (env : Environment ρ υ) (apNext : AS) (r : Request) (s : Slave ν ρ)
    (o : Option (List SlaveRest)) (t : Slave ν ρ) : Prop :=
  ∀ I J : Slave ν ρ → Prop, Executes env I J apNext r.mRequest →
    I { s with executing := r.number } →
    match o with
    | some frames =>
      frames = [.send false, .setLastRequest r.mRequest.mBuffer] ∧ J t ∨
        frames = [.setLastRequest r.mRequest.mBuffer] ∧ I t
    | none => I t ∨ J t

omit h in
theorem wp_requested (env : Environment ρ υ) (apNext : AS) (r : Request) (s : Slave ν ρ) :
    wp (doRequest env apNext r) (fun frames t ↦ Requested env apNext r s (some frames) t)
      (fun _ t ↦ Requested env apNext r s none t) s := by
  rw [wp]
  cases hx : doRequest env apNext r s with
  | ok frames t =>
    intro I J h hI
    have hwp := wp_doRequest h rfl hI
    rwa [wp_eq_of_ok hx] at hwp
  | error ex t =>
    intro I J h hI
    have hwp := wp_doRequest h rfl hI
    rwa [wp_eq_of_error hx] at hwp

end Piece

end Requests

/-! ## The states that a piece leads to

The slave after one piece of a call, as a function of the slave before it. -/

variable (s : Slave ν ρ)

/-- The slave in another state. -/
def moved (aState : AS) : Slave ν ρ :=
  { s with mpState := aState, mpTimeTimer := s.mpTimeTimer && aState ≠ .closed }

/-- The slave with the next fragment of a response. -/
def withResponse (env : Environment ρ υ) : Slave ν ρ :=
  let f := s.mResponse.set .response true true false false
  let l := env.rspContext.loadResponse f.remainder s.mRspContext
  { s with
    mResponse := (addData f l.1).setControl ⟨l.1.fir, l.1.fin, l.1.con, false, 0⟩
    mRspContext := l.2 }

/-- The slave with an unsolicited response of the events of the classes. -/
def withUnsol (env : Environment ρ υ) (aMask : ClassMask) : Slave ν ρ :=
  let f := s.mUnsol.set .unsolicitedResponse true true true true
  let l := env.rspContext.loadUnsol aMask f.remainder s.mRspContext
  { s with mUnsol := addData f l.1, mRspContext := l.2 }

/-- The slave with the updates in its database and its buffers. -/
def flushed (env : Environment ρ υ) : Slave ν ρ :=
  let l := env.rspContext.flushUpdates s.mRspContext
  { s with mRspContext := l.2, mDeferredUpdate := s.mDeferredUpdate || l.1 }

/-- The slave with the answer to an unknown object. -/
def withUnknown (aNumber : ℕ) : Slave ν ρ :=
  { s with
    executing := aNumber
    mResponse := s.mResponse.set .response true true false false
    mRspIIN := s.mRspIIN.setObjectUnknown true }

/-- A request has arrived. -/
def arrived (apdu : Option APDU) : Slave ν ρ :=
  { s with received := s.received ++ [⟨apdu, s.connection⟩] }

/-- The unsolicited response is confirmed. -/
def unsolSucceeded (env : Environment ρ υ) : Slave ν ρ :=
  { s with
    mStartupNullUnsol := true
    mRspContext := env.rspContext.reset (env.rspContext.clearWritten s.mRspContext)
    mDeferredUnsol := true }

/-- The fragment has the internal indications, and is passed to the layer. -/
def submitted (aUnsol : Bool) (f : OutAPDU (List Byte)) : Slave ν ρ :=
  let s := { s with mRspIIN := s.mRspIIN.bitwiseOR s.mIIN }
  if aUnsol then { s with mUnsol := f } else { s with mResponse := f }

/-- The layer in another state. -/
def withLayer (a : AppLayer (List Byte)) : Slave ν ρ := { s with mpAppLayer := a }

/-- `FlushDeferredEvents` looks for this kind of event, and there is one. -/
def defers : Deferred → Bool
  | .update => s.mDeferredUpdate
  | .request => s.mDeferredRequest.isSome
  | .unsol => s.mDeferredUnsol
  | .unknown => false

/-- **An unsolicited response is started, or not**: what `OnDataUpdate` of `AS_Idle` may do, and
`OnUnsolExpiration`. -/
inductive Reports (env : Environment ρ υ) (aUpdate : Bool) (s : Slave ν ρ) :
    List SlaveRest → Slave ν ρ → Prop
  | nothing : Reports env aUpdate s [] s
  | starts (hunsol : aUpdate = true → s.mConfig.mDisableUnsol = false)
      (hstartup : s.mStartupNullUnsol = true)
      (hevents : env.rspContext.hasEvents s.mConfig.mUnsolMask s.mRspContext = true) :
      Reports env aUpdate s [.send true]
        ((s.moved .waitForUnsolSuccess).withUnsol env s.mConfig.mUnsolMask)
  | null (hupdate : aUpdate = false) (hstartup : s.mStartupNullUnsol = false) :
      Reports env aUpdate s [.send true]
        ((s.moved .waitForUnsolSuccess).withUnsol env ⟨false, false, false⟩)
  | packs (hunsol : s.mConfig.mDisableUnsol = false) (htimer : s.mpUnsolTimer = false) :
      Reports env aUpdate s [] { s with mpUnsolTimer := true }

end Slave

/-- The state has a handler for the call. -/
def AS.expects : AS → UserCall → Bool
  | s, .onLowerLayerUp => s = .closed
  | s, .onLowerLayerDown | s, .onRequest _ _ => s ≠ .closed
  | s, .onSendSuccess false | s, .onFailure false =>
    s = .waitForRspSuccess ∨ s = .waitForSolUnsolSuccess
  | s, .onSendSuccess true | s, .onFailure true =>
    s = .waitForUnsolSuccess ∨ s = .waitForSolUnsolSuccess
  | _, .onUnknownObject => true
  | _, .onPartialResponse _ | _, .onFinalResponse _ | _, .onUnsolResponse _ => false

namespace SlaveRest

open Slave

variable {ν ρ υ : Type} [SetpointValue ν]

/-- **All that a piece does**: what is left of the call, or `none` for an exception, and the
slave. -/
inductive Does (env : Environment ρ υ) (s : Slave ν ρ) :
    SlaveRest → Option (List SlaveRest) → Slave ν ρ → Prop
  -- the layer
  | layer {op : AppLayer.Op (List Byte)} {acts : List (AppLayer.Act (List Byte))}
      {call : Option UserCall} {a : AppLayer (List Byte)}
      (h : AppLayer.enter op s.mpAppLayer = .ok (acts, call) a) :
      Does env s (.layer op) (some (ofCall [] call ++ acts.map .act)) (s.withLayer a)
  | layerFails {op : AppLayer.Op (List Byte)} {ex : Exception} {a : AppLayer (List Byte)}
      (h : AppLayer.enter op s.mpAppLayer = .error ex a) :
      Does env s (.layer op) none (s.withLayer a)
  | down {apData : List Byte} : Does env s (.receive apData) none s
  | receive {apData : List Byte} {acts : List (AppLayer.Act (List Byte))}
      {call : Option UserCall} {a : AppLayer (List Byte)}
      (h : AppLayer.enterReceive apData s.mpAppLayer = .ok (acts, call) a) :
      Does env s (.receive apData) (some (ofCall apData call ++ acts.map .act ++ [.caught apData]))
        (s.withLayer a)
  | receiveCaught {apData : List Byte} {ex : Exception} {call : Option UserCall}
      {a b : AppLayer (List Byte)} (h : AppLayer.enterReceive apData s.mpAppLayer = .error ex a)
      (hcatch : AppLayer.onCatch apData ex a = .ok call b) :
      Does env s (.receive apData) (some (ofCall apData call)) (s.withLayer b)
  | receiveFails {apData : List Byte} {ex ex' : Exception} {a b : AppLayer (List Byte)}
      (h : AppLayer.enterReceive apData s.mpAppLayer = .error ex a)
      (hcatch : AppLayer.onCatch apData ex a = .error ex' b) :
      Does env s (.receive apData) none (s.withLayer b)
  | act {aAct : AppLayer.Act (List Byte)} {call : Option UserCall} {a : AppLayer (List Byte)}
      (h : aAct.call s.mpAppLayer = .ok call a) :
      Does env s (.act aAct) (some (ofCall [] call)) (s.withLayer a)
  | actFails {aAct : AppLayer.Act (List Byte)} {ex : Exception} {a : AppLayer (List Byte)}
      (h : aAct.call s.mpAppLayer = .error ex a) : Does env s (.act aAct) none (s.withLayer a)
  -- a fragment
  | refuses {aUnsol : Bool} :
      Does env s (.send aUnsol) none { s with mRspIIN := s.mRspIIN.bitwiseOR s.mIIN }
  | send {aUnsol : Bool} {f : OutAPDU (List Byte)} {acts : List (AppLayer.Act (List Byte))}
      {call : Option UserCall} {a : AppLayer (List Byte)} {h : List SlaveEntry}
      (hf : (if aUnsol then s.mUnsol else s.mResponse).setIIN (s.mRspIIN.bitwiseOR s.mIIN) = .ok f)
      (ha : AppLayer.enter (if aUnsol then .sendUnsolicited f else .sendResponse f) s.mpAppLayer =
        .ok (acts, call) a) :
      Does env s (.send aUnsol) (some (ofCall [] call ++ acts.map .act))
        { (s.submitted aUnsol f).withLayer a with history := h }
  | sendFails {aUnsol : Bool} {f : OutAPDU (List Byte)} {ex : Exception} {a : AppLayer (List Byte)}
      (hf : (if aUnsol then s.mUnsol else s.mResponse).setIIN (s.mRspIIN.bitwiseOR s.mIIN) = .ok f)
      (ha : AppLayer.enter (if aUnsol then .sendUnsolicited f else .sendResponse f) s.mpAppLayer =
        .error ex a) :
      Does env s (.send aUnsol) none ((s.submitted aUnsol f).withLayer a)
  -- calls of the layer
  | unexpected {call : UserCall} {apData : List Byte} {c : ℕ} {l : List Received}
      (h : s.mpState.expects call = false) :
      Does env s (.user call apData) none { s with connection := c, received := l }
  | lowerLayerUp {apData : List Byte} {iin : IINField} {b c : Bool} (hs : s.mpState = .closed)
      (hiin : iin = s.mIIN ∨ iin = s.mIIN.setNeedTime true) :
      Does env s (.user .onLowerLayerUp apData) (some Piece.flushDeferredEvents)
        (moved { s with mIIN := iin, mpTimeTimer := b, mFirstTimeSyncIssued := c } .idle)
  | lowerLayerDown {apData : List Byte} (hs : s.mpState ≠ .closed) :
      Does env s (.user .onLowerLayerDown apData) (some Piece.flushDeferredEvents)
        (moved { s with connection := s.connection + 1 } .closed)
  | completes {apData : List Byte} (hs : s.mpState = .waitForRspSuccess)
      (hc : env.rspContext.isComplete (env.rspContext.clearWritten s.mRspContext) = true) :
      Does env s (.user (.onSendSuccess false) apData) (some Piece.flushDeferredEvents)
        (moved { s with mRspContext := env.rspContext.clearWritten s.mRspContext } .idle)
  | proceeds {apData : List Byte} (hs : s.mpState = .waitForRspSuccess)
      (hc : env.rspContext.isComplete (env.rspContext.clearWritten s.mRspContext) = false) :
      Does env s (.user (.onSendSuccess false) apData)
        (some ([.send false] ++ Piece.flushDeferredEvents))
        (withResponse { s with mRspContext := env.rspContext.clearWritten s.mRspContext } env)
  | ends {call : UserCall} {apData : List Byte} (hs : s.mpState = .waitForSolUnsolSuccess)
      (hcall : call = .onSendSuccess false ∨ call = .onFailure false) :
      Does env s (.user call apData) (some Piece.flushDeferredEvents) (s.moved .waitForUnsolSuccess)
  | fails {apData : List Byte} (hs : s.mpState = .waitForRspSuccess) :
      Does env s (.user (.onFailure false) apData) (some Piece.flushDeferredEvents)
        { s.moved .idle with mRspContext := env.rspContext.reset s.mRspContext }
  | unsolSucceeds {apData : List Byte} {aState : AS}
      (hs : s.mpState = .waitForUnsolSuccess ∧ aState = .idle ∨
        s.mpState = .waitForSolUnsolSuccess ∧ aState = .waitForRspSuccess) :
      Does env s (.user (.onSendSuccess true) apData) (some Piece.flushDeferredEvents)
        ((s.moved aState).unsolSucceeded env)
  | unsolFails {apData : List Byte} {aState : AS}
      (hs : s.mpState = .waitForUnsolSuccess ∧ aState = .idle ∨
        s.mpState = .waitForSolUnsolSuccess ∧ aState = .waitForRspSuccess)
      (htimer : s.mpUnsolTimer = false) :
      Does env s (.user (.onFailure true) apData) (some Piece.flushDeferredEvents)
        { s.moved aState with
          mRspContext := env.rspContext.reset s.mRspContext
          mpUnsolTimer := true }
  | unsolTimerRuns {apData : List Byte} {aState : AS}
      (hs : s.mpState = .waitForUnsolSuccess ∧ aState = .idle ∨
        s.mpState = .waitForSolUnsolSuccess ∧ aState = .waitForRspSuccess)
      (htimer : s.mpUnsolTimer = true) :
      Does env s (.user (.onFailure true) apData) none
        { s.moved aState with mRspContext := env.rspContext.reset s.mRspContext }
  | unsolExpires {apData : List Byte} (hs : s.mpState = .waitForSolUnsolSuccess) :
      Does env s (.user (.onFailure true) apData)
        (some ([.onUnsolTimerExpiration] ++ Piece.flushDeferredEvents))
        { s.moved .waitForRspSuccess with mRspContext := env.rspContext.reset s.mRspContext }
  | requestIdle {apdu : APDU} {info : SequenceInfo} {apData : List Byte}
      {o : Option (List SlaveRest)} {t : Slave ν ρ} (hs : s.mpState = .idle)
      (h : Piece.Requested env .waitForRspSuccess ⟨apdu, info, s.received.length⟩
        (s.arrived (some apdu))
        o t) :
      Does env s (.user (.onRequest apdu info) apData) (o.map (· ++ Piece.flushDeferredEvents)) t
  | requestCancels {apdu : APDU} {info : SequenceInfo} {apData : List Byte}
      (hs : s.mpState = .waitForRspSuccess) :
      Does env s (.user (.onRequest apdu info) apData)
        (some [.layer .cancelResponse, .deferRequest ⟨apdu, info, s.received.length⟩])
        (s.arrived (some apdu))
  | requestUnsol {apdu : APDU} {info : SequenceInfo} {apData : List Byte}
      {o : Option (List SlaveRest)} {t : Slave ν ρ} (hs : s.mpState = .waitForUnsolSuccess)
      (hf : apdu.getFunction ≠ .read)
      (h : Piece.Requested env .waitForSolUnsolSuccess ⟨apdu, info, s.received.length⟩
        { s.arrived (some apdu) with mDeferredRequest := none } o t) :
      Does env s (.user (.onRequest apdu info) apData) (o.map (· ++ Piece.flushDeferredEvents)) t
  | requestRead {apdu : APDU} {info : SequenceInfo} {apData : List Byte}
      (hs : s.mpState = .waitForUnsolSuccess) (hf : apdu.getFunction = .read) :
      Does env s (.user (.onRequest apdu info) apData) (some Piece.flushDeferredEvents)
        { (s.arrived (some apdu)).withLayer (s.mpAppLayer.setChannel true
            { s.mpAppLayer.channel true with mNumRetry := 0 }) with
          mDeferredRequest := some ⟨apdu, info, s.received.length⟩ }
  | requestDeferred {apdu : APDU} {info : SequenceInfo} {apData : List Byte}
      (hs : s.mpState = .waitForSolUnsolSuccess) :
      Does env s (.user (.onRequest apdu info) apData) (some Piece.flushDeferredEvents)
        { s.arrived (some apdu) with mDeferredRequest := some ⟨apdu, info, s.received.length⟩ }
  | unknownIdle {apData : List Byte} (hs : s.mpState = .idle) :
      Does env s (.user .onUnknownObject apData) (some ([.send false] ++ Piece.flushDeferredEvents))
        (((s.arrived none).withUnknown s.received.length).moved .waitForRspSuccess)
  | unknownDeferred {apData : List Byte} (hs : s.mpState ≠ .idle) :
      Does env s (.user .onUnknownObject apData) (some Piece.flushDeferredEvents)
        { s.arrived none with mDeferredUnknown := true }
  -- the rest of a request
  | deferRequest {r : Request} :
      Does env s (.deferRequest r) (some Piece.flushDeferredEvents)
        { s with mDeferredRequest := some r }
  | setLastRequest {aBuffer : List Byte} :
      Does env s (.setLastRequest aBuffer) (some []) { s with mLastRequest := aBuffer }
  -- updates and the timer
  | updateClosed (hs : s.mpState = .closed) :
      Does env s .onDataUpdate (some Piece.flushDeferredEvents) (s.flushed env)
  | updateIdle {frames : List SlaveRest} {t : Slave ν ρ} (hs : s.mpState = .idle)
      (h : Reports env true (s.flushed env) frames t) :
      Does env s .onDataUpdate (some (frames ++ Piece.flushDeferredEvents)) t
  | updateDeferred (hs : s.mpState ≠ .idle) :
      Does env s .onDataUpdate (some Piece.flushDeferredEvents) { s with mDeferredUpdate := true }
  | expiresIdle {frames : List SlaveRest} {t : Slave ν ρ} (hs : s.mpState = .idle)
      (h : Reports env false { s with mpUnsolTimer := false } frames t) :
      Does env s .onUnsolTimerExpiration (some (frames ++ Piece.flushDeferredEvents)) t
  | expiresDeferred (hs : s.mpState ≠ .idle) :
      Does env s .onUnsolTimerExpiration (some Piece.flushDeferredEvents)
        { s with mpUnsolTimer := false, mDeferredUnsol := true }
  -- deferred events
  | flushNothing {d : Deferred} (h : s.mpState = .idle → s.defers d = false) :
      Does env s (.flush d) (some [Piece.next d]) s
  | flushUpdate {frames : List SlaveRest} {t : Slave ν ρ} (hs : s.mpState = .idle)
      (h : Reports env true (flushed { s with mDeferredUpdate := false } env) frames t) :
      Does env s (.flush .update) (some (frames ++ [Piece.next .update])) t
  | flushRequest {r : Request} {o : Option (List SlaveRest)} {t : Slave ν ρ}
      (hs : s.mpState = .idle)
      (hr : s.mDeferredRequest = some r)
      (h : Piece.Requested env .waitForRspSuccess r { s with mDeferredRequest := none } o t) :
      Does env s (.flush .request) (o.map (· ++ [Piece.next .request])) t
  | flushUnsol {frames : List SlaveRest} {t : Slave ν ρ} (hs : s.mpState = .idle)
      (hunsol : s.mDeferredUnsol = true)
      (h : Reports env false { s with mDeferredUnsol := false } frames t) :
      Does env s (.flush .unsol) (some (frames ++ [Piece.next .unsol])) t
  -- marks
  | handled : Does env s .handled (some []) s
  | caught {apData : List Byte} : Does env s (.caught apData) (some []) s
  | returned : Does env s .returned (some []) s

/-! ## Every piece does one of these things -/

section Programs

variable {env : Environment ρ υ} {s : Slave ν ρ}
  {D : Option (List SlaveRest) → Slave ν ρ → Prop} {x : M ν ρ (List SlaveRest)}

/-- What a program does, with `none` for an exception. -/
abbrev Ends (x : M ν ρ (List SlaveRest)) (D : Option (List SlaveRest) → Slave ν ρ → Prop)
    (s : Slave ν ρ) : Prop :=
  wp x (fun frames t ↦ D (some frames) t) (fun _ t ↦ D none t) s

omit [SetpointValue ν] in
/-- What follows is appended. -/
theorem ends_append {l : List SlaveRest} (h : Ends x (fun o t ↦ D (o.map (· ++ l)) t) s) :
    Ends (do let frames ← x; return frames ++ l) D s := by
  rw [Ends, wp_bind]
  exact h

omit [SetpointValue ν] in
theorem ends_idleOnDataUpdate
    (h : ∀ frames t, Reports env true (s.flushed env) frames t → D (some frames) t) :
    Ends (Piece.idleOnDataUpdate env) D s := by
  rw [Ends, Piece.idleOnDataUpdate, flushUpdates, wp_bind, wp_modify, wp_bind, wp_get]
  refine wp_ite ?_ fun _ ↦ h _ _ .nothing
  intro hc
  rw [Bool.and_eq_true, Bool.and_eq_true, Bool.not_eq_true'] at hc
  refine wp_ite (fun _ ↦ h _ _ (.starts (fun _ ↦ hc.1.1) hc.1.2 hc.2)) fun _ ↦ ?_
  refine wp_ite ?_ fun _ ↦ h _ _ .nothing
  intro ht
  rw [Bool.not_eq_true'] at ht
  rw [startUnsolTimer, wp_bind, wp_bind, wp_get, wp_bind, wp_ensure_of ht]
  exact h _ _ (.packs hc.1.1 ht)

omit [SetpointValue ν] in
theorem ends_idleOnUnsolExpiration
    (h : ∀ frames t, Reports env false s frames t → D (some frames) t) :
    Ends (Piece.idleOnUnsolExpiration env) D s := by
  rw [Ends, Piece.idleOnUnsolExpiration, wp_bind, wp_get]
  refine wp_ite ?_ fun hs ↦ h _ _ (.null rfl (Bool.eq_false_iff.mpr hs))
  intro hs
  refine wp_ite ?_ fun _ ↦ h _ _ .nothing
  intro he
  exact h _ _ (.starts (fun hn ↦ Bool.noConfusion hn) hs he)

omit [SetpointValue ν] in
/-- The timer of unsolicited responses is started, unless it is running. -/
theorem ends_startUnsolTimer
    (h : s.mpUnsolTimer = false → D (some []) { s with mpUnsolTimer := true })
    (hn : s.mpUnsolTimer = true → D none s) :
    Ends (do startUnsolTimer; return []) D s := by
  rw [Ends, startUnsolTimer, wp_bind, wp_bind, wp_get, wp_bind, wp_ensure]
  by_cases ht : s.mpUnsolTimer = false
  · rw [if_pos ht]
    exact h ht
  · rw [if_neg ht]
    exact hn (eq_true_of_ne_false ht)

/-! ### Pieces of the layer -/

theorem does_layer (op : AppLayer.Op (List Byte)) (s : Slave ν ρ) :
    Ends ((SlaveRest.layer op).perform env) (Does env s (.layer op)) s := by
  rw [Ends, perform, wp_bind, onApp, wp_zoom, wp]
  cases h : AppLayer.enter op s.mpAppLayer with
  | ok p a => exact .layer h
  | error ex a => exact .layerFails h

theorem does_receive (apData : List Byte) (s : Slave ν ρ) :
    Ends ((SlaveRest.receive apData).perform env) (Does env s (.receive apData)) s := by
  rw [Ends, perform, wp_bind, wp_get, wp_bind, wp_ensure]
  by_cases hup : s.mpAppLayer.mIsLowerLayerUp = true
  · rw [if_pos hup, wp_tryCatch, wp_bind, onApp, wp_zoom, wp]
    cases h : AppLayer.enterReceive apData s.mpAppLayer with
    | ok p a => exact .receive h
    | error ex a =>
      show wp (do let call ← onApp (AppLayer.onCatch apData ex); return ofCall apData call) _ _ _
      rw [wp_bind, onApp, wp_zoom, wp]
      cases hcatch : AppLayer.onCatch apData ex a with
      | ok call b => exact .receiveCaught h hcatch
      | error ex' b => exact .receiveFails h hcatch
  · rw [if_neg hup]
    exact .down

theorem does_act (aAct : AppLayer.Act (List Byte)) (s : Slave ν ρ) :
    Ends ((SlaveRest.act aAct).perform env) (Does env s (.act aAct)) s := by
  rw [Ends, perform, wp_bind, onApp, wp_zoom, wp]
  cases h : aAct.call s.mpAppLayer with
  | ok call a => exact .act h
  | error ex a => exact .actFails h

theorem does_send (aUnsol : Bool) (s : Slave ν ρ) :
    Ends ((SlaveRest.send aUnsol).perform env) (Does env s (.send aUnsol)) s := by
  rw [Ends, perform, submit, wp_bind, wp_get, wp_bind, setRspIIN, wp_modify, wp_bind, wp_get,
    wp_bind]
  dsimp only
  cases hf : (if aUnsol then s.mUnsol else s.mResponse).setIIN (s.mRspIIN.bitwiseOR s.mIIN) with
  | error e => exact .refuses
  | ok f =>
    have hset : (if aUnsol then
        { s with mRspIIN := s.mRspIIN.bitwiseOR s.mIIN, mUnsol := f }
        else { s with mRspIIN := s.mRspIIN.bitwiseOR s.mIIN, mResponse := f }) =
        s.submitted aUnsol f := rfl
    have happ : (s.submitted aUnsol f).mpAppLayer = s.mpAppLayer := by cases aUnsol <;> rfl
    rw [wp_lift_ok, wp_bind, wp_modify]
    dsimp only
    rw [hset, wp_bind, onApp, wp_zoom, happ, wp]
    cases ha : AppLayer.enter (if aUnsol then .sendUnsolicited f else .sendResponse f)
        s.mpAppLayer with
    | error ex a => exact .sendFails hf ha
    | ok p a =>
      cases aUnsol with
      | true => exact .send hf ha
      | false => exact .send hf ha

/-! ### Pieces of the slave -/

theorem does_up (apData : List Byte) (s : Slave ν ρ) :
    Ends ((SlaveRest.user .onLowerLayerUp apData).perform env)
      (Does env s (.user .onLowerLayerUp apData)) s := by
  rw [Ends, perform, Piece.user, wp_bind, stateOnLowerLayerUp, wp_bind, wp_get, wp_bind, wp_ensure]
  by_cases hs : s.mpState = .closed
  · rw [if_pos hs]
    split
    · split
      · exact .lowerLayerUp hs (.inr rfl)
      · exact .lowerLayerUp hs (.inl rfl)
    · exact .lowerLayerUp hs (.inl rfl)
  · rw [if_neg hs]
    exact .unexpected (decide_eq_false hs)

theorem does_down (apData : List Byte) (s : Slave ν ρ) :
    Ends ((SlaveRest.user .onLowerLayerDown apData).perform env)
      (Does env s (.user .onLowerLayerDown apData)) s := by
  rw [Ends, perform, Piece.user, wp_bind, wp_modify, wp_bind, stateOnLowerLayerDown,
    wp_bind, wp_get, wp_bind, wp_ensure]
  dsimp only
  by_cases hs : s.mpState = .closed
  · rw [if_neg (not_not.mpr hs)]
    exact .unexpected (decide_eq_false (not_not.mpr hs))
  · rw [if_pos hs]
    exact .lowerLayerDown hs

theorem does_solSendSuccess (apData : List Byte) (s : Slave ν ρ) :
    Ends ((SlaveRest.user (.onSendSuccess false) apData).perform env)
      (Does env s (.user (.onSendSuccess false) apData)) s := by
  rw [Ends, perform, Piece.user]
  refine ends_append ?_
  rw [Ends, Piece.stateOnSolSendSuccess, wp_bind, wp_get]
  cases hs : s.mpState with
  | waitForRspSuccess =>
    dsimp only
    rw [clearWritten, wp_bind, wp_modify, wp_bind, wp_get]
    refine wp_ite (fun hc ↦ .completes hs hc) fun hc ↦ ?_
    exact .proceeds hs (Bool.eq_false_iff.mpr hc)
  | waitForSolUnsolSuccess => exact .ends hs (.inl rfl)
  | closed => exact .unexpected (c := s.connection) (l := s.received) (by rw [hs]; rfl)
  | idle => exact .unexpected (c := s.connection) (l := s.received) (by rw [hs]; rfl)
  | waitForUnsolSuccess => exact .unexpected (c := s.connection) (l := s.received) (by rw [hs]; rfl)

theorem does_solFailure (apData : List Byte) (s : Slave ν ρ) :
    Ends ((SlaveRest.user (.onFailure false) apData).perform env)
      (Does env s (.user (.onFailure false) apData)) s := by
  rw [Ends, perform, Piece.user, wp_bind, stateOnSolFailure, wp_bind, wp_get]
  cases hs : s.mpState with
  | waitForRspSuccess => exact .fails hs
  | waitForSolUnsolSuccess => exact .ends hs (.inr rfl)
  | closed => exact .unexpected (c := s.connection) (l := s.received) (by rw [hs]; rfl)
  | idle => exact .unexpected (c := s.connection) (l := s.received) (by rw [hs]; rfl)
  | waitForUnsolSuccess => exact .unexpected (c := s.connection) (l := s.received) (by rw [hs]; rfl)

theorem does_unsolSendSuccess (apData : List Byte) (s : Slave ν ρ) :
    Ends ((SlaveRest.user (.onSendSuccess true) apData).perform env)
      (Does env s (.user (.onSendSuccess true) apData)) s := by
  rw [Ends, perform, Piece.user, wp_bind, stateOnUnsolSendSuccess, wp_bind, wp_get]
  cases hs : s.mpState with
  | waitForUnsolSuccess => exact .unsolSucceeds (.inl ⟨hs, rfl⟩)
  | waitForSolUnsolSuccess => exact .unsolSucceeds (.inr ⟨hs, rfl⟩)
  | closed => exact .unexpected (c := s.connection) (l := s.received) (by rw [hs]; rfl)
  | idle => exact .unexpected (c := s.connection) (l := s.received) (by rw [hs]; rfl)
  | waitForRspSuccess => exact .unexpected (c := s.connection) (l := s.received) (by rw [hs]; rfl)

theorem does_unsolFailure (apData : List Byte) (s : Slave ν ρ) :
    Ends ((SlaveRest.user (.onFailure true) apData).perform env)
      (Does env s (.user (.onFailure true) apData)) s := by
  have htimer {aState : AS} (hs : s.mpState = .waitForUnsolSuccess ∧ aState = .idle ∨
      s.mpState = .waitForSolUnsolSuccess ∧ aState = .waitForRspSuccess) :
      Ends (do startUnsolTimer; return []) (fun o t ↦ Does env s (.user (.onFailure true) apData)
        (o.map (· ++ Piece.flushDeferredEvents)) t)
        { s.moved aState with mRspContext := env.rspContext.reset s.mRspContext } :=
    ends_startUnsolTimer (fun ht ↦ .unsolFails hs ht) fun ht ↦ .unsolTimerRuns hs ht
  rw [Ends, perform, Piece.user]
  refine ends_append ?_
  rw [Ends, Piece.stateOnUnsolFailure, wp_bind, wp_get]
  cases hs : s.mpState with
  | waitForUnsolSuccess => exact htimer (.inl ⟨hs, rfl⟩)
  | waitForSolUnsolSuccess =>
    dsimp only
    rw [changeState, wp_bind, wp_modify, resetRspContext, wp_bind, wp_modify, wp_bind, wp_get]
    exact wp_ite (fun _ ↦ htimer (.inr ⟨hs, rfl⟩)) fun _ ↦ .unsolExpires hs
  | closed => exact .unexpected (c := s.connection) (l := s.received) (by rw [hs]; rfl)
  | idle => exact .unexpected (c := s.connection) (l := s.received) (by rw [hs]; rfl)
  | waitForRspSuccess => exact .unexpected (c := s.connection) (l := s.received) (by rw [hs]; rfl)

omit [SetpointValue ν] in
theorem wp_arrive {apdu : Option APDU} {Q : ℕ → Slave ν ρ → Prop}
    {E : Exception → Slave ν ρ → Prop} :
    wp (arrive apdu) Q E s = Q s.received.length (s.arrived apdu) := rfl

theorem does_request (apdu : APDU) (info : SequenceInfo) (apData : List Byte) (s : Slave ν ρ) :
    Ends ((SlaveRest.user (.onRequest apdu info) apData).perform env)
      (Does env s (.user (.onRequest apdu info) apData)) s := by
  have hstate : (s.arrived (some apdu)).mpState = s.mpState := rfl
  rw [Ends, perform, Piece.user, wp_bind, wp_arrive, Piece.onRequest, wp_bind, wp_get, hstate]
  cases hs : s.mpState with
  | closed =>
    have hexp : s.mpState.expects (.onRequest apdu info) = false := by rw [hs]; rfl
    exact .unexpected hexp
  | idle =>
    refine ends_append (wp_mono (Piece.wp_requested env .waitForRspSuccess _ _) ?_ ?_)
    · exact fun frames t ht ↦ .requestIdle hs ht
    · exact fun _ t ht ↦ .requestIdle hs ht
  | waitForRspSuccess => exact .requestCancels hs
  | waitForUnsolSuccess =>
    refine wp_ite (fun hf ↦ .requestRead hs hf) fun hf ↦ ?_
    refine ends_append (wp_mono (Piece.wp_requested env .waitForSolUnsolSuccess _ _) ?_ ?_)
    · exact fun frames t ht ↦ .requestUnsol hs hf ht
    · exact fun _ t ht ↦ .requestUnsol hs hf ht
  | waitForSolUnsolSuccess => exact .requestDeferred hs

theorem does_unknown (apData : List Byte) (s : Slave ν ρ) :
    Ends ((SlaveRest.user .onUnknownObject apData).perform env)
      (Does env s (.user .onUnknownObject apData)) s := by
  have hstate : (s.arrived none).mpState = s.mpState := rfl
  rw [Ends, perform, Piece.user, wp_bind, wp_arrive]
  refine ends_append ?_
  rw [Ends, Piece.stateOnUnknown, wp_bind, wp_get, hstate]
  cases hs : s.mpState with
  | idle => exact .unknownIdle hs
  | closed => exact .unknownDeferred (by rw [hs]; exact AS.noConfusion)
  | waitForRspSuccess => exact .unknownDeferred (by rw [hs]; exact AS.noConfusion)
  | waitForUnsolSuccess => exact .unknownDeferred (by rw [hs]; exact AS.noConfusion)
  | waitForSolUnsolSuccess => exact .unknownDeferred (by rw [hs]; exact AS.noConfusion)

theorem does_onDataUpdate (s : Slave ν ρ) :
    Ends (SlaveRest.onDataUpdate.perform env) (Does env s .onDataUpdate) s := by
  have hidle (hs : s.mpState = .idle) : Ends (Piece.idleOnDataUpdate env) (fun o t ↦
      Does env s .onDataUpdate (o.map (· ++ Piece.flushDeferredEvents)) t) s :=
    ends_idleOnDataUpdate fun frames t h ↦ .updateIdle hs h
  rw [Ends, perform, Piece.onDataUpdate]
  refine ends_append ?_
  rw [Ends, Piece.stateOnDataUpdate, wp_bind, wp_get]
  cases hs : s.mpState with
  | closed => exact .updateClosed hs
  | idle => exact hidle hs
  | waitForRspSuccess => exact .updateDeferred (by rw [hs]; exact AS.noConfusion)
  | waitForUnsolSuccess => exact .updateDeferred (by rw [hs]; exact AS.noConfusion)
  | waitForSolUnsolSuccess => exact .updateDeferred (by rw [hs]; exact AS.noConfusion)

theorem does_onUnsolTimerExpiration (s : Slave ν ρ) :
    Ends (SlaveRest.onUnsolTimerExpiration.perform env) (Does env s .onUnsolTimerExpiration) s := by
  have hidle (hs : s.mpState = .idle) : Ends (Piece.idleOnUnsolExpiration env) (fun o t ↦
      Does env s .onUnsolTimerExpiration (o.map (· ++ Piece.flushDeferredEvents)) t)
      { s with mpUnsolTimer := false } :=
    ends_idleOnUnsolExpiration fun frames t h ↦ .expiresIdle hs h
  have hother (hs : s.mpState ≠ .idle) : Ends (do
      modify fun s ↦ { s with mDeferredUnsol := true }
      return []) (fun o t ↦
      Does env s .onUnsolTimerExpiration (o.map (· ++ Piece.flushDeferredEvents)) t)
      { s with mpUnsolTimer := false } := .expiresDeferred hs
  rw [Ends, perform, Piece.onUnsolTimerExpiration, wp_bind, wp_modify]
  refine ends_append ?_
  rw [Ends, Piece.stateOnUnsolExpiration, wp_bind, wp_get]
  generalize ht : ({ s with mpUnsolTimer := false } : Slave ν ρ) = t at hidle hother ⊢
  have hstate : s.mpState = t.mpState := by rw [← ht]
  cases hs : t.mpState with
  | idle => exact hidle (hstate.trans hs)
  | closed => exact hother (by rw [hstate, hs]; exact AS.noConfusion)
  | waitForRspSuccess => exact hother (by rw [hstate, hs]; exact AS.noConfusion)
  | waitForUnsolSuccess => exact hother (by rw [hstate, hs]; exact AS.noConfusion)
  | waitForSolUnsolSuccess => exact hother (by rw [hstate, hs]; exact AS.noConfusion)

theorem does_flush (d : Deferred) (s : Slave ν ρ) :
    Ends ((SlaveRest.flush d).perform env) (Does env s (.flush d)) s := by
  have hnothing (d : Deferred) (hn : ¬(s.mpState = .idle ∧ s.defers d = true)) :
      Does env s (.flush d) (some [Piece.next d]) s :=
    .flushNothing fun hs ↦ Bool.eq_false_iff.mpr fun hd ↦ hn ⟨hs, hd⟩
  rw [Ends, perform]
  refine ends_append ?_
  cases d with
  | update =>
    have hidle (hs : s.mpState = .idle) : Ends (Piece.idleOnDataUpdate env) (fun o t ↦
        Does env s (.flush .update) (o.map (· ++ [Piece.next .update])) t)
        { s with mDeferredUpdate := false } :=
      ends_idleOnDataUpdate fun frames t h ↦ .flushUpdate hs h
    rw [Ends, Piece.flush, wp_bind, wp_get]
    refine wp_ite ?_ (hnothing .update)
    rintro ⟨hs, hd⟩
    exact hidle hs
  | request =>
    rw [Ends, Piece.flush, wp_bind, wp_get]
    by_cases hs : s.mpState = .idle
    · cases hr : s.mDeferredRequest with
      | none =>
        rw [hs]
        refine hnothing .request fun hd ↦ ?_
        rw [defers, hr] at hd
        exact Bool.noConfusion hd.2
      | some r =>
        have hrequest : Ends (Piece.doRequest env .waitForRspSuccess r) (fun o t ↦
            Does env s (.flush .request) (o.map (· ++ [Piece.next .request])) t)
            { s with mDeferredRequest := none } :=
          wp_mono (Piece.wp_requested env .waitForRspSuccess r _)
            (fun frames t ht ↦ .flushRequest hs hr ht) fun _ t ht ↦ .flushRequest hs hr ht
        rw [hs]
        exact hrequest
    · have hnone := hnothing .request fun hi ↦ hs hi.1
      cases hst : s.mpState with
      | idle => exact absurd hst hs
      | _ => exact hnone
  | unsol =>
    have hidle (hs : s.mpState = .idle) (hd : s.mDeferredUnsol = true) :
        Ends (Piece.idleOnUnsolExpiration env) (fun o t ↦
          Does env s (.flush .unsol) (o.map (· ++ [Piece.next .unsol])) t)
          { s with mDeferredUnsol := false } :=
      ends_idleOnUnsolExpiration fun frames t h ↦ .flushUnsol hs hd h
    rw [Ends, Piece.flush, wp_bind, wp_get]
    refine wp_ite ?_ (hnothing .unsol)
    rintro ⟨hs, hd⟩
    exact hidle hs hd
  | unknown => exact hnothing .unknown fun hd ↦ Bool.noConfusion hd.2

/-- **Every piece does one of the things listed.** -/
theorem does_perform (frame : SlaveRest) (s : Slave ν ρ) :
    Ends (frame.perform env) (Does env s frame) s := by
  cases frame with
  | layer op => exact does_layer op s
  | receive apData => exact does_receive apData s
  | act aAct => exact does_act aAct s
  | user call apData =>
    cases call with
    | onLowerLayerUp => exact does_up apData s
    | onLowerLayerDown => exact does_down apData s
    | onSendSuccess aUnsol =>
      cases aUnsol with
      | false => exact does_solSendSuccess apData s
      | true => exact does_unsolSendSuccess apData s
    | onFailure aUnsol =>
      cases aUnsol with
      | false => exact does_solFailure apData s
      | true => exact does_unsolFailure apData s
    | onRequest apdu info => exact does_request apdu info apData s
    | onUnknownObject => exact does_unknown apData s
    | onPartialResponse r => exact .unexpected (c := s.connection) (l := s.received) rfl
    | onFinalResponse r => exact .unexpected (c := s.connection) (l := s.received) rfl
    | onUnsolResponse r => exact .unexpected (c := s.connection) (l := s.received) rfl
  | send aUnsol => exact does_send aUnsol s
  | deferRequest r => exact .deferRequest
  | setLastRequest aBuffer => exact .setLastRequest
  | onDataUpdate => exact does_onDataUpdate s
  | onUnsolTimerExpiration => exact does_onUnsolTimerExpiration s
  | flush d => exact does_flush d s
  | handled => exact .handled
  | caught apData => exact .caught
  | returned => exact .returned

end Programs

end SlaveRest

/-! ## Moves -/

namespace Outstation

open Slave

variable {ν ρ υ : Type} [SetpointValue ν]

/-- **All that a move does.** -/
inductive Moves (env : Environment ρ υ) (s : Outstation ν ρ) :
    OutstationMove υ → Outstation ν ρ → Prop
  | happens {e : SlaveEvent υ} (he : calls e = []) :
      Moves env s (.enter e) { s with slave := (exec (Slave.handle env e) s.slave).1 }
  | enters {e : SlaveEvent υ} (hp : possible s.slave e = true) (hrun : s.running = false) :
      Moves env s (.enter e) { s with
        stack := calls e ++ .returned :: s.stack
        running := true
        thrown := s.thrown && !s.stack.isEmpty }
  | returns {rest : List SlaveRest} (hs : s.stack = .returned :: rest) :
      Moves env s .go { s with stack := rest, running := false }
  | goes {frame : SlaveRest} {rest frames : List SlaveRest} {t : Slave ν ρ}
      (hs : s.stack = frame :: rest) (hrun : s.running = true)
      (h : frame.Does env s.slave (some frames) t) :
      Moves env s .go { s with
        slave := t
        stack := frames ++ rest
        running := !frame.callsLower s.slave.mpAppLayer t.mpAppLayer
        arrived := s.arrived ++ frame.request.toList
        sent := s.sent ++ ((submitted frames).map fun p ↦ ⟨p.1, p.2, s.slave⟩).toList }
  | throws {frame : SlaveRest} {rest : List SlaveRest} {t : Slave ν ρ} {ex : Exception}
      (hs : s.stack = frame :: rest) (hrun : s.running = true) (h : frame.Does env s.slave none t) :
      Moves env s .go (raise { s with
        slave := t, stack := rest, arrived := s.arrived ++ frame.request.toList } ex)
  | resumes (hrun : s.running = false) : Moves env s .resume { s with running := true }
  | unwinds {ex : Exception} (hrun : s.running = false) : Moves env s (.unwind ex) (s.raise ex)

variable {env : Environment ρ υ} {s t : Outstation ν ρ} {m : OutstationMove υ}

theorem moves_advance {frame : SlaveRest} {rest : List SlaveRest} (hs : s.stack = frame :: rest)
    (hrun : s.running = true) : Moves env s .go (s.advance env frame rest) := by
  have hdoes : SlaveRest.Ends (frame.perform env) (frame.Does env s.slave) s.slave :=
    SlaveRest.does_perform frame s.slave
  rw [SlaveRest.Ends, wp] at hdoes
  rw [advance]
  cases hp : frame.perform env s.slave with
  | ok frames t =>
    rw [hp] at hdoes
    exact .goes hs hrun hdoes
  | error ex t =>
    rw [hp] at hdoes
    exact .throws hs hrun hdoes

/-- **Every move does one of these things.** -/
theorem moves_of_step (h : s.step env m = some t) : Moves env s m t := by
  cases m with
  | enter e =>
    rw [step] at h
    split at h
    · next hp =>
      cases he : calls e with
      | nil =>
        rw [he] at h
        exact Option.some.inj h ▸ .happens he
      | cons frame frames =>
        have hmoves : Moves env s (.enter e) _ := .enters hp.2 hp.1
        rw [he] at h hmoves
        exact Option.some.inj h ▸ hmoves
    · exact absurd h (Option.some_ne_none t).symm
  | go =>
    rw [step] at h
    split at h
    · next hrun =>
      cases hs : s.stack with
      | nil =>
        rw [hs] at h
        exact absurd h (Option.some_ne_none t).symm
      | cons frame rest =>
        have hmoves : Moves env s .go _ := moves_advance hs hrun
        rw [hs] at h
        cases frame with
        | returned => exact Option.some.inj h ▸ .returns hs
        | _ => exact Option.some.inj h ▸ hmoves
    · exact absurd h (Option.some_ne_none t).symm
  | resume =>
    rw [step] at h
    split at h
    · next hp => exact Option.some.inj h ▸ .resumes hp.1
    · exact absurd h (Option.some_ne_none t).symm
  | unwind ex =>
    rw [step] at h
    split at h
    · next hp => exact Option.some.inj h ▸ .unwinds hp.1
    · exact absurd h (Option.some_ne_none t).symm

end Outstation

end OpenDNP3
