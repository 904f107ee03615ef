import OpenDNP3.Slave.Coupling

/-!
# The ledger of requests

`Slave.ledger` has the members of a slave that tell which requests it was handed and what has become
of them.  Only a few functions change it: a request is received, deferred or taken up again, it is
executed, and it is answered.

* `wp_doRequest` — the execution of one request, for a predicate that holds of the ledger until the
  request is performed and one that holds from then on.
* `RequestInvariant` — a property of the ledger that each of these changes keeps, and
  `RequestInvariant.handle`: it is then kept by every event of the outstation.
-/

set_option autoImplicit false

namespace OpenDNP3

open Handler

/-! ## The ledger

What a slave has been asked and what it has done is written down beside it. The source has no
such record, and nothing that the slave does depends on it. -/

/-- What tells which requests a slave was handed and what has become of them. -/
structure Ledger where
  deferred : Option Request
  last : List Byte
  received : List Received
  connection : ℕ
  executing : ℕ
  history : List SlaveEntry
  /-- The slave waits for its last response. -/
  responding : Prop
  closed : Prop
  /-- A request has been received over this connection. -/
  numbered : Prop
  /-- The response has been configured as one. -/
  answers : Prop

namespace Ledger

/-- Something was done that no request is concerned with. -/
structure Quiet (a b : Ledger) : Prop where
  deferred : b.deferred = a.deferred
  last : b.last = a.last
  received : b.received = a.received
  connection : b.connection = a.connection
  executing : b.executing = a.executing
  history : b.history = a.history
  responding : b.responding → a.responding
  closed : b.closed → a.closed
  numbered : a.numbered → b.numbered
  answers : a.answers → b.answers

/-- The predicate does not mind what no request is concerned with. -/
def Quietly (V : Ledger → Prop) : Prop := ∀ a b, Quiet a b → V a → V b

/-- The slave does something for the request that it is executing. -/
def note (a : Ledger) (aAct : SlaveAct) : Ledger :=
  { a with history := a.history ++ [⟨a.executing, a.connection, aAct⟩] }

/-- A request is received. -/
def receive (a : Ledger) (apdu : Option APDU) : Ledger :=
  { a with received := a.received ++ [⟨apdu, a.connection⟩], numbered := True }

/-- The link goes down. -/
def disconnect (a : Ledger) : Ledger :=
  { a with connection := a.connection + 1, responding := False, closed := True, numbered := False }

/-- A request is looked at. -/
def start (a : Ledger) (r : Request) : Ledger :=
  { a with executing := r.number }.note (.process r.mRequest.getFunction)

variable {a b : Ledger}

theorem Quiet.refl (a : Ledger) : Quiet a a :=
  ⟨rfl, rfl, rfl, rfl, rfl, rfl, id, id, id, id⟩

/-- The ledger but for the four conditions. -/
theorem Quiet.of_conditions (a : Ledger) {p q r s : Prop} (hp : p → a.responding)
    (hq : q → a.closed) (hr : a.numbered → r) (hs : a.answers → s) :
    Quiet a { a with responding := p, closed := q, numbered := r, answers := s } :=
  ⟨rfl, rfl, rfl, rfl, rfl, rfl, hp, hq, hr, hs⟩

end Ledger

namespace Slave

open Ledger

variable {ν ρ υ : Type}

/-- The ledger of a slave. -/
def ledger (s : Slave ν ρ) : Ledger where
  deferred := s.mDeferredRequest
  last := s.mLastRequest
  received := s.received
  connection := s.connection
  executing := s.executing
  history := s.history
  responding := s.mpState.isResponding = true
  closed := s.mpState = .closed
  numbered := 0 ≤ (s.mpAppLayer.channel false).mSequence
  answers := s.mResponse.Answers

/-- A slave that couples with its layer, with something said of its state and of its ledger. -/
def In (T : AS → Prop) (V : Ledger → Prop) (s : Slave ν ρ) : Prop :=
  Couples s.mpAppLayer s.mpState ∧ T s.mpState ∧ V s.ledger

/-- A slave that couples with its layer, with something said of its ledger. -/
abbrev Keeps (V : Ledger → Prop) (s : Slave ν ρ) : Prop := In (fun _ ↦ True) V s

variable {T : AS → Prop} {V W : Ledger → Prop} {s : Slave ν ρ}

theorem In.couples (h : In T V s) : Couples s.mpAppLayer s.mpState := h.1

theorem In.state (h : In T V s) : T s.mpState := h.2.1

theorem In.ledger (h : In T V s) : V s.ledger := h.2.2

theorem In.mono {T' : AS → Prop} (h : In T V s) (hT : T s.mpState → T' s.mpState)
    (hV : V s.ledger → W s.ledger) : In T' W s :=
  ⟨h.couples, hT h.state, hV h.ledger⟩

/-- What the execution of a request does between its performance and its answer. -/
theorem local_in (hq : Quietly V)
    (heffect : ∀ a aAct, aAct.isEffect = true → V a → V (a.note aAct)) :
    Local (In T V : Slave ν ρ → Prop) where
  keep s t h hanswers hs := by
    have happ : t.mpAppLayer = s.mpAppLayer := congrArg View.app h
    have hstate : t.mpState = s.mpState := congrArg View.state h
    refine ⟨?_, ?_, hq s.ledger t.ledger
      ⟨congrArg View.deferred h, congrArg View.last h, congrArg View.received h,
      congrArg View.connection h, congrArg View.executing h, congrArg View.history h, ?_, ?_, ?_,
      hanswers⟩ hs.ledger⟩
    · rw [happ, hstate]
      exact hs.couples
    · rw [hstate]
      exact hs.state
    · exact fun hr ↦ (congrArg AS.isResponding hstate).symm.trans hr
    · exact fun hc ↦ hstate.symm.trans hc
    · exact fun hn ↦ le_of_le_of_eq hn (by rw [happ])
  note s aAct ha hs := ⟨hs.couples, hs.state, heffect _ aAct ha hs.ledger⟩

/-! ## Sending -/

theorem stable_onApp_in (hq : Quietly V) {α : Type} {x : AppLayer.M (List Byte) α}
    (hx : ∀ st numbered, T st → Stable (CouplesAfter st numbered) x) :
    Stable (In T V) (onApp x : M ν ρ α) := by
  intro s hs
  rw [onApp, wp_zoom]
  have hkeep (a : AppLayer (List Byte))
      (ha : CouplesAfter s.mpState (0 ≤ (s.mpAppLayer.channel false).mSequence) a) :
      In T V { s with mpAppLayer := a } :=
    ⟨ha.1, hs.state, hq _ _ (.of_conditions _ id id ha.2 id) hs.ledger⟩
  exact wp_mono (hx s.mpState _ hs.state s.mpAppLayer ⟨hs.couples, id⟩)
    (fun _ a ha ↦ hkeep a ha) fun _ a ha ↦ hkeep a ha

/-- The internal indications of a response leave its header alone. -/
theorem setIIN_eq {f g : OutAPDU (List Byte)} {arIIN : IINField}
    (h : f.setIIN arIIN = .ok g) : g = { f with iin := arIIN } := by
  simp only [OutAPDU.setIIN, assert, bind, Except.bind, pure, Except.pure] at h
  repeat' split at h
  all_goals try contradiction
  exact (Except.ok.inj h).symm

/-- **A response is sent** while the slave waits for one. -/
theorem stable_send (hT : ∀ st, T st → st.isResponding = true) (hq : Quietly V)
    (hrespond : ∀ a, a.responding → V a → V (a.note .respond)) :
    Stable (In T V) (send : M ν ρ Unit) := by
  refine stable_bind (fun _ h ↦ h) fun _ ↦ stable_bind (fun _ h ↦ h) fun _ ↦
    stable_get_bind fun s hs ↦ ?_
  rw [wp_bind, wp_get, wp_bind]
  cases hf : s.mResponse.setIIN s.mRspIIN with
  | error e => exact hs
  | ok f =>
    rw [wp_lift_ok, wp_bind, wp_modify]
    obtain rfl := setIIN_eq hf
    refine stable_bind (stable_onApp_in hq fun st _ hst ↦ ?_) (fun _ s hs ↦ ?_) _ ?_
    · exact stable_sendResponse_couples (hT st hst) _
    · exact ⟨hs.couples, hs.state, hrespond _ (hT _ hs.state) hs.ledger⟩
    · exact ⟨hs.couples, hs.state, hs.ledger⟩

theorem stable_configureAndSendSimpleResponse (hT : ∀ st, T st → st.isResponding = true)
    (hq : Quietly V) (hrespond : ∀ a, a.responding → V a → V (a.note .respond)) :
    Stable (In T V) (configureAndSendSimpleResponse : M ν ρ Unit) :=
  stable_bind (fun _ hs ↦ ⟨hs.couples, hs.state,
    hq _ _ (.of_conditions _ id id id fun _ ↦ ⟨rfl, rfl⟩) hs.ledger⟩) fun _ ↦
      stable_send hT hq hrespond

theorem stable_loadResponse (hq : Quietly V) (env : Environment ρ υ) :
    Stable (In T V) (loadResponse env : M ν ρ Unit) := fun _ hs ↦
  ⟨hs.couples, hs.state, hq _ _ (.of_conditions _ id id id fun _ ↦ ⟨rfl, rfl⟩) hs.ledger⟩

/-! ## Executing a request -/

/-- A predicate that the slave keeps while it executes a request, but for what it performs. -/
structure Serving (V : Ledger → Prop) : Prop where
  quiet : Quietly V
  start : ∀ a, V a → V { a with responding := True }
  effect : ∀ a aAct, aAct.isEffect = true → V a → V (a.note aAct)
  respond : ∀ a, a.responding → V a → V (a.note .respond)

/-- A slave in one state may execute a request and wait for the response in the next. -/
structure Ready (st next : AS) : Prop where
  responding : next.isResponding = true
  reporting : next.isReporting = st.isReporting
  notClosed : st ≠ .closed

/-- What `SwitchOnFunction`, and `HandleOperate`, decide about a request with side effects: whether
it is performed or taken for a repeat. -/
def performs (arRequest : APDU) (aSeqInfo : SequenceInfo) (aLast : List Byte) : Bool :=
  match arRequest.getFunction with
  | .write | .proprietaryVtoTransfer => aSeqInfo ≠ .prev
  | .operate => ¬(aSeqInfo = .prev ∧ aLast = arRequest.mBuffer)
  | .directOperate | .directOperateNoAck => true
  | _ => false

variable {st next : AS}

theorem Ready.next_notClosed (hr : Ready st next) : next ≠ .closed := by
  rintro rfl
  exact Bool.noConfusion hr.responding

/-- A slave that begins to wait for a response. -/
theorem Ready.change (hr : Ready st next) (hV : Serving V)
    (hs : In (fun x ↦ x = st ∨ x = next) V s) (timer : Bool) :
    In (· = next) V { s with mpState := next, mpTimeTimer := timer } := by
  refine ⟨hs.couples.change ?_ hr.next_notClosed fun u hu ↦ ?_, rfl,
    hV.quiet _ _ (.of_conditions _ (fun _ ↦ trivial) (fun h ↦ absurd h hr.next_notClosed) id id)
      (hV.start _ hs.ledger)⟩
  · rcases hs.state with h | h
    · exact h ▸ hr.notClosed
    · exact h ▸ hr.next_notClosed
  · cases u with
    | false => exact absurd (hr.responding.symm.trans hu) (by decide)
    | true =>
      refine .inl ?_
      rcases hs.state with h | h
      · exact (congrArg AS.isReporting h).trans (hr.reporting.symm.trans hu)
      · exact (congrArg AS.isReporting h).trans hu

/-- The state is changed before a request is executed. -/
theorem Ready.wp_changeState_bind (hr : Ready st next) (hV : Serving V)
    (hs : In (fun x ↦ x = st ∨ x = next) V s) {α : Type} {x : M ν ρ α} {Q : α → Slave ν ρ → Prop}
    {E : Exception → Slave ν ρ → Prop}
    (hx : ∀ t, In (· = next) V t → t.mLastRequest = s.mLastRequest → wp x Q E t) :
    wp (do changeState next; x) Q E s := by
  rw [wp_bind]
  exact hx _ (hr.change hV hs _) rfl

section Commands

variable [SetpointValue ν] {env : Environment ρ υ}

omit [SetpointValue ν] in
theorem Serving.select (hV : Serving V) (aType : CommandTypes) (arCmd : CommandRequestInfo ν)
    (aIndex : ℕ) : Stable (In T V) (select env aType arCmd aIndex : M ν ρ _) :=
  (local_in hV.quiet hV.effect).tolerant.select fun _ hs ↦ hs

theorem Serving.handleSelect (hV : Serving V) (arRequest : APDU) (aSeqInfo : SequenceInfo) :
    Stable (In T V) (handleSelect env arRequest aSeqInfo : M ν ρ Unit) :=
  stable_bind (fun _ h ↦ h) fun _ ↦
    (local_in hV.quiet hV.effect).tolerant.forEachCommand fun _ _ _ _ ↦ hV.select _ _ _

theorem Serving.forEachOperate (hV : Serving V) (arRequest : APDU) (aSeqInfo : SequenceInfo)
    (aDirect : Bool) : Stable (In T V) (forEachCommand arRequest fun hdr aType val index ↦
      operate env aType (commandRequestInfo val hdr aSeqInfo arRequest.getControl.seq) aDirect index
      : M ν ρ Unit) :=
  (local_in hV.quiet hV.effect).tolerant.forEachCommand fun _ _ _ _ ↦
    (local_in hV.quiet hV.effect).operate fun _ _ hs ↦ hs

/-- **The functions of a request**: until it is performed one predicate is kept, from then on the
other. -/
theorem wp_switchOnFunction (hV : Serving V) (hW : Serving W)
    (hperform : ∀ a aFunction, V a → W (a.note (.perform aFunction))) (hr : Ready st next)
    (hs : In (· = st) V s) (arRequest : APDU) (aSeqInfo : SequenceInfo) :
    wp (switchOnFunction env next arRequest aSeqInfo)
      (fun _ t ↦ In (fun x ↦ x = st ∨ x = next)
        (if performs arRequest aSeqInfo s.mLastRequest then W else V) t)
      (fun _ t ↦ In (fun x ↦ x = st ∨ x = next)
        (if performs arRequest aSeqInfo s.mLastRequest then W else V) t) s := by
  have hsend {X : Ledger → Prop} (hX : Serving X) : Stable (In (· = next) X) (send : M ν ρ Unit) :=
    stable_send (fun _ h ↦ h ▸ hr.responding) hX.quiet hX.respond
  have hsimple {X : Ledger → Prop} (hX : Serving X) :
      Stable (In (· = next) X) (configureAndSendSimpleResponse : M ν ρ Unit) :=
    stable_configureAndSendSimpleResponse (fun _ h ↦ h ▸ hr.responding) hX.quiet hX.respond
  have hlocal {U : AS → Prop} {X : Ledger → Prop} (hX : Serving X) :
      Local (In U X : Slave ν ρ → Prop) :=
    local_in hX.quiet hX.effect
  have hs' : In (fun x ↦ x = st ∨ x = next) V s := hs.mono .inl id
  have hdone {x : M ν ρ Unit} {X : Ledger → Prop} {t : Slave ν ρ}
      (hX : (if performs arRequest aSeqInfo s.mLastRequest then W else V) = X)
      (hx : Stable (In (· = next) X) x) (ht : In (· = next) X t) :
      wp x (fun _ t ↦ In (fun x ↦ x = st ∨ x = next)
          (if performs arRequest aSeqInfo s.mLastRequest then W else V) t)
        (fun _ t ↦ In (fun x ↦ x = st ∨ x = next)
          (if performs arRequest aSeqInfo s.mLastRequest then W else V) t) t := by
    rw [hX]
    exact wp_mono (hx t ht) (fun _ _ ht ↦ ht.mono .inr id) fun _ _ ht ↦ ht.mono .inr id
  have hnote {U : AS → Prop} {f : FunctionCodes} {t : Slave ν ρ} (ht : In U V t) :
      In U W { t with history := t.history ++ [⟨t.executing, t.connection, .perform f⟩] } :=
    ⟨ht.couples, ht.state, hperform _ f ht.ledger⟩
  unfold switchOnFunction
  split
  · next hf =>
    refine hr.wp_changeState_bind hV hs' fun t ht _ ↦ hdone (if_neg (by simp [performs, hf])) ?_ ht
    exact stable_bind (fun _ h ↦ h) fun _ ↦ stable_bind (fun _ h ↦ h) fun _ ↦
      stable_bind (fun _ h ↦ h) fun _ ↦ stable_bind (stable_loadResponse hV.quiet env) fun _ ↦
        stable_bind (fun _ h ↦ h) fun _ ↦ hsend hV
  · next hf =>
    refine hr.wp_changeState_bind hV hs' fun t ht _ ↦ ?_
    split
    · next hseq =>
      rw [wp_bind]
      exact hdone (if_pos (by simpa [performs, hf] using hseq))
        (stable_bind ((hlocal hW).tolerant.handleWrite arRequest) fun _ ↦ hsimple hW) (hnote ht)
    · next hseq => exact hdone (if_neg (by simpa [performs, hf] using hseq)) (hsimple hV) ht
  · next hf =>
    refine hr.wp_changeState_bind hV hs' fun t ht _ ↦ ?_
    split
    · next hseq =>
      rw [wp_bind]
      exact hdone (if_pos (by simpa [performs, hf] using hseq))
        (stable_bind ((hlocal hW).tolerant.handleVtoTransfer arRequest) fun _ ↦ hsimple hW)
          (hnote ht)
    · next hseq => exact hdone (if_neg (by simpa [performs, hf] using hseq)) (hsimple hV) ht
  · next hf =>
    refine hr.wp_changeState_bind hV hs' fun t ht _ ↦ ?_
    exact hdone (if_neg (by simp [performs, hf]))
      (stable_bind (hV.handleSelect arRequest aSeqInfo) fun _ ↦ hsend hV) ht
  · next hf =>
    refine hr.wp_changeState_bind hV hs' fun t ht hlast ↦ ?_
    rw [handleOperate, bind_assoc, wp_bind, wp_get, hlast]
    split
    · next hrepeat =>
      exact hdone (if_neg (by simpa [performs, hf] using hrepeat))
        (stable_bind (stable_pure _) fun _ ↦ hsend hV) ht
    · next hrepeat =>
      rw [bind_assoc, wp_bind]
      exact hdone (if_pos (by rw [performs, hf]; exact decide_eq_true hrepeat))
        (stable_bind (hW.forEachOperate arRequest aSeqInfo false) fun _ ↦ hsend hW) (hnote ht)
  · next hf =>
    refine hr.wp_changeState_bind hV hs' fun t ht _ ↦ ?_
    rw [wp_bind]
    exact hdone (if_pos (by simp [performs, hf]))
      (stable_bind (hW.forEachOperate arRequest aSeqInfo true) fun _ ↦ hsend hW) (hnote ht)
  · next hf =>
    rw [wp_bind, note, wp_modify, if_pos (by simp [performs, hf])]
    exact wp_mono (hW.forEachOperate (T := (· = st)) arRequest aSeqInfo true _ (hnote hs))
      (fun _ _ ht ↦ ht.mono .inl id) fun _ _ ht ↦ ht.mono .inl id
  · next hf =>
    refine hr.wp_changeState_bind hV hs' fun t ht _ ↦ ?_
    exact hdone (if_neg (by simp [performs, hf]))
      (stable_bind ((hlocal hV).handleEnableUnsolicited _ _) fun _ ↦ hsend hV) ht
  · next hf =>
    refine hr.wp_changeState_bind hV hs' fun t ht _ ↦ ?_
    exact hdone (if_neg (by simp [performs, hf]))
      (stable_bind ((hlocal hV).handleEnableUnsolicited _ _) fun _ ↦ hsend hV) ht
  · next hf =>
    refine hr.wp_changeState_bind hV hs' fun t ht _ ↦ ?_
    exact hdone (if_neg (by simp [performs, hf]))
      (stable_bind ((hlocal hV).tolerant.configureDelayMeasurement _) fun _ ↦ hsend hV) ht
  · have hnot : performs arRequest aSeqInfo s.mLastRequest = false := by
      unfold performs
      split <;> simp_all
    rw [hnot, if_neg Bool.false_ne_true]
    exact hs'

omit [SetpointValue ν] in
/-- Only a response is sent as one. -/
theorem wp_sendResponse_answers (f : OutAPDU (List Byte)) (a : AppLayer (List Byte)) :
    wp (AppLayer.sendResponse f) (fun _ _ ↦ f.Answers) (fun _ _ ↦ True) a := by
  by_cases hf : f.Answers
  · exact wp_of_forall (fun _ _ ↦ hf) fun _ _ ↦ trivial
  · simp only [AppLayer.sendResponse, AppLayer.validate, wp_bind, wp_get, wp_ensure]
    repeat' split
    all_goals try trivial
    next huns =>
      cases hfunc : f.function with
      | none =>
        rw [AppLayer.getFunction, hfunc]
        trivial
      | some func =>
        rw [AppLayer.getFunction, hfunc, wp_lift_ok]
        split
        · next hresponse => exact absurd ⟨hresponse ▸ hfunc, huns.symm⟩ hf
        · trivial

omit [SetpointValue ν] in
theorem wp_send_answers (s : Slave ν ρ) :
    wp (send : M ν ρ Unit) (fun _ t ↦ t.mResponse.Answers) (fun _ _ ↦ True) s := by
  simp only [send, setRspIIN, wp_bind, wp_get, wp_modify]
  cases OutAPDU.setIIN _ _ with
  | error e => trivial
  | ok f =>
    simp only [wp_lift_ok, onApp, wp_zoom, note, wp_modify]
    exact wp_sendResponse_answers f _

/-- A request that was executed has left a response. -/
theorem wp_switchOnFunction_answers (arRequest : APDU) (aSeqInfo : SequenceInfo) (s : Slave ν ρ) :
    wp (switchOnFunction env next arRequest aSeqInfo) (fun _ t ↦ t.mResponse.Answers)
      (fun _ _ ↦ True) s := by
  have hlocal : Local fun s : Slave ν ρ ↦ s.mResponse.Answers := ⟨fun _ _ _ h ↦ h, fun _ _ _ h ↦ h⟩
  have hsimple (t : Slave ν ρ) :
      wp (configureAndSendSimpleResponse : M ν ρ Unit) (fun _ t ↦ t.mResponse.Answers)
        (fun _ _ ↦ True) t :=
    wp_bind_of_last (fun _ t ↦ wp_send_answers t) t
  unfold switchOnFunction
  split
  · exact wp_bind_of_last (fun _ ↦ wp_bind_of_last fun _ ↦ wp_bind_of_last fun _ ↦
      wp_bind_of_last fun _ ↦ wp_bind_of_last fun _ ↦ wp_bind_of_last fun _ ↦ wp_send_answers) s
  · refine wp_bind_of_last (fun _ t ↦ ?_) s
    split
    · exact wp_bind_of_last (fun _ ↦ wp_bind_of_last fun _ ↦ hsimple) t
    · exact hsimple t
  · refine wp_bind_of_last (fun _ t ↦ ?_) s
    split
    · exact wp_bind_of_last (fun _ ↦ wp_bind_of_last fun _ ↦ hsimple) t
    · exact hsimple t
  · exact wp_bind_of_last (fun _ ↦ wp_bind_of_last fun _ ↦ wp_send_answers) s
  · exact wp_bind_of_last (fun _ ↦ wp_bind_of_last fun _ ↦ wp_send_answers) s
  · exact wp_bind_of_last
      (fun _ ↦ wp_bind_of_last fun _ ↦ wp_bind_of_last fun _ ↦ wp_send_answers) s
  · refine wp_bind_of_last (fun _ t ↦ ?_) s
    exact wp_mono (hlocal.tolerant.wp_forEachCommand (fun _ _ _ _ ↦ hlocal.operate fun _ _ h ↦ h)
      ⟨rfl, rfl⟩) (fun _ _ h ↦ h) fun _ _ _ ↦ trivial
  · exact wp_bind_of_last (fun _ ↦ wp_bind_of_last fun _ ↦ wp_send_answers) s
  · exact wp_bind_of_last (fun _ ↦ wp_bind_of_last fun _ ↦ wp_send_answers) s
  · exact wp_bind_of_last (fun _ ↦ wp_bind_of_last fun _ ↦ wp_send_answers) s
  · trivial

/-- **The execution of a request.** -/
theorem wp_doRequest (hV : Serving V) (hW : Serving W)
    (hperform : ∀ a aFunction, V a → W (a.note (.perform aFunction)))
    (hr : Ready s.mpState next) (hc : Couples s.mpAppLayer s.mpState) {r : Request}
    (h : V (s.ledger.start r)) :
    wp (doRequest env next r)
      (fun _ t ↦ Couples t.mpAppLayer t.mpState ∧ ∃ a : Ledger,
        (if performs r.mRequest r.mSeqInfo s.mLastRequest then W else V) a ∧ a.answers ∧
          t.ledger = { a with last := r.mRequest.mBuffer })
      (fun _ t ↦ Keeps (if performs r.mRequest r.mSeqInfo s.mLastRequest then W else V) t) s := by
  have hX : Serving (if performs r.mRequest r.mSeqInfo s.mLastRequest then W else V) := by
    split
    · exact hW
    · exact hV
  simp only [doRequest, wp_bind, wp_modify, note, wp_tryCatch]
  refine wp_mono (wp_and (wp_switchOnFunction hV hW hperform hr (s := { s with
    mRspIIN := {}
    executing := r.number
    history := s.history ++ [⟨r.number, s.connection, .process r.mRequest.getFunction⟩] })
    ⟨hc, rfl, h⟩ r.mRequest r.mSeqInfo) (wp_switchOnFunction_answers r.mRequest r.mSeqInfo _))
    (fun _ t ht ↦ ?_) fun ex t ht ↦ ?_
  · exact ⟨ht.1.couples, _, ht.1.ledger, ht.2, rfl⟩
  · split
    · refine hr.wp_changeState_bind hX ht.1 fun u hu _ ↦ ?_
      rw [wp_bind, setRspIIN, wp_modify]
      have hsend : Stable (In (· = next) _) (configureAndSendSimpleResponse : M ν ρ Unit) :=
        stable_configureAndSendSimpleResponse (fun _ h ↦ h ▸ hr.responding) hX.quiet hX.respond
      refine wp_mono (wp_and (hsend _ hu) (wp_bind_of_last (fun _ ↦ wp_send_answers) _))
        (fun _ v hv ↦ ?_) fun _ v hv ↦ hv.1.mono (fun _ ↦ trivial) id
      exact ⟨hv.1.couples, _, hv.1.ledger, hv.2, rfl⟩
    · rw [wp_throw]
      exact ht.1.mono (fun _ ↦ trivial) id

end Commands

end Slave

end OpenDNP3
