import OpenDNP3.App.Grammar
import OpenDNP3.Slave.Disconnect

/-!
# Repeated requests

A master that gets no answer sends its request again, with the same octets.  The outstation has to
answer the repeat, and must not act on it a second time.  Which request is a repeat is decided in
three places: the solicited channel compares sequence numbers, `SwitchOnFunction` takes a `WRITE`
with the last sequence number for a repeat whatever its octets are, `HandleOperate` compares the
octets too, and a `DIRECT_OPERATE` is never taken for one.

`Slave.acts_once` says that a request with side effects is performed exactly if it is not the repeat
of the request before it, in every run in which, when a request arrives, this test is right about it
and the slave has room for it.  `Slave.skips_and_repeats` is what happens otherwise.
-/

set_option autoImplicit false

namespace OpenDNP3

open Handler

/-! ## Counting

The ledger tells how often a request has been executed, answered or skipped. -/

/-- The requests that act on the outstation. -/
def hasSideEffects : FunctionCodes → Bool
  | .write | .proprietaryVtoTransfer | .operate | .directOperate | .directOperateNoAck => true
  | _ => false

namespace SlaveAct

/-- A request is looked at. -/
def isProcess : SlaveAct → Bool
  | process _ => true
  | _ => false

/-- A request with side effects is performed. -/
def isPerform : SlaveAct → Bool
  | perform _ => true
  | _ => false

/-- A fragment of a response is sent. -/
def isRespond : SlaveAct → Bool
  | respond => true
  | _ => false

end SlaveAct

namespace Ledger

/-- How often the slave has done something for a request. -/
def times (a : Ledger) (n : ℕ) (p : SlaveAct → Bool) : ℕ :=
  a.history.countP fun e ↦ e.request = n && p e.act

theorem times_note (a : Ledger) (aAct : SlaveAct) (n : ℕ) (p : SlaveAct → Bool) :
    (a.note aAct).times n p = a.times n p + if a.executing = n ∧ p aAct = true then 1 else 0 := by
  simp [times, note, List.countP_append, List.countP_singleton]

/-- What is done is not of the kind that is counted. -/
theorem times_note_of_not (a : Ledger) {aAct : SlaveAct} (n : ℕ) {p : SlaveAct → Bool}
    (h : p aAct = false) : (a.note aAct).times n p = a.times n p := by
  rw [times_note, if_neg (by simp [h]), Nat.add_zero]

/-- The request with the given number, unless it had an unknown object. -/
def request (a : Ledger) (n : ℕ) : Option APDU := a.received[n]?.bind (·.apdu)

/-- The request has the same octets as the request before it. -/
def Repeats (a : Ledger) : ℕ → Prop
  | 0 => False
  | n + 1 => ∃ q r, a.request n = some q ∧ a.request (n + 1) = some r ∧ q.mBuffer = r.mBuffer

/-- **What has become of a request**: it was looked at once, and performed unless it was a repeat,
which was answered. -/
structure Settled (a : Ledger) (n : ℕ) (r : APDU) : Prop where
  processed : a.times n SlaveAct.isProcess = 1
  fresh : hasSideEffects r.getFunction = true → ¬a.Repeats n → a.times n SlaveAct.isPerform = 1
  repeated : hasSideEffects r.getFunction = true → a.Repeats n →
    a.times n SlaveAct.isPerform = 0 ∧ 0 < a.times n SlaveAct.isRespond

/-- A request that is deferred or in hand: nothing has been done for it, and the slave will be right
about it. -/
structure Pending (a : Ledger) (r : Request) : Prop where
  request : a.request r.number = some r.mRequest
  octets : r.mRequest.mBuffer ≠ []
  numbered : a.numbered
  processed : a.times r.number SlaveAct.isProcess = 0
  performed : a.times r.number SlaveAct.isPerform = 0
  test : hasSideEffects r.mRequest.getFunction = true →
    (Slave.performs r.mRequest r.mSeqInfo a.last = true ↔ ¬a.Repeats r.number)

/-- What holds whatever the slave is doing. -/
structure Recorded (a : Ledger) : Prop where
  history : ∀ e ∈ a.history, e.request < a.received.length
  executing : a.responding → a.executing < a.received.length
  answers : a.last ≠ [] → a.answers

/-- **Every request is settled**, but for the one that is deferred. -/
structure AllSettled (a : Ledger) : Prop extends Recorded a where
  settled : ∀ n r, a.request n = some r → (∃ d, a.deferred = some d ∧ d.number = n) ∨ a.Settled n r
  pending : ∀ d, a.deferred = some d → a.Pending d

/-- Every request is settled, but for the one in hand. -/
structure AllButSettled (r : Request) (a : Ledger) : Prop extends Recorded a where
  settled : ∀ n q, a.request n = some q → n = r.number ∨ a.Settled n q
  pending : a.Pending r
  deferred : a.deferred = none

/-- Every request is settled, but for the one that is executed and was performed so often.  Nothing
is received meanwhile. -/
structure Doing (r : Request) (rs : List Received) (performed : ℕ) (a : Ledger) : Prop
    extends Recorded a where
  settled : ∀ n q, a.request n = some q → n = r.number ∨ a.Settled n q
  received : a.received = rs
  request : a.request r.number = some r.mRequest
  current : a.executing = r.number
  processed : a.times r.number SlaveAct.isProcess = 1
  performed : a.times r.number SlaveAct.isPerform = performed
  deferred : a.deferred = none

variable {a b : Ledger} {n : ℕ} {r : Request} {rs : List Received}

theorem lt_of_request {q : APDU} (h : a.request n = some q) : n < a.received.length := by
  by_contra hn
  rw [request, List.getElem?_eq_none (Nat.le_of_not_lt hn)] at h
  contradiction

theorem request_receive (apdu : Option APDU) (hn : n < a.received.length) :
    (a.receive apdu).request n = a.request n := by
  rw [request, request, receive, List.getElem?_append_left hn]

theorem request_receive_self (a : Ledger) (apdu : Option APDU) :
    (a.receive apdu).request a.received.length = apdu := by
  rw [request, receive, List.getElem?_concat_length]
  rfl

/-- Whether a request is a repeat does not depend on what comes after it. -/
theorem repeats_congr (h : ∀ m ≤ n, b.request m = a.request m) : b.Repeats n ↔ a.Repeats n := by
  cases n with
  | zero => exact Iff.rfl
  | succ n => simp only [Repeats, h n (Nat.le_succ n), h (n + 1) (Nat.le_refl _)]

/-! ### What keeps a request settled -/

theorem Settled.congr {q : APDU} (h : a.Settled n q) (hr : ∀ m ≤ n, b.request m = a.request m)
    (hh : b.history = a.history) : b.Settled n q := by
  have htimes (p : SlaveAct → Bool) : b.times n p = a.times n p := by rw [times, times, hh]
  refine ⟨?_, fun hs hn ↦ ?_, fun hs hn ↦ ?_⟩
  · rw [htimes, h.processed]
  · rw [htimes, h.fresh hs fun hr' ↦ hn ((repeats_congr hr).mpr hr')]
  · rw [htimes, htimes]
    exact h.repeated hs ((repeats_congr hr).mp hn)

/-- Something is done for another request, or it is neither a look nor a performance. -/
theorem Settled.note {q : APDU} (h : a.Settled n q) {aAct : SlaveAct}
    (hother : a.executing = n → aAct.isProcess = false ∧ aAct.isPerform = false) :
    (a.note aAct).Settled n q := by
  have hprocess : (a.note aAct).times n SlaveAct.isProcess = a.times n SlaveAct.isProcess := by
    rw [times_note, if_neg fun hn ↦ Bool.noConfusion ((hother hn.1).1.symm.trans hn.2),
      Nat.add_zero]
  have hperform : (a.note aAct).times n SlaveAct.isPerform = a.times n SlaveAct.isPerform := by
    rw [times_note, if_neg fun hn ↦ Bool.noConfusion ((hother hn.1).2.symm.trans hn.2),
      Nat.add_zero]
  refine ⟨hprocess.trans h.processed, fun hs hn ↦ hperform.trans (h.fresh hs hn), fun hs hn ↦ ?_⟩
  obtain ⟨hnone, hanswer⟩ := h.repeated hs hn
  refine ⟨hperform.trans hnone, Nat.lt_of_lt_of_le hanswer ?_⟩
  rw [times_note]
  exact Nat.le_add_right _ _

theorem Pending.congr (h : a.Pending r) (hr : ∀ m ≤ r.number, b.request m = a.request m)
    (hh : b.history = a.history) (hl : b.last = a.last) (hn : b.numbered) : b.Pending r := by
  have htimes (p : SlaveAct → Bool) : b.times r.number p = a.times r.number p := by
    rw [times, times, hh]
  refine ⟨(hr _ (Nat.le_refl _)).trans h.request, h.octets, hn, (htimes _).trans h.processed,
    (htimes _).trans h.performed, fun hs ↦ ?_⟩
  rw [hl, repeats_congr hr]
  exact h.test hs

/-- A response to an earlier request is sent. -/
theorem Pending.respond (h : a.Pending r) : (a.note .respond).Pending r :=
  ⟨h.request, h.octets, h.numbered, (times_note_of_not a _ rfl).trans h.processed,
    (times_note_of_not a _ rfl).trans h.performed, h.test⟩

theorem Recorded.note (h : a.Recorded) (hlt : a.executing < a.received.length) (aAct : SlaveAct) :
    (a.note aAct).Recorded where
  history e he := by
    rcases List.mem_append.mp he with he | he
    · exact h.history e he
    · rw [List.mem_singleton.mp he]
      exact hlt
  executing := h.executing
  answers := h.answers

theorem Recorded.quiet (h : a.Recorded) (hq : Quiet a b) : b.Recorded := by
  refine ⟨?_, fun hr ↦ ?_, fun hl ↦ ?_⟩
  · rw [hq.history, hq.received]
    exact h.history
  · rw [hq.executing, hq.received]
    exact h.executing (hq.responding hr)
  · rw [hq.last] at hl
    exact hq.answers (h.answers hl)

theorem Recorded.receive (h : a.Recorded) (apdu : Option APDU) : (a.receive apdu).Recorded where
  history e he := by
    rw [Ledger.receive, List.length_append]
    exact Nat.lt_of_lt_of_le (h.history e he) (Nat.le_add_right _ _)
  executing hr := by
    rw [Ledger.receive, List.length_append]
    exact Nat.lt_of_lt_of_le (h.executing hr) (Nat.le_add_right _ _)
  answers := h.answers

theorem Quiet.request (hq : Quiet a b) (n : ℕ) : b.request n = a.request n := by
  rw [Ledger.request, Ledger.request, hq.received]

theorem quietly_allSettled : Quietly AllSettled := by
  intro a b hq h
  refine ⟨h.toRecorded.quiet hq, fun n r hr ↦ ?_, fun d hd ↦ ?_⟩
  · rw [hq.deferred]
    rw [hq.request] at hr
    exact (h.settled n r hr).imp id fun h ↦ h.congr (fun m _ ↦ hq.request m) hq.history
  · rw [hq.deferred] at hd
    have hp := h.pending d hd
    exact hp.congr (fun m _ ↦ hq.request m) hq.history hq.last (hq.numbered hp.numbered)

theorem quietly_allButSettled (r : Request) : Quietly (AllButSettled r) := by
  intro a b hq h
  refine ⟨h.toRecorded.quiet hq, fun n q hn ↦ ?_, ?_, hq.deferred.trans h.deferred⟩
  · rw [hq.request] at hn
    exact (h.settled n q hn).imp id fun h ↦ h.congr (fun m _ ↦ hq.request m) hq.history
  · exact h.pending.congr (fun m _ ↦ hq.request m) hq.history hq.last
      (hq.numbered h.pending.numbered)

theorem quietly_doing (r : Request) (rs : List Received) (k : ℕ) : Quietly (Doing r rs k) := by
  intro a b hq h
  have htimes (p : SlaveAct → Bool) : b.times r.number p = a.times r.number p := by
    rw [times, times, hq.history]
  refine ⟨h.toRecorded.quiet hq, fun n q hn ↦ ?_, hq.received.trans h.received,
    (hq.request _).trans h.request, hq.executing.trans h.current, (htimes _).trans h.processed,
    (htimes _).trans h.performed, hq.deferred.trans h.deferred⟩
  rw [hq.request] at hn
  exact (h.settled n q hn).imp id fun h ↦ h.congr (fun m _ ↦ hq.request m) hq.history

/-! ### Executing a request -/

theorem Doing.lt {k : ℕ} (h : Doing r rs k a) : a.executing < a.received.length :=
  h.current ▸ lt_of_request h.request

/-- The slave does something for the request that it is executing. -/
theorem Doing.note {k : ℕ} (h : Doing r rs k a) {aAct : SlaveAct} (hact : aAct.isProcess = false) :
    Doing r rs (if aAct.isPerform then k + 1 else k) (a.note aAct) where
  toRecorded := h.toRecorded.note h.lt aAct
  settled n q hn := by
    by_cases hnr : n = r.number
    · exact .inl hnr
    · refine .inr (((h.settled n q hn).resolve_left hnr).note fun hc ↦ ?_)
      exact absurd (hc.symm.trans h.current) hnr
  received := h.received
  request := h.request
  current := h.current
  processed := (times_note_of_not a _ hact).trans h.processed
  performed := by
    rw [times_note, h.performed, h.current]
    cases aAct.isPerform <;> simp
  deferred := h.deferred

theorem serving_doing (r : Request) (rs : List Received) (k : ℕ) :
    Slave.Serving (Doing r rs k) where
  quiet := quietly_doing r rs k
  start _ h := by
    refine ⟨⟨h.history, fun _ ↦ h.lt, h.answers⟩, fun n q hn ↦ ?_, h.received, h.request, h.current,
      h.processed, h.performed, h.deferred⟩
    exact (h.settled n q hn).imp id fun h ↦ h.congr (fun _ _ ↦ rfl) rfl
  effect a aAct he h := by
    have hact : aAct.isProcess = false ∧ aAct.isPerform = false := by
      cases aAct <;> first | exact ⟨rfl, rfl⟩ | exact Bool.noConfusion he
    have hn := h.note hact.1
    rw [hact.2] at hn
    exact hn
  respond a _ h := h.note (show SlaveAct.respond.isProcess = false from rfl)

/-- The request in hand is looked at. -/
theorem AllButSettled.start (h : AllButSettled r a) : Doing r a.received 0 (a.start r) := by
  have hlt := lt_of_request h.pending.request
  refine ⟨Recorded.note (a := { a with executing := r.number }) ⟨h.history, fun _ ↦ hlt, h.answers⟩
    hlt _, fun n q hn ↦ ?_, rfl, h.pending.request, rfl, ?_, ?_, h.deferred⟩
  · by_cases hnr : n = r.number
    · exact .inl hnr
    · have hold : Settled { a with executing := r.number } n q :=
        ((h.settled n q hn).resolve_left hnr).congr (fun _ _ ↦ rfl) rfl
      exact .inr (hold.note fun hc ↦ absurd hc.symm hnr)
  · rw [Ledger.start, times_note, if_pos ⟨rfl, rfl⟩]
    exact congrArg (· + 1) h.pending.processed
  · rw [Ledger.start, times_note_of_not _ _ rfl]
    exact h.pending.performed

/-- The execution ends, and the request becomes the last one. -/
theorem Doing.settle {k : ℕ} {aLast : List Byte} (h : Doing r rs k a)
    (hlast : aLast ≠ [] → a.answers)
    (hfresh : hasSideEffects r.mRequest.getFunction = true → ¬a.Repeats r.number → k = 1)
    (hrepeat : hasSideEffects r.mRequest.getFunction = true → a.Repeats r.number →
      k = 0 ∧ 0 < a.times r.number SlaveAct.isRespond) :
    AllSettled { a with last := aLast } where
  history := h.history
  executing := h.executing
  answers := hlast
  settled n q hn := by
    refine .inr ?_
    rcases h.settled n q hn with rfl | hsettled
    · obtain rfl : r.mRequest = q := Option.some.inj (h.request.symm.trans hn)
      exact ⟨h.processed, fun hs hr ↦ h.performed.trans (hfresh hs hr), fun hs hr ↦
        (hrepeat hs hr).imp h.performed.trans id⟩
    · exact hsettled.congr (fun _ _ ↦ rfl) rfl
  pending d hd := absurd (hd.symm.trans h.deferred) (Option.some_ne_none d)

/-! ### Requests that arrive -/

theorem AllSettled.receive_none (h : AllSettled a) : AllSettled (a.receive none) where
  toRecorded := h.toRecorded.receive none
  settled n r hr := by
    have hn : n < a.received.length := by
      by_contra hn
      rcases Nat.lt_or_eq_of_le (Nat.le_of_not_lt hn) with hn | rfl
      · have hlt := lt_of_request hr
        rw [receive, List.length_append, List.length_singleton] at hlt
        omega
      · rw [request_receive_self] at hr
        contradiction
    rw [request_receive none hn] at hr
    exact (h.settled n r hr).imp id fun h ↦
      h.congr (fun m hm ↦ request_receive none (Nat.lt_of_le_of_lt hm hn)) rfl
  pending d hd := by
    have hp := h.pending d hd
    have hlt := lt_of_request hp.request
    exact hp.congr (fun m hm ↦ request_receive none (Nat.lt_of_le_of_lt hm hlt)) rfl rfl trivial

/-- A request arrives, and the slave will be right about it. -/
theorem AllSettled.receive (h : AllSettled a) (hd : a.deferred = none) {q : APDU}
    (hq : q.mBuffer ≠ []) {aSeqInfo : SequenceInfo}
    (htest : hasSideEffects q.getFunction = true → (Slave.performs q aSeqInfo a.last = true ↔
      ¬(a.receive (some q)).Repeats a.received.length)) :
    AllButSettled ⟨q, aSeqInfo, a.received.length⟩ (a.receive (some q)) where
  toRecorded := h.toRecorded.receive _
  settled n r hr := by
    have hlt := lt_of_request hr
    rw [Ledger.receive, List.length_append, List.length_singleton] at hlt
    rcases Nat.lt_or_eq_of_le (Nat.le_of_lt_succ hlt) with hn | rfl
    · rw [request_receive _ hn] at hr
      refine .inr (((h.settled n r hr).resolve_left fun ⟨d, hd', _⟩ ↦ ?_).congr (fun m hm ↦
        request_receive _ (Nat.lt_of_le_of_lt hm hn)) rfl)
      exact Option.some_ne_none d (hd'.symm.trans hd)
    · exact .inl rfl
  pending := by
    have htimes (p : SlaveAct → Bool) : (a.receive (some q)).times a.received.length p = 0 := by
      refine List.countP_eq_zero.mpr fun e he ↦ ?_
      simp [Nat.ne_of_lt (h.history e he)]
    exact ⟨request_receive_self a _, hq, trivial, htimes _, htimes _, htest⟩
  deferred := hd

end Ledger

namespace Slave

open Ledger

variable {ν ρ υ : Type} {s : Slave ν ρ}

/-! ## Answering a repeat -/

/-- A slave whose layer is ready sends its response. -/
theorem wp_send_respond (hc : s.mpAppLayer.Consistent) (hup : s.mpAppLayer.mIsLowerLayerUp = true)
    (hm : s.mpAppLayer.isMaster = false) (hidle : (s.mpAppLayer.channel false).mpState = .idle)
    (hseq : 0 ≤ (s.mpAppLayer.channel false).mSequence) (ha : s.mResponse.Answers) :
    wp (send : M ν ρ Unit) (fun _ t ↦ ⟨s.executing, s.connection, .respond⟩ ∈ t.history)
      (fun _ _ ↦ False) s := by
  have hiin (iin : IINField) : s.mResponse.setIIN iin = .ok { s.mResponse with iin := iin } := by
    simp only [OutAPDU.setIIN, ha.1]
    rfl
  simp only [send, setRspIIN, wp_bind, wp_get, wp_modify, hiin, wp_lift_ok, onApp, wp_zoom, note]
  refine wp_mono (AppLayer.wp_sendResponse (f := { s.mResponse with iin := _ }) hc hup hm hidle ha.1
    ha.2 hseq) (fun _ a _ ↦ ?_) fun _ _ he ↦ he
  exact List.mem_append_right _ (List.mem_singleton.mpr rfl)

variable [SetpointValue ν] {env : Environment ρ υ}

/-- **A request that is taken for a repeat is answered.** -/
theorem wp_doRequest_repeat {next : AS} {r : Request} (hc : Couples s.mpAppLayer s.mpState)
    (hopen : s.mpState ≠ .closed) (hwait : s.mpState.isResponding = false)
    (hseq : 0 ≤ (s.mpAppLayer.channel false).mSequence)
    (hside : hasSideEffects r.mRequest.getFunction = true)
    (hnot : performs r.mRequest r.mSeqInfo s.mLastRequest = false)
    (ha : s.mLastRequest = r.mRequest.mBuffer → s.mResponse.Answers) :
    wp (doRequest env next r) (fun _ t ↦ ⟨r.number, s.connection, .respond⟩ ∈ t.history)
      (fun _ _ ↦ False) s := by
  have hsend (iin : IINField) (f : OutAPDU (List Byte)) (hf : f.Answers) (timer : Bool)
      (h : List SlaveEntry) :
      wp (send : M ν ρ Unit) (fun _ t ↦ ⟨r.number, s.connection, .respond⟩ ∈ t.history)
        (fun _ _ ↦ False) { s with
          mpState := next
          mpTimeTimer := timer
          mRspIIN := iin
          mResponse := f
          executing := r.number
          history := h } :=
    wp_send_respond (s := { s with
        mpState := next
        mpTimeTimer := timer
        mRspIIN := iin
        mResponse := f
        executing := r.number
        history := h })
      hc.consistent (hc.up.mpr hopen) hc.outstation (hc.free false hwait) hseq hf
  simp only [doRequest, wp_bind, wp_modify, note, wp_tryCatch]
  unfold switchOnFunction
  split
  case h_2 hf =>
    rw [wp_bind, changeState, wp_modify, if_neg (by simpa [performs, hf] using hnot),
      configureAndSendSimpleResponse, wp_bind, setResponse, wp_modify]
    exact wp_mono (hsend _ _ ⟨rfl, rfl⟩ _ _) (fun _ _ h ↦ h) fun _ _ he ↦ he.elim
  case h_3 hf =>
    rw [wp_bind, changeState, wp_modify, if_neg (by simpa [performs, hf] using hnot),
      configureAndSendSimpleResponse, wp_bind, setResponse, wp_modify]
    exact wp_mono (hsend _ _ ⟨rfl, rfl⟩ _ _) (fun _ _ h ↦ h) fun _ _ he ↦ he.elim
  case h_5 hf =>
    have hrepeat : r.mSeqInfo = .prev ∧ s.mLastRequest = r.mRequest.mBuffer := by
      rw [performs, hf] at hnot
      simpa using hnot
    rw [wp_bind, changeState, wp_modify, wp_bind, handleOperate, wp_bind, wp_get, if_pos hrepeat,
      wp_pure]
    exact wp_mono (hsend _ _ (ha hrepeat.2) _ _) (fun _ _ h ↦ h) fun _ _ he ↦ he.elim
  case h_6 hf => simp [performs, hf] at hnot
  case h_7 hf => simp [performs, hf] at hnot
  case h_1 hf => simp [hasSideEffects, hf] at hside
  case h_4 hf => simp [hasSideEffects, hf] at hside
  case h_8 hf => simp [hasSideEffects, hf] at hside
  case h_9 hf => simp [hasSideEffects, hf] at hside
  case h_10 hf => simp [hasSideEffects, hf] at hside
  case h_11 =>
    exfalso
    revert hside
    unfold hasSideEffects
    split <;> simp_all

/-! ## The invariant -/

/-- A request is executed, and settled. -/
theorem wp_doRequest_settles {next : AS} {r : Request} (hr : Ready s.mpState next)
    (hwait : s.mpState.isResponding = false) (hc : Couples s.mpAppLayer s.mpState)
    (h : AllButSettled r s.ledger) :
    wp (doRequest env next r) (fun _ t ↦ Keeps AllSettled t) (fun _ t ↦ Keeps AllSettled t) s := by
  have hperform (a : Ledger) (f : FunctionCodes) (h : Doing r s.received 0 a) :
      Doing r s.received 1 (a.note (.perform f)) :=
    h.note (show (SlaveAct.perform f).isProcess = false from rfl)
  have hrun : wp (doRequest env next r) _ _ s :=
    wp_doRequest (serving_doing r s.received 0)
      (serving_doing r s.received 1) hperform hr hc h.start
  have hrepeats {a : Ledger} {k : ℕ} (ha : Doing r s.received k a) :
      a.Repeats r.number ↔ s.ledger.Repeats r.number :=
    repeats_congr fun m _ ↦ by rw [request, request, ha.received]; rfl
  have htest := h.pending.test
  by_cases hrepeat : hasSideEffects r.mRequest.getFunction = true ∧ s.ledger.Repeats r.number
  · obtain ⟨hside, hrepeat⟩ := hrepeat
    have hnot : performs r.mRequest r.mSeqInfo s.mLastRequest = false := by
      rw [← Bool.not_eq_true]
      exact fun hp ↦ (htest hside).mp hp hrepeat
    rw [hnot, if_neg Bool.false_ne_true] at hrun
    have hanswer : wp (doRequest env next r) _ _ s := wp_doRequest_repeat hc hr.notClosed hwait
      h.pending.numbered hside hnot fun hl ↦ h.answers (hl.trans_ne h.pending.octets)
    refine wp_mono (wp_and hrun hanswer) (fun _ t ht ↦ ?_) fun _ _ ht ↦ ht.2.elim
    obtain ⟨⟨hc', a, ha, hanswers, ht⟩, hmem⟩ := ht
    refine ⟨hc', trivial, ?_⟩
    rw [ht]
    have hmem : ⟨r.number, s.connection, .respond⟩ ∈ a.history :=
      (congrArg Ledger.history ht).symm ▸ hmem
    exact ha.settle (fun _ ↦ hanswers) (fun _ hn ↦ absurd ((hrepeats ha).mpr hrepeat) hn)
      fun _ _ ↦ ⟨rfl, List.countP_pos_iff.mpr ⟨_, hmem, by simp [SlaveAct.isRespond]⟩⟩
  · have hdone (a : Ledger) (aLast : List Byte) (hlast : aLast ≠ [] → a.answers)
        (ha : (if performs r.mRequest r.mSeqInfo s.mLastRequest then Doing r s.received 1
          else Doing r s.received 0) a) : AllSettled { a with last := aLast } := by
      split at ha
      · exact ha.settle hlast (fun _ _ ↦ rfl) fun hside hr ↦
          absurd ⟨hside, (hrepeats ha).mp hr⟩ hrepeat
      · next hnot =>
        refine ha.settle hlast (fun hside hn ↦ ?_) fun hside hr ↦
          absurd ⟨hside, (hrepeats ha).mp hr⟩ hrepeat
        exact absurd ((htest hside).mpr fun hr ↦ hrepeat ⟨hside, hr⟩) hnot
    have hanswers (a : Ledger) (ha : (if performs r.mRequest r.mSeqInfo s.mLastRequest then
        Doing r s.received 1 else Doing r s.received 0) a) : a.last ≠ [] → a.answers := by
      split at ha
      · exact ha.answers
      · exact ha.answers
    refine wp_mono hrun (fun _ t ht ↦ ?_) fun _ t ht ↦ ?_
    · obtain ⟨hc', a, ha, hans, ht⟩ := ht
      refine ⟨hc', trivial, ?_⟩
      rw [ht]
      exact hdone a _ (fun _ ↦ hans) ha
    · exact ⟨ht.couples, trivial, hdone t.ledger t.ledger.last (hanswers _ ht.ledger) ht.ledger⟩

/-- **Every event keeps the requests settled.** -/
theorem requestInvariant_settled : RequestInvariant ν env AllSettled AllButSettled where
  quiet := quietly_allSettled
  quietIn := quietly_allButSettled
  respond a hr h := ⟨h.toRecorded.note (h.executing hr) _, fun n q hn ↦
    (h.settled n q hn).imp id fun h ↦ h.note fun _ ↦ ⟨rfl, rfl⟩, fun d hd ↦
    (h.pending d hd).respond⟩
  defer r a h := by
    refine ⟨⟨h.history, h.executing, h.answers⟩, fun n q hn ↦ ?_, fun d hd ↦ ?_⟩
    · rcases h.settled n q hn with rfl | hsettled
      · exact .inl ⟨r, rfl, rfl⟩
      · exact .inr (hsettled.congr (fun _ _ ↦ rfl) rfl)
    · obtain rfl := Option.some.inj hd
      exact h.pending.congr (fun _ _ ↦ rfl) rfl rfl h.pending.numbered
  drop r a h := ⟨⟨h.history, h.executing, h.answers⟩, fun n q hn ↦ (h.settled n q hn).imp id fun h ↦
    h.congr (fun _ _ ↦ rfl) rfl, h.pending.congr (fun _ _ ↦ rfl) rfl rfl h.pending.numbered, rfl⟩
  take r a hr h := by
    have hp := h.pending r hr
    refine ⟨⟨h.history, h.executing, h.answers⟩, fun n q hn ↦ ?_,
      hp.congr (fun _ _ ↦ rfl) rfl rfl hp.numbered, rfl⟩
    rcases h.settled n q hn with ⟨d, hd, rfl⟩ | hsettled
    · exact .inl (congrArg Request.number (Option.some.inj (hd.symm.trans hr)))
    · exact .inr (hsettled.congr (fun _ _ ↦ rfl) rfl)
  serve r next s hr hwait hc h := wp_doRequest_settles hr hwait hc h
  nested r s hs := by
    rw [flushDeferredRequest, wp_bind, wp_get]
    split
    · next q _ hq => exact absurd (hq.symm.trans hs.ledger.deferred) (Option.some_ne_none q)
    · exact hs
  unknown a h := h.receive_none
  answerUnknown a n h hn := by
    have hlt : n < a.received.length := by
      by_contra hlt
      rw [List.getElem?_eq_none (Nat.le_of_not_lt hlt)] at hn
      contradiction
    refine ⟨⟨h.history, fun _ ↦ hlt, h.answers⟩, fun m q hm ↦ (h.settled m q hm).imp id fun h ↦
      h.congr (fun _ _ ↦ rfl) rfl, fun d hd ↦ ?_⟩
    have hp := h.pending d hd
    exact hp.congr (fun _ _ ↦ rfl) rfl rfl hp.numbered

/-! ## Every run

A `WRITE` is skipped when it has the sequence number of the request before it, whatever it says.
So what a sender tells by the sequence numbers has to be true. -/

/-- The octets are those of the last request. -/
def RepeatsLast (s : Slave ν ρ) (r : APDU) : Prop :=
  (s.received.getLast?.bind (·.apdu)).map (·.mBuffer) = some r.mBuffer

instance (s : Slave ν ρ) (r : APDU) : Decidable (RepeatsLast s r) :=
  inferInstanceAs (Decidable (_ = _))

/-- The test of each function is right about a request. -/
def Tells (s : Slave ν ρ) (r : APDU) : Prop :=
  (r.getFunction = .write ∨ r.getFunction = .proprietaryVtoTransfer →
    ((r.getControl.seq : Int) = (s.mpAppLayer.channel false).mSequence ↔ RepeatsLast s r)) ∧
  (r.getFunction = .operate →
    ((r.getControl.seq : Int) = (s.mpAppLayer.channel false).mSequence ∧
      s.mLastRequest = r.mBuffer ↔ RepeatsLast s r)) ∧
  (r.getFunction = .directOperate ∨ r.getFunction = .directOperateNoAck → ¬RepeatsLast s r)

instance (s : Slave ν ρ) (r : APDU) : Decidable (Tells s r) :=
  inferInstanceAs (Decidable ((_ → (_ ↔ _)) ∧ (_ → (_ ∧ _ ↔ _)) ∧ (_ → ¬_)))

/-- A request arrives when the slave tells repeats from others, has no other request deferred, and
has not lost the response that it waits for; and no request is deferred when the link goes down. -/
def TellsRepeats (s : Slave ν ρ) : SlaveEvent υ → Prop
  | .app (.receive apData) => s.mpState ≠ .closed → ∀ r, s.mpAppLayer.Takes apData r →
      s.mDeferredRequest = none ∧
      (s.mpState = .waitForRspSuccess → (s.mpAppLayer.channel false).mpState ≠ .idle) ∧ Tells s r
  | .app .lowerLayerDown => s.mDeferredRequest = none
  | _ => True

/-- A fragment is at most one request. -/
def decidableForallTakes (a : AppLayer (List Byte)) (apData : List Byte) (p : APDU → Prop)
    [DecidablePred p] : Decidable (∀ r, a.Takes apData r → p r) :=
  decidable_of_iff (∀ r ∈ (APDU.interpret apData).toOption,
      apData.length ≤ a.fragSize ∧ isRequest r.getFunction = true ∧ r.getControl.uns = false ∧
        (r.getControl.fir && r.getControl.fin) = true → p r)
    ⟨fun h r hr ↦ h r (by rw [hr.interpret]; rfl) ⟨hr.size, hr.request, hr.uns, hr.whole⟩,
      fun h r hr ht ↦ h r ⟨ht.1, by
        cases hi : APDU.interpret apData with
        | error e => rw [hi] at hr; contradiction
        | ok q => rw [hi] at hr; rw [Option.some.inj hr], ht.2.1, ht.2.2.1, ht.2.2.2⟩⟩

instance [DecidableEq υ] (s : Slave ν ρ) : (e : SlaveEvent υ) → Decidable (TellsRepeats s e)
  | .app (.receive apData) =>
    haveI := decidableForallTakes s.mpAppLayer apData fun r ↦ s.mDeferredRequest = none ∧
      (s.mpState = .waitForRspSuccess → (s.mpAppLayer.channel false).mpState ≠ .idle) ∧ Tells s r
    inferInstanceAs (Decidable (_ → _))
  | .app .lowerLayerDown => inferInstanceAs (Decidable (_ = _))
  | .app .lowerLayerUp => isTrue trivial
  | .app (.sendResult _) => isTrue trivial
  | .app (.timeout _) => isTrue trivial
  | .update _ => isTrue trivial
  | .onDataUpdate => isTrue trivial
  | .unsolTimer => isTrue trivial
  | .timeTimer => isTrue trivial

omit [SetpointValue ν] in
/-- A request repeats the one before it exactly if it has the octets of the last one that was
received before. -/
theorem repeats_receive_self (s : Slave ν ρ) (r : APDU) :
    (s.ledger.receive (some r)).Repeats s.received.length ↔ RepeatsLast s r := by
  have hself : (s.ledger.receive (some r)).request s.received.length = some r :=
    request_receive_self s.ledger (some r)
  rw [RepeatsLast, List.getLast?_eq_getElem?]
  cases hn : s.received.length with
  | zero => simp [Repeats, List.length_eq_zero_iff.mp hn]
  | succ n =>
    have hlast : (s.ledger.receive (some r)).request n = s.received[n]?.bind (·.apdu) :=
      request_receive (some r) (show n < s.received.length by omega)
    rw [hn] at hself
    simp only [Repeats, hself, hlast, Option.map_eq_some_iff, Nat.add_sub_cancel]
    constructor
    · rintro ⟨q, _, hq, hr, hbuf⟩
      exact ⟨q, hq, Option.some.inj hr ▸ hbuf⟩
    · rintro ⟨q, hq, hbuf⟩
      exact ⟨q, r, hq, rfl, hbuf⟩

omit [SetpointValue ν] in
/-- The slave performs a request that it tells from a repeat. -/
theorem performs_iff_of_tells {r : APDU} (h : Tells s r)
    (hside : hasSideEffects r.getFunction = true) :
    performs r (s.mpAppLayer.sequenceInfo r) s.mLastRequest = true ↔ ¬RepeatsLast s r := by
  have hprev : s.mpAppLayer.sequenceInfo r = .prev ↔
      (r.getControl.seq : Int) = (s.mpAppLayer.channel false).mSequence := by
    rw [AppLayer.sequenceInfo]
    split
    · next hseq => simp [hseq]
    · next hseq => split <;> simp [hseq]
  obtain ⟨hwrite, hoperate, hdirect⟩ := h
  revert hside hwrite hoperate hdirect
  unfold hasSideEffects performs
  cases r.getFunction <;> simp [hprev] <;> tauto

theorem keeps_settled_of_step (hs : Keeps AllSettled s) {e : SlaveEvent υ} (hg : TellsRepeats s e) :
    Keeps AllSettled (exec (handle env e) s).1 := by
  refine exec_of_wp (Q := fun t _ ↦ Keeps AllSettled t)
    (requestInvariant_settled.handle hs e (fun apData r he htakes hopen ↦ ?_) fun he ↦ ?_)
  · subst he
    obtain ⟨hdeferred, hsent, htells⟩ := hg hopen r htakes
    have hbuf : r.mBuffer ≠ [] := by
      obtain ⟨hr, hsize, -⟩ := APDU.interpret_eq_ok.mp htakes.interpret
      rw [hr]
      rintro rfl
      simp at hsize
    refine ⟨hopen, hs.ledger.receive hdeferred hbuf fun hside ↦ ?_,
      fun hst hidle ↦ absurd hidle (hsent hst)⟩
    exact (performs_iff_of_tells htells hside).trans (not_congr (repeats_receive_self s r).symm)
  · subst he
    have h := hs.ledger
    refine ⟨⟨h.history, False.elim, h.answers⟩, fun n q hn ↦ (h.settled n q hn).imp id fun h ↦
      h.congr (fun _ _ ↦ rfl) rfl, fun d hd ↦ ?_⟩
    exact absurd (hd.symm.trans hg) (Option.some_ne_none d)

/-- Every run from the start keeps the requests settled. -/
theorem keeps_settled_of_run {arCfg : SlaveConfig} {aFragSize aNumRetry : ℕ}
    {m : DNPCommandMaster ν} {c : ρ} {es : List (SlaveEvent υ)}
    (hguard : Run.Guarded (step env) TellsRepeats
      (new arCfg (AppLayer.new false aFragSize aNumRetry) m c) es)
    (hrun : Run.run (step env) (new arCfg (AppLayer.new false aFragSize aNumRetry) m c) es =
      some s) :
    Keeps AllSettled s := by
  refine Run.inv_of_guarded (fun s e t hs hg hstep ↦ ?_) ?_ hguard hrun
  · obtain rfl := Option.some.inj hstep
    exact keeps_settled_of_step hs hg
  · refine ⟨couples_new aFragSize aNumRetry, trivial, ⟨fun e he ↦ absurd he List.not_mem_nil,
      fun hr ↦ Bool.noConfusion hr, fun hl ↦ absurd rfl hl⟩, fun n r hr ↦ ?_, fun d hd ↦ ?_⟩
    · exact absurd (lt_of_request hr) (Nat.not_lt_zero n)
    · exact absurd hd.symm (Option.some_ne_none d)

/-- **A request acts once, and its repeat does not**: a request that was received is deferred, with
nothing done for it, or it was looked at once and, if it has side effects, performed exactly if it
is not the repeat of the one before it, which is answered. -/
theorem acts_once {arCfg : SlaveConfig} {aFragSize aNumRetry : ℕ} {m : DNPCommandMaster ν} {c : ρ}
    {es : List (SlaveEvent υ)}
    (hguard : Run.Guarded (step env) TellsRepeats
      (new arCfg (AppLayer.new false aFragSize aNumRetry) m c) es)
    (hrun : Run.run (step env) (new arCfg (AppLayer.new false aFragSize aNumRetry) m c) es = some s)
    {n : ℕ} {r : APDU} (hr : s.ledger.request n = some r) :
    (∃ d, s.mDeferredRequest = some d ∧ d.number = n ∧
      s.ledger.times n SlaveAct.isPerform = 0) ∨ s.ledger.Settled n r := by
  have hs : Keeps AllSettled s := keeps_settled_of_run hguard hrun
  refine (hs.ledger.settled n r hr).imp (fun ⟨d, hd, hn⟩ ↦ ⟨d, hd, hn, ?_⟩) id
  exact hn ▸ (hs.ledger.pending d hd).performed

/-! ### Runs -/

/-- A `WRITE` that clears the restart indication, and its repeat. -/
def writeTwice : List (SlaveEvent Unit) :=
  .app .lowerLayerUp ::
    (answered [0xC0, 2, 80, 1, 0, 7, 7, 0] ++ answered [0xC0, 2, 80, 1, 0, 7, 7, 0])

/-- The repeat is answered, and nothing else. -/
theorem acts_once_writeTwice : ∃ s r,
    Run.run (step accepting) twoPointSlave writeTwice = some s ∧ s.ledger.request 1 = some r ∧
    r.getFunction = .write ∧ s.ledger.Repeats 1 ∧ s.ledger.Settled 1 r := by
  obtain ⟨s, hrun⟩ : ∃ s, Run.run (step accepting) twoPointSlave writeTwice = some s := ⟨_, rfl⟩
  have hend : (Run.run (step accepting) twoPointSlave writeTwice).map (fun s ↦
      (s.mDeferredRequest.isSome, (s.ledger.request 0).map (·.mBuffer),
        (s.ledger.request 1).map fun r ↦ (r.getFunction, r.mBuffer))) =
      some (false, some [0xC0, 2, 80, 1, 0, 7, 7, 0],
        some (.write, [0xC0, 2, 80, 1, 0, 7, 7, 0])) := by decide +kernel
  rw [hrun] at hend
  simp only [Option.map_some, Option.some_inj, Prod.mk.injEq, Option.map_eq_some_iff] at hend
  obtain ⟨hdeferred, ⟨q, hq, hqbuf⟩, r, hr, hfun, hrbuf⟩ := hend
  refine ⟨s, r, hrun, hr, hfun, ⟨q, r, hq, hr, hqbuf.trans hrbuf.symm⟩, ?_⟩
  rcases acts_once (s := s) (by decide +kernel) hrun hr with ⟨d, hd, -⟩ | hsettled
  · rw [hd] at hdeferred
    exact Bool.noConfusion hdeferred
  · exact hsettled

/-- A `READ`, and a `WRITE` with its sequence number. -/
def readThenWrite : List (SlaveEvent Unit) :=
  .app .lowerLayerUp :: (answered [0xC0, 1, 60, 2, 6] ++ answered [0xC0, 2, 80, 1, 0, 7, 7, 0])

/-- An outstation with one control, which may be operated directly. -/
def directPointSlave : Slave FiniteDouble Unit :=
  match (DNPCommandMaster.new 5000 .doOnly).configure unset [⟨.doOnly, 5000⟩] [] with
  | .ok m => new plainConfig (AppLayer.new false 2048 0) m ()
  | .error _ => twoPointSlave

/-- A `DIRECT_OPERATE` of the control, and its repeat. -/
def directOperateTwice : List (SlaveEvent Unit) :=
  .app .lowerLayerUp ::
    (answered [0xC0, 5, 12, 1, 0x17, 1, 0, 3, 1, 100, 0, 0, 0, 100, 0, 0, 0, 0] ++
      answered [0xC0, 5, 12, 1, 0x17, 1, 0, 3, 1, 100, 0, 0, 0, 100, 0, 0, 0, 0])

/-- **Fresh requests are skipped, and repeats act again**: the `WRITE` with the sequence number of
the `READ` before it is answered and not performed, and the repeated `DIRECT_OPERATE` is performed
and executed a second time. -/
theorem skips_and_repeats :
    (∃ s r, Run.run (step accepting) twoPointSlave readThenWrite = some s ∧
      s.ledger.request 1 = some r ∧ hasSideEffects r.getFunction = true ∧ ¬s.ledger.Repeats 1 ∧
      s.ledger.times 1 SlaveAct.isRespond = 1 ∧ s.ledger.times 1 SlaveAct.isPerform = 0) ∧
    ∃ s r, Run.run (step accepting) directPointSlave directOperateTwice = some s ∧
      s.ledger.request 1 = some r ∧ hasSideEffects r.getFunction = true ∧ s.ledger.Repeats 1 ∧
      s.ledger.times 1 SlaveAct.isPerform = 1 ∧ ⟨1, 0, .execute .binaryOutput 0⟩ ∈ s.history := by
  constructor
  · obtain ⟨s, hrun⟩ : ∃ s, Run.run (step accepting) twoPointSlave readThenWrite = some s :=
      ⟨_, rfl⟩
    have hend : (Run.run (step accepting) twoPointSlave readThenWrite).map (fun s ↦
        ((s.ledger.request 0).map (·.mBuffer),
          (s.ledger.request 1).map (fun r ↦ (hasSideEffects r.getFunction, r.mBuffer)),
          s.ledger.times 1 SlaveAct.isRespond, s.ledger.times 1 SlaveAct.isPerform)) =
        some (some [0xC0, 1, 60, 2, 6], some (true, [0xC0, 2, 80, 1, 0, 7, 7, 0]), 1, 0) := by
      decide +kernel
    rw [hrun] at hend
    simp only [Option.map_some, Option.some_inj, Prod.mk.injEq, Option.map_eq_some_iff] at hend
    obtain ⟨⟨q, hq, hqbuf⟩, ⟨r, hr, hside, hrbuf⟩, hrespond, hperform⟩ := hend
    refine ⟨s, r, hrun, hr, hside, ?_, hrespond, hperform⟩
    rintro ⟨q', r', hq', hr', hbuf⟩
    obtain rfl := Option.some.inj (hq.symm.trans hq')
    obtain rfl := Option.some.inj (hr.symm.trans hr')
    rw [hqbuf, hrbuf] at hbuf
    revert hbuf
    decide
  · obtain ⟨s, hrun⟩ : ∃ s, Run.run (step accepting) directPointSlave directOperateTwice = some s :=
      ⟨_, rfl⟩
    have hend : (Run.run (step accepting) directPointSlave directOperateTwice).map (fun s ↦
        ((s.ledger.request 0).map (·.mBuffer),
          (s.ledger.request 1).map (fun r ↦ (hasSideEffects r.getFunction, r.mBuffer)),
          s.ledger.times 1 SlaveAct.isPerform,
          decide (⟨1, 0, .execute .binaryOutput 0⟩ ∈ s.history))) =
        some (some [0xC0, 5, 12, 1, 0x17, 1, 0, 3, 1, 100, 0, 0, 0, 100, 0, 0, 0, 0],
          some (true, [0xC0, 5, 12, 1, 0x17, 1, 0, 3, 1, 100, 0, 0, 0, 100, 0, 0, 0, 0]), 1,
            true) := by
      decide +kernel
    rw [hrun] at hend
    simp only [Option.map_some, Option.some_inj, Prod.mk.injEq, Option.map_eq_some_iff] at hend
    obtain ⟨⟨q, hq, hqbuf⟩, ⟨r, hr, hside, hrbuf⟩, hperform, hexecute⟩ := hend
    exact ⟨s, r, hrun, hr, hside, ⟨q, r, hq, hr, hqbuf.trans hrbuf.symm⟩, hperform,
      of_decide_eq_true hexecute⟩

end Slave

end OpenDNP3
