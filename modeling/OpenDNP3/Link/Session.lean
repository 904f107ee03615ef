import Mathlib.Data.List.Nodup
import OpenDNP3.Lib.Run
import OpenDNP3.Lib.StopAndWait
import OpenDNP3.Link.Layer

/-!
# Confirmed user data between two link layers

Two `LinkLayer`s face each other over a channel in each direction that is a queue and may lose
frames.  One of them sends with confirmation, one payload at a time; the other answers.  The events
are the sends, the arrival of the first frame of a queue, the loss of any frame, and the expiry of
the timer of the primary.

A payload travels with its number, which the code, being the same for every type of payload, cannot
look at.  So `Session.delivered` says which of the payloads that were sent has been handed up, even
where two of them have the same content.

Both layers together are a stop-and-wait protocol (`Models`, `step_models`), and its two invariants
give the two results: `confirmed_at_most_once` with any timing, and `confirmed_success_delivered`
when the timer expires only after everything in flight has arrived or been lost.
-/

set_option autoImplicit false

namespace OpenDNP3

open StopAndWait

/-- Two link layers that are configured for each other. -/
structure LinkPair where
  isMaster : Bool
  priAddr : BitVec 16
  secAddr : BitVec 16
  priNumRetry : ℕ
  secNumRetry : ℕ
  secUseConfirms : Bool

namespace LinkPair

/-- The configuration of the primary, which uses confirms. -/
def priConfig (pair : LinkPair) : LinkConfig where
  isMaster := pair.isMaster
  useConfirms := true
  numRetry := pair.priNumRetry
  localAddr := pair.priAddr
  remoteAddr := pair.secAddr

/-- The configuration of the secondary. -/
def secConfig (pair : LinkPair) : LinkConfig where
  isMaster := !pair.isMaster
  useConfirms := pair.secUseConfirms
  numRetry := pair.secNumRetry
  localAddr := pair.secAddr
  remoteAddr := pair.priAddr

end LinkPair

variable {α : Type}

/-- The two layers, the frames in flight, and what has been asked of them and reported by them.
`outstanding` is the payload whose send has not been reported on. -/
structure Session (α : Type) where
  pri : LinkLayer (α × ℕ)
  sec : LinkLayer (α × ℕ)
  toSec : List (Frame (α × ℕ))
  toPri : List (Frame (α × ℕ))
  outstanding : Option (α × ℕ)
  sent : List α
  delivered : List (α × ℕ)
  succeeded : List (α × ℕ)

/-- What can happen to the two layers. -/
inductive SessionEvent (α : Type) where
  | send (a : α)
  | deliverToSec
  | deliverToPri
  | loseToSec (i : ℕ)
  | loseToPri (i : ℕ)
  | priTimeout

namespace Session

/-- Both layers have been told that the layer below is up. -/
def init (pair : LinkPair) : Session α where
  pri := { LinkLayer.init pair.priConfig with mIsOnline := true }
  sec := { LinkLayer.init pair.secConfig with mIsOnline := true }
  toSec := []
  toPri := []
  outstanding := none
  sent := []
  delivered := []
  succeeded := []

/-- What the primary does to the outside. -/
def priAction (s : Session α) : LinkAction (α × ℕ) → Session α
  | .transmit f => { s with toSec := s.toSec ++ [f] }
  | .onSendSuccess =>
    { s with succeeded := s.succeeded ++ s.outstanding.toList, outstanding := none }
  | .onSendFailure => { s with outstanding := none }
  | _ => s

/-- What the secondary does to the outside. -/
def secAction (s : Session α) : LinkAction (α × ℕ) → Session α
  | .transmit f => { s with toPri := s.toPri ++ [f] }
  | .onReceive p => { s with delivered := s.delivered ++ [p] }
  | _ => s

/-- An operation of the primary, unless it throws. -/
def ofPri (s : Session α) : Except Exception (LinkLayer.Outcome (α × ℕ)) → Option (Session α)
  | .ok (pri, actions) => some (actions.foldl priAction { s with pri })
  | .error _ => none

/-- An operation of the secondary, unless it throws. -/
def ofSec (s : Session α) : Except Exception (LinkLayer.Outcome (α × ℕ)) → Option (Session α)
  | .ok (sec, actions) => some (actions.foldl secAction { s with sec })
  | .error _ => none

/-- One event, if it can happen: there is one outstanding send at a time. -/
def step (s : Session α) : SessionEvent α → Option (Session α)
  | .send a =>
    let p := (a, s.sent.length)
    if s.outstanding.isSome then none
    else ofPri { s with sent := s.sent ++ [a], outstanding := some p } (s.pri.send p)
  | .deliverToSec =>
    match s.toSec with
    | [] => none
    | f :: fs => ofSec { s with toSec := fs } (s.sec.onFrame f)
  | .deliverToPri =>
    match s.toPri with
    | [] => none
    | f :: fs => ofPri { s with toPri := fs } (s.pri.onFrame f)
  | .loseToSec i =>
    if i < s.toSec.length then some { s with toSec := s.toSec.eraseIdx i } else none
  | .loseToPri i =>
    if i < s.toPri.length then some { s with toPri := s.toPri.eraseIdx i } else none
  | .priTimeout => if s.pri.mpTimer then ofPri s s.pri.onTimeout else none

/-! ## The stop-and-wait protocol of a session

The two stations with the frames between them are an instance of the general protocol. The frame
count bit is the alternating bit of the protocol. -/

/-- The frame that a message of the protocol is. -/
def frame (pair : LinkPair) : Msg α → Frame (α × ℕ)
  | .reset => .resetLinkStates pair.isMaster pair.secAddr pair.priAddr
  | .data b p => .confirmedUserData pair.isMaster b pair.secAddr pair.priAddr p

/-- The frame that an acknowledgement is. -/
def ackFrame (pair : LinkPair) : Frame (α × ℕ) :=
  .ack (!pair.isMaster) false pair.priAddr pair.secAddr

/-- The state of the primary station in a phase of the sender. -/
def pllsOf : Phase → PLLS
  | .closed => .secNotReset
  | .ready => .secReset
  | .resetting => .resetLinkWait
  | .sending => .confDataWait

/-- The state of the secondary station that expects the given bit. -/
def sllsOf : Option Bool → SLLS
  | none => .notReset
  | some _ => .reset

/-- The sender waits for an acknowledgement. -/
def isWaiting : Phase → Bool
  | .resetting | .sending => true
  | _ => false

/-- The primary station is in the state of the sender. -/
structure ModelsPri (pair : LinkPair) (pri : LinkLayer (α × ℕ)) (phase : Phase) (bit : Bool)
    (current : Option (α × ℕ)) : Prop where
  config : pri.mCONFIG = pair.priConfig
  online : pri.mIsOnline = true
  state : pri.mpPriState = pllsOf phase
  writeFCB : pri.mNextWriteFCB = bit
  timer : pri.mpTimer = isWaiting phase
  waiting : current.isSome = isWaiting phase
  delayed : ∀ p, current = some p → ∃ b, pri.mDelayedPriFrame = some (frame pair (.data b p))

/-- The secondary station is in the state of the receiver. -/
structure ModelsSec (pair : LinkPair) (sec : LinkLayer (α × ℕ)) (expect : Option Bool) : Prop where
  config : sec.mCONFIG = pair.secConfig
  online : sec.mIsOnline = true
  state : sec.mpSecState = sllsOf expect
  readFCB : ∀ b, expect = some b → sec.mNextReadFCB = b

/-- A session is a state of the protocol. -/
structure Models (pair : LinkPair) (s : Session α) (n : Net α) : Prop where
  pri : ModelsPri pair s.pri n.phase n.bit n.current
  sec : ModelsSec pair s.sec n.expect
  toSec : s.toSec = n.msgs.map (frame pair)
  toPri : s.toPri = List.replicate n.acks (ackFrame pair)
  outstanding : s.outstanding = n.current
  sent : s.sent = n.sent
  delivered : s.delivered = n.delivered
  succeeded : s.succeeded = n.succeeded

theorem models_init (pair : LinkPair) : Models pair (init pair : Session α) Net.init where
  pri := ⟨rfl, rfl, rfl, rfl, rfl, rfl, fun _ h ↦ nomatch h⟩
  sec := ⟨rfl, rfl, rfl, fun _ h ↦ nomatch h⟩
  toSec := rfl
  toPri := rfl
  outstanding := rfl
  sent := rfl
  delivered := rfl
  succeeded := rfl

/-- The event of the protocol that an event of the session is. -/
def netEvent (s : Session α) : SessionEvent α → Event α
  | .send a => .send a
  | .deliverToSec => .receiveMsg
  | .deliverToPri => .receiveAck
  | .loseToSec i => .loseMsg i
  | .loseToPri _ => .loseAck
  | .priTimeout => .timeout (decide (0 < s.pri.mRetryRemaining))

variable {pair : LinkPair} {s : Session α} {n : Net α}

theorem confirmedFrame_eq {pri : LinkLayer (α × ℕ)} (h : pri.mCONFIG = pair.priConfig) (b : Bool)
    (p : α × ℕ) : pri.confirmedFrame b p = frame pair (.data b p) := by
  rw [LinkLayer.confirmedFrame, h]
  rfl

theorem resetLinksFrame_eq {pri : LinkLayer (α × ℕ)} (h : pri.mCONFIG = pair.priConfig) :
    pri.resetLinksFrame = frame pair .reset := by
  rw [LinkLayer.resetLinksFrame, h]
  rfl

/-- A send, with the link reset or not. -/
theorem Models.send (h : Models pair s n) (a : α) (hout : s.outstanding = none) :
    ∃ t m, s.step (.send a) = some t ∧ n.step (.send a) = some m ∧ Models pair t m := by
  have hcur : n.current = none := by rw [← h.outstanding, hout]
  have hidle := h.pri.waiting
  rw [hcur] at hidle
  have htimer := h.pri.timer
  rw [← hidle] at htimer
  have hconf : s.pri.mCONFIG.useConfirms = true := by rw [h.pri.config]; rfl
  have hstate := h.pri.state
  simp only [step, hout, Net.step]
  cases hp : n.phase with
  | closed =>
    rw [hp] at hstate
    rw [LinkLayer.send_secNotReset h.pri.online hconf hstate htimer]
    refine ⟨_, _, rfl, rfl, ?_, h.sec, ?_, h.toPri, ?_, ?_, h.delivered, h.succeeded⟩
    · refine ⟨h.pri.config, h.pri.online, rfl, h.pri.writeFCB, rfl, rfl, fun p hp ↦ ⟨true, ?_⟩⟩
      rw [← Option.some.inj hp]
      exact congrArg some (by rw [confirmedFrame_eq h.pri.config, h.sent])
    · change s.toSec ++ [s.pri.resetLinksFrame] = _
      rw [h.toSec, resetLinksFrame_eq h.pri.config]
      simp
    · exact congrArg some (by rw [h.sent])
    · change s.sent ++ [a] = _
      rw [h.sent]
  | ready =>
    rw [hp] at hstate
    rw [LinkLayer.send_secReset h.pri.online hconf hstate htimer]
    have hframe : s.pri.confirmedFrame s.pri.mNextWriteFCB (a, s.sent.length) =
        frame pair (.data n.bit (a, n.sent.length)) := by
      rw [confirmedFrame_eq h.pri.config, h.pri.writeFCB, h.sent]
    refine ⟨_, _, rfl, rfl, ?_, h.sec, ?_, h.toPri, ?_, ?_, h.delivered, h.succeeded⟩
    · refine ⟨h.pri.config, h.pri.online, rfl, h.pri.writeFCB, rfl, rfl, fun p hp ↦ ⟨n.bit, ?_⟩⟩
      rw [← Option.some.inj hp]
      exact congrArg some hframe
    · change s.toSec ++ [s.pri.confirmedFrame s.pri.mNextWriteFCB (a, s.sent.length)] = _
      rw [h.toSec, hframe]
      simp
    · exact congrArg some (by rw [h.sent])
    · change s.sent ++ [a] = _
      rw [h.sent]
  | resetting | sending =>
    rw [hp] at hidle
    cases hidle

/-! ### Deliveries

A frame may be delivered at any time after it was transmitted, in the order of transmission.
Each lemma is one case of the simulation. -/

/-- What the secondary does with a frame of the primary. -/
theorem ModelsSec.onFrame {sec : LinkLayer (α × ℕ)} {expect : Option Bool}
    (h : ModelsSec pair sec expect) (m : Msg α) :
    sec.onFrame (frame pair m) = match m with
      | .reset => sec.secResetLinkStates
      | .data b p => sec.secConfirmedUserData b p := by
  have hvalid : sec.validate pair.isMaster pair.priAddr pair.secAddr = .ok true := by
    have hm : pair.isMaster = !sec.mCONFIG.isMaster := by
      rw [h.config]
      exact (Bool.not_not _).symm
    have hv := LinkLayer.validate_of_peer h.online hm
    rwa [h.config] at hv
  cases m <;> simp only [frame, LinkLayer.onFrame, hvalid] <;> rfl

/-- What the primary does with an acknowledgement. -/
theorem ModelsPri.onFrame {pri : LinkLayer (α × ℕ)} {phase : Phase} {bit : Bool}
    {current : Option (α × ℕ)} (h : ModelsPri pair pri phase bit current) :
    pri.onFrame (ackFrame pair) = pri.priAck := by
  have hvalid : pri.validate (!pair.isMaster) pair.secAddr pair.priAddr = .ok true := by
    have hm : (!pair.isMaster) = !pri.mCONFIG.isMaster := by
      rw [h.config]
      rfl
    have hv := LinkLayer.validate_of_peer h.online hm
    rwa [h.config] at hv
  simp only [ackFrame, LinkLayer.onFrame, hvalid]
  rfl

/-- One more acknowledgement on the way. -/
theorem ModelsSec.toPri_ack {sec : LinkLayer (α × ℕ)} {expect : Option Bool}
    (h : ModelsSec pair sec expect) {toPri : List (Frame (α × ℕ))} {acks : ℕ}
    (htoPri : toPri = List.replicate acks (ackFrame pair)) :
    toPri ++ [sec.ackFrame] = List.replicate (acks + 1) (ackFrame pair) := by
  have hack : sec.ackFrame = ackFrame pair := by
    rw [LinkLayer.ackFrame, h.config]
    rfl
  rw [htoPri, hack, List.replicate_succ']

/-- The secondary receives what the receiver of the protocol receives. -/
theorem Models.deliverToSec (h : Models pair s n) {t : Session α}
    (hs : s.step .deliverToSec = some t) :
    ∃ m, n.step .receiveMsg = some m ∧ Models pair t m := by
  simp only [step] at hs
  have htoSec := h.toSec
  cases hm : n.msgs with
  | nil =>
    rw [hm, List.map_nil] at htoSec
    simp [htoSec] at hs
  | cons m ms =>
    rw [hm, List.map_cons] at htoSec
    simp only [htoSec, h.sec.onFrame] at hs
    simp only [Net.step, hm]
    refine ⟨_, rfl, ?_⟩
    cases m with
    | reset =>
      cases hs
      exact ⟨h.pri, ⟨h.sec.config, h.sec.online, rfl, fun b hb ↦ Option.some.inj hb⟩, rfl,
        h.sec.toPri_ack h.toPri, h.outstanding, h.sent, h.delivered, h.succeeded⟩
    | data b p =>
      have hstate := h.sec.state
      rcases Option.eq_none_or_eq_some n.expect with hexp | ⟨c, hexp⟩
      · rw [hexp] at hstate
        simp only [LinkLayer.secConfirmedUserData, hstate, sllsOf] at hs
        cases hs
        rw [Net.receive_of_none]
        · exact ⟨h.pri, h.sec, rfl, h.toPri, h.outstanding, h.sent, h.delivered, h.succeeded⟩
        · exact hexp
      · have hread : s.sec.mNextReadFCB = c := h.sec.readFCB c hexp
        have hreset : s.sec.mpSecState = .reset := by
          rw [hstate, hexp]
          rfl
        by_cases hb : c = b
        · have hread' : s.sec.mNextReadFCB = b := hb ▸ hread
          simp only [LinkLayer.secConfirmedUserData, hreset, if_pos hread'] at hs
          cases hs
          rw [Net.receive_of_eq]
          · refine ⟨h.pri, ⟨h.sec.config, h.sec.online, rfl, fun b' hb' ↦ ?_⟩, rfl,
              h.sec.toPri_ack h.toPri, h.outstanding, h.sent, ?_, h.succeeded⟩
            · rw [← Option.some.inj hb']
              exact congrArg (!·) hread'
            · exact congrArg (· ++ [p]) h.delivered
          · exact hb ▸ hexp
        · have hread' : ¬ s.sec.mNextReadFCB = b := fun hc ↦ hb (hread ▸ hc)
          simp only [LinkLayer.secConfirmedUserData, hreset, if_neg hread'] at hs
          cases hs
          rw [Net.receive_of_ne]
          · exact ⟨h.pri, h.sec, rfl, h.sec.toPri_ack h.toPri, h.outstanding, h.sent,
              h.delivered, h.succeeded⟩
          · exact fun hc ↦ by simp [hexp] at hc
          · exact fun hc ↦ hb (Option.some.inj (hexp.symm.trans hc))

/-- The primary receives what the sender of the protocol receives. -/
theorem Models.deliverToPri (h : Models pair s n) {t : Session α}
    (hs : s.step .deliverToPri = some t) :
    ∃ m, n.step .receiveAck = some m ∧ Models pair t m := by
  simp only [step] at hs
  have htoPri := h.toPri
  cases hacks : n.acks with
  | zero =>
    rw [hacks, List.replicate_zero] at htoPri
    simp [htoPri] at hs
  | succ k =>
    rw [hacks, List.replicate_succ] at htoPri
    simp only [htoPri, h.pri.onFrame] at hs
    refine ⟨Net.acknowledge { n with acks := n.acks - 1 }, ?_, ?_⟩
    · simp [Net.step, hacks]
    have hk : (List.replicate k (ackFrame pair) : List (Frame (α × ℕ))) =
        List.replicate (n.acks - 1) (ackFrame pair) := by
      rw [hacks, Nat.add_sub_cancel]
    have hstate := h.pri.state
    have htimer := h.pri.timer
    have hwait := h.pri.waiting
    cases hp : n.phase with
    | closed =>
      rw [hp] at hstate
      rw [LinkLayer.priAck_of_idle (.inl hstate)] at hs
      cases hs
      simp only [Net.acknowledge]
      exact ⟨hp ▸ h.pri, h.sec, h.toSec, hk, h.outstanding, h.sent, h.delivered, h.succeeded⟩
    | ready =>
      rw [hp] at hstate
      rw [LinkLayer.priAck_of_idle (.inr hstate)] at hs
      cases hs
      simp only [Net.acknowledge]
      exact ⟨hp ▸ h.pri, h.sec, h.toSec, hk, h.outstanding, h.sent, h.delivered, h.succeeded⟩
    | resetting =>
      rw [hp] at hstate htimer hwait
      obtain ⟨p, hcur⟩ := Option.isSome_iff_exists.mp hwait
      obtain ⟨b, hb⟩ := h.pri.delayed p hcur
      rw [← confirmedFrame_eq h.pri.config] at hb
      rw [LinkLayer.priAck_resetLinkWait hstate htimer hb] at hs
      cases hs
      simp only [Net.acknowledge]
      have hframe := confirmedFrame_eq h.pri.config true p
      refine ⟨⟨h.pri.config, h.pri.online, rfl, rfl, htimer, hwait, fun q hq ↦ ⟨true, ?_⟩⟩,
        h.sec, ?_, hk, h.outstanding, h.sent, h.delivered, h.succeeded⟩
      · obtain rfl : p = q := Option.some.inj (hcur.symm.trans hq)
        exact congrArg some hframe
      · change s.toSec ++ [s.pri.confirmedFrame true p] = _
        rw [h.toSec, hframe]
        simp [Net.dataMsg, hcur]
    | sending =>
      rw [hp] at hstate htimer hwait
      rw [LinkLayer.priAck_confDataWait hstate htimer] at hs
      cases hs
      simp only [Net.acknowledge]
      refine ⟨⟨h.pri.config, h.pri.online, rfl, ?_, rfl, rfl, fun q hq ↦ absurd hq (by simp)⟩,
        h.sec, h.toSec, hk, rfl, h.sent, h.delivered, ?_⟩
      · exact congrArg (!·) h.pri.writeFCB
      · change s.succeeded ++ s.outstanding.toList = _
        rw [h.succeeded, h.outstanding]

/-! ### Losses and the timer -/

theorem Models.loseToSec (h : Models pair s n) {i : ℕ} {t : Session α}
    (hs : s.step (.loseToSec i) = some t) :
    ∃ m, n.step (.loseMsg i) = some m ∧ Models pair t m := by
  have hlen : s.toSec.length = n.msgs.length := by rw [h.toSec, List.length_map]
  simp only [step] at hs
  split at hs
  · next hi =>
    cases hs
    refine ⟨{ n with msgs := n.msgs.eraseIdx i }, if_pos (hlen ▸ hi), ?_⟩
    refine ⟨h.pri, h.sec, ?_, h.toPri, h.outstanding, h.sent, h.delivered, h.succeeded⟩
    change s.toSec.eraseIdx i = _
    rw [h.toSec, List.eraseIdx_map]
  · cases hs

theorem Models.loseToPri (h : Models pair s n) {i : ℕ} {t : Session α}
    (hs : s.step (.loseToPri i) = some t) :
    ∃ m, n.step .loseAck = some m ∧ Models pair t m := by
  have hlen : s.toPri.length = n.acks := by rw [h.toPri, List.length_replicate]
  simp only [step] at hs
  split at hs
  · next hi =>
    cases hs
    have hacks : n.acks ≠ 0 := by omega
    refine ⟨{ n with acks := n.acks - 1 }, if_neg hacks, ?_⟩
    refine ⟨h.pri, h.sec, h.toSec, ?_, h.outstanding, h.sent, h.delivered, h.succeeded⟩
    change s.toPri.eraseIdx i = _
    rw [h.toPri, List.eraseIdx_replicate, if_pos (hlen ▸ hi)]
  · cases hs

/-- The timer runs only while the sender waits, and then the layer tries again as long as it has a
retry left. -/
theorem Models.priTimeout (h : Models pair s n) {t : Session α}
    (hs : s.step .priTimeout = some t) :
    ∃ m, n.step (.timeout (decide (0 < s.pri.mRetryRemaining))) = some m ∧ Models pair t m := by
  simp only [step] at hs
  split at hs
  · next htimer =>
    have hstate := h.pri.state
    have hwait := h.pri.timer
    rw [htimer] at hwait
    by_cases hr : 0 < s.pri.mRetryRemaining
    · rw [decide_eq_true hr]
      cases hp : n.phase with
      | closed | ready =>
        rw [hp] at hwait
        cases hwait
      | resetting =>
        rw [hp] at hstate
        rw [LinkLayer.onTimeout_resetLinkWait hstate htimer hr] at hs
        cases hs
        simp only [Net.step, hp, if_true]
        refine ⟨_, rfl, ?_, h.sec, ?_, h.toPri, h.outstanding, h.sent, h.delivered, h.succeeded⟩
        · have hpri := h.pri
          rw [hp] at hpri
          exact ⟨hpri.config, hpri.online, hpri.state, hpri.writeFCB, hpri.timer, hpri.waiting,
            hpri.delayed⟩
        · change s.toSec ++ [s.pri.resetLinksFrame] = _
          rw [h.toSec, resetLinksFrame_eq h.pri.config]
          simp
      | sending =>
        rw [hp] at hstate
        have hcur : n.current.isSome := by rw [h.pri.waiting, hp]; rfl
        obtain ⟨p, hcur⟩ := Option.isSome_iff_exists.mp hcur
        obtain ⟨b, hb⟩ := h.pri.delayed p hcur
        rw [← confirmedFrame_eq h.pri.config] at hb
        rw [LinkLayer.onTimeout_confDataWait hstate htimer hr hb] at hs
        cases hs
        have hframe : s.pri.confirmedFrame s.pri.mNextWriteFCB p =
            frame pair (.data n.bit p) := by
          rw [confirmedFrame_eq h.pri.config, h.pri.writeFCB]
        simp only [Net.step, hp, if_true]
        refine ⟨_, rfl, ?_, h.sec, ?_, h.toPri, h.outstanding, h.sent, h.delivered, h.succeeded⟩
        · have hpri := h.pri
          rw [hp] at hpri
          refine ⟨hpri.config, hpri.online, hpri.state, hpri.writeFCB, hpri.timer, hpri.waiting,
            fun q hq ↦ ⟨n.bit, ?_⟩⟩
          obtain rfl : p = q := Option.some.inj (hcur.symm.trans hq)
          exact congrArg some hframe
        · change s.toSec ++ [s.pri.confirmedFrame s.pri.mNextWriteFCB p] = _
          rw [h.toSec, hframe]
          simp [Net.dataMsg, hcur]
    · have hr0 : s.pri.mRetryRemaining = 0 := by omega
      rw [decide_eq_false hr]
      have hphase : n.phase = .resetting ∨ n.phase = .sending := by
        cases hp : n.phase with
        | closed | ready =>
          rw [hp] at hwait
          cases hwait
        | resetting => exact .inl rfl
        | sending => exact .inr rfl
      have hwaiting : s.pri.mpPriState = .resetLinkWait ∨ s.pri.mpPriState = .confDataWait := by
        rcases hphase with hp | hp <;> rw [hp] at hstate
        · exact .inl hstate
        · exact .inr hstate
      rw [LinkLayer.onTimeout_failure hwaiting htimer hr0] at hs
      cases hs
      refine ⟨{ n with phase := .closed, current := none }, ?_, ?_⟩
      · rcases hphase with hp | hp <;> simp [Net.step, hp]
      · exact ⟨⟨h.pri.config, h.pri.online, rfl, h.pri.writeFCB, rfl, rfl, fun q hq ↦ absurd hq
            (by simp)⟩,
          h.sec, h.toSec, h.toPri, rfl, h.sent, h.delivered, h.succeeded⟩
  · cases hs

/-- **Simulation**: every step of the two layers is a step of the protocol. -/
theorem step_models (h : Models pair s n) {e : SessionEvent α} {t : Session α}
    (hs : s.step e = some t) :
    ∃ m, n.step (netEvent s e) = some m ∧ Models pair t m := by
  cases e with
  | send a =>
    have hout : s.outstanding = none := by
      by_contra hne
      simp [step, Option.isSome_iff_ne_none.mpr hne] at hs
    obtain ⟨t', m, ht, hm, hmodels⟩ := h.send a hout
    cases ht.symm.trans hs
    exact ⟨m, hm, hmodels⟩
  | deliverToSec => exact h.deliverToSec hs
  | deliverToPri => exact h.deliverToPri hs
  | loseToSec i => exact h.loseToSec hs
  | loseToPri i => exact h.loseToPri hs
  | priTimeout => exact h.priTimeout hs

/-! ### No exception

The simulation speaks of steps that succeed. Here it is shown that the stations do not throw in
any step that the protocol has. -/

/-- The event can happen, as far as the channels, the timer and the layer above are concerned. -/
def Enabled (s : Session α) : SessionEvent α → Prop
  | .send _ => s.outstanding = none
  | .deliverToSec => s.toSec ≠ []
  | .deliverToPri => s.toPri ≠ []
  | .loseToSec i => i < s.toSec.length
  | .loseToPri i => i < s.toPri.length
  | .priTimeout => s.pri.mpTimer = true

/-- The secondary throws on no message. -/
theorem ModelsSec.isOk {sec : LinkLayer (α × ℕ)} {expect : Option Bool}
    (h : ModelsSec pair sec expect) (m : Msg α) : (sec.onFrame (frame pair m)).isOk := by
  rw [h.onFrame]
  cases m with
  | reset => rfl
  | data b p =>
    simp only [LinkLayer.secConfirmedUserData]
    split
    · rfl
    · split <;> rfl

/-- The primary throws neither on an acknowledgement nor when its timer expires. -/
theorem ModelsPri.isOk {pri : LinkLayer (α × ℕ)} {phase : Phase} {bit : Bool}
    {current : Option (α × ℕ)} (h : ModelsPri pair pri phase bit current) :
    pri.priAck.isOk ∧ (pri.mpTimer = true → pri.onTimeout.isOk) := by
  obtain ⟨hconf, -, hstate, -, htimer, hwait, hdelayed⟩ := h
  cases phase with
  | closed =>
    exact ⟨by rw [LinkLayer.priAck_of_idle (.inl hstate)]; rfl, by simp [htimer, isWaiting]⟩
  | ready =>
    exact ⟨by rw [LinkLayer.priAck_of_idle (.inr hstate)]; rfl, by simp [htimer, isWaiting]⟩
  | resetting =>
    obtain ⟨p, hcur⟩ := Option.isSome_iff_exists.mp hwait
    obtain ⟨b, hb⟩ := hdelayed p hcur
    rw [← confirmedFrame_eq hconf] at hb
    refine ⟨by rw [LinkLayer.priAck_resetLinkWait hstate htimer hb]; rfl, fun _ ↦ ?_⟩
    rcases Nat.eq_zero_or_pos pri.mRetryRemaining with hr | hr
    · rw [LinkLayer.onTimeout_failure (.inl hstate) htimer hr]
      rfl
    · rw [LinkLayer.onTimeout_resetLinkWait hstate htimer hr]
      rfl
  | sending =>
    obtain ⟨p, hcur⟩ := Option.isSome_iff_exists.mp hwait
    obtain ⟨b, hb⟩ := hdelayed p hcur
    rw [← confirmedFrame_eq hconf] at hb
    refine ⟨by rw [LinkLayer.priAck_confDataWait hstate htimer]; rfl, fun _ ↦ ?_⟩
    rcases Nat.eq_zero_or_pos pri.mRetryRemaining with hr | hr
    · rw [LinkLayer.onTimeout_failure (.inr hstate) htimer hr]
      rfl
    · rw [LinkLayer.onTimeout_confDataWait hstate htimer hr hb]
      rfl

theorem isSome_ofPri {r : Except Exception (LinkLayer.Outcome (α × ℕ))} (h : r.isOk) :
    (s.ofPri r).isSome := by
  cases r with
  | ok _ => rfl
  | error _ => cases h

theorem isSome_ofSec {r : Except Exception (LinkLayer.Outcome (α × ℕ))} (h : r.isOk) :
    (s.ofSec r).isSome := by
  cases r with
  | ok _ => rfl
  | error _ => cases h

/-- **Progress**: an event that can happen is handled without an exception. -/
theorem Models.isSome_step (h : Models pair s n) {e : SessionEvent α} (he : s.Enabled e) :
    (s.step e).isSome := by
  cases e with
  | send a =>
    obtain ⟨t, -, ht, -⟩ := h.send a he
    rw [ht]
    rfl
  | deliverToSec =>
    have htoSec := h.toSec
    cases hm : n.msgs with
    | nil =>
      rw [hm] at htoSec
      exact absurd htoSec he
    | cons m ms =>
      rw [hm, List.map_cons] at htoSec
      simp only [step, htoSec]
      exact isSome_ofSec (h.sec.isOk m)
  | deliverToPri =>
    have htoPri := h.toPri
    cases hacks : n.acks with
    | zero =>
      rw [hacks] at htoPri
      exact absurd htoPri he
    | succ k =>
      rw [hacks, List.replicate_succ] at htoPri
      simp only [step, htoPri, h.pri.onFrame]
      exact isSome_ofPri h.pri.isOk.1
  | loseToSec i =>
    rw [step, if_pos (show i < s.toSec.length from he)]
    rfl
  | loseToPri i =>
    rw [step, if_pos (show i < s.toPri.length from he)]
    rfl
  | priTimeout =>
    rw [step, if_pos (show s.pri.mpTimer = true from he)]
    exact isSome_ofPri (h.pri.isOk.2 he)

/-! ## The results -/

/-- Every reachable session is an ordered state of the protocol. -/
theorem ordered_of_run {es : List (SessionEvent α)} (h : Run.run step (init pair) es = some s) :
    ∃ n, Models pair s n ∧ n.Ordered := by
  refine Run.inv_of_run (I := fun s ↦ ∃ n, Models pair s n ∧ n.Ordered) ?_
    ⟨Net.init, models_init pair, Net.ordered_init⟩ h
  rintro s e t ⟨n, hmodels, hordered⟩ hs
  obtain ⟨m, hm, hmodels'⟩ := step_models hmodels hs
  exact ⟨m, hmodels', hordered.step hm⟩

theorem sublist_of_run {es : List (SessionEvent α)} (h : Run.run step (init pair) es = some s) :
    s.delivered.Sublist s.sent.zipIdx := by
  obtain ⟨n, hmodels, hordered⟩ := ordered_of_run h
  rw [hmodels.delivered, hmodels.sent]
  exact hordered.sublist

/-- **At most once and in order.**  Whatever is sent, delivered and lost, and whenever the timer
expires, the payloads that the secondary hands up are some of those that were sent, each with its
number, in the order of the numbers.  No event that can happen makes a layer throw. -/
theorem confirmed_at_most_once (pair : LinkPair) (es : List (SessionEvent α)) {s : Session α}
    (h : Run.run step (init pair) es = some s) :
    s.delivered.Sublist s.sent.zipIdx ∧ ∀ e, s.Enabled e → (s.step e).isSome := by
  obtain ⟨n, hmodels, -⟩ := ordered_of_run h
  exact ⟨sublist_of_run h, fun e he ↦ hmodels.isSome_step he⟩

/-- A master's link and the outstation's. -/
def examplePair : LinkPair where
  isMaster := true
  priAddr := 1
  secAddr := 1024
  priNumRetry := 1
  secNumRetry := 0
  secUseConfirms := false

/-- The timer expires while the acknowledgement of the first payload is still in flight, so that it
is sent twice, and the second acknowledgement is taken for that of the next one. -/
def lateAckEvents : List (SessionEvent ℕ) :=
  [.send 7, .deliverToSec, .deliverToPri, .deliverToSec, .priTimeout, .deliverToPri,
    .send 8, .deliverToSec, .deliverToPri, .loseToSec 0]

theorem confirmed_at_most_once_late_ack :
    ∃ s, Run.run step (init examplePair) lateAckEvents = some s ∧
      s.succeeded = [(7, 0), (8, 1)] ∧ s.delivered = [(7, 0)] ∧
      s.delivered.Sublist s.sent.zipIdx ∧ ∀ e, s.Enabled e → (s.step e).isSome :=
  ⟨_, rfl, rfl, rfl, confirmed_at_most_once examplePair lateAckEvents rfl⟩

/-- The timer of the primary expires only when nothing is in flight. -/
def Quiet (s : Session α) : SessionEvent α → Prop
  | .priTimeout => s.toSec = [] ∧ s.toPri = []
  | _ => True

theorem Models.quiet (h : Models pair s n) {e : SessionEvent α} (hq : s.Quiet e) :
    n.Quiet (netEvent s e) := by
  cases e with
  | priTimeout =>
    refine ⟨?_, ?_⟩
    · simpa [h.toSec] using hq.1
    · simpa [h.toPri] using hq.2
  | _ => trivial

/-- Every session that is reached with a quiet timer is a settled state of the protocol. -/
theorem settled_of_run {es : List (SessionEvent α)} (hq : Run.Guarded step Quiet (init pair) es)
    (h : Run.run step (init pair) es = some s) : ∃ n, Models pair s n ∧ n.Settled := by
  refine Run.inv_of_guarded (I := fun s ↦ ∃ n, Models pair s n ∧ n.Settled) ?_
    ⟨Net.init, models_init pair, Net.settled_init⟩ hq h
  rintro s e t ⟨n, hmodels, hsettled⟩ hq hs
  obtain ⟨m, hm, hmodels'⟩ := step_models hmodels hs
  exact ⟨m, hmodels', hsettled.step (hmodels.quiet hq) hm⟩

/-- A payload that is delivered at all is delivered once. -/
theorem count_delivered {sent : List α} {delivered : List (α × ℕ)}
    (h : delivered.Sublist sent.zipIdx) {p : α × ℕ} (hp : p ∈ delivered) :
    (delivered.map Prod.snd).count p.2 = 1 := by
  have hnodup : (delivered.map Prod.snd).Nodup := by
    refine List.Nodup.sublist (h.map Prod.snd) ?_
    rw [List.zipIdx_map_snd]
    exact List.nodup_range'
  exact List.count_eq_one_of_mem hnodup (List.mem_map_of_mem hp)

/-- **Success means delivery.**  When the timer expires only after everything in flight has arrived
or been lost, a payload whose send was reported successful has been handed up, once.  A primary
that is in step with the secondary sends under the bit that the secondary expects. -/
theorem confirmed_success_delivered (pair : LinkPair) {es : List (SessionEvent α)} {s : Session α}
    (hq : Run.Guarded step Quiet (init pair) es) (h : Run.run step (init pair) es = some s) :
    (∀ p ∈ s.succeeded, p ∈ s.delivered ∧ (s.delivered.map Prod.snd).count p.2 = 1) ∧
      (s.pri.mpPriState = .secReset →
        s.sec.mpSecState = .reset ∧ s.pri.mNextWriteFCB = s.sec.mNextReadFCB) := by
  obtain ⟨n, hmodels, hsettled⟩ := settled_of_run hq h
  refine ⟨fun p hp ↦ ?_, fun hstate ↦ ?_⟩
  · have hdelivered : p ∈ s.delivered := by
      rw [hmodels.delivered]
      exact hsettled.succeeded p (hmodels.succeeded ▸ hp)
    exact ⟨hdelivered, count_delivered (sublist_of_run h) hdelivered⟩
  · have hready : n.phase = .ready := by
      rw [hmodels.pri.state] at hstate
      cases hp : n.phase with
      | ready => rfl
      | closed | resetting | sending =>
        rw [hp] at hstate
        cases hstate
    have hflight := hsettled.inFlight
    rw [hready] at hflight
    have hexpect : n.expect = some n.bit := hflight.2.2
    refine ⟨?_, ?_⟩
    · rw [hmodels.sec.state, hexpect]
      rfl
    · rw [hmodels.pri.writeFCB, hmodels.sec.readFCB n.bit hexpect]

/-- A frame and later an acknowledgement are lost, and each time the timer expires. -/
def retryEvents : List (SessionEvent ℕ) :=
  [.send 7, .loseToSec 0, .priTimeout, .deliverToSec, .deliverToPri, .deliverToSec, .deliverToPri,
    .send 8, .deliverToSec, .loseToPri 0, .priTimeout, .deliverToSec, .deliverToPri]

theorem retryEvents_guarded : Run.Guarded step Quiet (init examplePair) retryEvents := by
  refine .cons trivial rfl (.cons trivial rfl (.cons ⟨rfl, rfl⟩ rfl (.cons trivial rfl
    (.cons trivial rfl (.cons trivial rfl (.cons trivial rfl (.cons trivial rfl (.cons trivial rfl
      (.cons trivial rfl (.cons ⟨rfl, rfl⟩ rfl (.cons trivial rfl (.cons trivial rfl ?_))))))))))))
  exact trivial

theorem confirmed_success_delivered_retry :
    ∃ s, Run.run step (init examplePair) retryEvents = some s ∧
      s.succeeded = [(7, 0), (8, 1)] ∧
      (∀ p ∈ s.succeeded, p ∈ s.delivered ∧ (s.delivered.map Prod.snd).count p.2 = 1) ∧
      (s.pri.mpPriState = .secReset →
        s.sec.mpSecState = .reset ∧ s.pri.mNextWriteFCB = s.sec.mNextReadFCB) :=
  ⟨_, rfl, rfl, confirmed_success_delivered examplePair retryEvents_guarded rfl⟩

end Session

end OpenDNP3
