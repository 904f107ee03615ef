import OpenDNP3.Lib.Handler
import OpenDNP3.Lib.Run
import OpenDNP3.Transport.Rx

/-!
# The transport layer between its neighbours

`TransportLayer` sends an APDU as TPDUs, one at a time.  The layer below may complete a TPDU later,
or at once and still inside the call that passed it down, and the layer above may send again inside
the call that tells it the result.  So an operation runs here up to the call that it makes of
another layer (`TransportPiece`), anything may come in then, and what is left of it runs when the
call returns.

* `TransportLayer` and its operations.
* `TransportRun` — the layer with the calls that have not returned, and a record of every APDU that
  it has accepted.
* `TransportRun.Sound` — the invariant: the layer sends exactly while an APDU waits for its result,
  which it does exactly while one TPDU is with the layer below.
* `TransportRun.sends_contract` — what this says of every schedule.
-/

set_option autoImplicit false

namespace OpenDNP3

open Handler

/-! ## The layer -/

/-- The states of the layer, `TLS_Base` and its subclasses. -/
inductive TLS where
  | closed | ready | sending
  deriving DecidableEq, Repr

/-- `Name` -/
def TLS.name : TLS → String
  | .closed => "TLS_Closed"
  | .ready => "TLS_Ready"
  | .sending => "TLS_Sending"

/-- `TransportLayer`; `mIsLowerLayerUp` is that of `IUpDown`, and `aFragSize` is `M_FRAG_SIZE`. -/
structure TransportLayer (aFragSize : ℕ) where
  mpState : TLS
  mReceiver : TransportRx aFragSize
  mTransmitter : TransportTx aFragSize
  mThisLayerUp : Bool
  mIsLowerLayerUp : Bool

/-- The calls that the layer makes of the layer below and of the layer above. -/
inductive TransportCall where
  | send (aTPDU : List Byte)
  | onReceive (aAPDU : List Byte)
  | onSendSuccess
  | onSendFailure
  | onLowerLayerUp
  | onLowerLayerDown
  deriving DecidableEq, Repr

/-- What is left to do when such a call returns. -/
inductive TransportRest where
  | nothing
  /-- `TLS_Sending::HandleSendSuccess`, where `SendSuccess` of the transmitter has returned
  `aDone`. -/
  | handleSendSuccess (aDone : Bool)
  deriving DecidableEq, Repr

/-- An operation up to the call that it makes, if it makes one, and the rest of it. -/
structure TransportPiece where
  call : Option TransportCall
  rest : TransportRest
  deriving DecidableEq, Repr

namespace TransportLayer

variable {aFragSize : ℕ}

/-- The operations of the layer. -/
abbrev Op (aFragSize : ℕ) := EStateM Exception (TransportLayer aFragSize) TransportPiece

/-- The constructor. -/
def init : TransportLayer aFragSize where
  mpState := .closed
  mReceiver := .reset
  mTransmitter := .init
  mThisLayerUp := false
  mIsLowerLayerUp := false

/-- The operation ends with a call. -/
def finish (call : TransportCall) : TransportPiece := ⟨some call, .nothing⟩

/-- What a state that does not override an event does with it, `TLS_Base`. -/
def invalid (s : TLS) : Op aFragSize := throw (.invalidState s.name)

/-- `_Send` and `TLS_Ready::Send` -/
def send (apData : List Byte) : Op aFragSize := do
  ensure (¬(apData.length = 0 ∨ apData.length > aFragSize))
    (.argument s!"Illegal arg: {apData.length}, Array length must be in the range [1,{aFragSize}]")
  match (← get).mpState with
  | .ready => do
    modify fun t ↦ { t with mpState := .sending }
    let (mTransmitter, tpdu) ← Handler.lift ((← get).mTransmitter.send apData)
    modify fun t ↦ { t with mTransmitter }
    return ⟨tpdu.map .send, .nothing⟩
  | s => invalid s

/-- The end of `TLS_Sending::HandleSendSuccess`. -/
def handleSendSuccess (aDone : Bool) : Op aFragSize := do
  if aDone then do
    modify fun t ↦ { t with mpState := .ready }
    return finish .onSendSuccess
  else return ⟨none, .nothing⟩

/-- `_OnSendSuccess` and `TLS_Sending::HandleSendSuccess` -/
def onSendSuccess : Op aFragSize := do
  match (← get).mpState with
  | .sending => do
    let (done, mTransmitter, tpdu) := (← get).mTransmitter.sendSuccess
    modify fun t ↦ { t with mTransmitter }
    match tpdu with
    | some tpdu => return ⟨some (.send tpdu), .handleSendSuccess done⟩
    | none => handleSendSuccess done
  | s => invalid s

/-- `_OnSendFailure` and `TLS_Sending::HandleSendFailure` -/
def onSendFailure : Op aFragSize := do
  match (← get).mpState with
  | .sending => do
    modify fun t ↦ { t with mpState := .ready }
    return finish .onSendFailure
  | s => invalid s

/-- `_OnReceive` and `HandleReceive` of the states -/
def onReceive (apData : List Byte) : Op aFragSize := do
  match (← get).mpState with
  | .closed => invalid .closed
  | _ => do
    let (mReceiver, apdu) ← Handler.lift ((← get).mReceiver.handleReceive apData)
    modify fun t ↦ { t with mReceiver }
    return ⟨apdu.map .onReceive, .nothing⟩

/-- `OnLowerLayerUp`, `TLS_Closed::LowerLayerUp` and `ThisLayerUp` -/
def onLowerLayerUp : Op aFragSize := do
  ensure ((← get).mIsLowerLayerUp = false) (.invalidState "LowerLayerUp")
  modify fun t ↦ { t with mIsLowerLayerUp := true }
  match (← get).mpState with
  | .closed => do
    modify fun t ↦ { t with mpState := .ready }
    modify fun t ↦ { t with mThisLayerUp := true }
    return finish .onLowerLayerUp
  | s => invalid s

/-- `OnLowerLayerDown`, `LowerLayerDown` of the states and `ThisLayerDown` -/
def onLowerLayerDown : Op aFragSize := do
  ensure ((← get).mIsLowerLayerUp = true) (.invalidState "LowerLayerDown")
  modify fun t ↦ { t with mIsLowerLayerUp := false }
  match (← get).mpState with
  | .closed => invalid .closed
  | _ => do
    modify fun t ↦ { t with mpState := .closed }
    modify fun t ↦ { t with mReceiver := .reset, mThisLayerUp := false }
    return finish .onLowerLayerDown

/-- What is left of an operation whose call has returned. -/
def resume : TransportRest → Op aFragSize
  | .nothing => return ⟨none, .nothing⟩
  | .handleSendSuccess aDone => handleSendSuccess aDone

end TransportLayer

/-! ## Runs -/

/-- What can happen to the layer: its neighbours call it, or return from the call that it made
last. -/
inductive TransportEvent where
  | send (apData : List Byte)
  | onSendSuccess
  | onSendFailure
  | onReceive (apData : List Byte)
  | onLowerLayerUp
  | onLowerLayerDown
  | returns
  deriving DecidableEq, Repr

/-- The record of an APDU that `Send` has accepted. -/
structure TransportSend where
  apdu : List Byte
  /-- `mSeq` of the transmitter at that time. -/
  seq : ℕ
  /-- The TPDUs that have been passed down. -/
  passed : List (List Byte) := []
  /-- How many of them have succeeded. -/
  succeeded : ℕ := 0
  /-- The last of them has failed. -/
  failed : Bool := false
  /-- The layer has gone down before the result. -/
  cut : Bool := false
  /-- The results that were reported, with the number of TPDUs that had succeeded before. -/
  reports : List (Bool × ℕ) := []
  deriving DecidableEq, Repr

namespace TransportSend

/-- The TPDUs of the APDU. -/
def tpdus (r : TransportSend) : List (List Byte) := segments r.apdu r.seq 0

/-- One more TPDU has succeeded. -/
def succeed (r : TransportSend) : TransportSend := { r with succeeded := r.succeeded + 1 }

/-- The call is recorded. -/
def act (r : TransportSend) : TransportCall → TransportSend
  | .send tpdu => { r with passed := r.passed ++ [tpdu] }
  | .onSendSuccess => { r with reports := r.reports ++ [(true, r.succeeded)] }
  | .onSendFailure => { r with reports := r.reports ++ [(false, r.succeeded)] }
  | _ => r

end TransportSend

/-- A transport layer, the calls that have not returned, the innermost first, and what has become of
the APDUs, the last first. -/
structure TransportRun (aFragSize : ℕ) where
  layer : TransportLayer aFragSize
  stack : List TransportRest
  /-- A TPDU is with the layer below. -/
  outstanding : Bool
  /-- The layer above waits for a result. -/
  waiting : Bool
  sends : List TransportSend

namespace TransportRun

variable {aFragSize : ℕ}

/-- The constructor. -/
def init : TransportRun aFragSize where
  layer := .init
  stack := []
  outstanding := false
  waiting := false
  sends := []

/-- What the neighbours may do: the layer above sends when it has been told that the layer is up and
does not wait for a result; the layer below completes what it has been given, receives while it is
up, and goes up and down in turn. -/
def possible (s : TransportRun aFragSize) : TransportEvent → Bool
  | .send _ => s.layer.mThisLayerUp && !s.waiting
  | .onSendSuccess | .onSendFailure => s.outstanding
  | .onReceive _ | .onLowerLayerDown => s.layer.mIsLowerLayerUp
  | .onLowerLayerUp => !s.layer.mIsLowerLayerUp
  | .returns => !s.stack.isEmpty

/-- The operation that an event starts, or goes on with. -/
def op (s : TransportRun aFragSize) : TransportEvent → TransportLayer.Op aFragSize
  | .send apData => TransportLayer.send apData
  | .onSendSuccess => TransportLayer.onSendSuccess
  | .onSendFailure => TransportLayer.onSendFailure
  | .onReceive apData => TransportLayer.onReceive apData
  | .onLowerLayerUp => TransportLayer.onLowerLayerUp
  | .onLowerLayerDown => TransportLayer.onLowerLayerDown
  | .returns => TransportLayer.resume (s.stack.headD .nothing)

/-- The record of the last APDU is changed. -/
def update (s : TransportRun aFragSize) (f : TransportSend → TransportSend) :
    TransportRun aFragSize :=
  match s.sends with
  | [] => s
  | r :: rs => { s with sends := f r :: rs }

/-- What the event itself says, before the layer does anything. -/
def observe (s : TransportRun aFragSize) : TransportEvent → TransportRun aFragSize
  | .send apData => { s with
      waiting := true, sends := { apdu := apData, seq := s.layer.mTransmitter.mSeq } :: s.sends }
  | .onSendSuccess => { s with outstanding := false }.update .succeed
  | .onSendFailure => { s with outstanding := false }.update fun r ↦ { r with failed := true }
  | .onLowerLayerDown =>
    if s.waiting then
      { s with outstanding := false, waiting := false }.update fun r ↦ { r with cut := true }
    else s
  | .returns => { s with stack := s.stack.tail }
  | _ => s

/-- What the layer does to its neighbours. -/
def act (s : TransportRun aFragSize) (p : TransportPiece) : TransportRun aFragSize :=
  match p.call with
  | none => s
  | some call =>
    let s := { s with stack := p.rest :: s.stack }
    match call with
    | .send _ => { s with outstanding := true }.update (·.act call)
    | .onSendSuccess | .onSendFailure => { s with waiting := false }.update (·.act call)
    | _ => s

/-- **One event**, if it can happen; an operation that throws leaves no record. -/
def step (s : TransportRun aFragSize) (e : TransportEvent) : Option (TransportRun aFragSize) :=
  if s.possible e then
    match s.op e s.layer with
    | .ok p layer => some (act { s.observe e with layer } p)
    | .error _ layer => some { s with layer }
  else none

/-! ## The invariant

The layer is idle, or it is in the middle of an APDU of which it has sent some of the segments. -/

end TransportRun

namespace TransportSend

/-- The APDU waits for its result, and the last TPDU passed down has not been completed. -/
structure Pending (r : TransportSend) : Prop where
  passed : r.passed = r.tpdus.take (r.succeeded + 1)
  succeeded : r.succeeded < r.tpdus.length
  failed : r.failed = false
  cut : r.cut = false
  reports : r.reports = []

/-- All TPDUs have succeeded, and then success was reported. -/
structure Succeeded (r : TransportSend) : Prop where
  passed : r.passed = r.tpdus
  succeeded : r.succeeded = r.tpdus.length
  failed : r.failed = false
  cut : r.cut = false
  reports : r.reports = [(true, r.tpdus.length)]

/-- A TPDU has failed, and then failure was reported. -/
structure Failed (r : TransportSend) : Prop where
  passed : r.passed = r.tpdus.take (r.succeeded + 1)
  succeeded : r.succeeded < r.tpdus.length
  failed : r.failed = true
  cut : r.cut = false
  reports : r.reports = [(false, r.succeeded)]

/-- The layer went down before there was a result, and nothing is reported. -/
structure Cut (r : TransportSend) : Prop where
  passed : r.passed = r.tpdus.take (r.succeeded + 1)
  succeeded : r.succeeded < r.tpdus.length
  failed : r.failed = false
  cut : r.cut = true
  reports : r.reports = []

/-- The APDU does not wait for a result any more. -/
def Over (r : TransportSend) : Prop := r.Succeeded ∨ r.Failed ∨ r.Cut

end TransportSend

namespace TransportRun

variable {aFragSize : ℕ} {s t : TransportRun aFragSize} {r : TransportSend}
    {rs : List TransportSend}

/-- The layer agrees with the last APDU, which waits for its result. -/
structure Busy (layer : TransportLayer aFragSize) (r : TransportSend) : Prop where
  state : layer.mpState = .sending
  pending : r.Pending
  transmitter : layer.mTransmitter.At r.apdu r.seq r.succeeded

/-- **The invariant.** -/
structure Sound (s : TransportRun aFragSize) : Prop where
  up : s.layer.mThisLayerUp = s.layer.mIsLowerLayerUp
  closed : s.layer.mpState = .closed ↔ s.layer.mIsLowerLayerUp = false
  stack : ∀ rest ∈ s.stack, rest = .nothing ∨ rest = .handleSendSuccess false
  outstanding : s.outstanding = s.waiting
  idle : s.waiting = false → s.layer.mpState ≠ .sending ∧ ∀ r ∈ s.sends, r.Over
  busy : s.waiting = true → ∃ r rs, s.sends = r :: rs ∧ Busy s.layer r ∧ ∀ r' ∈ rs, r'.Over

theorem sound_init : Sound (init : TransportRun aFragSize) where
  up := rfl
  closed := ⟨fun _ ↦ rfl, fun _ ↦ rfl⟩
  stack _ h := absurd h List.not_mem_nil
  outstanding := rfl
  idle _ := ⟨TLS.noConfusion, fun _ h ↦ absurd h List.not_mem_nil⟩
  busy h := Bool.noConfusion h

/-- A call is made, and what is left of the operation waits. -/
theorem Sound.push (h : Sound s) {rest : TransportRest}
    (hrest : rest = .nothing ∨ rest = .handleSendSuccess false) :
    Sound { s with stack := rest :: s.stack } :=
  { h with
    stack := fun rest' h' ↦ by
      rcases List.mem_cons.mp h' with rfl | h'
      · exact hrest
      · exact h.stack rest' h' }

/-- The exceptions that an event deserves: an argument is too long or empty. -/
def Refused (aFragSize : ℕ) : TransportEvent → Exception → Prop
  | .send apData, .argument _ => apData.length = 0 ∨ apData.length > aFragSize
  | .onReceive apData, .argument _ => apData.length = 0 ∨ apData.length > tlMaxTpduLength
  | _, _ => False

/-- **What an operation leaves**: the invariant, if it returns; an exception is deserved and changes
nothing. -/
def Handled (s : TransportRun aFragSize) (e : TransportEvent) : Prop :=
  wp (s.op e) (fun p layer ↦ Sound (act { s.observe e with layer } p))
    (fun x layer ↦ layer = s.layer ∧ Refused aFragSize e x) s.layer

theorem update_cons (hs : s.sends = r :: rs) (f : TransportSend → TransportSend) :
    s.update f = { s with sends := f r :: rs } := by
  rw [update, hs]

/-- The layer above sends. -/
theorem handled_send (h : Sound s) {apData : List Byte} (hp : s.possible (.send apData) = true) :
    Handled s (.send apData) := by
  obtain ⟨hup, hwait⟩ : s.layer.mThisLayerUp = true ∧ s.waiting = false := by
    simpa [possible] using hp
  obtain ⟨hidle, hover⟩ := h.idle hwait
  have hready : s.layer.mpState = .ready := by
    cases hs : s.layer.mpState with
    | ready => rfl
    | sending => exact absurd hs hidle
    | closed => exact Bool.noConfusion (hup.symm.trans (h.up.trans (h.closed.mp hs)))
  change wp (TransportLayer.send apData) _ _ s.layer
  rw [TransportLayer.send, wp_bind, wp_ensure]
  split
  · next hlen =>
    rw [not_or] at hlen
    obtain ⟨tx, hsend, hat⟩ := s.layer.mTransmitter.send_at (Nat.pos_of_ne_zero hlen.1)
      (Nat.le_of_not_lt hlen.2)
    rw [wp_bind, wp_get, hready]
    dsimp only
    rw [wp_bind, wp_modify, wp_bind, wp_get, wp_bind, hsend, wp_lift_ok, wp_bind, wp_modify]
    have hfirst : segments apData s.layer.mTransmitter.mSeq 0 =
        segmentAt apData s.layer.mTransmitter.mSeq 0 :: _ :=
      segments_of_lt (Nat.pos_of_ne_zero hlen.1)
    have hlower : s.layer.mIsLowerLayerUp = true := h.up.symm.trans hup
    refine ⟨h.up, ⟨TLS.noConfusion, fun hn ↦ Bool.noConfusion (hlower.symm.trans hn)⟩,
      fun rest hrest ↦ ?_, rfl, fun hn ↦ Bool.noConfusion hn,
        fun _ ↦ ⟨_, _, rfl, ⟨rfl, ?_, hat⟩, hover⟩⟩
    · rcases List.mem_cons.mp hrest with rfl | hrest
      · exact .inl rfl
      · exact h.stack rest hrest
    · refine ⟨?_, ?_, rfl, rfl, rfl⟩
      · change [] ++ [segmentAt apData s.layer.mTransmitter.mSeq 0] =
          (segments apData s.layer.mTransmitter.mSeq 0).take 1
        rw [hfirst, List.take_succ_cons, List.take_zero, List.nil_append]
      · change 0 < (segments apData s.layer.mTransmitter.mSeq 0).length
        rw [hfirst]
        exact Nat.succ_pos _
  · next hlen => exact ⟨rfl, not_not.mp hlen⟩

/-- A TPDU has succeeded. -/
theorem handled_onSendSuccess (h : Sound s) (hp : s.possible .onSendSuccess = true) :
    Handled s .onSendSuccess := by
  have hwait : s.waiting = true := h.outstanding.symm.trans hp
  obtain ⟨r, rs, hsends, hbusy, hover⟩ := h.busy hwait
  have hpending := hbusy.pending
  change wp TransportLayer.onSendSuccess _ _ s.layer
  rw [TransportLayer.onSendSuccess, wp_bind, wp_get, hbusy.state]
  dsimp only
  rw [wp_bind, wp_get]
  have hobserve : s.observe .onSendSuccess =
      { s with outstanding := false, sends := r.succeed :: rs } :=
    update_cons (s := { s with outstanding := false }) hsends _
  have hlower : s.layer.mIsLowerLayerUp = true :=
    eq_true_of_ne_false fun hn ↦ TLS.noConfusion ((h.closed.mpr hn).symm.trans hbusy.state)
  by_cases hlt : r.succeeded + 1 < r.tpdus.length
  · -- the next TPDU is passed down
    obtain ⟨tx, tpdu, htx, hget, hat⟩ := TransportTx.sendSuccess_at_of_lt hbusy.transmitter hlt
    rw [htx]
    dsimp only
    rw [wp_bind, wp_modify, wp_pure, hobserve]
    refine ⟨h.up, h.closed, fun rest hrest ↦ ?_, hwait.symm, fun hn ↦ Bool.noConfusion
      (hwait.symm.trans hn), fun _ ↦ ⟨_, rs, rfl, ⟨hbusy.state, ?_, hat⟩, hover⟩⟩
    · rcases List.mem_cons.mp hrest with rfl | hrest
      · exact .inr rfl
      · exact h.stack rest hrest
    · refine ⟨?_, hlt, hpending.failed, hpending.cut, hpending.reports⟩
      change r.passed ++ [tpdu] = r.tpdus.take (r.succeeded + 1 + 1)
      rw [List.take_add_one, ← hpending.passed, TransportSend.tpdus, hget]
      rfl
  · -- that was the last one
    obtain ⟨tx, htx⟩ := TransportTx.sendSuccess_at_of_eq hbusy.transmitter (Nat.le_of_not_lt hlt)
    have hlen : r.succeeded + 1 = r.tpdus.length :=
      Nat.le_antisymm hpending.succeeded (Nat.le_of_not_lt hlt)
    rw [htx]
    dsimp only
    rw [wp_bind, wp_modify, TransportLayer.handleSendSuccess, if_pos rfl, wp_bind, wp_modify,
      wp_pure, hobserve]
    refine ⟨h.up, ⟨fun hn ↦ TLS.noConfusion hn, fun hn ↦ Bool.noConfusion (hlower.symm.trans hn)⟩,
      fun rest hrest ↦ ?_, rfl, fun _ ↦ ⟨TLS.noConfusion, fun r' hr' ↦ ?_⟩, fun hn ↦
        Bool.noConfusion hn⟩
    · rcases List.mem_cons.mp hrest with rfl | hrest
      · exact .inl rfl
      · exact h.stack rest hrest
    · rcases List.mem_cons.mp hr' with rfl | hr'
      · refine .inl ⟨?_, hlen, hpending.failed, hpending.cut, ?_⟩
        · exact hpending.passed.trans (List.take_of_length_le (Nat.le_of_eq hlen.symm))
        · change r.reports ++ [(true, r.succeeded + 1)] = [(true, r.tpdus.length)]
          rw [hpending.reports, hlen]
          rfl
      · exact hover r' hr'

/-- A TPDU has failed. -/
theorem handled_onSendFailure (h : Sound s) (hp : s.possible .onSendFailure = true) :
    Handled s .onSendFailure := by
  have hwait : s.waiting = true := h.outstanding.symm.trans hp
  obtain ⟨r, rs, hsends, hbusy, hover⟩ := h.busy hwait
  have hpending := hbusy.pending
  have hlower : s.layer.mIsLowerLayerUp = true :=
    eq_true_of_ne_false fun hn ↦ TLS.noConfusion ((h.closed.mpr hn).symm.trans hbusy.state)
  have hobserve : s.observe .onSendFailure =
      { s with outstanding := false, sends := { r with failed := true } :: rs } :=
    update_cons (s := { s with outstanding := false }) hsends _
  change wp TransportLayer.onSendFailure _ _ s.layer
  rw [TransportLayer.onSendFailure, wp_bind, wp_get, hbusy.state]
  dsimp only
  rw [wp_bind, wp_modify, wp_pure, hobserve]
  refine ⟨h.up, ⟨fun hn ↦ TLS.noConfusion hn, fun hn ↦ Bool.noConfusion (hlower.symm.trans hn)⟩,
    fun rest hrest ↦ ?_, rfl, fun _ ↦ ⟨TLS.noConfusion, fun r' hr' ↦ ?_⟩, fun hn ↦
      Bool.noConfusion hn⟩
  · rcases List.mem_cons.mp hrest with rfl | hrest
    · exact .inl rfl
    · exact h.stack rest hrest
  · rcases List.mem_cons.mp hr' with rfl | hr'
    · refine .inr (.inl ⟨hpending.passed, hpending.succeeded, rfl, hpending.cut, ?_⟩)
      change r.reports ++ [(false, r.succeeded)] = [(false, r.succeeded)]
      rw [hpending.reports]
      rfl
    · exact hover r' hr'

/-- The layer has changed in what the invariant does not look at, and may have called the layer
above. -/
theorem Sound.setLayer (h : Sound s) {layer : TransportLayer aFragSize}
    (hup : layer.mThisLayerUp = s.layer.mThisLayerUp)
    (hlower : layer.mIsLowerLayerUp = s.layer.mIsLowerLayerUp)
    (hs : layer.mpState = s.layer.mpState)
    (htx : layer.mTransmitter = s.layer.mTransmitter) : Sound { s with layer } where
  up := hup.trans (h.up.trans hlower.symm)
  closed := by
    change layer.mpState = .closed ↔ layer.mIsLowerLayerUp = false
    rw [hs, hlower]
    exact h.closed
  stack := h.stack
  outstanding := h.outstanding
  idle hn := ⟨hs ▸ (h.idle hn).1, (h.idle hn).2⟩
  busy hw := by
    obtain ⟨r, rs, hsends, hbusy, hover⟩ := h.busy hw
    exact ⟨r, rs, hsends, ⟨hs.trans hbusy.state, hbusy.pending, htx ▸ hbusy.transmitter⟩, hover⟩

theorem refused_of_handleReceive {rx : TransportRx aFragSize} {apData : List Byte} {x : Exception}
    (h : rx.handleReceive apData = .error x) : Refused aFragSize (.onReceive apData) x := by
  rw [TransportRx.handleReceive] at h
  split at h
  · contradiction
  · split at h
    · next hlen =>
      rw [← Except.error.inj h]
      exact .inl hlen
    · split at h
      · next hlen =>
        rw [← Except.error.inj h]
        exact .inr hlen
      · dsimp only at h
        split at h
        · contradiction
        · split at h
          · contradiction
          · split at h <;> contradiction

/-- A TPDU arrives. -/
theorem handled_onReceive (h : Sound s) {apData : List Byte}
    (hp : s.possible (.onReceive apData) = true) : Handled s (.onReceive apData) := by
  have hopen : s.layer.mpState ≠ .closed := fun hs ↦
    Bool.noConfusion ((h.closed.mp hs).symm.trans hp)
  have hreceive : wp (do
      let (mReceiver, apdu) ← Handler.lift (s.layer.mReceiver.handleReceive apData)
      modify fun t ↦ { t with mReceiver }
      return ⟨apdu.map .onReceive, .nothing⟩)
      (fun p layer ↦ Sound (act { s with layer } p))
      (fun x layer ↦ layer = s.layer ∧ Refused aFragSize (.onReceive apData) x) s.layer := by
    rw [wp_bind]
    cases hrx : s.layer.mReceiver.handleReceive apData with
    | error x => exact ⟨rfl, refused_of_handleReceive hrx⟩
    | ok result =>
      rw [wp_lift_ok, wp_bind, wp_modify, wp_pure]
      have hlayer : Sound { s with layer := { s.layer with mReceiver := result.1 } } :=
        h.setLayer rfl rfl rfl rfl
      cases result.2 with
      | none => exact hlayer
      | some apdu => exact hlayer.push (.inl rfl)
  change wp (TransportLayer.onReceive apData) _ _ s.layer
  rw [TransportLayer.onReceive, wp_bind, wp_get]
  cases hs : s.layer.mpState with
  | closed => exact absurd hs hopen
  | ready => exact hreceive
  | sending => exact hreceive

/-- The layer below comes up. -/
theorem handled_onLowerLayerUp (h : Sound s) (hp : s.possible .onLowerLayerUp = true) :
    Handled s .onLowerLayerUp := by
  have hlower : s.layer.mIsLowerLayerUp = false := by
    simpa [possible] using hp
  have hclosed : s.layer.mpState = .closed := h.closed.mpr hlower
  have hwait : s.waiting = false := Bool.eq_false_iff.mpr fun hw ↦ by
    obtain ⟨r, rs, -, hbusy, -⟩ := h.busy hw
    exact TLS.noConfusion (hclosed.symm.trans hbusy.state)
  change wp TransportLayer.onLowerLayerUp _ _ s.layer
  rw [TransportLayer.onLowerLayerUp, wp_bind, wp_get, wp_bind, wp_ensure_of hlower, wp_bind,
    wp_modify, wp_bind, wp_get]
  dsimp only
  rw [hclosed]
  dsimp only
  rw [wp_bind, wp_modify, wp_bind, wp_modify, wp_pure]
  have hlayer : Sound { s with layer := { s.layer with
      mIsLowerLayerUp := true, mpState := .ready, mThisLayerUp := true } } := by
    exact ⟨rfl, ⟨fun hn ↦ TLS.noConfusion hn, fun hn ↦ Bool.noConfusion hn⟩, h.stack, h.outstanding,
      fun _ ↦ ⟨TLS.noConfusion, (h.idle hwait).2⟩, fun hw ↦ Bool.noConfusion (hwait.symm.trans hw)⟩
  exact hlayer.push (.inl rfl)

/-- The layer below goes down. -/
theorem handled_onLowerLayerDown (h : Sound s) (hp : s.possible .onLowerLayerDown = true) :
    Handled s .onLowerLayerDown := by
  have hlower : s.layer.mIsLowerLayerUp = true := hp
  have hobserve : ∃ sends, (∀ r ∈ sends, r.Over) ∧
      s.observe .onLowerLayerDown = { s with outstanding := false, waiting := false, sends } := by
    by_cases hw : s.waiting = true
    · obtain ⟨r, rs, hsends, hbusy, hover⟩ := h.busy hw
      have hpending := hbusy.pending
      refine ⟨{ r with cut := true } :: rs, fun r' hr' ↦ ?_, ?_⟩
      · rcases List.mem_cons.mp hr' with rfl | hr'
        · exact .inr (.inr
            ⟨hpending.passed, hpending.succeeded, hpending.failed, rfl, hpending.reports⟩)
        · exact hover r' hr'
      · rw [observe, if_pos hw]
        exact update_cons (s := { s with outstanding := false, waiting := false }) hsends _
    · have hw' : s.waiting = false := Bool.eq_false_iff.mpr hw
      refine ⟨s.sends, (h.idle hw').2, ?_⟩
      rw [observe, if_neg hw]
      exact congrArg₂ (fun o w ↦
        ({ s with outstanding := o, waiting := w } : TransportRun aFragSize))
        (h.outstanding.trans hw') hw'
  obtain ⟨sends, hover, hobserve⟩ := hobserve
  have hdown : wp (do
      modify fun t : TransportLayer aFragSize ↦ { t with mpState := .closed }
      modify fun t ↦ { t with mReceiver := .reset, mThisLayerUp := false }
      return TransportLayer.finish .onLowerLayerDown)
      (fun p layer ↦ Sound (act { s.observe .onLowerLayerDown with layer } p))
      (fun x layer ↦ layer = s.layer ∧ Refused aFragSize .onLowerLayerDown x)
      { s.layer with mIsLowerLayerUp := false } := by
    rw [wp_bind, wp_modify, wp_bind, wp_modify, wp_pure, hobserve]
    refine ⟨rfl, ⟨fun _ ↦ rfl, fun _ ↦ rfl⟩, fun rest hrest ↦ ?_, rfl,
      fun _ ↦ ⟨TLS.noConfusion, hover⟩, fun hw ↦ Bool.noConfusion hw⟩
    rcases List.mem_cons.mp hrest with rfl | hrest
    · exact .inl rfl
    · exact h.stack rest hrest
  change wp TransportLayer.onLowerLayerDown _ _ s.layer
  rw [TransportLayer.onLowerLayerDown, wp_bind, wp_get, wp_bind, wp_ensure_of hlower, wp_bind,
    wp_modify, wp_bind, wp_get]
  dsimp only
  cases hs : s.layer.mpState with
  | closed => exact Bool.noConfusion (hlower.symm.trans (h.closed.mp hs))
  | ready => exact hdown
  | sending => exact hdown

/-- A call returns. -/
theorem handled_returns (h : Sound s) (hp : s.possible .returns = true) : Handled s .returns := by
  cases hstack : s.stack with
  | nil =>
    rw [possible, hstack] at hp
    exact Bool.noConfusion hp
  | cons rest stack =>
    have hpop : Sound { s with stack := s.stack.tail } :=
      { h with stack := fun rest hrest ↦ h.stack rest (List.mem_of_mem_tail hrest) }
    have hrest : rest = .nothing ∨ rest = .handleSendSuccess false :=
      h.stack rest (by rw [hstack]; exact List.mem_cons_self ..)
    change wp (TransportLayer.resume (s.stack.headD .nothing)) _ _ s.layer
    rw [hstack, List.headD_cons]
    rcases hrest with rfl | rfl
    · exact hpop
    · exact hpop

/-- **Whatever the neighbours do, the invariant is kept.** -/
theorem handled (h : Sound s) {e : TransportEvent} (hp : s.possible e = true) : Handled s e := by
  cases e with
  | send apData => exact handled_send h hp
  | onSendSuccess => exact handled_onSendSuccess h hp
  | onSendFailure => exact handled_onSendFailure h hp
  | onReceive apData => exact handled_onReceive h hp
  | onLowerLayerUp => exact handled_onLowerLayerUp h hp
  | onLowerLayerDown => exact handled_onLowerLayerDown h hp
  | returns => exact handled_returns h hp

theorem sound_step {e : TransportEvent} (h : Sound s) (hstep : s.step e = some t) : Sound t := by
  rw [step] at hstep
  split at hstep
  · next hp =>
    have hhandled := handled h hp
    rw [Handled, wp] at hhandled
    cases hop : s.op e s.layer with
    | ok p layer =>
      rw [hop] at hstep hhandled
      exact Option.some.inj hstep ▸ hhandled
    | error x layer =>
      rw [hop] at hstep hhandled
      rw [← Option.some.inj hstep, hhandled.1]
      exact h
  · contradiction

/-- **The contract of the layer**, for every schedule.  Nothing is thrown but for an argument that
is empty or too long; so a `Send` of a legal length is accepted whenever the layer is up and no
result is waited for, also inside a call.  Of every APDU that was accepted the TPDUs are passed down
in order, with at most one of them not completed; success is reported once, when all have succeeded,
or failure once, when one has failed, or nothing, when the layer went down first; the last APDU may
still wait for this. -/
theorem sends_contract {es : List TransportEvent} (hrun : Run.run step init es = some s) :
    (∀ e x layer, s.possible e = true → s.op e s.layer = .error x layer → Refused aFragSize e x) ∧
    ∀ r ∈ s.sends, (s.waiting = true ∧ s.sends.head? = some r ∧ r.Pending) ∨
      r.Succeeded ∨ r.Failed ∨ r.Cut := by
  have h : Sound s := Run.inv_of_run (fun _ _ _ h hstep ↦ sound_step h hstep) sound_init hrun
  refine ⟨fun e x layer hp hx ↦ ?_, fun r hr ↦ ?_⟩
  · have hhandled := handled h hp
    rw [Handled, wp, hx] at hhandled
    exact hhandled.2
  · by_cases hw : s.waiting = true
    · obtain ⟨r', rs, hsends, hbusy, hover⟩ := h.busy hw
      rw [hsends] at hr
      rcases List.mem_cons.mp hr with rfl | hr
      · exact .inl ⟨hw, by rw [hsends, List.head?_cons], hbusy.pending⟩
      · exact .inr (hover r hr)
    · exact .inr ((h.idle (Bool.eq_false_iff.mpr hw)).2 r hr)

/-- An APDU of two TPDUs, each completed inside the call that passed it down, and another one that
is sent inside the call that reports the result. -/
def synchronous : List TransportEvent :=
  [.onLowerLayerUp, .send (List.replicate 250 0), .onSendSuccess, .onSendSuccess, .send [1],
    .onSendFailure, .returns, .returns]

theorem sends_contract_synchronous :
    ∃ s : TransportRun 2048, Run.run step init synchronous = some s ∧
      s.sends.map (·.reports) = [[(false, 0)], [(true, 2)]] ∧
      ∀ r ∈ s.sends, (s.waiting = true ∧ s.sends.head? = some r ∧ r.Pending) ∨
        r.Succeeded ∨ r.Failed ∨ r.Cut := by
  obtain ⟨s, hrun⟩ : ∃ s : TransportRun 2048, Run.run step init synchronous = some s :=
    Option.isSome_iff_exists.mp (by decide +kernel)
  have hreports : (Run.run step (init : TransportRun 2048) synchronous).map
      (fun s ↦ s.sends.map (·.reports)) = some [[(false, 0)], [(true, 2)]] := by
    decide +kernel
  rw [hrun] at hreports
  exact ⟨s, hrun, Option.some.inj hreports, (sends_contract hrun).2⟩

end TransportRun

end OpenDNP3
