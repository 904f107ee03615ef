import OpenDNP3.App.LayerSteps

/-!
# A master and an outstation

The application layers of a master and of an outstation face each other over a channel in each
direction that is a queue and may lose fragments.  Their users may do anything that the layers
allow, at any time, and so may the lower layers and the timers: a send is reported as a success or
as a failure whatever became of it, and the link of either side may go down and come up again.

What travels are the octets of a fragment.  `Network.octets` spells out the control octet and the
function code, which are what the layers look at, and leaves what follows them to a parameter.

Each fragment travels with two numbers that the layers do not see: the number of the send that it
belongs to, counted for each channel of each side (a retry has the number of the fragment that is
sent again), and how often the link of the sender had gone down.  They say which fragment has been
handed up, confirmed or reported as sent, and over which connection it was sent.
-/

set_option autoImplicit false

namespace OpenDNP3

open Handler AppLayer

variable {ω : Type}

/-- The channel and the number of the send that a fragment belongs to; a confirmation has none. -/
abbrev SendId := Option (Bool × ℕ)

/-- A fragment on its way. -/
structure Packet where
  id : SendId
  connection : ℕ
  apData : List Byte
  deriving DecidableEq, Repr

/-- One of the two sides: its layer, how often each of its channels has sent, how often its link has
gone down, whether the fragment that the lower layer sends is on its way already, and what is on its
way to this side. -/
structure Side (ω : Type) where
  app : AppLayer ω
  sent : Bool → ℕ
  connection : ℕ
  wired : Bool
  inbox : List Packet

/-- The two sides, and what has been reported to their users. -/
structure Network (ω : Type) where
  master : Side ω
  outstation : Side ω
  /-- The fragments of the outstation that were handed to the user of the master. -/
  handed : List SendId
  /-- The fragments of the outstation for which the master has queued a confirmation. -/
  confirmed : List SendId
  /-- The unsolicited responses that the master took for one that it had already. -/
  suppressed : List SendId
  /-- The sends of the outstation that were reported to its user as successful. -/
  succeeded : List SendId
  /-- The last unsolicited response that was handed to the user of the master since its link came
  up. -/
  lastUnsol : Option ℕ

/-- What can happen to the two sides. -/
inductive NetEvent (ω : Type) where
  /-- An operation of the outstation or of the master, but not the arrival of a fragment. -/
  | outstation (op : Op ω)
  | master (op : Op ω)
  /-- The fragment that is being sent is on its way. -/
  | outstationSends
  | masterSends
  /-- A fragment on its way to the outstation or to the master is lost. -/
  | loseToOutstation (i : ℕ)
  | loseToMaster (i : ℕ)
  /-- The first fragment on its way arrives. -/
  | arriveAtOutstation
  | arriveAtMaster
  deriving DecidableEq, Repr

namespace Side

/-- A side at the start. -/
def new (isMaster : Bool) (aFragSize aNumRetry : ℕ) : Side ω where
  app := AppLayer.new isMaster aFragSize aNumRetry
  sent _ := 0
  connection := 0
  wired := false
  inbox := []

/-- The operation ends what the lower layer was sending. -/
def endsSend : Op ω → Bool
  | .event (.sendResult _) | .event .lowerLayerDown => true
  | _ => false

/-- An operation of the layer, and the call that it makes.  A send is counted if it is accepted. -/
def perform (s : Side ω) (op : Op ω) : Side ω × Option UserCall :=
  let t : Side ω := { s with
    connection := if op.isDown then s.connection + 1 else s.connection
    wired := s.wired && !endsSend op }
  match AppLayer.perform op s.app with
  | .ok call a =>
    ({ t with
        app := a
        sent := fun u ↦ if op.sends = some u then s.sent u + 1 else s.sent u }, call)
  | .error _ a => ({ t with app := a }, none)

@[simp] theorem perform_connection (s : Side ω) (op : Op ω) :
    (s.perform op).1.connection = if op.isDown then s.connection + 1 else s.connection := by
  rw [perform]
  cases AppLayer.perform op s.app <;> rfl

@[simp] theorem perform_inbox (s : Side ω) (op : Op ω) : (s.perform op).1.inbox = s.inbox := by
  rw [perform]
  cases AppLayer.perform op s.app <;> rfl

/-- What is known of an operation of the layer is known of the side: it returned, and a send is
counted, or it threw. -/
theorem perform_spec {s : Side ω} {op : Op ω} {Q : Option UserCall → AppLayer ω → Prop}
    {E : Exception → AppLayer ω → Prop} (h : wp (AppLayer.perform op) Q E s.app) :
    (Q (s.perform op).2 (s.perform op).1.app ∧
      (s.perform op).1.sent = fun u ↦ if op.sends = some u then s.sent u + 1 else s.sent u) ∨
    ∃ e, E e (s.perform op).1.app ∧ (s.perform op).2 = none ∧ (s.perform op).1.sent = s.sent := by
  rw [wp] at h
  rw [perform]
  cases hx : AppLayer.perform op s.app with
  | ok call t =>
    rw [hx] at h
    exact .inl ⟨h, rfl⟩
  | error e t =>
    rw [hx] at h
    exact .inr ⟨e, h, rfl, rfl⟩

/-- The send that a fragment of the queue belongs to: the last one of its channel. -/
def idOf (s : Side ω) (f : OutAPDU ω) : SendId :=
  if isFor true f then some (true, s.sent true)
  else if isFor false f then some (false, s.sent false)
  else none

end Side

namespace Network

/-- The octets of a fragment. -/
def octets (body : OutAPDU ω → List Byte) (f : OutAPDU ω) : List Byte :=
  f.control.toByte :: BitVec.ofNat 8 (f.function.getD .unknown).toNat :: body f

/-- What is on its way when a side sends: the first fragment of its queue, once. -/
def sending (body : OutAPDU ω → List Byte) (s : Side ω) : Option Packet :=
  match s.app.mSendQueue with
  | f :: _ =>
    if s.app.mSending && !s.wired then some ⟨s.idOf f, s.connection, octets body f⟩ else none
  | [] => none

/-- The user of the master is handed a fragment. -/
def isHandUp : UserCall → Bool
  | .onPartialResponse _ | .onFinalResponse _ | .onUnsolResponse _ => true
  | _ => false

/-- The network at the start. -/
def new (aFragSize aNumRetry aOutFragSize aOutNumRetry : ℕ) : Network ω where
  master := .new true aFragSize aNumRetry
  outstation := .new false aOutFragSize aOutNumRetry
  handed := []
  confirmed := []
  suppressed := []
  succeeded := []
  lastUnsol := none

/-- The sends that a call of the user of the outstation reports as successful. -/
def succeededBy (s : Side ω) : Option UserCall → List SendId
  | some (.onSendSuccess u) => [some (u, s.sent u)]
  | _ => []

/-- An operation of the outstation. -/
def outstationOp (n : Network ω) (op : Op ω) : Network ω :=
  let r := n.outstation.perform op
  { n with outstation := r.1, succeeded := succeededBy r.1 r.2 ++ n.succeeded }

/-- An operation of the master. -/
def masterOp (n : Network ω) (op : Op ω) : Network ω :=
  { n with
    master := (n.master.perform op).1
    lastUnsol := if op.isDown then none else n.lastUnsol }

/-- An unsolicited response with the number of the one before it. -/
def isDuplicate (a : AppLayer ω) (apData : List Byte) : Bool :=
  match APDU.interpret apData with
  | .ok r => r.getFunction = .unsolicitedResponse && r.getControl.seq = (a.channel true).mSequence
  | .error _ => false

/-- What is recorded of the arrival of a fragment at the master, which is `s` afterwards and has
made a call. -/
def record (n : Network ω) (p : Packet) (s : Side ω) (call : Option UserCall) : Network ω :=
  { n with
    master := s
    handed := if call.any isHandUp then p.id :: n.handed else n.handed
    confirmed := if n.master.app.mSendQueue.countP isConfirm < s.app.mSendQueue.countP isConfirm
      then p.id :: n.confirmed else n.confirmed
    suppressed := if isDuplicate n.master.app p.apData then p.id :: n.suppressed else n.suppressed
    lastUnsol :=
      match call, p.id with
      | some (.onUnsolResponse _), some (true, j) => some j
      | _, _ => n.lastUnsol }

/-- A fragment arrives at the master. -/
def masterReceives (n : Network ω) (p : Packet) : Network ω :=
  let r := n.master.perform (.event (.receive p.apData))
  n.record p r.1 r.2

/-- It is the arrival of a fragment. -/
def isReceive : Op ω → Bool
  | .event (.receive _) => true
  | _ => false

/-- **One event.** -/
def step (body : OutAPDU ω → List Byte) (n : Network ω) : NetEvent ω → Option (Network ω)
  | .outstation op =>
    if n.outstation.app.allowed op && !isReceive op then some (n.outstationOp op) else none
  | .master op => if n.master.app.allowed op && !isReceive op then some (n.masterOp op) else none
  | .outstationSends =>
    (sending body n.outstation).map fun p ↦ { n with
      outstation := { n.outstation with wired := true }
      master := { n.master with inbox := n.master.inbox ++ [p] } }
  | .masterSends =>
    (sending body n.master).map fun p ↦ { n with
      master := { n.master with wired := true }
      outstation := { n.outstation with inbox := n.outstation.inbox ++ [p] } }
  | .loseToOutstation i =>
    some { n with outstation := { n.outstation with inbox := n.outstation.inbox.eraseIdx i } }
  | .loseToMaster i =>
    some { n with master := { n.master with inbox := n.master.inbox.eraseIdx i } }
  | .arriveAtOutstation =>
    match n.outstation.inbox with
    | [] => none
    | p :: rest =>
      if n.outstation.app.mIsLowerLayerUp then
        some ({ n with outstation := { n.outstation with inbox := rest } }.outstationOp
          (.event (.receive p.apData)))
      else none
  | .arriveAtMaster =>
    match n.master.inbox with
    | [] => none
    | p :: rest =>
      if n.master.app.mIsLowerLayerUp then
        some ({ n with master := { n.master with inbox := rest } }.masterReceives p)
      else none

end Network

end OpenDNP3
