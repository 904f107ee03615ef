import OpenDNP3.Link.Layer
import OpenDNP3.Link.Router
import OpenDNP3.Link.RoundTrip
import OpenDNP3.Link.Reconnect
import OpenDNP3.Transport.Layer
import Mathlib.Logic.Function.Basic

/-!
# Stacks that share a line

A `Stack` is a link layer with a transport layer above it.  What a stack is given to send goes down
as TPDUs, and each of them becomes a frame, which becomes octets on the line.  At the other end one
receiver makes frames of the octets, and `LinkLayerRouter` hands each frame to the stack that is
bound to its route, which makes TPDUs and then APDUs of it again.

* `Stack.transmits` — the frames of a stack that sends, without confirmation of the link.
* `ReceivingRouter` — the receiver, the routes and the stacks of the other end.
* `ReceivingRouter.onReads_delivers` — the way through all the layers: every stack gets what its
  peer has sent and nothing else, however the frames of several senders alternate on the line, and
  however the line is read.
-/

set_option autoImplicit false

namespace OpenDNP3

open Scan

/-- A stack up to the transport layer. -/
structure Stack (aFragSize : ℕ) where
  mLink : LinkLayer (List Byte)
  mTransport : TransportLayer aFragSize

/-! ## The sender

Each fragment is cut into TPDUs, and each TPDU is sent in a frame of its own, which needs no
answer. -/

/-- Two configurations that are made for each other. -/
structure LinkConfig.Peers (a b : LinkConfig) : Prop where
  isMaster : a.isMaster = !b.isMaster
  localAddr : a.localAddr = b.remoteAddr
  remoteAddr : a.remoteAddr = b.localAddr

/-- The route of a frame is the one from here to the other end. -/
def LinkConfig.sends (cfg : LinkConfig) (fr : Frame (List Byte)) : Bool :=
  fr.getDest = cfg.remoteAddr ∧ fr.getSrc = cfg.localAddr

/-- The frame of unconfirmed user data. -/
def LinkConfig.unconfirmedFrame (cfg : LinkConfig) (aData : List Byte) : Frame (List Byte) :=
  .unconfirmedUserData cfg.isMaster cfg.remoteAddr cfg.localAddr aData

namespace LinkLayer

/-- What an operation has transmitted. -/
def transmitted (actions : List (LinkAction (List Byte))) : List (Frame (List Byte)) :=
  actions.filterMap fun
    | .transmit arFrame => some arFrame
    | _ => none

/-- One TPDU after the other. -/
def sendAll (ll : LinkLayer (List Byte)) :
    List (List Byte) → Except Exception (LinkLayer (List Byte) × List (Frame (List Byte)))
  | [] => .ok (ll, [])
  | tpdu :: tpdus => do
    let p ← ll.send tpdu
    let q ← p.1.sendAll tpdus
    return (q.1, transmitted p.2 ++ q.2)

/-- The layer sends without confirmation. -/
structure Unconfirmed (ll : LinkLayer (List Byte)) : Prop where
  online : ll.mIsOnline = true
  confirms : ll.mCONFIG.useConfirms = false
  idle : ll.mpPriState = .secNotReset ∨ ll.mpPriState = .secReset

theorem Unconfirmed.sendAll {ll : LinkLayer (List Byte)} (h : ll.Unconfirmed)
    (tpdus : List (List Byte)) :
    ll.sendAll tpdus = .ok (ll, tpdus.map ll.mCONFIG.unconfirmedFrame) := by
  have hsend (t : List Byte) :
      ll.send t = .ok (ll, [.transmit (ll.mCONFIG.unconfirmedFrame t), .onSendSuccess]) := by
    rcases h.idle with hs | hs <;>
      simp [send, h.online, h.confirms, priSendUnconfirmed, hs, sendUnconfirmedUserData,
        LinkConfig.unconfirmedFrame]
  induction tpdus with
  | nil => rfl
  | cons t ts ih =>
    rw [LinkLayer.sendAll, hsend, except_ok_bind, ih]
    rfl

end LinkLayer

namespace Stack

variable {aFragSize : ℕ}

/-- The frames of APDUs that are sent one after the other. -/
def transmits (s : Stack aFragSize) (apdus : List (List Byte)) :
    Except Exception (Stack aFragSize × List (Frame (List Byte))) := do
  let p ← s.mTransport.mTransmitter.transmits apdus
  let q ← s.mLink.sendAll p.2
  return ({ mLink := q.1, mTransport := { s.mTransport with mTransmitter := p.1 } }, q.2)

theorem transmits_eq {s : Stack aFragSize} (h : s.mLink.Unconfirmed) {apdus : List (List Byte)}
    (hlen : ∀ f ∈ apdus, 0 < f.length ∧ f.length ≤ aFragSize) :
    ∃ s', s.transmits apdus =
      .ok (s', (stream s.mTransport.mTransmitter.mSeq apdus).map
        s.mLink.mCONFIG.unconfirmedFrame) := by
  obtain ⟨tx, htx⟩ := s.mTransport.mTransmitter.transmits_eq hlen
  refine ⟨{ s with mTransport := { s.mTransport with mTransmitter := tx } }, ?_⟩
  rw [transmits, htx, except_ok_bind, h.sendAll, except_ok_bind]
  rfl

end Stack

/-- What frames are on the line. -/
def written : List (Frame (List Byte)) → Except Exception (List Byte)
  | [] => .ok []
  | fr :: frs => do
    let f ← LinkFrame.format fr
    let bs ← written frs
    return f.bytes ++ bs

/-! ## The receiver -/

namespace Stack

variable {aFragSize : ℕ}

/-- What is handed up, if an operation ends with that. -/
def handedUp (p : TransportPiece) : List (List Byte) :=
  match p.call with
  | some (.onReceive aAPDU) => [aAPDU]
  | _ => []

/-- What the transport layer makes of the actions of the link layer, as far as it receives.  The
answers of the link layer, which the router would transmit, are not followed here. -/
def receiveAll (t : TransportLayer aFragSize) :
    List (LinkAction (List Byte)) → Except Exception (TransportLayer aFragSize × List (List Byte))
  | [] => .ok (t, [])
  | .onReceive aData :: actions =>
    match TransportLayer.onReceive aData t with
    | .error e _ => .error e
    | .ok p t' => do
      let q ← receiveAll t' actions
      return (q.1, handedUp p ++ q.2)
  | _ :: actions => receiveAll t actions

/-- The stack with another receiver. -/
def withReceiver (s : Stack aFragSize) (rx : TransportRx aFragSize) : Stack aFragSize :=
  { s with mTransport := { s.mTransport with mReceiver := rx } }

/-- A frame for the stack: the APDUs that it completes. -/
def onFrame (s : Stack aFragSize) (fr : Frame (List Byte)) :
    Except Exception (Stack aFragSize × List (List Byte)) := do
  let p ← s.mLink.onFrame fr
  let q ← receiveAll s.mTransport p.2
  return (⟨p.1, q.1⟩, q.2)

end Stack

/-- `LinkLayerRouter` as far as it receives, with the stacks of its contexts. -/
structure ReceivingRouter (κ : Type) (aFragSize : ℕ) where
  mReceiver : LinkLayerReceiver
  mAddressMap : List (LinkRoute × κ)
  contexts : κ → Stack aFragSize

namespace ReceivingRouter

variable {κ : Type} {aFragSize : ℕ}

/-- `GetDestination` -/
def getDestination (s : ReceivingRouter κ aFragSize) (aDest aSrc : BitVec 16) : Option κ :=
  (s.mAddressMap.find? (·.1 = ⟨aSrc, aDest⟩)).map (·.2)

variable [DecidableEq κ]

/-- The methods of `IFrameSink`, which are alike: the context of the route gets the frame, if there
is one. -/
def onFrame (s : ReceivingRouter κ aFragSize) (fr : Frame (List Byte)) :
    Except Exception (ReceivingRouter κ aFragSize × List (κ × List Byte)) :=
  match s.getDestination fr.getDest fr.getSrc with
  | none => .ok (s, [])
  | some pDest => do
    let p ← (s.contexts pDest).onFrame fr
    return ({ s with contexts := Function.update s.contexts pDest p.1 }, p.2.map (pDest, ·))

/-- One frame after the other. -/
def onFrames (s : ReceivingRouter κ aFragSize) :
    List (Frame (List Byte)) → Except Exception (ReceivingRouter κ aFragSize × List (κ × List Byte))
  | [] => .ok (s, [])
  | fr :: frs => do
    let p ← s.onFrame fr
    let q ← p.1.onFrames frs
    return (q.1, p.2 ++ q.2)

/-- `_OnReceive`: every APDU that is handed up, with the stack that does so. -/
def onRead (s : ReceivingRouter κ aFragSize) (aBytes : List Byte) :
    Except Exception (ReceivingRouter κ aFragSize × List (κ × List Byte)) := do
  let p ← s.mReceiver.onRead aBytes
  { s with mReceiver := p.1 }.onFrames p.2

/-- One read after the other. -/
def onReads (s : ReceivingRouter κ aFragSize) :
    List (List Byte) → Except Exception (ReceivingRouter κ aFragSize × List (κ × List Byte))
  | [] => .ok (s, [])
  | c :: cs => do
    let p ← s.onRead c
    let q ← p.1.onReads cs
    return (q.1, p.2 ++ q.2)

/-! ### The router and its contexts

`LinkReader` is the same router without the stacks of its contexts: what it hands on are frames, and
what becomes of them is left open.  Here the contexts are stacks, so the reads of the one are the
reads of the other, with the frames given to the stacks one after the other.  -/

omit [DecidableEq κ] in
/-- The router without the stacks of its contexts. -/
def reader (s : ReceivingRouter κ aFragSize) : LinkReader κ := ⟨s.mReceiver, s.mAddressMap⟩

/-- The contexts get the frames that are handed on to them. -/
def handOn (s : ReceivingRouter κ aFragSize) :
    List (κ × Frame (List Byte)) →
      Except Exception (ReceivingRouter κ aFragSize × List (κ × List Byte))
  | [] => .ok (s, [])
  | (pDest, fr) :: frs => do
    let p ← (s.contexts pDest).onFrame fr
    let q ← { s with contexts := Function.update s.contexts pDest p.1 }.handOn frs
    return (q.1, p.2.map (pDest, ·) ++ q.2)

omit [DecidableEq κ] in
theorem getDestination_reader (s : ReceivingRouter κ aFragSize) (aDest aSrc : BitVec 16) :
    s.reader.getDestination aDest aSrc = s.getDestination aDest aSrc := by
  rw [LinkReader.getDestination, getDestination, reader]
  induction s.mAddressMap with
  | nil => rfl
  | cons v l ih =>
    rw [List.lookup_cons, List.find?_cons]
    by_cases h : v.1 = ⟨aSrc, aDest⟩
    · rw [h]
      simp
    · rw [decide_eq_false h, beq_false_of_ne (Ne.symm h)]
      exact ih

theorem onFrames_eq (s : ReceivingRouter κ aFragSize) (frs : List (Frame (List Byte))) :
    s.onFrames frs = s.handOn (frs.filterMap s.reader.deliver) := by
  induction frs generalizing s with
  | nil => rfl
  | cons fr frs ih =>
    have hdeliver : s.reader.deliver fr =
        (s.getDestination fr.getDest fr.getSrc).map (·, fr) := by
      rw [LinkReader.deliver, getDestination_reader]
    rw [onFrames, onFrame, List.filterMap_cons, hdeliver]
    cases s.getDestination fr.getDest fr.getSrc with
    | none =>
      change (s.onFrames frs >>= fun q ↦ pure (q.1, [] ++ q.2)) =
        s.handOn (frs.filterMap s.reader.deliver)
      rw [ih]
      cases s.handOn (frs.filterMap s.reader.deliver) <;> rfl
    | some pDest =>
      change ((s.contexts pDest).onFrame fr >>= _) >>= _ = (s.contexts pDest).onFrame fr >>= _
      cases (s.contexts pDest).onFrame fr with
      | error e => rfl
      | ok p =>
        exact congrArg (fun x ↦ x >>= fun q ↦ pure (q.1, p.2.map (pDest, ·) ++ q.2)) (ih _)

/-- **A read hands the frames on** that it completes, to the stacks of their routes. -/
theorem onRead_eq (s : ReceivingRouter κ aFragSize) (aBytes : List Byte) :
    s.onRead aBytes =
      s.reader.onReceive aBytes >>= fun p ↦ handOn { s with mReceiver := p.1.mReceiver } p.2 := by
  rw [onRead, LinkReader.onReceive]
  change s.mReceiver.onRead aBytes >>= _ = (s.mReceiver.onRead aBytes >>= _) >>= _
  cases s.mReceiver.onRead aBytes with
  | error e => rfl
  | ok p => exact onFrames_eq _ _

end ReceivingRouter

/-! ## What frames are taken from the line

The receiver finds the frames that were written, and no others, since a frame begins where the
one before it has ended. -/

/-- What `Format*` does not refuse is a frame with user data that it can carry. -/
theorem exists_userData_of_format {fr : Frame (List Byte)} {f : LinkFrame}
    (h : LinkFrame.format fr = .ok f) :
    ∃ fr' : Frame UserData, fr'.octets = fr ∧ f = LinkFrame.ofFrame fr'.octets fr'.fcb := by
  suffices hfr : ∃ fr' : Frame UserData, fr'.octets = fr by
    obtain ⟨fr', rfl⟩ := hfr
    rw [LinkFrame.format_eq] at h
    exact ⟨fr', rfl, (Except.ok.inj h).symm⟩
  cases fr with
  | ack m dfc dest src => exact ⟨.ack m dfc dest src, rfl⟩
  | nack m dfc dest src => exact ⟨.nack m dfc dest src, rfl⟩
  | linkStatus m dfc dest src => exact ⟨.linkStatus m dfc dest src, rfl⟩
  | notSupported m dfc dest src => exact ⟨.notSupported m dfc dest src, rfl⟩
  | testLinkStatus m fcb dest src => exact ⟨.testLinkStatus m fcb dest src, rfl⟩
  | resetLinkStates m dest src => exact ⟨.resetLinkStates m dest src, rfl⟩
  | requestLinkStatus m dest src => exact ⟨.requestLinkStatus m dest src, rfl⟩
  | confirmedUserData m fcb dest src data =>
    simp only [LinkFrame.format, LinkFrame.formatConfirmedUserData] at h
    obtain ⟨_, h₁, h⟩ := except_bind_eq_ok.mp h
    obtain ⟨_, h₂, -⟩ := except_bind_eq_ok.mp h
    rw [assert_eq_ok] at h₁ h₂
    exact ⟨.confirmedUserData m fcb dest src ⟨data, h₁, h₂⟩, rfl⟩
  | unconfirmedUserData m dest src data =>
    simp only [LinkFrame.format, LinkFrame.formatUnconfirmedUserData] at h
    obtain ⟨_, h₁, h⟩ := except_bind_eq_ok.mp h
    obtain ⟨_, h₂, -⟩ := except_bind_eq_ok.mp h
    rw [assert_eq_ok] at h₁ h₂
    exact ⟨.unconfirmedUserData m dest src ⟨data, h₁, h₂⟩, rfl⟩

theorem rest_nil : frameScanner.rest [] = [] := by
  have h : frameScanner.scan [] = ([], []) := Scanner.scan_of_wait rfl
  rw [Scanner.rest, h]

/-- The octets of a frame are taken as this frame, and nothing is left of them. -/
theorem scan_ofFrame (fr : Frame UserData) :
    frameScanner.items (LinkFrame.ofFrame fr.octets fr.fcb).bytes = [fr.octets] ∧
      frameScanner.rest (LinkFrame.ofFrame fr.octets fr.fcb).bytes = [] := by
  have hfcb : fr.withFcb fr.fcb = fr := by cases fr <;> rfl
  obtain ⟨r, hr, -, hnil⟩ := pushes_ofFrame fr (b := fr.fcb)
    (by cases fr <;> simp [Frame.isPriToSec, Frame.fcb])
  rw [hfcb] at hr
  have hpayload : fr.octets.payload.length ≤ 250 := by
    cases fr with
    | confirmedUserData m fcb dest src data => exact data.2.2
    | unconfirmedUserData m dest src data => exact data.2.2
    | _ => exact Nat.zero_le _
  have hlen : (LinkFrame.ofFrame fr.octets fr.fcb).bytes.length ≤
      LinkLayerReceiver.init.mBuffer.numWriteBytes :=
    Nat.le_trans (List.length_take_le _ _) (Nat.le_trans (calcFrameSize_le hpayload) (by decide))
  obtain ⟨r', frames, hr', hwaits, hitems⟩ :=
    LinkLayerReceiver.onRead_spec LinkLayerReceiver.waits_init hlen
  rw [hr] at hr'
  cases hr'
  have hrest := hwaits.keeps.rest
  have hempty : frameScanner.items [] = [] := LinkLayerReceiver.items_of_length_lt (by decide)
  rw [List.nil_append] at hitems hrest
  rw [hempty, List.nil_append] at hitems
  refine ⟨hitems, ?_⟩
  rw [← hrest, hnil]
  exact rest_nil

/-- **The line carries what is written on it**, and at the end no octet is waited for. -/
theorem scan_written {line : List (Frame (List Byte))} {bytes : List Byte}
    (h : written line = .ok bytes) :
    frameScanner.items bytes = line ∧ frameScanner.rest bytes = [] := by
  induction line generalizing bytes with
  | nil =>
    cases h
    exact ⟨LinkLayerReceiver.items_of_length_lt (by decide), rest_nil⟩
  | cons fr frs ih =>
    obtain ⟨f, hf, h⟩ := except_bind_eq_ok.mp h
    obtain ⟨bs, hbs, h⟩ := except_bind_eq_ok.mp h
    cases h
    obtain ⟨fr', rfl, rfl⟩ := exists_userData_of_format hf
    obtain ⟨hi, hr⟩ := scan_ofFrame fr'
    obtain ⟨hi', hr'⟩ := ih hbs
    rw [Scanner.items_append, Scanner.rest_append, hi, hr, List.nil_append]
    exact ⟨congrArg (fr'.octets :: ·) hi', hr'⟩

/-! ## The way to the stacks

A frame that is for a stack changes that stack only. So the frames of the other senders may be
left out when one stack is looked at. -/

/-- What the transport layer does with received data while it is up. -/
theorem Stack.receiveAll_onReceive {aFragSize : ℕ} {t : TransportLayer aFragSize}
    {aData : List Byte}
    {rx : TransportRx aFragSize} {apdu : Option (List Byte)} (ht : t.mpState ≠ .closed)
    (hrx : t.mReceiver.handleReceive aData = .ok (rx, apdu)) :
    receiveAll t [.onReceive aData] = .ok ({ t with mReceiver := rx }, apdu.toList) := by
  have hwp : Handler.wp (TransportLayer.onReceive aData)
    (fun r s ↦ r = ⟨apdu.map .onReceive, .nothing⟩ ∧
      s = { t with mReceiver := rx }) (fun _ _ ↦ False) t := by
    rw [TransportLayer.onReceive, Handler.wp_bind, Handler.wp_get]
    cases hst : t.mpState with
    | closed => exact absurd hst ht
    | _ =>
      rw [Handler.wp_bind, Handler.wp_get, Handler.wp_bind, hrx, Handler.wp_lift_ok,
        Handler.wp_bind, Handler.wp_modify, Handler.wp_pure, ← hst]
      exact ⟨rfl, rfl⟩
  have h : TransportLayer.onReceive aData t = .ok ⟨apdu.map .onReceive, .nothing⟩
      { t with mReceiver := rx } := by
    rw [Handler.wp] at hwp
    split at hwp
    · obtain ⟨rfl, rfl⟩ := hwp
      assumption
    · exact hwp.elim
  rw [receiveAll, h]
  cases apdu <;> rfl

namespace ReceivingRouter

variable {κ : Type} {aFragSize : ℕ}

/-- **A router that listens** to senders with these configurations: each has its stack, which is up,
and no octet of an earlier frame is waited for. -/
structure Listens (s : ReceivingRouter κ aFragSize) (peers : κ → LinkConfig) : Prop where
  ready : s.mReceiver.Waits []
  bound : ∀ k aDest aSrc, s.getDestination aDest aSrc = some k ↔
    aDest = (peers k).remoteAddr ∧ aSrc = (peers k).localAddr
  peer : ∀ k, (peers k).Peers (s.contexts k).mLink.mCONFIG
  online : ∀ k, (s.contexts k).mLink.mIsOnline = true
  opened : ∀ k, (s.contexts k).mTransport.mpState ≠ .closed

variable [DecidableEq κ] {s : ReceivingRouter κ aFragSize} {peers : κ → LinkConfig}

/-- The transport layer of `k` has received. -/
def received (s : ReceivingRouter κ aFragSize) (k : κ) (rx : TransportRx aFragSize) :
    ReceivingRouter κ aFragSize :=
  { s with contexts := Function.update s.contexts k ((s.contexts k).withReceiver rx) }

omit [DecidableEq κ] in
theorem receives_cons_ok {rx rx' : TransportRx aFragSize} {t : List Byte}
    {ts out : List (List Byte)} (h : rx.receives (t :: ts) = .ok (rx', out)) :
    ∃ rx₁ apdu out', rx.handleReceive t = .ok (rx₁, apdu) ∧ rx₁.receives ts = .ok (rx', out') ∧
      out = apdu.toList ++ out' := by
  rw [TransportRx.receives] at h
  obtain ⟨⟨rx₁, apdu⟩, h₁, h⟩ := except_bind_eq_ok.mp h
  obtain ⟨⟨rx₂, out'⟩, h₂, h⟩ := except_bind_eq_ok.mp h
  cases h
  exact ⟨rx₁, apdu, out', h₁, h₂, rfl⟩

theorem Listens.received (h : s.Listens peers) (k : κ) (rx : TransportRx aFragSize) :
    (s.received k rx).Listens peers where
  ready := h.ready
  bound := h.bound
  peer j := by
    by_cases hj : j = k
    · subst hj
      simpa [ReceivingRouter.received, Stack.withReceiver] using h.peer j
    · simpa [ReceivingRouter.received, hj] using h.peer j
  online j := by
    by_cases hj : j = k
    · subst hj
      simpa [ReceivingRouter.received, Stack.withReceiver] using h.online j
    · simpa [ReceivingRouter.received, hj] using h.online j
  opened j := by
    by_cases hj : j = k
    · subst hj
      simpa [ReceivingRouter.received, Stack.withReceiver] using h.opened j
    · simpa [ReceivingRouter.received, hj] using h.opened j

/-- A frame that is not for a stack is passed over. -/
theorem Listens.onFrame_foreign (h : s.Listens peers) {fr : Frame (List Byte)}
    (hfr : ∀ k, (peers k).sends fr = false) :
    s.onFrame fr = .ok (s, []) := by
  have hnone : s.getDestination fr.getDest fr.getSrc = none := by
    rw [Option.eq_none_iff_forall_ne_some]
    intro k hk
    have hroute := (h.bound k _ _).mp hk
    simpa [LinkConfig.sends, hroute] using hfr k
  rw [onFrame, hnone]

/-- User data for a stack go up to its transport layer. -/
theorem Listens.onFrame_user (h : s.Listens peers) {k : κ} {aData : List Byte}
    {rx : TransportRx aFragSize} {apdu : Option (List Byte)}
    (hrx : (s.contexts k).mTransport.mReceiver.handleReceive aData = .ok (rx, apdu)) :
    s.onFrame ((peers k).unconfirmedFrame aData) = .ok
      (s.received k rx, apdu.toList.map (k, ·)) := by
  have hdest : s.getDestination (peers k).remoteAddr (peers k).localAddr = some k :=
    (h.bound k _ _).mpr ⟨rfl, rfl⟩
  have hp := h.peer k
  have hlink : (s.contexts k).mLink.onFrame ((peers k).unconfirmedFrame aData) =
      .ok ((s.contexts k).mLink, [.onReceive aData]) := by
    have hv : (s.contexts k).mLink.validate (peers k).isMaster (peers k).localAddr
        (peers k).remoteAddr = .ok true := by
      rw [hp.localAddr, hp.remoteAddr]
      exact LinkLayer.validate_of_peer (h.online k) hp.isMaster
    simp only [LinkConfig.unconfirmedFrame, LinkLayer.onFrame, hv, except_ok_bind, if_true]
    rfl
  have htransport := Stack.receiveAll_onReceive (h.opened k) hrx
  simp only [onFrame, LinkConfig.unconfirmedFrame, Frame.getDest, Frame.getSrc, hdest]
  rw [LinkConfig.unconfirmedFrame] at hlink
  simp only [Stack.onFrame, hlink, except_ok_bind, htransport]
  rfl

/-- **The frames of several senders**: each stack receives what is for it, in any order of the
frames. -/
theorem Listens.onFrames (h : s.Listens peers) {line : List (Frame (List Byte))}
    {tpdus apdus : κ → List (List Byte)}
    (hline : ∀ k, line.filter (peers k).sends = (tpdus k).map (peers k).unconfirmedFrame)
    (hrx : ∀ k, ∃ rx, (s.contexts k).mTransport.mReceiver.receives (tpdus k) = .ok (rx, apdus k)) :
    ∃ s' out, s.onFrames line = .ok (s', out) ∧ s'.Listens peers ∧ s'.mReceiver = s.mReceiver ∧
      ∀ k, (out.filter (·.1 = k)).map (·.2) = apdus k := by
  induction line generalizing s tpdus apdus with
  | nil =>
    refine ⟨s, [], rfl, h, rfl, fun k ↦ ?_⟩
    obtain ⟨rx, hk⟩ := hrx k
    have hnil : tpdus k = [] := by simpa using (hline k).symm
    rw [hnil, TransportRx.receives, Except.ok.injEq, Prod.mk.injEq] at hk
    exact hk.2
  | cons fr frs ih =>
    by_cases hfr : ∃ k, (peers k).sends fr = true
    · obtain ⟨k, hfr⟩ := hfr
      have hk := hline k
      rw [List.filter_cons_of_pos hfr] at hk
      obtain ⟨t, ts, htpdus, rfl, hts⟩ := List.map_eq_cons_iff.mp hk.symm
      obtain ⟨rx, hreceives⟩ := hrx k
      rw [htpdus] at hreceives
      obtain ⟨rx₁, apdu, apdus', ht, hrest, hout⟩ := receives_cons_ok hreceives
      -- the frame is for no other stack
      have hother (j : κ) (hj : j ≠ k) : (peers j).sends ((peers k).unconfirmedFrame t) =
          false := by
        by_contra hsends
        have hroute : (peers k).remoteAddr = (peers j).remoteAddr ∧
            (peers k).localAddr = (peers j).localAddr := by
          rw [Bool.not_eq_false] at hsends
          exact of_decide_eq_true hsends
        have hdest := (h.bound j _ _).mpr hroute
        rw [(h.bound k _ _).mpr ⟨rfl, rfl⟩] at hdest
        exact hj (Option.some.inj hdest).symm
      obtain ⟨s', out, hs', hl, hr, hproj⟩ := @ih (s.received k rx₁) (h.received k rx₁)
        (Function.update tpdus k ts) (Function.update apdus k apdus') (fun j ↦ by
          by_cases hj : j = k
          · subst hj
            simpa using hts.symm
          · have hlj := hline j
            rw [List.filter_cons_of_neg (by simp [hother j hj])] at hlj
            simpa [hj] using hlj) (fun j ↦ by
          by_cases hj : j = k
          · subst hj
            exact ⟨rx, by simpa [ReceivingRouter.received, Stack.withReceiver] using hrest⟩
          · simpa [ReceivingRouter.received, hj] using hrx j)
      refine ⟨s', apdu.toList.map (k, ·) ++ out, ?_, hl, hr, fun j ↦ ?_⟩
      · rw [ReceivingRouter.onFrames, h.onFrame_user ht, except_ok_bind, hs']
        rfl
      · have hj := hproj j
        by_cases hjk : j = k
        · subst hjk
          rw [List.filter_append, List.map_append, hj, hout]
          cases apdu <;> simp
        · rw [List.filter_append, List.map_append, hj]
          cases apdu <;> simp [hjk, Ne.symm hjk]
    · have hforeign (k : κ) : (peers k).sends fr = false := by
        by_contra hk
        exact hfr ⟨k, by simpa using hk⟩
      obtain ⟨s', out, hs', hrest⟩ := ih h (fun k ↦ by
        rw [← hline k, List.filter_cons_of_neg (by simp [hforeign k])]) hrx
      refine ⟨s', out, ?_, hrest⟩
      rw [ReceivingRouter.onFrames, h.onFrame_foreign hforeign, except_ok_bind, hs']
      rfl

/-! ## The way through all the layers -/

/-- Nothing but the receiver depends on the receiver. -/
theorem onFrames_withReceiver {s s' : ReceivingRouter κ aFragSize} {frs : List (Frame (List Byte))}
    {out : List (κ × List Byte)} (h : s.onFrames frs = .ok (s', out)) (m : LinkLayerReceiver) :
    { s with mReceiver := m }.onFrames frs = .ok ({ s' with mReceiver := m }, out) := by
  induction frs generalizing s out with
  | nil =>
    cases h
    rfl
  | cons fr frs ih =>
    obtain ⟨⟨s₁, out₁⟩, h₁, h⟩ := except_bind_eq_ok.mp h
    obtain ⟨⟨s₂, out₂⟩, h₂, h⟩ := except_bind_eq_ok.mp h
    cases h
    have hfr : { s with mReceiver := m }.onFrame fr = .ok ({ s₁ with mReceiver := m }, out₁) := by
      have hdest : { s with mReceiver := m }.getDestination fr.getDest fr.getSrc =
          s.getDestination fr.getDest fr.getSrc := rfl
      rw [onFrame] at h₁
      rw [onFrame, hdest]
      cases hd : s.getDestination fr.getDest fr.getSrc with
      | none =>
        rw [hd] at h₁
        cases h₁
        rfl
      | some k =>
        rw [hd] at h₁
        obtain ⟨p, hp, h₁⟩ := except_bind_eq_ok.mp h₁
        cases h₁
        simp only [hp, except_ok_bind]
        rfl
    rw [onFrames, hfr, except_ok_bind, ih h₂]
    rfl

theorem onFrames_append {s s' : ReceivingRouter κ aFragSize} {frs frs' : List (Frame (List Byte))}
    {out : List (κ × List Byte)} (h : s.onFrames (frs ++ frs') = .ok (s', out)) :
    ∃ s₁ out₁ out₂, s.onFrames frs = .ok (s₁, out₁) ∧ s₁.onFrames frs' = .ok (s', out₂) ∧
      out = out₁ ++ out₂ := by
  induction frs generalizing s out with
  | nil => exact ⟨s, [], out, rfl, h, rfl⟩
  | cons fr frs ih =>
    obtain ⟨⟨s₁, out₁⟩, h₁, h⟩ := except_bind_eq_ok.mp h
    obtain ⟨⟨s₂, out₂⟩, h₂, h⟩ := except_bind_eq_ok.mp h
    cases h
    obtain ⟨s₃, out₃, out₄, h₃, h₄, rfl⟩ := ih h₂
    refine ⟨s₃, out₁ ++ out₃, out₄, ?_, h₄, (List.append_assoc ..).symm⟩
    rw [onFrames, h₁, except_ok_bind, h₃]
    rfl

/-- What has been read is dispatched read by read, which is as good as all at once. -/
theorem onReads_eq {s s' : ReceivingRouter κ aFragSize} {chunks : List (List Byte)}
    {m : LinkLayerReceiver} {frames : List (Frame (List Byte))} {out : List (κ × List Byte)}
    (hm : s.mReceiver.onReads chunks = .ok (m, frames)) (h : s.onFrames frames = .ok (s', out)) :
    s.onReads chunks = .ok ({ s' with mReceiver := m }, out) := by
  induction chunks generalizing s s' frames out with
  | nil =>
    cases hm
    cases h
    rfl
  | cons c cs ih =>
    obtain ⟨⟨m₁, f₁⟩, h₁, hm⟩ := except_bind_eq_ok.mp hm
    obtain ⟨⟨m₂, f₂⟩, h₂, hm⟩ := except_bind_eq_ok.mp hm
    cases hm
    obtain ⟨s₁, out₁, out₂, hf₁, hf₂, rfl⟩ := onFrames_append h
    have hread : s.onRead c = .ok ({ s₁ with mReceiver := m₁ }, out₁) := by
      rw [onRead, h₁, except_ok_bind]
      exact onFrames_withReceiver hf₁ m₁
    have hrest := ih (s := { s₁ with mReceiver := m₁ }) h₂ (onFrames_withReceiver hf₂ m₁)
    rw [onReads, hread, except_ok_bind, hrest]
    rfl

omit [DecidableEq κ] in
/-- A receiver that has read waits again. -/
theorem waits_onReads {r r' : LinkLayerReceiver} {bs : List Byte} (hr : r.Waits bs)
    {chunks : List (List Byte)}
    (hfit : r.Fits chunks) {frames : List (Frame (List Byte))}
    (h : r.onReads chunks = .ok (r', frames)) :
    r'.Waits (bs ++ chunks.flatten) := by
  induction chunks generalizing r bs frames with
  | nil =>
    cases h
    simpa using hr
  | cons c cs ih =>
    obtain ⟨⟨r₁, f₁⟩, h₁, h⟩ := except_bind_eq_ok.mp h
    obtain ⟨⟨r₂, f₂⟩, h₂, h⟩ := except_bind_eq_ok.mp h
    cases h
    obtain ⟨r₁', f₁', h₁', hw, -⟩ := LinkLayerReceiver.onRead_spec hr hfit.1
    rw [h₁] at h₁'
    cases h₁'
    have hrest := ih hw (hfit.2 _ _ h₁) h₂
    rwa [List.append_assoc, ← List.flatten_cons] at hrest

omit [DecidableEq κ] in
theorem Listens.withReceiver (h : s.Listens peers) {m : LinkLayerReceiver} (hm : m.Waits []) :
    { s with mReceiver := m }.Listens peers where
  ready := hm
  bound := h.bound
  peer := h.peer
  online := h.online
  opened := h.opened

/-- **Sessions on one line.**  Several stacks send fragments, without confirmation of the link.
Their frames alternate on the line in any order, among frames of others, and the line is read in any
pieces that fit.  Then each stack of a listening router hands up the fragments that its peer has
sent: all of them, once, in order, and nothing else; and the router goes on listening. -/
theorem onReads_delivers (h : s.Listens peers) (senders senders' : κ → Stack aFragSize)
    (hsend : ∀ k, (senders k).mLink.Unconfirmed) (hpeer : ∀ k, (senders k).mLink.mCONFIG = peers k)
    (fragments : κ → List (Fragment aFragSize)) (sent : κ → List (Frame (List Byte)))
    (htx : ∀ k, (senders k).transmits ((fragments k).map Subtype.val) = .ok (senders' k, sent k))
    (line : List (Frame (List Byte))) (hline : ∀ k, line.filter (peers k).sends = sent k)
    (chunks : List (List Byte)) (hchunks : written line = .ok chunks.flatten)
    (hfit : s.mReceiver.Fits chunks) :
    ∃ s' out, s.onReads chunks = .ok (s', out) ∧ s'.Listens peers ∧
      ∀ k, (out.filter (·.1 = k)).map (·.2) = (fragments k).map Subtype.val := by
  have hlen (k : κ) : ∀ f ∈ (fragments k).map Subtype.val, 0 < f.length ∧ f.length ≤ aFragSize := by
    intro f hf
    obtain ⟨g, -, rfl⟩ := List.mem_map.mp hf
    exact g.2
  -- down through the layers of the senders
  have hsent (k : κ) :
    sent k = (stream (senders k).mTransport.mTransmitter.mSeq ((fragments k).map Subtype.val)).map
      (peers k).unconfirmedFrame := by
    obtain ⟨s', hs'⟩ := Stack.transmits_eq (hsend k) (hlen k)
    rw [htx k, hpeer k] at hs'
    exact (Prod.mk.inj (Except.ok.inj hs')).2
  -- over the line
  obtain ⟨hitems, hrest⟩ := scan_written hchunks
  obtain ⟨m, frames, hm, hframes⟩ := LinkLayerReceiver.onReads_of_waits h.ready hfit
  have hempty : frameScanner.items [] = [] := LinkLayerReceiver.items_of_length_lt (by decide)
  rw [List.nil_append, hempty, List.nil_append, hitems] at hframes
  subst hframes
  -- and up through the layers of the receivers
  obtain ⟨s', out, hs', hl, -, hproj⟩ := h.onFrames (fun k ↦ (hline k).trans (hsent k))
    (fun k ↦ TransportRx.receives_stream _ _ (hlen k))
  refine ⟨{ s' with mReceiver := m }, out, onReads_eq hm hs', hl.withReceiver ?_, hproj⟩
  have hw := waits_onReads h.ready hfit hm
  rw [List.nil_append] at hw
  refine { inv := hw.inv, room := hw.room, size := hw.size, keeps := ⟨hw.keeps.items, ?_⟩ }
  rw [hw.keeps.rest, hrest, rest_nil]

/-- Two outstations that send to the same master. -/
def samplePeers (k : Bool) : LinkConfig := ⟨false, false, 0, if k then 11 else 10, 1⟩

def sampleSender (k : Bool) : Stack 2048 :=
  ⟨{ LinkLayer.init (samplePeers k) with mIsOnline := true }, TransportLayer.init⟩

def sampleRouter : ReceivingRouter Bool 2048 where
  mReceiver := .init
  mAddressMap := [(⟨10, 1⟩, false), (⟨11, 1⟩, true)]
  contexts k :=
    ⟨{ LinkLayer.init ⟨true, false, 0, 1, if k then 11 else 10⟩ with mIsOnline := true },
      { TransportLayer.init with mpState := .ready }⟩

def sampleFragments (k : Bool) : List (Fragment 2048) :=
  if k then [⟨[1, 2, 3], by decide⟩] else [⟨[4, 5], by decide⟩]

def sampleSent (k : Bool) : List (Frame (List Byte)) :=
  (stream 0 ((sampleFragments k).map Subtype.val)).map (samplePeers k).unconfirmedFrame

theorem sampleRouter_listens : sampleRouter.Listens samplePeers where
  ready := LinkLayerReceiver.waits_init
  bound k aDest aSrc := by
    by_cases h₁ : (10 : BitVec 16) = aSrc ∧ (1 : BitVec 16) = aDest
    · obtain ⟨rfl, rfl⟩ := h₁
      cases k <;> decide
    · by_cases h₂ : (11 : BitVec 16) = aSrc ∧ (1 : BitVec 16) = aDest
      · obtain ⟨rfl, rfl⟩ := h₂
        cases k <;> decide
      · have hnone : sampleRouter.getDestination aDest aSrc = none := by
          rw [getDestination, sampleRouter, List.find?_cons_of_neg (by simpa using h₁),
            List.find?_cons_of_neg (by simpa using h₂)]
          rfl
        rw [hnone]
        cases k
        · exact ⟨nofun, fun h ↦ absurd ⟨h.2.symm, h.1.symm⟩ h₁⟩
        · exact ⟨nofun, fun h ↦ absurd ⟨h.2.symm, h.1.symm⟩ h₂⟩
  peer k := ⟨rfl, rfl, rfl⟩
  online _ := rfl
  opened _ := by simp [sampleRouter]

theorem onReads_delivers_two : ∃ chunks s' out, sampleRouter.onReads chunks = .ok (s', out) ∧
    s'.Listens samplePeers ∧
    ∀ k, (out.filter (·.1 = k)).map (·.2) = (sampleFragments k).map Subtype.val := by
  obtain ⟨bytes, hbytes⟩ : ∃ bytes, written (sampleSent true ++ sampleSent false) = .ok bytes :=
    ⟨_, rfl⟩
  have hsend (k : Bool) : (sampleSender k).mLink.Unconfirmed := ⟨rfl, rfl, .inl rfl⟩
  have htx (k : Bool) : ∃ s', (sampleSender k).transmits ((sampleFragments k).map Subtype.val) =
      .ok (s', sampleSent k) := Stack.transmits_eq (hsend k) (by cases k <;> decide)
  choose after hafter using htx
  have hcut : [bytes.take 7, bytes.drop 7].flatten = bytes := by simp
  have hlength : bytes.length = 31 := by
    have h : (written (sampleSent true ++ sampleSent false)).map List.length = .ok 31 := by
      decide +kernel
    rw [hbytes] at h
    exact Except.ok.inj h
  have hshort : ∀ c ∈ [bytes.take 7, bytes.drop 7], c.length ≤
      LinkLayerReceiver.bufferSize - lsMaxFrameSize := by
    have hroom : LinkLayerReceiver.bufferSize - lsMaxFrameSize = 4672 := rfl
    simp only [List.mem_cons, List.not_mem_nil, or_false, forall_eq_or_imp, forall_eq,
      List.length_take, List.length_drop, hroom, hlength]
    omega
  exact ⟨_, onReads_delivers sampleRouter_listens sampleSender after hsend
    (fun _ ↦ rfl) sampleFragments sampleSent
    hafter (sampleSent true ++ sampleSent false) (by decide) [bytes.take 7, bytes.drop 7]
      (by rw [hcut, hbytes])
    (LinkLayerReceiver.fits_of_length_le LinkLayerReceiver.waits_init hshort)⟩

end ReceivingRouter

end OpenDNP3
