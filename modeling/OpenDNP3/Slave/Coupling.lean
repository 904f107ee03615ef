import OpenDNP3.App.LayerSteps
import OpenDNP3.Slave.Handlers

/-!
# The slave and its application layer

The state of the slave says which channels of its application layer may be busy: the solicited one
while the slave waits for a response, the unsolicited one while it waits for an unsolicited
response.  `Couples` is this relation.  The layer keeps it with every event, as it calls the slave
when a channel becomes idle; the slave keeps it because it changes its state before it sends.

A request may still fail after the state was changed, so a slave may wait for a response that was
never sent; `Couples` allows this.
-/

set_option autoImplicit false

namespace OpenDNP3

open Handler

namespace AS

/-- The slave waits for its last unsolicited response. -/
def isReporting : AS → Bool
  | waitForUnsolSuccess | waitForSolUnsolSuccess => true
  | _ => false

/-- The slave waits for the last fragment of a channel. -/
def waits (s : AS) (aUnsol : Bool) : Bool := if aUnsol then s.isReporting else s.isResponding

end AS

namespace Slave

/-! ## The relation -/

/-- **What the state of a slave says about its application layer.** -/
structure Couples (a : AppLayer (List Byte)) (st : AS) : Prop where
  consistent : a.Consistent
  outstation : a.isMaster = false
  up : a.mIsLowerLayerUp = true ↔ st ≠ .closed
  request : ∀ u, (a.channel u).mpState.use ≠ .request
  free : ∀ u, st.waits u = false → (a.channel u).mpState = .idle

theorem couples_new (aFragSize aNumRetry : ℕ) :
    Couples (AppLayer.new false aFragSize aNumRetry) .closed where
  consistent := AppLayer.consistent_new _ _ _
  outstation := rfl
  up := ⟨fun h ↦ Bool.noConfusion h, fun h ↦ absurd rfl h⟩
  request u := by cases u <;> exact fun h ↦ ACS.Use.noConfusion h
  free u _ := by cases u <;> rfl

variable {a t : AppLayer (List Byte)} {st st' : AS} {call : Option UserCall} {u : Bool}

/-- The slave changes its state, with the link up and the channels free that it no longer waits
for. -/
theorem Couples.change (h : Couples a st) (hopen : st ≠ .closed) (hopen' : st' ≠ .closed)
    (hfree : ∀ u, st'.waits u = false → st.waits u = false ∨ (a.channel u).mpState = .idle) :
    Couples a st' where
  consistent := h.consistent
  outstation := h.outstation
  up := ⟨fun _ ↦ hopen', fun _ ↦ h.up.mpr hopen⟩
  request := h.request
  free u hu := (hfree u hu).elim (h.free u) id

/-- An event of the layer does not take a channel into use. -/
theorem use_of_called (h : AppLayer.Called a t call) (v : Bool) :
    (t.channel v).mpState.use = (a.channel v).mpState.use ∨
      (t.channel v).mpState.use = .nothing := by
  cases call with
  | none => exact .inl (h v)
  | some call =>
    cases call with
    | onLowerLayerUp => exact h.elim
    | onLowerLayerDown => exact h.elim
    | onSendSuccess u =>
      obtain ⟨-, hidle, hother⟩ := h
      by_cases hv : v = u
      · exact .inr (hv ▸ hidle)
      · exact .inl ((show v = !u by cases v <;> cases u <;> simp_all) ▸ hother)
    | onFailure u =>
      obtain ⟨-, hidle, hother⟩ := h
      by_cases hv : v = u
      · exact .inr (hv ▸ hidle)
      · exact .inl ((show v = !u by cases v <;> cases u <;> simp_all) ▸ hother)
    | onPartialResponse r => exact .inl (h.2.2.2 v)
    | onFinalResponse r =>
      obtain ⟨-, -, -, hidle, hother⟩ := h
      cases v with
      | false => exact .inr hidle
      | true => exact .inl hother
    | onUnsolResponse r => exact .inl (h.2.2 v)
    | onRequest r aSeqInfo => exact .inl (h.2.2.2 v)
    | onUnknownObject => exact .inl (h.2.2 v)

/-- **An event of the layer keeps the relation.** -/
theorem Couples.post (h : Couples a st) (hp : AppLayer.Post a call t) : Couples t st where
  consistent := hp.consistent
  outstation := hp.keeps.isMaster.trans h.outstation
  up := by rw [hp.keeps.up]; exact h.up
  request u hu := by
    rcases use_of_called hp.called u with hk | hk
    · exact h.request u (hk.symm.trans hu)
    · exact ACS.Use.noConfusion (hk.symm.trans hu)
  free u hu := by
    rcases use_of_called hp.called u with hk | hk
    · exact ACS.use_eq_nothing.mp (hk.trans (ACS.use_eq_nothing.mpr (h.free u hu)))
    · exact ACS.use_eq_nothing.mp hk

/-! ## Operations of the slave on the layer -/

/-- The relation, and that a request has been received if one had been. -/
abbrev CouplesAfter (st : AS) (numbered : Prop) (a : AppLayer (List Byte)) : Prop :=
  Couples a st ∧ (numbered → 0 ≤ (a.channel false).mSequence)

variable {p : Prop} {f : OutAPDU (List Byte)}

/-- A channel that the slave waits for may be in any use but for a request. -/
theorem Couples.channel (h : Couples a st) (hu : st.waits u = true) (hc : t.Consistent)
    (hmaster : t.isMaster = a.isMaster) (hup : t.mIsLowerLayerUp = a.mIsLowerLayerUp)
    (hother : ∀ v, v ≠ u → t.channel v = a.channel v)
    (huse : (t.channel u).mpState.use ≠ .request) : Couples t st where
  consistent := hc
  outstation := hmaster.trans h.outstation
  up := by
    rw [hup]
    exact h.up
  request v := by
    by_cases hv : v = u
    · exact hv ▸ huse
    · rw [hother v hv]
      exact h.request v
  free v hv := by
    rw [hother v]
    · exact h.free v hv
    · rintro rfl
      exact Bool.noConfusion (hv.symm.trans hu)

/-- The fragments of an outstation are not requests. -/
theorem use_of_nextState {seq : Int} {func : FunctionCodes} {con : Bool} {s : ACS}
    (hfunc : func = .response ∨ func = .unsolicitedResponse)
    (h : AppLayer.nextState seq func con = .ok s) : s.use ≠ .request := by
  unfold AppLayer.nextState at h
  repeat' split at h
  all_goals try contradiction
  all_goals first
    | (rw [← Except.ok.inj h]; exact fun h ↦ ACS.Use.noConfusion h)
    | simp_all

theorem stable_sendOn_couples (hu : st.waits u = true) {func : FunctionCodes}
    (hfunc : f.function = some func) (hcode : func = .response ∧ u = false ∨
      func = .unsolicitedResponse ∧ u = true) (n : ℕ) :
    Stable (CouplesAfter st p) (AppLayer.sendOn u f func n) := by
  intro a h
  have hfor : AppLayer.isFor u f = true := by
    rw [AppLayer.isFor, hfunc]
    rcases hcode with ⟨rfl, rfl⟩ | ⟨rfl, rfl⟩ <;> rfl
  have hother (c : AppLayerChannel (List Byte)) (v : Bool) (hv : v ≠ u) :
      (a.setChannel u c).channel v = a.channel v := by
    rw [AppLayer.channel_setChannel, if_neg hv]
  have hseq (c : AppLayerChannel (List Byte))
      (hc : c.mSequence = AppLayer.sendSequence f (a.channel u).mSequence) (hn : p) :
      0 ≤ ((a.setChannel u c).channel false).mSequence := by
    rw [AppLayer.channel_setChannel]
    split
    · next hv =>
      rw [hc]
      exact AppLayer.sendSequence_nonneg fun _ ↦ hv ▸ h.2 hn
    · exact h.2 hn
  refine AppLayer.wp_sendOn_cases hfunc (fun _ ↦ h) (fun s hi hs ↦ ?_) fun e hi _ ↦ ?_
  · have hsend : (AppLayer.sendChannel a u f s n).mpState.isSending = true :=
      AppLayer.isSending_of_nextState hs
    have hsent := h.1.consistent.send (u := u)
      (c := AppLayer.sendChannel a u f s n) hi hfor hsend rfl
      rfl rfl rfl
    refine ⟨h.1.channel hu hsent.consistent hsent.isMaster hsent.up (hother _) ?_, hseq _ rfl⟩
    exact fun hr ↦ use_of_nextState (hcode.imp And.left And.left) hs (hsent.use.symm.trans hr)
  · refine ⟨h.1.channel hu (h.1.consistent.incrSequence u _) (by simp) (by simp) (hother _) ?_,
      hseq _ rfl⟩
    rw [AppLayer.channel_setChannel_self]
    exact h.1.request u

/-- **The slave sends a response** when it waits for one. -/
theorem stable_sendResponse_couples (hst : st.isResponding = true) (f : OutAPDU (List Byte)) :
    Stable (CouplesAfter st p) (AppLayer.sendResponse f) :=
  AppLayer.stable_sendResponse fun n hf ↦ stable_sendOn_couples (u := false) hst hf
    (.inl ⟨rfl, rfl⟩) n

/-- **The slave sends an unsolicited response** when it waits for one. -/
theorem stable_sendUnsolicited_couples (hst : st.isReporting = true) (f : OutAPDU (List Byte)) :
    Stable (CouplesAfter st p) (AppLayer.sendUnsolicited f) :=
  AppLayer.stable_sendUnsolicited fun n hf ↦
    stable_sendOn_couples (u := true) hst hf (.inr ⟨rfl, rfl⟩) n

/-- **The slave cancels a response**: the channel is free at once, or its fragment is on the way. -/
theorem wp_cancel_couples (hst : st.isResponding = true) (h : CouplesAfter st p a) :
    wp (AppLayer.cancel false) (fun call t ↦ CouplesAfter st p t ∧
      (call = none ∨ call = some (.onFailure false) ∧ (t.channel false).mpState = .idle))
      (fun _ t ↦ t = a ∧ (a.channel false).mpState = .idle) a := by
  have hcancel := h.1.consistent.canceled (u := false)
  have htimer := (h.1.consistent.channel false).timer
  have hloose := h.1.consistent.loose_stopTimer (u := false)
  have hrequest := h.1.request false
  have hset (c : AppLayerChannel (List Byte)) (hc : (a.setChannel false c).Consistent)
      (huse : c.mpState.use ≠ .request) (hseq : c.mSequence = (a.channel false).mSequence) :
      CouplesAfter st p (a.setChannel false c) := by
    refine ⟨h.1.channel (u := false) hst hc (by simp) (by simp) (fun v hv ↦ ?_) ?_, fun hn ↦ ?_⟩
    · rw [AppLayer.channel_setChannel, if_neg hv]
    · rw [AppLayer.channel_setChannel_self]
      exact huse
    · rw [AppLayer.channel_setChannel_self, hseq]
      exact h.2 hn
  rw [AppLayer.cancel, wp_bind, wp_get]
  revert hcancel htimer hloose hrequest
  cases hs : (a.channel false).mpState with
  | send =>
    intro hcancel _ _ _
    exact ⟨hset _ (hcancel rfl) (fun hu ↦ ACS.Use.noConfusion hu) rfl, .inl rfl⟩
  | sendConfirmed =>
    intro hcancel _ _ _
    exact ⟨hset _ (hcancel rfl) (fun hu ↦ ACS.Use.noConfusion hu) rfl, .inl rfl⟩
  | waitForConfirm =>
    intro _ htimer hloose _
    have hidle := (hloose rfl).idle
    simp only [AppLayer.stopTimer, AppLayer.channel_setChannel_self,
      AppLayer.setChannel_setChannel] at hidle
    simp only [AppLayer.changeState, AppLayer.cancelTimer, wp_bind, wp_modify, wp_get, wp_ensure,
      AppLayer.channel_setChannel_self, htimer, ACS.isWaiting, if_true,
      AppLayer.setChannel_setChannel, wp_pure]
    exact ⟨hset _ hidle (fun hu ↦ ACS.Use.noConfusion hu) rfl, .inr ⟨trivial, trivial⟩⟩
  | sendCanceled => exact fun _ _ _ _ ↦ ⟨h, .inl rfl⟩
  | idle => exact fun _ _ _ _ ↦ ⟨rfl, rfl⟩
  | _ => exact fun _ _ _ hrequest ↦ absurd rfl hrequest

/-- Retries of an unsolicited response are not made. -/
theorem stable_cancelRetries_couples :
    Stable (CouplesAfter st p) (AppLayer.cancelRetries true : AppLayer.M (List Byte) Unit) := by
  intro a h
  have hc := h.1.consistent.channel true
  refine ⟨⟨?_, h.1.outstation, h.1.up, fun v ↦ ?_, fun v hv ↦ ?_⟩, h.2⟩
  · exact (h.1.consistent.but true).setChannel ⟨hc.timer, hc.apdu, hc.queued⟩
  · cases v with
    | false => exact h.1.request false
    | true => exact h.1.request true
  · cases v with
    | false => exact h.1.free false hv
    | true => exact h.1.free true hv

end Slave

end OpenDNP3
