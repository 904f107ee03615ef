import OpenDNP3.Slave.States

/-!
# What the execution of a request changes

The functions that execute a request work on a few members of the slave: the response, the internal
indications, the timers and the masks of unsolicited responses.

* `Slave.Tolerant` — a predicate that does not mind these changes, one by one; every function that
  executes a request keeps it.  What commands do to the command master, and what
  `ENABLE_UNSOLICITED` does, is left to the predicate.
* `Slave.Local` — a predicate that looks only at the members in `Slave.view`, which is tolerant.  Of
  the response it may know that it has been configured as one.
-/

set_option autoImplicit false

namespace OpenDNP3

open Handler

/-- The fragment has been configured as a response to a request. -/
def OutAPDU.Answers {ω : Type} (f : OutAPDU ω) : Prop :=
  f.function = some .response ∧ f.control.uns = false

/-- A count header changes nothing but the blocks. -/
theorem OutAPDU.Answers.writeIndexed {ω : Type} {f g : OutAPDU ω} {apObj : ObjectBase}
    {aObjSize aCount : ℕ} {aCode : QualifierCode} {it : IndexedWriteIterator}
    (hw : f.writeIndexed apObj aObjSize aCount aCode = .ok (g, it)) (h : f.Answers) :
    g.Answers := by
  simp only [OutAPDU.writeIndexed, OutAPDU.writeCountHeader, bind, Except.bind, pure, Except.pure,
    throw, throwThe, MonadExceptOf.throw] at hw
  repeat' split at hw
  all_goals try contradiction
  all_goals
    obtain ⟨rfl, -⟩ := Prod.mk.inj (Except.ok.inj hw)
    exact h

/-- What a request does while it is executed. -/
def SlaveAct.isEffect : SlaveAct → Bool
  | .execute .. | .setTime _ | .updateVto .. | .clearIIN _ => true
  | .process _ | .perform _ | .respond => false

namespace Slave

variable {ν ρ υ : Type}

/-- **The changes that the execution of a request makes**, which the predicate does not mind.  Of
the response it may know that it has been configured as one. -/
structure Tolerant (I : Slave ν ρ → Prop) : Prop where
  response : ∀ s f, (s.mResponse.Answers → f.Answers) → I s → I { s with mResponse := f }
  rspIIN : ∀ s iin, I s → I { s with mRspIIN := iin }
  iin : ∀ s iin b, I s → I { s with mIIN := iin, mpTimeTimer := b }
  effect : ∀ s aAct, aAct.isEffect = true → I s →
    I { s with history := s.history ++ [⟨s.executing, s.connection, aAct⟩] }

section Tolerant

variable {I : Slave ν ρ → Prop} (hI : Tolerant I)

include hI

theorem Tolerant.setRspIIN (f : IINField → IINField) : Stable I (setRspIIN f) :=
  stable_modify fun s hs ↦ hI.rspIIN s _ hs

theorem Tolerant.setResponse : Stable I (setResponse : M ν ρ Unit) :=
  stable_modify fun s hs ↦ hI.response s _ (fun _ ↦ ⟨rfl, rfl⟩) hs

/-- A count header is written into the response. -/
theorem Tolerant.wp_writeIndexed {s : Slave ν ρ} (hs : I s) (apObj : ObjectBase)
    (aObjSize aCount : ℕ) (aCode : QualifierCode) :
    wp (Handler.lift (s.mResponse.writeIndexed apObj aObjSize aCount aCode) : M ν ρ _)
      (fun p t ↦ I { t with mResponse := p.1 }) (fun _ t ↦ I t) s := by
  cases hw : s.mResponse.writeIndexed apObj aObjSize aCount aCode with
  | error e => exact hs
  | ok p => exact hI.response s p.1 (OutAPDU.Answers.writeIndexed hw) hs

omit hI in
theorem stable_beginRead (arRequest : APDU) (arHdr : HeaderInfo) :
    Stable I (beginRead arRequest arHdr : M ν ρ _) :=
  stable_lift _

theorem Tolerant.note {aAct : SlaveAct} (h : aAct.isEffect = true) : Stable I (Slave.note aAct) :=
  stable_modify fun s hs ↦ hI.effect s aAct h hs

omit hI in
/-- A loop over the objects of a header keeps what its body keeps, also if it ends early. -/
theorem stable_forEachObject {body : ObjectReadIterator → M ν ρ Unit}
    (hbody : ∀ it, Stable I (body it)) (it : ObjectReadIterator) :
    Stable I (it.forEachObject body) := by
  rw [ObjectReadIterator.forEachObject]
  generalize it.count - it.mCurrentObjectNum = n
  induction n generalizing it with
  | zero => exact stable_pure _
  | succ n ih =>
    exact stable_bind (hbody it) fun _ ↦ stable_bind (stable_lift _) fun it ↦ ih it

omit hI in
/-- A loop over a list keeps what its body keeps. -/
theorem stable_forM {γ : Type} {f : γ → M ν ρ PUnit} {l : List γ} (hf : ∀ c, Stable I (f c)) :
    Stable I (l.forM f) := by
  induction l with
  | nil => exact stable_pure _
  | cons c l ih => exact stable_bind (hf c) fun _ ↦ ih

/-! ## Writing -/

theorem Tolerant.handleWriteVto (arRequest : APDU) (arHdr : HeaderInfo) :
    Stable I (handleWriteVto arRequest arHdr : M ν ρ Unit) := by
  refine stable_bind (stable_beginRead _ _) fun obj ↦ stable_forEachObject (fun obj ↦ ?_) obj
  refine stable_ite ?_ (stable_pure _)
  exact stable_bind (stable_lift _) fun _ ↦ hI.note rfl

theorem Tolerant.handleWriteIIN (arRequest : APDU) (arHdr : HeaderInfo) :
    Stable I (handleWriteIIN arRequest arHdr : M ν ρ Unit) := by
  refine stable_bind (stable_beginRead _ _) fun obj ↦ stable_forEachObject (fun obj ↦ ?_) obj
  refine stable_ite ?_ (stable_ite ?_ (hI.setRspIIN _))
  · refine stable_bind (stable_lift _) fun _ ↦ stable_bind (stable_lift _) fun _ ↦
      stable_ite ?_ (hI.setRspIIN _)
    exact stable_bind (stable_modify fun s hs ↦ hI.iin s _ s.mpTimeTimer hs) fun _ ↦ hI.note rfl
  · refine stable_bind (fun _ h ↦ h) fun _ ↦ stable_bind (stable_ensure _ _) fun _ ↦ ?_
    exact stable_bind (stable_modify fun s hs ↦ hI.iin s _ false hs) fun _ ↦ hI.note rfl

theorem Tolerant.handleWriteTimeDate (arRequest : APDU) (arHdr : HeaderInfo) :
    Stable I (handleWriteTimeDate arRequest arHdr : M ν ρ Unit) := by
  refine stable_bind (fun _ h ↦ h) fun _ ↦ stable_ite ?_ (stable_pure _)
  refine stable_bind (stable_beginRead _ _) fun obj ↦ stable_ite (hI.setRspIIN _) ?_
  exact stable_bind (stable_lift _) fun _ ↦ stable_bind (hI.note rfl) fun _ ↦
    stable_modify fun s hs ↦ hI.iin s _ s.mpTimeTimer hs

theorem Tolerant.handleVtoTransfer (arRequest : APDU) :
    Stable I (handleVtoTransfer arRequest : M ν ρ Unit) :=
  stable_forM fun hdr ↦ stable_ite (hI.handleWriteVto arRequest hdr) (hI.setRspIIN _)

theorem Tolerant.handleWrite (arRequest : APDU) : Stable I (handleWrite arRequest : M ν ρ Unit) :=
  stable_forM fun hdr ↦ stable_ite (hI.handleWriteVto arRequest hdr)
    (stable_ite (hI.handleWriteIIN arRequest hdr)
      (stable_ite (hI.handleWriteTimeDate arRequest hdr) (hI.setRspIIN _)))

/-! ## Controls -/

section Controls

variable [SetpointValue ν] (env : Environment ρ υ)

theorem Tolerant.respondLoop {apObj : CommandObject}
    {arFunc : Command ν → ℕ → M ν ρ CommandStatus}
    (hfunc : ∀ val index, Stable I (arFunc val index)) (n : ℕ) (arIter : ObjectReadIterator)
    (i : IndexedWriteIterator) : Stable I (respondLoop apObj arFunc n arIter i) := by
  induction n generalizing arIter i with
  | zero => exact stable_pure _
  | succ n ih =>
    refine stable_bind (stable_lift _) fun _ ↦ stable_bind (fun _ h ↦ h) fun _ ↦
      stable_bind (stable_ite (stable_pure _) (hfunc _ _)) fun _ ↦ ?_
    exact stable_bind (stable_lift _) fun _ ↦ stable_bind (stable_lift _) fun _ ↦
      stable_bind (stable_modify fun s hs ↦ hI.response s _ (fun h ↦ h) hs) fun _ ↦
        stable_bind (stable_lift _) fun _ ↦ stable_bind (stable_lift _) fun _ ↦ ih _ _

theorem Tolerant.respondToCommands {apObj : CommandObject}
    {arFunc : Command ν → ℕ → M ν ρ CommandStatus}
    (hfunc : ∀ val index, Stable I (arFunc val index))
    (arIter : ObjectReadIterator) : Stable I (respondToCommands apObj arIter arFunc) := by
  refine stable_get_bind fun s hs ↦ ?_
  rw [wp_bind]
  refine wp_mono (hI.wp_writeIndexed hs _ _ _ _) (fun p t ht ↦ ?_) fun _ _ he ↦ he
  rw [wp_bind, wp_modify]
  exact hI.respondLoop hfunc _ arIter p.2 _ ht

/-- The loop over the headers starts with a new response. -/
theorem Tolerant.wp_forEachCommand {arRequest : APDU}
    {arFunc : HeaderInfo → CommandTypes → Command ν → ℕ → M ν ρ CommandStatus}
    (hfunc : ∀ hdr aType val index, Stable I (arFunc hdr aType val index)) {s : Slave ν ρ}
    (hs : I { s with mResponse := s.mResponse.set .response true true false false }) :
    wp (Slave.forEachCommand arRequest arFunc) (fun _ t ↦ I t) (fun _ t ↦ I t) s := by
  rw [Slave.forEachCommand, wp_bind, Slave.setResponse, wp_modify]
  refine stable_forM (fun hdr ↦ stable_bind (stable_beginRead _ _) fun i ↦ ?_) _ hs
  split
  · exact hI.respondToCommands (hfunc hdr _) i
  · exact hI.setRspIIN _

theorem Tolerant.forEachCommand {arRequest : APDU}
    {arFunc : HeaderInfo → CommandTypes → Command ν → ℕ → M ν ρ CommandStatus}
    (hfunc : ∀ hdr aType val index, Stable I (arFunc hdr aType val index)) :
    Stable I (forEachCommand arRequest arFunc) := fun s hs ↦
  hI.wp_forEachCommand hfunc (hI.response s _ (fun _ ↦ ⟨rfl, rfl⟩) hs)

omit [SetpointValue ν] in
/-- What the slave does around a call of the command master. -/
theorem Tolerant.select {env : Environment ρ υ} {aType : CommandTypes}
    {arCmd : CommandRequestInfo ν} {aIndex : ℕ}
    (h : ∀ s, I s → I { s with
      timesRead := s.timesRead + 1
      mpCmdMaster := (s.mpCmdMaster.select aType arCmd aIndex (env.clock s.timesRead)).2 }) :
    Stable I (select env aType arCmd aIndex) := by
  intro s hs
  have hs' := h s hs
  simp only [Slave.select, getTimeStamp, wp_bind, wp_get, wp_modify, wp_pure]
  cases (s.mpCmdMaster.select aType arCmd aIndex (env.clock s.timesRead)).1 with
  | true => simpa using hs'
  | false =>
    simp only [Bool.false_eq_true, if_false, if_true, reduceCtorEq, wp_bind, wp_pure]
    exact hI.setRspIIN _ _ hs'

omit [SetpointValue ν] in
/-- What the slave does after a call of the command master. -/
theorem Tolerant.wp_result {env : Environment ρ υ} {aType : CommandTypes} {aIndex : ℕ}
    {res : CommandStatus} {s : Slave ν ρ} (hs : I s) :
    wp (if res ≠ .success then do
        if res = .notSupported then Slave.setRspIIN (·.setParameterError true)
        return res
      else do
        Slave.note (.execute aType aIndex)
        return env.answer (← get).mSequence) (fun _ t ↦ I t) (fun _ t ↦ I t) s := by
  split
  · split
    · exact stable_bind (hI.setRspIIN _) (fun _ ↦ stable_pure _) s hs
    · exact hs
  · rw [wp_bind]
    exact (hI.note rfl : Stable I (Slave.note (.execute aType aIndex))) s hs

/-- What the slave does around a call of the command master. -/
theorem Tolerant.operate {env : Environment ρ υ} {aType : CommandTypes}
    {arCmd : CommandRequestInfo ν} {aDirect : Bool} {aIndex : ℕ}
    (h : ∀ s n, I s → I { s with
      mSequence := n
      timesRead := s.timesRead + 1
      mpCmdMaster :=
        if aDirect then
          (s.mpCmdMaster.directOperate aType arCmd aIndex (env.clock s.timesRead) n).2
        else (s.mpCmdMaster.operate aType arCmd aIndex (env.clock s.timesRead) n).2 }) :
    Stable I (operate env aType arCmd aDirect aIndex) := by
  intro s hs
  have hs' := h s (s.mSequence + 1) hs
  simp only [Slave.operate, getTimeStamp, wp_bind, wp_get, wp_modify, wp_pure]
  cases aDirect with
  | true => exact hI.wp_result hs'
  | false => exact hI.wp_result hs'

end Controls

/-! ## Other requests -/

/-- `ENABLE_UNSOLICITED` changes the mask, and asks for an unsolicited response. -/
theorem Tolerant.handleEnableUnsolicited (arRequest : APDU) (aIsEnable : Bool)
    (hunsol : aIsEnable = true → ∀ s, s.mConfig.mDisableUnsol = false → I s →
      I { s with mDeferredUnsol := true })
    (hmask : ∀ s m, I s → I { s with mConfig := { s.mConfig with mUnsolMask := m } }) :
    Stable I (handleEnableUnsolicited arRequest aIsEnable : M ν ρ Unit) := by
  have hheaders : Stable I (arRequest.mObjectHeaders.forM fun hdr ↦
      let setMask (f : ClassMask → ClassMask) : M ν ρ Unit :=
        modify fun s ↦ { s with
          mConfig := { s.mConfig with mUnsolMask := f s.mConfig.mUnsolMask } }
      if hdr.radix = radix 60 2 then setMask fun m ↦ { m with class1 := aIsEnable }
      else if hdr.radix = radix 60 3 then setMask fun m ↦ { m with class2 := aIsEnable }
      else if hdr.radix = radix 60 4 then setMask fun m ↦ { m with class3 := aIsEnable }
      else Slave.setRspIIN (·.setFuncNotSupported true)) :=
    stable_forM fun hdr ↦ stable_ite (stable_modify fun s hs ↦ hmask s _ hs)
      (stable_ite (stable_modify fun s hs ↦ hmask s _ hs)
        (stable_ite (stable_modify fun s hs ↦ hmask s _ hs) (hI.setRspIIN _)))
  refine stable_bind hI.setResponse fun _ ↦ stable_get_bind fun s hs ↦ ?_
  by_cases hdis : s.mConfig.mDisableUnsol = true
  · rw [if_pos hdis]
    exact hI.setRspIIN _ s hs
  · rw [if_neg hdis]
    by_cases hen : aIsEnable = true
    · rw [if_pos hen, wp_bind, wp_modify]
      exact hheaders _ (hunsol hen s (Bool.eq_false_iff.mpr hdis) hs)
    · rw [if_neg hen]
      exact hheaders s hs

theorem Tolerant.configureDelayMeasurement (arRequest : APDU) :
    Stable I (configureDelayMeasurement arRequest : M ν ρ Unit) := by
  refine stable_ite (stable_bind (hI.setRspIIN _) fun _ ↦ ?_) ?_
  all_goals
    refine stable_bind hI.setResponse fun _ ↦ stable_get_bind fun s hs ↦ ?_
    rw [wp_bind]
    refine wp_mono (hI.wp_writeIndexed hs _ _ _ _) (fun p t ht ↦ ?_) fun _ _ he ↦ he
    rw [wp_bind, wp_modify]
    refine stable_bind (stable_lift _) (fun _ ↦ stable_bind (stable_lift _) fun _ ↦ ?_) _ ht
    exact stable_modify fun s hs ↦ hI.response s _ (fun h ↦ h) hs

theorem Tolerant.handleUnknown : Stable I (handleUnknown : M ν ρ Unit) :=
  stable_bind hI.setResponse fun _ ↦ hI.setRspIIN _

end Tolerant

/-! ## Predicates that look at the other members only -/

/-- The members that the execution of a request does not work on. -/
structure View (ν : Type) where
  app : AppLayer (List Byte)
  state : AS
  cmdMaster : DNPCommandMaster ν
  timesRead : ℕ
  deferred : Option Request
  last : List Byte
  received : List Received
  connection : ℕ
  executing : ℕ
  history : List SlaveEntry

/-- The members that the execution of a request does not work on. -/
def view (s : Slave ν ρ) : View ν where
  app := s.mpAppLayer
  state := s.mpState
  cmdMaster := s.mpCmdMaster
  timesRead := s.timesRead
  deferred := s.mDeferredRequest
  last := s.mLastRequest
  received := s.received
  connection := s.connection
  executing := s.executing
  history := s.history

/-- The predicate does not look at the members that the execution of a request works on, and does
not mind its effects. -/
structure Local (I : Slave ν ρ → Prop) : Prop where
  keep : ∀ s t : Slave ν ρ, t.view = s.view → (s.mResponse.Answers → t.mResponse.Answers) →
    I s → I t
  note : ∀ s aAct, aAct.isEffect = true → I s →
    I { s with history := s.history ++ [⟨s.executing, s.connection, aAct⟩] }

variable {I : Slave ν ρ → Prop} (hI : Local I)

include hI

/-- **What looks at the other members only is tolerant**. -/
theorem Local.tolerant : Tolerant I where
  response s _ h hs := hI.keep s _ rfl h hs
  rspIIN s _ hs := hI.keep s _ rfl id hs
  iin s _ _ hs := hI.keep s _ rfl id hs
  effect s aAct h hs := hI.note s aAct h hs

theorem Local.handleEnableUnsolicited (arRequest : APDU) (aIsEnable : Bool) :
    Stable I (handleEnableUnsolicited arRequest aIsEnable : M ν ρ Unit) :=
  hI.tolerant.handleEnableUnsolicited arRequest aIsEnable
    (fun _ s _ hs ↦ hI.keep s _ rfl id hs) fun s _ hs ↦ hI.keep s _ rfl id hs

/-- What the slave does around a call of the command master. -/
theorem Local.operate [SetpointValue ν] {env : Environment ρ υ} {aType : CommandTypes}
    {arCmd : CommandRequestInfo ν} {aDirect : Bool} {aIndex : ℕ}
    (h : ∀ s n, I s → I { s with
      timesRead := s.timesRead + 1
      mpCmdMaster :=
        if aDirect then
          (s.mpCmdMaster.directOperate aType arCmd aIndex (env.clock s.timesRead) n).2
        else (s.mpCmdMaster.operate aType arCmd aIndex (env.clock s.timesRead) n).2 }) :
    Stable I (operate env aType arCmd aDirect aIndex) :=
  hI.tolerant.operate fun s n hs ↦ h { s with mSequence := n } n (hI.keep s _ rfl id hs)

end Slave

end OpenDNP3
