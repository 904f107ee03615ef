import Mathlib.Algebra.Group.Int.Defs
import Mathlib.Algebra.Group.Nat.Defs
import OpenDNP3.Lib.Run
import OpenDNP3.Slave.Handlers

/-!
# Select before operate

Only the handlers of controls call the command master, so a property of the command master that its
operations keep is kept by every event of the outstation; `CommandInvariant` states this for any
such property.

`Slave.operate_of_select` is the safety property of controls: in every run, a command that `OPERATE`
passes to the user comes from a `SELECT` of the same point that nothing else has used, and that came
just before it.  The two commands are the same by `operator==`; for setpoints this allows a
difference below `1E-6`, as `operate_of_similar_select` shows.
-/

set_option autoImplicit false

namespace OpenDNP3

open Handler

namespace Slave

variable {ν ρ υ : Type} [SetpointValue ν] (env : Environment ρ υ)

/-! ## Properties of the command master -/

/-- A property of the command master, and of how often the clock has been read, that the operations
of the command master keep. -/
structure CommandInvariant (J : DNPCommandMaster ν → ℕ → Prop) : Prop where
  select : ∀ m n aType arCmd aIndex, J m n →
    J (m.select aType arCmd aIndex (env.clock n)).2 (n + 1)
  operate : ∀ m n aType arCmd aIndex aSequence, J m n →
    J (m.operate aType arCmd aIndex (env.clock n) aSequence).2 (n + 1)
  directOperate : ∀ m n aType arCmd aIndex aSequence, J m n →
    J (m.directOperate aType arCmd aIndex (env.clock n) aSequence).2 (n + 1)
  deselectAll : ∀ m n, J m n → J m.deselectAll n

variable {env} {J : DNPCommandMaster ν → ℕ → Prop}

/-- The property of the command master of a slave. -/
abbrev OfCommands (J : DNPCommandMaster ν → ℕ → Prop) (s : Slave ν ρ) : Prop :=
  J s.mpCmdMaster s.timesRead

omit [SetpointValue ν] in
theorem local_ofCommands : Local (OfCommands J : Slave ν ρ → Prop) where
  keep s t h _ hs := by
    have hc : t.mpCmdMaster = s.mpCmdMaster := congrArg View.cmdMaster h
    have hn : t.timesRead = s.timesRead := congrArg View.timesRead h
    rw [OfCommands, hc, hn]
    exact hs
  note _ _ _ h := h

omit [SetpointValue ν] in
theorem stable_onApp_ofCommands {α : Type} (x : AppLayer.M (List Byte) α) :
    Stable (OfCommands J) (onApp x : M ν ρ α) := by
  intro s hs
  rw [onApp, wp_zoom]
  exact wp_of_forall (fun _ _ ↦ hs) (fun _ _ ↦ hs)

omit [SetpointValue ν] in
theorem stable_send_ofCommands : Stable (OfCommands J) (send : M ν ρ Unit) :=
  stable_bind (fun _ h ↦ h) fun _ ↦ stable_bind (fun _ h ↦ h) fun _ ↦ stable_bind (fun _ h ↦ h)
    fun _ ↦ stable_bind (fun _ h ↦ h) fun _ ↦ stable_bind (stable_lift _) fun _ ↦
      stable_bind (fun _ h ↦ h) fun _ ↦ stable_bind (stable_onApp_ofCommands _) fun _ _ h ↦ h

omit [SetpointValue ν] in
theorem stable_startUnsolicited_ofCommands (aMask : ClassMask) :
    Stable (OfCommands J) (startUnsolicited env aMask : M ν ρ Unit) :=
  stable_bind (fun _ h ↦ h) fun _ ↦ stable_bind (fun _ h ↦ h) fun _ ↦
    stable_bind (fun _ h ↦ h) fun _ ↦ stable_bind (fun _ h ↦ h) fun _ ↦
      stable_bind (fun _ h ↦ h) fun _ ↦ stable_bind (fun _ h ↦ h) fun _ ↦
        stable_bind (stable_lift _) fun _ ↦ stable_bind (fun _ h ↦ h) fun _ ↦
          stable_onApp_ofCommands _

omit [SetpointValue ν] in
theorem stable_startUnsolTimer_ofCommands :
    Stable (OfCommands J) (startUnsolTimer : M ν ρ Unit) :=
  stable_bind (fun _ h ↦ h) fun _ ↦ stable_bind (stable_ensure _ _) fun _ _ h ↦ h

/-! ## Every event keeps it

A property of the command master is kept by the slave if it is kept by the two calls that the
slave makes of it. -/

namespace CommandInvariant

variable (hJ : CommandInvariant env J)

include hJ

theorem handleSelect (arRequest : APDU) (aSeqInfo : SequenceInfo) :
    Stable (OfCommands J) (handleSelect env arRequest aSeqInfo : M ν ρ Unit) :=
  stable_bind (stable_modify fun _ h ↦ hJ.deselectAll _ _ h) fun _ ↦
    local_ofCommands.tolerant.forEachCommand fun _ _ _ _ ↦
      local_ofCommands.tolerant.select fun _ h ↦ hJ.select _ _ _ _ _ h

theorem operate_stable (aType : CommandTypes) (arCmd : CommandRequestInfo ν) (aDirect : Bool)
    (aIndex : ℕ) : Stable (OfCommands J)
    (Slave.operate env aType arCmd aDirect aIndex : M ν ρ _) := by
  refine local_ofCommands.operate fun s n h ↦ ?_
  cases aDirect with
  | true => exact hJ.directOperate _ _ _ _ _ _ h
  | false => exact hJ.operate _ _ _ _ _ _ h

theorem handleOperate (arRequest : APDU) (aSeqInfo : SequenceInfo) :
    Stable (OfCommands J) (handleOperate env arRequest aSeqInfo : M ν ρ Unit) :=
  stable_bind (fun _ h ↦ h) fun _ ↦ stable_ite (stable_pure _) <|
    stable_bind (fun _ h ↦ h) fun _ ↦ local_ofCommands.tolerant.forEachCommand fun _ _ _ _ ↦
      hJ.operate_stable _ _ _ _

theorem handleDirectOperate (arRequest : APDU) (aSeqInfo : SequenceInfo) :
    Stable (OfCommands J) (handleDirectOperate env arRequest aSeqInfo : M ν ρ Unit) :=
  local_ofCommands.tolerant.forEachCommand fun _ _ _ _ ↦ hJ.operate_stable _ _ _ _

theorem switchOnFunction (apNext : AS) (arRequest : APDU) (aSeqInfo : SequenceInfo) :
    Stable (OfCommands J) (switchOnFunction env apNext arRequest aSeqInfo : M ν ρ Unit) := by
  have hsimple : Stable (OfCommands J) (configureAndSendSimpleResponse : M ν ρ Unit) :=
    stable_bind (fun _ h ↦ h) fun _ ↦ stable_send_ofCommands
  unfold Slave.switchOnFunction
  split
  · exact stable_bind (fun _ h ↦ h) fun _ ↦ stable_bind (fun _ h ↦ h) fun _ ↦
      stable_bind (fun _ h ↦ h) fun _ ↦ stable_bind (fun _ h ↦ h) fun _ ↦
        stable_bind (fun _ h ↦ h) fun _ ↦ stable_bind (fun _ h ↦ h) fun _ ↦ stable_send_ofCommands
  · refine stable_bind (fun _ h ↦ h) fun _ ↦ stable_ite ?_ hsimple
    exact stable_bind (fun _ h ↦ h) fun _ ↦
      stable_bind (local_ofCommands.tolerant.handleWrite _) fun _ ↦ hsimple
  · refine stable_bind (fun _ h ↦ h) fun _ ↦ stable_ite ?_ hsimple
    exact stable_bind (fun _ h ↦ h) fun _ ↦
      stable_bind (local_ofCommands.tolerant.handleVtoTransfer _) fun _ ↦ hsimple
  · exact stable_bind (fun _ h ↦ h) fun _ ↦ stable_bind (hJ.handleSelect _ _) fun _ ↦
      stable_send_ofCommands
  · exact stable_bind (fun _ h ↦ h) fun _ ↦ stable_bind (hJ.handleOperate _ _) fun _ ↦
      stable_send_ofCommands
  · exact stable_bind (fun _ h ↦ h) fun _ ↦ stable_bind (fun _ h ↦ h) fun _ ↦
      stable_bind (hJ.handleDirectOperate _ _) fun _ ↦ stable_send_ofCommands
  · exact stable_bind (fun _ h ↦ h) fun _ ↦ hJ.handleDirectOperate _ _
  · exact stable_bind (fun _ h ↦ h) fun _ ↦
      stable_bind (local_ofCommands.handleEnableUnsolicited _ _) fun _ ↦ stable_send_ofCommands
  · exact stable_bind (fun _ h ↦ h) fun _ ↦
      stable_bind (local_ofCommands.handleEnableUnsolicited _ _) fun _ ↦ stable_send_ofCommands
  · exact stable_bind (fun _ h ↦ h) fun _ ↦
      stable_bind (local_ofCommands.tolerant.configureDelayMeasurement _)
        fun _ ↦ stable_send_ofCommands
  · exact stable_throw _

theorem doRequest (apNext : AS) (r : Request) :
    Stable (OfCommands J) (doRequest env apNext r : M ν ρ Unit) := by
  refine stable_bind (fun _ h ↦ h) fun _ ↦ stable_bind (fun _ h ↦ h) fun _ ↦
    stable_bind (stable_tryCatch (hJ.switchOnFunction _ _ _) fun ex ↦ ?_) fun _ _ h ↦ h
  split
  · exact stable_bind (fun _ h ↦ h) fun _ ↦ stable_bind (fun _ h ↦ h) fun _ ↦
      stable_bind (fun _ h ↦ h) fun _ ↦ stable_send_ofCommands
  · exact stable_throw _

omit hJ [SetpointValue ν] in
theorem idleOnDataUpdate : Stable (OfCommands J) (idleOnDataUpdate env : M ν ρ Unit) :=
  stable_bind (fun _ h ↦ h) fun _ ↦ stable_bind (fun _ h ↦ h) fun _ ↦
    stable_ite (stable_ite (stable_startUnsolicited_ofCommands _)
      (stable_ite stable_startUnsolTimer_ofCommands (stable_pure _))) (stable_pure _)

omit hJ [SetpointValue ν] in
theorem idleOnUnsolExpiration : Stable (OfCommands J) (idleOnUnsolExpiration env : M ν ρ Unit) :=
  stable_bind (fun _ h ↦ h) fun _ ↦
    stable_ite (stable_ite (stable_startUnsolicited_ofCommands _) (stable_pure _))
      (stable_startUnsolicited_ofCommands _)

theorem flushDeferredEvents : Stable (OfCommands J) (flushDeferredEvents env : M ν ρ Unit) := by
  refine stable_bind ?_ fun _ ↦ stable_bind ?_ fun _ ↦ ?_
  · exact stable_bind (fun _ h ↦ h) fun _ ↦
      stable_ite (stable_bind (fun _ h ↦ h) fun _ ↦ idleOnDataUpdate) (stable_pure _)
  · refine stable_get_bind fun s hs ↦ ?_
    split
    · exact stable_bind (fun _ h ↦ h) (fun _ ↦ hJ.doRequest _ _) s hs
    · exact hs
  · exact stable_bind (fun _ h ↦ h) fun _ ↦
      stable_ite (stable_bind (fun _ h ↦ h) fun _ ↦ idleOnUnsolExpiration) (stable_pure _)

theorem onDataUpdate : Stable (OfCommands J) (onDataUpdate env : M ν ρ Unit) := by
  refine stable_bind (stable_get_bind fun s hs ↦ ?_) fun _ ↦ hJ.flushDeferredEvents
  split
  · exact hs
  · exact idleOnDataUpdate s hs
  · exact hs

theorem onUnsolTimerExpiration : Stable (OfCommands J)
    (onUnsolTimerExpiration env : M ν ρ Unit) := by
  refine stable_bind (fun _ h ↦ h) fun _ ↦ stable_bind (stable_get_bind fun s hs ↦ ?_) fun _ ↦
    hJ.flushDeferredEvents
  split
  · exact idleOnUnsolExpiration s hs
  · exact hs

theorem onLowerLayerUp : Stable (OfCommands J) (onLowerLayerUp env : M ν ρ Unit) := by
  refine stable_bind (stable_get_bind fun s hs ↦ ?_) fun _ ↦ hJ.flushDeferredEvents
  refine stable_bind (stable_ensure _ _) (fun _ ↦ stable_ite (stable_ite ?_ ?_) ?_) s hs
  · exact stable_bind (fun _ h ↦ h) fun _ _ h ↦ h
  · exact stable_bind (fun _ h ↦ h) fun _ _ h ↦ h
  · exact fun _ h ↦ h

theorem onLowerLayerDown : Stable (OfCommands J) (onLowerLayerDown env : M ν ρ Unit) :=
  stable_bind (fun _ h ↦ h) fun _ ↦ stable_bind (stable_bind (fun _ h ↦ h) fun _ ↦
    stable_bind (stable_ensure _ _) fun _ _ h ↦ h) fun _ ↦ hJ.flushDeferredEvents

theorem onSolSendSuccess : Stable (OfCommands J) (onSolSendSuccess env : M ν ρ Unit) := by
  refine stable_bind (stable_get_bind fun s hs ↦ ?_) fun _ ↦ hJ.flushDeferredEvents
  split
  · refine stable_bind (fun _ h ↦ h) (fun _ ↦ stable_bind (fun _ h ↦ h) fun _ ↦
      stable_ite (fun _ h ↦ h) ?_) s hs
    exact stable_bind (fun _ h ↦ h) fun _ ↦ stable_send_ofCommands
  · exact hs
  · exact hs

theorem onSolFailure : Stable (OfCommands J) (onSolFailure env : M ν ρ Unit) := by
  refine stable_bind (stable_get_bind fun s hs ↦ ?_) fun _ ↦ hJ.flushDeferredEvents
  split
  · exact hs
  · exact hs
  · exact hs

theorem onUnsolSendSuccess : Stable (OfCommands J) (onUnsolSendSuccess env : M ν ρ Unit) := by
  refine stable_bind (stable_get_bind fun s hs ↦ ?_) fun _ ↦ hJ.flushDeferredEvents
  split
  · exact hs
  · exact hs
  · exact hs

theorem onUnsolFailure : Stable (OfCommands J) (onUnsolFailure env : M ν ρ Unit) := by
  refine stable_bind (stable_get_bind fun s hs ↦ ?_) fun _ ↦ hJ.flushDeferredEvents
  split
  · exact stable_bind (fun _ h ↦ h) (fun _ ↦ stable_bind (fun _ h ↦ h) fun _ ↦
      stable_startUnsolTimer_ofCommands) s hs
  · exact stable_bind (fun _ h ↦ h) (fun _ ↦ stable_bind (fun _ h ↦ h) fun _ ↦
      stable_bind (fun _ h ↦ h) fun _ ↦ stable_ite stable_startUnsolTimer_ofCommands
        hJ.onUnsolTimerExpiration) s hs
  · exact hs

theorem onRequest (r : Request) : Stable (OfCommands J) (onRequest env r : M ν ρ Unit) := by
  refine stable_bind (stable_get_bind fun s hs ↦ ?_) fun _ ↦ hJ.flushDeferredEvents
  split
  · exact hs
  · exact hJ.doRequest _ _ s hs
  · refine stable_bind (stable_bind (stable_onApp_ofCommands _) fun call ↦ ?_) (fun _ _ h ↦ h) s hs
    split
    · exact hJ.onSolFailure
    · exact stable_pure _
  · refine stable_ite ?_ ?_ s hs
    · exact stable_bind (stable_onApp_ofCommands _) fun _ _ h ↦ h
    · exact stable_bind (fun _ h ↦ h) fun _ ↦ hJ.doRequest _ _
  · exact hs

theorem onUnknownObject (n : ℕ) : Stable (OfCommands J) (onUnknownObject env n : M ν ρ Unit) := by
  refine stable_bind (stable_get_bind fun s hs ↦ ?_) fun _ ↦ hJ.flushDeferredEvents
  split
  · exact stable_bind (fun _ h ↦ h)
        (fun _ ↦ stable_bind local_ofCommands.tolerant.handleUnknown fun _ ↦
      stable_bind (fun _ h ↦ h) fun _ ↦ stable_send_ofCommands) s hs
  · exact hs

theorem user (call : UserCall) : Stable (OfCommands J) (user env call : M ν ρ Unit) := by
  cases call with
  | onLowerLayerUp => exact hJ.onLowerLayerUp
  | onLowerLayerDown => exact hJ.onLowerLayerDown
  | onSendSuccess u =>
    cases u with
    | true => exact hJ.onUnsolSendSuccess
    | false => exact hJ.onSolSendSuccess
  | onFailure u =>
    cases u with
    | true => exact hJ.onUnsolFailure
    | false => exact hJ.onSolFailure
  | onRequest arAPDU aSeqInfo =>
    exact stable_bind (stable_bind (fun _ h ↦ h) fun _ ↦ stable_bind (fun _ h ↦ h) fun _ _ h ↦ h)
      fun _ ↦ hJ.onRequest _
  | onUnknownObject =>
    exact stable_bind (stable_bind (fun _ h ↦ h) fun _ ↦ stable_bind (fun _ h ↦ h) fun _ _ h ↦ h)
      fun _ ↦ hJ.onUnknownObject _
  | _ => exact stable_throw _

theorem callBack (x : AppLayer.M (List Byte) (Option UserCall)) :
    Stable (OfCommands J) ((station env : Station (List Byte) (Slave ν ρ)).callBack x) := by
  refine stable_bind (stable_onApp_ofCommands _) fun call ↦ ?_
  split
  · exact hJ.user _
  · exact stable_pure _

/-- **A property of the command master that its operations keep is kept by every event.** -/
theorem handle (e : SlaveEvent υ) : Stable (OfCommands J) (handle env e : M ν ρ Unit) := by
  cases e with
  | app e =>
    refine stable_bind ?_ fun _ ↦ stable_pure _
    cases e with
    | lowerLayerUp => exact stable_bind (hJ.callBack _) fun _ ↦ stable_pure _
    | lowerLayerDown => exact stable_bind (hJ.callBack _) fun _ ↦ stable_pure _
    | sendResult aSuccess =>
      exact stable_bind (hJ.callBack _) fun _ ↦ stable_bind (stable_onApp_ofCommands _) fun _ ↦
        stable_pure _
    | receive apData =>
      refine stable_bind (fun _ h ↦ h) fun _ ↦ stable_bind (stable_ensure _ _) fun _ ↦
        stable_tryCatch (stable_bind (hJ.callBack _) fun _ ↦ stable_pure _) fun ex ↦ ?_
      split
      · exact stable_bind (hJ.callBack _) fun _ ↦ stable_pure _
      · exact stable_ite (stable_pure _) (stable_throw _)
    | timeout aUnsol =>
      refine stable_bind (fun _ h ↦ h) fun _ ↦ stable_ite ?_ (stable_pure _)
      exact stable_bind (hJ.callBack _) fun _ ↦ stable_pure _
  | update aUpdate => exact fun _ h ↦ h
  | onDataUpdate => exact hJ.onDataUpdate
  | unsolTimer =>
    exact stable_bind (fun _ h ↦ h) fun _ ↦ stable_ite hJ.onUnsolTimerExpiration (stable_pure _)
  | timeTimer =>
    exact stable_bind (fun _ h ↦ h) fun _ ↦ stable_ite
      (stable_bind (fun _ h ↦ h) fun _ _ h ↦ h) (stable_pure _)

/-- … and holds after every run. -/
theorem of_run {s t : Slave ν ρ} {es : List (SlaveEvent υ)} (hs : OfCommands J s)
    (h : Run.run (step env) s es = some t) : OfCommands J t := by
  refine Run.inv_of_run (fun s e t hs hstep ↦ ?_) hs h
  obtain rfl := Option.some.inj hstep
  exact exec_of_wp (Q := fun t _ ↦ OfCommands J t) (hJ.handle e s hs)

end CommandInvariant

/-! ## Select before operate -/

/-- The selections of the command master are consistent at the time that is read next. -/
theorem commandInvariant_consistent (hclock : ∀ i j, i ≤ j → env.clock i ≤ env.clock j)
    (aTimeout : Int) : CommandInvariant env fun m n ↦
      DNPCommandMaster.Consistent (ν := ν) m (env.clock n) ∧ m.mSelectTimeout = aTimeout where
  select m n aType arCmd aIndex h := by
    refine ⟨h.1.select.mono (hclock n (n + 1) (Nat.le_succ n)), ?_⟩
    rw [DNPCommandMaster.mSelectTimeout_select]
    exact h.2
  operate m n aType arCmd aIndex aSequence h := by
    refine ⟨h.1.operate.mono (hclock n (n + 1) (Nat.le_succ n)), ?_⟩
    rw [DNPCommandMaster.mSelectTimeout_operate]
    exact h.2
  directOperate m n aType arCmd aIndex aSequence h := by
    refine ⟨h.1.directOperate.mono (hclock n (n + 1) (Nat.le_succ n)), ?_⟩
    rw [DNPCommandMaster.mSelectTimeout_directOperate]
    exact h.2
  deselectAll m n h := ⟨h.1.deselectAll, h.2⟩

/-- **A control is executed only by a matching, timely `SELECT`.**  The clock never goes backwards
and is past the select timeout at the start. -/
theorem operate_of_select (hclock : ∀ i j, i ≤ j → env.clock i ≤ env.clock j)
    {aSelectTimeout : Int} (hstart : aSelectTimeout < env.clock 0) {aMode : CommandModes}
    {aUnset : CommandInfo ν} {mControls mSetpoints : List DNPCommandMaster.PointTemplate}
    {m : DNPCommandMaster ν}
    (hm : (DNPCommandMaster.new aSelectTimeout aMode).configure aUnset mControls mSetpoints = .ok m)
    {arCfg : SlaveConfig} {aFragSize aNumRetry : ℕ} {r : ρ} {es : List (SlaveEvent υ)}
    {s : Slave ν ρ}
    (h : Run.run (step env) (new arCfg (AppLayer.new false aFragSize aNumRetry) m r) es = some s) :
    Grants.Justified (DNPCommandMaster.rules aSelectTimeout) s.mpCmdMaster.calls := by
  obtain ⟨hb, ht⟩ := DNPCommandMaster.bound_configure hm
  have hinv := (commandInvariant_consistent (ν := ν) hclock aSelectTimeout).of_run
    (s := new arCfg (AppLayer.new false aFragSize aNumRetry) m r)
    ⟨hb.consistent (by rw [ht]; exact hstart), ht⟩ h
  exact hinv.2 ▸ hinv.1.justified

end Slave

/-! ## Finite setpoints

A double is a sign, a mantissa and an exponent. The comparison of two setpoints subtracts them,
which rounds, and compares with the double that is nearest to the tolerance. -/

/-- A `double` that is neither an infinity nor a NaN, as a multiple of the least positive one. -/
structure FiniteDouble where
  multiple : Int
  deriving DecidableEq, Repr

namespace FiniteDouble

/-- The number 1 is this multiple of the least positive `double`. -/
def one : ℕ := 2 ^ 1074

/-- The sign, the exponent and the mantissa of a number in the format with so many bits for the last
two, as a multiple of the least positive number of the format. -/
def decode (aExponentBits aMantissaBits aBits : ℕ) : Int :=
  let mantissa := aBits % 2 ^ aMantissaBits
  let exponent := aBits / 2 ^ aMantissaBits % 2 ^ aExponentBits
  let a := if exponent = 0 then mantissa else (2 ^ aMantissaBits + mantissa) * 2 ^ (exponent - 1)
  if aBits.testBit (aExponentBits + aMantissaBits) then -a else a

/-- The bits of a number in the format that is the given multiple of its least positive one, with
the bits of the mantissa that it has no room for cut off. -/
def encode (aExponentBits aMantissaBits : ℕ) (aMultiple : Int) : ℕ :=
  let a := aMultiple.natAbs
  let exponent := if a < 2 ^ aMantissaBits then 0 else Nat.log2 a - aMantissaBits + 1
  let mantissa := if exponent = 0 then a else a / 2 ^ (exponent - 1) - 2 ^ aMantissaBits
  (if aMultiple < 0 then 2 ^ (aExponentBits + aMantissaBits) else 0) +
    exponent * 2 ^ aMantissaBits + mantissa

/-- A number of so many bits in two's complement. -/
def signed (aBits aValue : ℕ) : Int :=
  if aValue < 2 ^ (aBits - 1) then aValue else aValue - (2 ^ aBits : ℕ)

/-- The multiple that is rounded to the 53 bits of a `double`, where a tie goes to an even one. -/
def rounded (aMultiple : ℕ) : ℕ :=
  let exponent := Nat.log2 aMultiple - 52
  let mantissa := aMultiple / 2 ^ exponent
  let rest := aMultiple % 2 ^ exponent
  (if 2 * rest > 2 ^ exponent ∨ 2 * rest = 2 ^ exponent ∧
    mantissa % 2 = 1 then mantissa + 1 else mantissa) *
    2 ^ exponent

/-- The `double` that is nearest to `1E-6`. -/
def tolerance : ℕ := 4722366482869645 * 2 ^ (1074 - 72)

/-- `mValue` of `Group41Var1` to `Group41Var4`: two integers, a `float` and a `double`. -/
instance : SetpointValue FiniteDouble where
  read
    | 1, bs => ⟨signed 32 (readUInt bs 4 0) * one⟩
    | 2, bs => ⟨signed 16 (readUInt bs 2 0) * one⟩
    | 3, bs => ⟨decode 8 23 (readUInt bs 4 0) * 2 ^ (1074 - 149)⟩
    | _, bs => ⟨decode 11 52 (readUInt bs 8 0)⟩
  write
    | 1, v => Slave.writeUInt 4 (v.multiple.tdiv one % 2 ^ 32).toNat
    | 2, v => Slave.writeUInt 2 (v.multiple.tdiv one % 2 ^ 16).toNat
    | 3, v => Slave.writeUInt 4 (encode 8 23 (v.multiple.tdiv (2 ^ (1074 - 149))))
    | _, v => Slave.writeUInt 8 (encode 11 52 v.multiple)
  near a b := rounded (a.multiple - b.multiple).natAbs < tolerance

end FiniteDouble

namespace Slave

/-! ## Two runs -/

/-- No events and no static data. -/
def noData : ResponseContext Unit Unit where
  reset r := r
  configure _ r := ({}, r)
  loadResponse _ r := (⟨[], 0, true, true, false⟩, r)
  loadUnsol _ _ r := (⟨[], 0, true, true, true⟩, r)
  hasEvents _ _ := false
  isComplete _ := true
  clearWritten r := r
  flushUpdates r := (false, r)
  update _ r := r

/-- A clock that ticks when it is read, and a user that accepts every command. -/
def accepting : Environment Unit Unit where
  rspContext := noData
  clock n := 10000 + n
  answer _ := .success

/-- The clock never goes backwards. -/
theorem accepting_mono : ∀ i j, i ≤ j → accepting.clock i ≤ accepting.clock j :=
  fun _ _ h ↦ Int.add_le_add_left (Int.ofNat_le.mpr h) _

/-- One control per request, no unsolicited responses and no time synchronization. -/
def plainConfig : SlaveConfig where
  mMaxControls := 1
  mDisableUnsol := true
  mUnsolMask := ⟨false, false, false⟩
  mAllowTimeSync := false
  mResetTimeSyncOnDown := true
  mUnsolPackDelay := 200
  mUnsolRetryDelay := 2000
  mMaxFragSize := 2048

/-- What `CommandInfo` may hold before it is set. -/
def unset : CommandInfo FiniteDouble where
  mRemoteIndex := 0
  mMode := .sboOnly
  mSelectTime := 0
  mIsSelected := true
  mSelectTimeoutMS := 0
  mRequest := ⟨.setpoint ⟨0⟩, 0, 0, .undefined, .other, -1⟩
  mSelectSequence := 0

/-- A command master with one control and one setpoint, which have to be selected. -/
def twoPoints : DNPCommandMaster FiniteDouble :=
  match (DNPCommandMaster.new 5000 .sboOnly).configure unset [⟨.sboOnly, 5000⟩]
    [⟨.sboOnly, 5000⟩] with
  | .ok m => m
  | .error _ => .new 5000 .sboOnly

/-- An outstation with one control and one setpoint. -/
def twoPointSlave : Slave FiniteDouble Unit :=
  new plainConfig (AppLayer.new false 2048 0) twoPoints ()

/-- A request arrives, and the response to it is sent. -/
def answered (apData : List Byte) : List (SlaveEvent Unit) :=
  [.app (.receive apData), .app (.sendResult true)]

/-- `SELECT` and `OPERATE` of the control, with the same command. -/
def selectAndOperate : List (SlaveEvent Unit) :=
  .app .lowerLayerUp ::
    (answered [0xC0, 3, 12, 1, 0x17, 1, 0, 3, 1, 100, 0, 0, 0, 100, 0, 0, 0, 0] ++
      answered [0xC1, 4, 12, 1, 0x17, 1, 0, 3, 1, 100, 0, 0, 0, 100, 0, 0, 0, 0])

/-- The `OPERATE` is executed, and comes from the `SELECT`. -/
theorem operate_of_select_control : ∃ s,
    Run.run (step accepting) twoPointSlave selectAndOperate = some s ∧
    s.mpCmdMaster.calls.length = 3 ∧
    Grants.Justified (DNPCommandMaster.rules 5000) s.mpCmdMaster.calls := by
  obtain ⟨s, hrun⟩ : ∃ s, Run.run (step accepting) twoPointSlave selectAndOperate = some s :=
    ⟨_, rfl⟩
  refine ⟨s, hrun, ?_, ?_⟩
  · have hlen : (Run.run (step accepting) twoPointSlave selectAndOperate).map
        (·.mpCmdMaster.calls.length) = some 3 := by decide +kernel
    rw [hrun] at hlen
    exact Option.some.inj hlen
  · have hm : (DNPCommandMaster.new 5000 .sboOnly).configure unset [⟨.sboOnly, 5000⟩]
        [⟨.sboOnly, 5000⟩] = .ok twoPoints := rfl
    refine operate_of_select accepting_mono ?_ hm hrun
    decide

/-- `SELECT` of the setpoint with 0, and `OPERATE` with a `float` next to 5E-7. -/
def selectAndOperateSimilar : List (SlaveEvent Unit) :=
  .app .lowerLayerUp ::
    (answered [0xC0, 3, 41, 3, 0x17, 1, 0, 0, 0, 0, 0, 0] ++
      answered [0xC1, 4, 41, 3, 0x17, 1, 0, 0xBD, 0x37, 0x06, 0x35, 0])

/-- What the command master does in this run. -/
def similarCalls : List (CommandCall FiniteDouble) :=
  [.deselectAll,
   .select .setpoint 0 ⟨.setpoint ⟨0⟩, 1, 3, .cnt1BIndex1B, .correct, 0⟩ 10000,
   .accept false .setpoint 0
    ⟨.setpoint (SetpointValue.read 3 [0xBD, 0x37, 0x06, 0x35]), 1, 3, .cnt1BIndex1B, .correct, 1⟩
    10001 0 1]

/-- **The command that is executed may differ from the one that was selected.**  The clock never
goes backwards and is past the select timeout at the start. -/
theorem operate_of_similar_select :
    (∀ i j, i ≤ j → accepting.clock i ≤ accepting.clock j) ∧ 5000 < accepting.clock 0 ∧ ∃ s,
    Run.run (step accepting) twoPointSlave selectAndOperateSimilar = some s ∧
    ¬Grants.Justified (DNPCommandMaster.selectRules 5000 (· = ·)) s.mpCmdMaster.calls := by
  obtain ⟨s, hrun⟩ : ∃ s, Run.run (step accepting) twoPointSlave selectAndOperateSimilar = some s :=
    ⟨_, rfl⟩
  refine ⟨accepting_mono, by decide, s, hrun, ?_⟩
  have hcalls : (Run.run (step accepting) twoPointSlave selectAndOperateSimilar).map
      (·.mpCmdMaster.calls) = some similarCalls := by decide +kernel
  rw [hrun] at hcalls
  obtain hcalls : s.mpCmdMaster.calls = similarCalls := Option.some.inj hcalls
  rw [hcalls]
  rintro ⟨f, hf, -⟩
  -- the `OPERATE` at position 2 can only come from the `SELECT` at position 1
  obtain ⟨hlt, ⟨a, ha, hgrant, hfits⟩, -⟩ := hf 2 _ rfl (by simp [DNPCommandMaster.selectRules])
  rcases Nat.lt_or_ge (f 2) 1 with h0 | h1
  · obtain h0 : f 2 = 0 := by omega
    rw [h0] at ha
    obtain rfl := Option.some.inj ha
    exact absurd hgrant (by simp [DNPCommandMaster.selectRules])
  · obtain h1 : f 2 = 1 := by omega
    rw [h1] at ha
    obtain rfl := Option.some.inj ha
    exact absurd hfits.1 (by decide +kernel)

end Slave

end OpenDNP3
