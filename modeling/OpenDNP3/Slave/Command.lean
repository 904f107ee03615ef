import OpenDNP3.Lib.Grants
import OpenDNP3.App.Layer

/-!
# Commands, and the selection of points

`DNPCommandMaster` passes the commands of the master on to the user of the outstation.  It keeps,
for every point, the last request that selected it, and accepts an `OPERATE` only if it follows the
`SELECT` of the same point.

* `DNPCommandMaster.select`, `operate`, `directOperate`, `deselectAll` — the operations, which take
  what `GetTimeStamp` returns while they run.  `calls` records what has been selected and what has
  been passed to `AcceptCommand`; the source has no such member.
* `DNPCommandMaster.Consistent` — a point that is selected, and not since so long that no `OPERATE`
  is accepted any more, has been selected by an entry of the record that is outstanding.

The value of a setpoint is a `double`.  Its type is a parameter here, with the three operations that
the commands use.
-/

set_option autoImplicit false

namespace OpenDNP3

/-! ## Commands -/

/-- What the commands use of the value of a setpoint. -/
class SetpointValue (ν : Type) where
  /-- The value of an object of group 41 and the given variation, in these octets. -/
  read : ℕ → List Byte → ν
  /-- The octets of the value in an object of group 41 and the given variation. -/
  write : ℕ → ν → List Byte
  /-- `fabs(mValue - arRHS.mValue) < 1E-6` -/
  near : ν → ν → Bool

/-- `BinaryOutput`, but for its status. -/
structure BinaryOutput where
  mRawCode : ℕ
  mCount : ℕ
  mOnTimeMS : ℕ
  mOffTimeMS : ℕ
  deriving DecidableEq, Repr

/-- `CommandTypes`, without `CT_NONE`, for which no command is bound. -/
inductive CommandTypes where
  | binaryOutput | setpoint
  deriving DecidableEq, Repr

/-- A command: a `BinaryOutput`, or a `Setpoint`, of which only the value is compared. -/
inductive Command (ν : Type) where
  | binaryOutput (aCmd : BinaryOutput)
  | setpoint (mValue : ν)
  deriving DecidableEq, Repr

/-- `CommandStatus` -/
inductive CommandStatus where
  | success | timeout | noSelect | formatError | notSupported | alreadyActive | hardwareError
  | «local» | tooManyOps | notAuthorized | undefined
  deriving DecidableEq, Repr

/-- The value of a status. -/
def CommandStatus.toByte : CommandStatus → Byte
  | .success => 0
  | .timeout => 1
  | .noSelect => 2
  | .formatError => 3
  | .notSupported => 4
  | .alreadyActive => 5
  | .hardwareError => 6
  | .local => 7
  | .tooManyOps => 8
  | .notAuthorized => 9
  | .undefined => 127

/-- `CommandModes` -/
inductive CommandModes where
  | sboOnly | doOnly | sboOrDo
  deriving DecidableEq, Repr

variable {ν : Type}

/-- `operator==` of `BinaryOutput` and of `Setpoint`. -/
def Command.same [SetpointValue ν] : Command ν → Command ν → Bool
  | .binaryOutput a, .binaryOutput b => a = b
  | .setpoint a, .setpoint b => SetpointValue.near a b
  | _, _ => false

/-- `CommandRequestInfo` -/
structure CommandRequestInfo (ν : Type) where
  cmd : Command ν
  group : ℕ
  var : ℕ
  qual : QualifierCode
  seqInfo : SequenceInfo
  seqAPDU : Int
  deriving DecidableEq, Repr

/-- `operator==` of `CommandRequestInfo`. -/
def CommandRequestInfo.same [SetpointValue ν] (a rhs : CommandRequestInfo ν) : Bool :=
  rhs.cmd.same a.cmd && rhs.group = a.group && rhs.var = a.var && rhs.qual = a.qual

/-- `CommandInfo`: how a point is operated, and the request that selected it. -/
structure CommandInfo (ν : Type) where
  mRemoteIndex : ℕ
  mMode : CommandModes
  mSelectTime : Int
  mIsSelected : Bool
  mSelectTimeoutMS : Int
  mRequest : CommandRequestInfo ν
  mSelectSequence : Int
  deriving Repr

/-! ## The command master -/

/-- What the command master has done: which points it has selected and which commands it has passed
to `AcceptCommand`, with the time, and when it has deselected all points. -/
inductive CommandCall (ν : Type) where
  | deselectAll
  | select (aType : CommandTypes) (aIndex : ℕ) (aCmd : CommandRequestInfo ν) (aTime : Int)
  | accept (aDirect : Bool) (aType : CommandTypes) (aIndex : ℕ) (aCmd : CommandRequestInfo ν)
      (aTime : Int) (aRemoteIndex aSequence : ℕ)
  deriving DecidableEq, Repr

/-- `DNPCommandMaster`; `mMap` is `mControlMap` and `mSetpointMap`. -/
structure DNPCommandMaster (ν : Type) where
  mSelectTimeout : Int
  mCommandMode : CommandModes
  mMap : CommandTypes → ℕ → Option (CommandInfo ν)
  calls : List (CommandCall ν)

namespace DNPCommandMaster

/-- The constructor. -/
def new (aSelectTimeout : Int) (aMode : CommandModes) : DNPCommandMaster ν where
  mSelectTimeout := aSelectTimeout
  mCommandMode := aMode
  mMap _ _ := none
  calls := []

/-- The command master with another state of a point. -/
def setInfo (m : DNPCommandMaster ν) (aType : CommandTypes) (aIndex : ℕ) (info : CommandInfo ν) :
    DNPCommandMaster ν :=
  { m with mMap := fun t i ↦ if t = aType ∧ i = aIndex then some info else m.mMap t i }

/-- `BindCommand`.  The members that the constructor of `CommandInfo` leaves unset have any value:
they are those of `aUnset`. -/
def bindCommand (m : DNPCommandMaster ν) (aUnset : CommandInfo ν) (aType : CommandTypes)
    (aLocalIndex aRemoteIndex : ℕ) (aMode : CommandModes) (aSelectTimeoutMS : Int) :
    Except Exception (DNPCommandMaster ν) :=
  match m.mMap aType aLocalIndex with
  | some _ => .error (.general "Command is not unique")
  | none => .ok (m.setInfo aType aLocalIndex { aUnset with
      mMode := aMode
      mRemoteIndex := aRemoteIndex
      mSelectTimeoutMS := aSelectTimeoutMS
      mSelectTime := 0 })

/-- `CommandMode` and `SelectTimeoutMS` of a point in the `DeviceTemplate`. -/
structure PointTemplate where
  CommandMode : CommandModes
  SelectTimeoutMS : Int
  deriving DecidableEq, Repr

/-- A loop of `Configure`: the points of one type, from the given index on. -/
def bindAll (aUnset : CommandInfo ν) (aType : CommandTypes) :
    List PointTemplate → ℕ → DNPCommandMaster ν → Except Exception (DNPCommandMaster ν)
  | [], _, m => .ok m
  | p :: ps, j, m => do
    let m ← m.bindCommand aUnset aType j j p.CommandMode p.SelectTimeoutMS
    bindAll aUnset aType ps (j + 1) m

/-- `Configure` -/
def configure (m : DNPCommandMaster ν) (aUnset : CommandInfo ν)
    (mControls mSetpoints : List PointTemplate) : Except Exception (DNPCommandMaster ν) := do
  let m ← bindAll aUnset .binaryOutput mControls 0 m
  bindAll aUnset .setpoint mSetpoints 0 m

/-- `DeselectAll` -/
def deselectAll (m : DNPCommandMaster ν) : DNPCommandMaster ν :=
  { m with
    mMap := fun t i ↦ (m.mMap t i).map fun info ↦ { info with mIsSelected := false }
    calls := m.calls ++ [.deselectAll] }

/-- `Select`, at the time `aNow`. -/
def select (m : DNPCommandMaster ν) (aType : CommandTypes) (aCmd : CommandRequestInfo ν)
    (aIndex : ℕ) (aNow : Int) : Bool × DNPCommandMaster ν :=
  match m.mMap aType aIndex with
  | none => (false, m)
  | some info =>
    if info.mMode = .doOnly then (false, m)
    else
      (true, { m.setInfo aType aIndex { info with
          mSelectTime := aNow
          mIsSelected := true
          mSelectSequence := aCmd.seqAPDU
          mRequest := aCmd } with
        calls := m.calls ++ [.select aType aIndex aCmd aNow] })

/-- The point is no longer selected, and its command is passed to `AcceptCommand`. -/
def acceptCommand (m : DNPCommandMaster ν) (aDirect : Bool) (aType : CommandTypes) (aIndex : ℕ)
    (arType : CommandRequestInfo ν) (info : CommandInfo ν) (aNow : Int) (aSequence : ℕ) :
    DNPCommandMaster ν :=
  { m.setInfo aType aIndex { info with mIsSelected := false } with
    calls := m.calls ++ [.accept aDirect aType aIndex arType aNow info.mRemoteIndex aSequence] }

/-- `Operate`, at the time `aNow`. -/
def operate [SetpointValue ν] (m : DNPCommandMaster ν) (aType : CommandTypes)
    (arType : CommandRequestInfo ν) (aIndex : ℕ) (aNow : Int) (aSequence : ℕ) :
    CommandStatus × DNPCommandMaster ν :=
  match m.mMap aType aIndex with
  | none => (.notSupported, m)
  | some info =>
    if !info.mIsSelected then (.noSelect, m)
    else if aNow - info.mSelectTime > m.mSelectTimeout then (.timeout, m)
    else if arType.seqAPDU ≠ (info.mSelectSequence + 1) % 16 ∨ !info.mRequest.same arType then
      (.noSelect, m.setInfo aType aIndex { info with mIsSelected := false })
    else (.success, m.acceptCommand false aType aIndex arType info aNow aSequence)

/-- `DirectOperate` -/
def directOperate (m : DNPCommandMaster ν) (aType : CommandTypes) (arType : CommandRequestInfo ν)
    (aIndex : ℕ) (aNow : Int) (aSequence : ℕ) : CommandStatus × DNPCommandMaster ν :=
  match m.mMap aType aIndex with
  | none => (.notSupported, m)
  | some info =>
    if info.mMode = .sboOnly then (.notSupported, m)
    else (.success, m.acceptCommand true aType aIndex arType info aNow aSequence)

/-! ## Selections -/

/-- **The rules of select before operate.**  A `SELECT` permits one `OPERATE` of its point until all
points are deselected; the `OPERATE` has to have the next sequence number, the same command in the
sense of `same`, the same variation and qualifier, and to come within the timeout. -/
def selectRules (aTimeout : Int) (same : Command ν → Command ν → Prop) :
    Grants.Rules (CommandCall ν) (CommandTypes × ℕ) where
  grantOf
    | .select aType aIndex _ _ => some (aType, aIndex)
    | _ => none
  useOf
    | .accept false aType aIndex _ _ _ _ => some (aType, aIndex)
    | _ => none
  revokes c := c = .deselectAll
  Fits
    | .select _ _ r t, .accept _ _ _ r' t' _ _ =>
      same r.cmd r'.cmd ∧ r.var = r'.var ∧ r.qual = r'.qual ∧ r'.seqAPDU = (r.seqAPDU + 1) % 16 ∧
        t ≤ t' ∧ t' - t ≤ aTimeout
    | _, _ => False

/-- The rules of select before operate for commands that are the same by `operator==`. -/
abbrev rules [SetpointValue ν] (aTimeout : Int) :
    Grants.Rules (CommandCall ν) (CommandTypes × ℕ) :=
  selectRules aTimeout fun c c' ↦ c'.same c = true

/-- The rules of select before operate with another condition on the `OPERATE`. -/
abbrev rulesFitting (Fits : CommandCall ν → CommandCall ν → Prop) :
    Grants.Rules (CommandCall ν) (CommandTypes × ℕ) :=
  { selectRules 0 fun _ _ ↦ True with Fits := Fits }

/-- Every command that was operated was selected, and the points that are selected and can still be
operated have been selected by an entry of the record that is outstanding. -/
structure Consistent [SetpointValue ν] (m : DNPCommandMaster ν) (aNow : Int) : Prop where
  justified : Grants.Justified (rules m.mSelectTimeout) m.calls
  selected : ∀ t i info, m.mMap t i = some info → info.mIsSelected = true →
    aNow - info.mSelectTime > m.mSelectTimeout ∨
      info.mSelectTime ≤ aNow ∧ info.mRequest.seqAPDU = info.mSelectSequence ∧
      ∃ n, Grants.Outstanding (rules m.mSelectTimeout) m.calls (t, i) n
        (.select t i info.mRequest info.mSelectTime)

/-- A command master whose points have been bound and nothing else. -/
def Bound (m : DNPCommandMaster ν) : Prop :=
  m.calls = [] ∧ ∀ t i info, m.mMap t i = some info → info.mSelectTime = 0

theorem bound_new (aSelectTimeout : Int) (aMode : CommandModes) :
    (new aSelectTimeout aMode : DNPCommandMaster ν).Bound :=
  ⟨rfl, fun _ _ _ h ↦ absurd h (by simp [new])⟩

variable {m m' : DNPCommandMaster ν} {aType : CommandTypes} {aIndex aSequence : ℕ}
  {aCmd : CommandRequestInfo ν} {aNow aThen : Int}

theorem setInfo_mMap_eq_some {info info' : CommandInfo ν} {t : CommandTypes} {i : ℕ}
    (h : (m.setInfo aType aIndex info).mMap t i = some info') :
    (t, i) = (aType, aIndex) ∧ info' = info ∨ (t, i) ≠ (aType, aIndex) ∧
    m.mMap t i = some info' := by
  simp only [setInfo] at h
  split at h
  · next heq =>
    obtain ⟨rfl, rfl⟩ := heq
    exact .inl ⟨rfl, (Option.some.inj h).symm⟩
  · next hne =>
    refine .inr ⟨fun heq ↦ hne ?_, h⟩
    exact Prod.mk.inj heq

@[simp] theorem mSelectTimeout_select (m : DNPCommandMaster ν) :
    (m.select aType aCmd aIndex aNow).2.mSelectTimeout = m.mSelectTimeout := by
  rw [select]
  repeat' split
  all_goals rfl

@[simp] theorem mSelectTimeout_operate [SetpointValue ν] (m : DNPCommandMaster ν) :
    (m.operate aType aCmd aIndex aNow aSequence).2.mSelectTimeout = m.mSelectTimeout := by
  rw [operate]
  repeat' split
  all_goals rfl

@[simp] theorem mSelectTimeout_directOperate (m : DNPCommandMaster ν) :
    (m.directOperate aType aCmd aIndex aNow aSequence).2.mSelectTimeout = m.mSelectTimeout := by
  rw [directOperate]
  repeat' split
  all_goals rfl

theorem Bound.bindCommand {aUnset : CommandInfo ν} {aRemoteIndex : ℕ} {aMode : CommandModes}
    {aSelectTimeoutMS : Int} (hm : m.Bound)
    (h : m.bindCommand aUnset aType aIndex aRemoteIndex aMode aSelectTimeoutMS = .ok m') :
    m'.Bound ∧ m'.mSelectTimeout = m.mSelectTimeout := by
  rw [DNPCommandMaster.bindCommand] at h
  split at h
  · contradiction
  · obtain rfl := Except.ok.inj h
    refine ⟨⟨hm.1, fun t i info hinfo ↦ ?_⟩, rfl⟩
    rcases setInfo_mMap_eq_some hinfo with ⟨-, rfl⟩ | ⟨-, hinfo⟩
    · rfl
    · exact hm.2 t i info hinfo

theorem Bound.bindAll {aUnset : CommandInfo ν} {ps : List PointTemplate} {j : ℕ} (hm : m.Bound)
    (h : DNPCommandMaster.bindAll aUnset aType ps j m = .ok m') :
    m'.Bound ∧ m'.mSelectTimeout = m.mSelectTimeout := by
  induction ps generalizing j m with
  | nil =>
    obtain rfl := Except.ok.inj h
    exact ⟨hm, rfl⟩
  | cons p ps ih =>
    rw [DNPCommandMaster.bindAll] at h
    obtain ⟨m₁, hm₁, h⟩ := except_bind_eq_ok.mp h
    obtain ⟨hb, ht⟩ := hm.bindCommand hm₁
    obtain ⟨hb', ht'⟩ := ih hb h
    exact ⟨hb', ht'.trans ht⟩

/-- **After `Configure` no point has been selected.** -/
theorem bound_configure {aUnset : CommandInfo ν} {mControls mSetpoints : List PointTemplate}
    {aSelectTimeout : Int} {aMode : CommandModes}
    (h : (new aSelectTimeout aMode).configure aUnset mControls mSetpoints = .ok m) :
    m.Bound ∧ m.mSelectTimeout = aSelectTimeout := by
  rw [configure] at h
  obtain ⟨m₁, hm₁, h⟩ := except_bind_eq_ok.mp h
  obtain ⟨hb, ht⟩ := (bound_new aSelectTimeout aMode).bindAll hm₁
  obtain ⟨hb', ht'⟩ := hb.bindAll h
  exact ⟨hb', ht'.trans ht⟩

section Consistent

/-- The same as `Consistent` for any condition on the `OPERATE`. -/
structure ConsistentFor (Fits : CommandCall ν → CommandCall ν → Prop) (m : DNPCommandMaster ν)
    (aNow : Int) : Prop where
  justified : Grants.Justified (rulesFitting Fits) m.calls
  selected : ∀ t i info, m.mMap t i = some info → info.mIsSelected = true →
    aNow - info.mSelectTime > m.mSelectTimeout ∨
      info.mSelectTime ≤ aNow ∧ info.mRequest.seqAPDU = info.mSelectSequence ∧
      ∃ n, Grants.Outstanding (rulesFitting Fits) m.calls (t, i) n
        (.select t i info.mRequest info.mSelectTime)

variable {Fits : CommandCall ν → CommandCall ν → Prop}

/-- A point that was bound is not selected for long enough: the clock is past the timeout. -/
theorem Bound.consistentFor (h : m.Bound) (hnow : m.mSelectTimeout < aNow) :
    m.ConsistentFor Fits aNow where
  justified := h.1 ▸ Grants.justified_nil
  selected t i info hinfo _ := by
    have := h.2 t i info hinfo
    exact .inl (by omega)

/-- Time passes. -/
theorem ConsistentFor.mono (h : m.ConsistentFor Fits aThen) (hnow : aThen ≤ aNow) :
    m.ConsistentFor Fits aNow where
  justified := h.justified
  selected t i info hinfo hsel := by
    rcases h.selected t i info hinfo hsel with hout | ⟨hle, hrest⟩
    · exact .inl (by omega)
    · exact .inr ⟨Int.le_trans hle hnow, hrest⟩

theorem ConsistentFor.deselectAll (h : m.ConsistentFor Fits aNow) :
    m.deselectAll.ConsistentFor Fits aNow where
  justified := h.justified.append rfl
  selected t i info hinfo hsel := by
    simp only [DNPCommandMaster.deselectAll, Option.map_eq_some_iff] at hinfo
    obtain ⟨info', -, rfl⟩ := hinfo
    exact Bool.noConfusion hsel

/-- A point is deselected. -/
theorem ConsistentFor.deselect {info : CommandInfo ν} (h : m.ConsistentFor Fits aNow) :
    (m.setInfo aType aIndex { info with mIsSelected := false }).ConsistentFor Fits aNow where
  justified := h.justified
  selected t i info' hinfo hsel := by
    rcases setInfo_mMap_eq_some hinfo with ⟨-, rfl⟩ | ⟨-, hinfo⟩
    · exact Bool.noConfusion hsel
    · exact h.selected t i info' hinfo hsel

/-- **Selecting a point keeps the record consistent**: the entry is outstanding. -/
theorem ConsistentFor.select (h : m.ConsistentFor Fits aNow) :
    (m.select aType aCmd aIndex aNow).2.ConsistentFor Fits aNow := by
  rw [DNPCommandMaster.select]
  split
  · exact h
  split
  · exact h
  refine ⟨h.justified.append rfl, fun t i info hinfo hsel ↦ ?_⟩
  rcases setInfo_mMap_eq_some hinfo with ⟨heq, rfl⟩ | ⟨-, hinfo⟩
  · obtain ⟨rfl, rfl⟩ := Prod.mk.inj heq
    exact .inr ⟨Int.le_refl _, rfl, _, Grants.outstanding_append_self rfl⟩
  · rcases h.selected t i info hinfo hsel with hout | ⟨hle, hseq, n, hn⟩
    · exact .inl hout
    · exact .inr ⟨hle, hseq, n, hn.append (by simp [selectRules]) (by simp [selectRules])⟩

/-- A command is accepted: other points are as they were, and this one is not selected. -/
theorem ConsistentFor.acceptCommand {info : CommandInfo ν} {aDirect : Bool}
    (h : m.ConsistentFor Fits aNow)
    (hjust : Grants.Justified (rulesFitting Fits) (m.calls ++
      [.accept aDirect aType aIndex aCmd aNow info.mRemoteIndex aSequence])) :
    (m.acceptCommand aDirect aType aIndex aCmd info aNow aSequence).ConsistentFor Fits aNow where
  justified := hjust
  selected t i info' hinfo hsel := by
    rcases setInfo_mMap_eq_some hinfo with ⟨-, rfl⟩ | ⟨hne, hinfo⟩
    · exact Bool.noConfusion hsel
    · rcases h.selected t i info' hinfo hsel with hout | ⟨hle, hseq, n, hn⟩
      · exact .inl hout
      · refine .inr ⟨hle, hseq, n, hn.append (by simp [selectRules]) ?_⟩
        cases aDirect with
        | true => simp [selectRules]
        | false => exact fun heq ↦ hne (Option.some.inj heq).symm

theorem ConsistentFor.directOperate (h : m.ConsistentFor Fits aNow) :
    (m.directOperate aType aCmd aIndex aNow aSequence).2.ConsistentFor Fits aNow := by
  rw [DNPCommandMaster.directOperate]
  split
  · exact h
  split
  · exact h
  · exact h.acceptCommand (h.justified.append rfl)

variable [SetpointValue ν]

/-- **Operating a point keeps the record consistent**: the command is accepted only if the request
that selected the point is outstanding and is followed by the same one in time, and that fits. -/
theorem ConsistentFor.operate (h : m.ConsistentFor Fits aNow)
    (hfits : ∀ info, m.mMap aType aIndex = some info → info.mIsSelected = true →
      (rules m.mSelectTimeout).Fits (.select aType aIndex info.mRequest info.mSelectTime)
        (.accept false aType aIndex aCmd aNow info.mRemoteIndex aSequence) →
      Fits (.select aType aIndex info.mRequest info.mSelectTime)
        (.accept false aType aIndex aCmd aNow info.mRemoteIndex aSequence)) :
    (m.operate aType aCmd aIndex aNow aSequence).2.ConsistentFor Fits aNow := by
  rw [DNPCommandMaster.operate]
  split
  · exact h
  · next info hinfo =>
    split
    · exact h
    split
    · exact h
    split
    · exact h.deselect
    · next hsel htime hsame =>
      simp only [Bool.not_eq_true', Bool.not_eq_false] at hsel
      simp only [not_or, not_not, Bool.not_eq_true', Bool.not_eq_false] at hsame
      obtain ⟨hseq, hsame⟩ := hsame
      simp only [CommandRequestInfo.same, Bool.and_eq_true, decide_eq_true_eq] at hsame
      obtain ⟨⟨⟨hcmd, -⟩, hvar⟩, hqual⟩ := hsame
      rcases h.selected _ _ _ hinfo hsel with hout | ⟨hle, hseq', n, hn⟩
      · exact absurd hout htime
      · refine h.acceptCommand (h.justified.append_use hn rfl (hfits info hinfo hsel ?_))
        exact ⟨hcmd, hvar.symm, hqual.symm, hseq' ▸ hseq, hle, by omega⟩

/-- `Consistent` is about the rules with the common timeout. -/
theorem consistent_iff : m.Consistent aNow ↔ m.ConsistentFor (rules m.mSelectTimeout).Fits aNow :=
  ⟨fun h ↦ ⟨h.justified, h.selected⟩, fun h ↦ ⟨h.justified, h.selected⟩⟩

theorem Bound.consistent (h : m.Bound) (hnow : m.mSelectTimeout < aNow) : m.Consistent aNow :=
  consistent_iff.mpr (h.consistentFor hnow)

theorem Consistent.mono (h : m.Consistent aThen) (hnow : aThen ≤ aNow) : m.Consistent aNow :=
  consistent_iff.mpr ((consistent_iff.mp h).mono hnow)

theorem Consistent.deselectAll (h : m.Consistent aNow) : m.deselectAll.Consistent aNow :=
  consistent_iff.mpr (consistent_iff.mp h).deselectAll

theorem Consistent.select (h : m.Consistent aNow) :
    (m.select aType aCmd aIndex aNow).2.Consistent aNow := by
  rw [consistent_iff, mSelectTimeout_select]
  exact (consistent_iff.mp h).select

theorem Consistent.operate (h : m.Consistent aNow) :
    (m.operate aType aCmd aIndex aNow aSequence).2.Consistent aNow := by
  rw [consistent_iff, mSelectTimeout_operate]
  exact (consistent_iff.mp h).operate fun _ _ _ hfits ↦ hfits

theorem Consistent.directOperate (h : m.Consistent aNow) :
    (m.directOperate aType aCmd aIndex aNow aSequence).2.Consistent aNow := by
  rw [consistent_iff, mSelectTimeout_directOperate]
  exact (consistent_iff.mp h).directOperate

end Consistent

end DNPCommandMaster

end OpenDNP3
