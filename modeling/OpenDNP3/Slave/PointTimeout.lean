import OpenDNP3.Slave.Selection

/-!
# The select timeout of a point

Every control and setpoint is configured with a select timeout of its own, which `BindCommand`
stores with the point.  `Operate` does not look at it: it compares the time since the `SELECT` with
the timeout that the command master was constructed with.

* `CommandOp` and `DNPCommandMaster.perform` — what is asked of a command master, at which time.
* `DNPCommandMaster.Timely` — the condition on an `OPERATE`: if its point is selected, it comes
  within the timeout of the point, or so late that it is past the common timeout.
* `DNPCommandMaster.operate_within_point_timeout` — **then a command is accepted only within the
  timeout of its point**.
* `Slave.commands_run` — what the outstation asks of its command master is such a run.
-/

set_option autoImplicit false

namespace OpenDNP3

/-! ## Runs of a command master

Selections and operations with the time at which they come. -/

/-- What is asked of a command master. -/
inductive CommandOp (ν : Type) where
  | select (aType : CommandTypes) (aCmd : CommandRequestInfo ν) (aIndex : ℕ)
  | operate (aType : CommandTypes) (aCmd : CommandRequestInfo ν) (aIndex aSequence : ℕ)
  | directOperate (aType : CommandTypes) (aCmd : CommandRequestInfo ν) (aIndex aSequence : ℕ)
  | deselectAll

namespace DNPCommandMaster

variable {ν : Type}

/-- The point's own timeout, as it is configured. -/
def selectTimeoutMS (mControls mSetpoints : List PointTemplate) (aType : CommandTypes)
    (aIndex : ℕ) : Int :=
  let points := match aType with
    | .binaryOutput => mControls
    | .setpoint => mSetpoints
  (points[aIndex]?.map PointTemplate.SelectTimeoutMS).getD 0

/-- A command master, and the last time at which it has been asked something. -/
structure Timed (ν : Type) where
  master : DNPCommandMaster ν
  now : Int

section Runs

variable [SetpointValue ν]

/-- What is asked of the command master, at this time. -/
def perform (m : DNPCommandMaster ν) (aNow : Int) : CommandOp ν → DNPCommandMaster ν
  | .select aType aCmd aIndex => (m.select aType aCmd aIndex aNow).2
  | .operate aType aCmd aIndex aSequence => (m.operate aType aCmd aIndex aNow aSequence).2
  | .directOperate aType aCmd aIndex aSequence =>
    (m.directOperate aType aCmd aIndex aNow aSequence).2
  | .deselectAll => m.deselectAll

/-- The clock does not go backwards. -/
def Timed.step (s : Timed ν) (e : CommandOp ν × Int) : Option (Timed ν) :=
  if s.now ≤ e.2 then some ⟨s.master.perform e.2 e.1, e.2⟩ else none

/-- The rules of select before operate, with a timeout for each point. -/
abbrev pointRules (aTimeouts : CommandTypes → ℕ → Int) :
    Grants.Rules (CommandCall ν) (CommandTypes × ℕ) :=
  rulesFitting fun a b ↦
    match a with
    | .select aType aIndex _ _ => (rules (aTimeouts aType aIndex)).Fits a b
    | _ => False

end Runs

/-- **The condition**: an `OPERATE` of a point that is selected comes within the timeout of the
point, or after the common timeout. -/
def Timely (s : Timed ν) (e : CommandOp ν × Int) : Prop :=
  match e.1 with
  | .operate aType _ aIndex _ => ∀ info ∈ s.master.mMap aType aIndex, info.mIsSelected = true →
      e.2 - info.mSelectTime ≤ info.mSelectTimeoutMS ∨
        s.master.mSelectTimeout < e.2 - info.mSelectTime
  | .select _ _ _ | .directOperate _ _ _ _ | .deselectAll => True

instance (s : Timed ν) (e : CommandOp ν × Int) : Decidable (Timely s e) :=
  match e with
  | (.operate aType _ aIndex _, _) =>
    inferInstanceAs (Decidable (∀ info ∈ s.master.mMap aType aIndex, _ → _ ∨ _))
  | (.select _ _ _, _) | (.directOperate _ _ _ _, _) | (.deselectAll, _) =>
    inferInstanceAs (Decidable True)

/-! ## Configuration -/

/-- Every point has its configured timeout. -/
def HasTimeouts (m : DNPCommandMaster ν) (aTimeouts : CommandTypes → ℕ → Int) : Prop :=
  ∀ t i info, m.mMap t i = some info → info.mSelectTimeoutMS = aTimeouts t i

variable {m m' : DNPCommandMaster ν} {aType : CommandTypes} {aIndex aSequence : ℕ}
  {aCmd : CommandRequestInfo ν} {aNow : Int} {aTimeouts : CommandTypes → ℕ → Int}

/-- Another state of a point, with the same timeout. -/
theorem HasTimeouts.setInfo (h : m.HasTimeouts aTimeouts) {info : CommandInfo ν}
    (hinfo : info.mSelectTimeoutMS = aTimeouts aType aIndex) :
    (m.setInfo aType aIndex info).HasTimeouts aTimeouts := by
  intro t i info' hinfo'
  rcases setInfo_mMap_eq_some hinfo' with ⟨heq, rfl⟩ | ⟨-, hold⟩
  · obtain ⟨rfl, rfl⟩ := Prod.mk.inj heq
    exact hinfo
  · exact h t i info' hold

theorem HasTimeouts.bindAll {aUnset : CommandInfo ν} {ps : List PointTemplate} {j : ℕ}
    (hm : m.HasTimeouts aTimeouts)
    (hps : ∀ i p, ps[i]? = some p → aTimeouts aType (j + i) = p.SelectTimeoutMS)
    (h : DNPCommandMaster.bindAll aUnset aType ps j m = .ok m') : m'.HasTimeouts aTimeouts := by
  induction ps generalizing j m with
  | nil =>
    obtain rfl := Except.ok.inj h
    exact hm
  | cons p ps ih =>
    rw [DNPCommandMaster.bindAll] at h
    obtain ⟨m₁, hm₁, h⟩ := except_bind_eq_ok.mp h
    rw [DNPCommandMaster.bindCommand] at hm₁
    split at hm₁
    · contradiction
    · obtain rfl := Except.ok.inj hm₁
      refine ih (hm.setInfo (hps 0 p rfl).symm) (fun i q hq ↦ ?_) h
      rw [← hps (i + 1) q hq, Nat.add_assoc, Nat.add_comm 1 i]

/-- **`Configure` gives every point its timeout.** -/
theorem hasTimeouts_configure {aUnset : CommandInfo ν} {mControls mSetpoints : List PointTemplate}
    {aSelectTimeout : Int} {aMode : CommandModes}
    (h : (new aSelectTimeout aMode).configure aUnset mControls mSetpoints = .ok m) :
    m.HasTimeouts (selectTimeoutMS mControls mSetpoints) := by
  rw [configure] at h
  obtain ⟨m₁, hm₁, h⟩ := except_bind_eq_ok.mp h
  have hnew : (new aSelectTimeout aMode : DNPCommandMaster ν).HasTimeouts
      (selectTimeoutMS mControls mSetpoints) := fun _ _ _ h ↦ absurd h (by simp [new])
  refine (hnew.bindAll (fun i p hp ↦ ?_) hm₁).bindAll (fun i p hp ↦ ?_) h
  · simp [selectTimeoutMS, hp]
  · simp [selectTimeoutMS, hp]

/-! ## One operation

The timeout of a point is compared with the time since its selection, when the operation comes. -/

variable [SetpointValue ν]

/-- No operation changes the timeouts. -/
theorem HasTimeouts.perform (h : m.HasTimeouts aTimeouts) (op : CommandOp ν) :
    (m.perform aNow op).HasTimeouts aTimeouts ∧
      (m.perform aNow op).mSelectTimeout = m.mSelectTimeout := by
  cases op with
  | select aType aCmd aIndex =>
    refine ⟨?_, mSelectTimeout_select m⟩
    rw [DNPCommandMaster.perform, DNPCommandMaster.select]
    split
    · exact h
    · next info hinfo =>
      have htimeout := h _ _ _ hinfo
      split
      · exact h
      · exact h.setInfo htimeout
  | operate aType aCmd aIndex aSequence =>
    refine ⟨?_, mSelectTimeout_operate m⟩
    rw [DNPCommandMaster.perform, DNPCommandMaster.operate]
    split
    · exact h
    · next info hinfo =>
      have htimeout := h _ _ _ hinfo
      split
      · exact h
      split
      · exact h
      split
      · exact h.setInfo htimeout
      · exact h.setInfo htimeout
  | directOperate aType aCmd aIndex aSequence =>
    refine ⟨?_, mSelectTimeout_directOperate m⟩
    rw [DNPCommandMaster.perform, DNPCommandMaster.directOperate]
    split
    · exact h
    · next info hinfo =>
      have htimeout := h _ _ _ hinfo
      split
      · exact h
      · exact h.setInfo htimeout
  | deselectAll =>
    refine ⟨fun t i info hinfo ↦ ?_, rfl⟩
    obtain ⟨info', hinfo', rfl⟩ := Option.map_eq_some_iff.mp hinfo
    exact h t i info' hinfo'

/-- **One operation** that comes in time is justified by the timeout of its point. -/
theorem ConsistentFor.perform {op : CommandOp ν} {aThen : Int} (ht : m.HasTimeouts aTimeouts)
    (h : m.ConsistentFor (pointRules aTimeouts).Fits aThen) (hnow : aThen ≤ aNow)
    (hop : Timely ⟨m, aThen⟩ (op, aNow)) :
    (m.perform aNow op).ConsistentFor (pointRules aTimeouts).Fits aNow := by
  have h := h.mono hnow
  cases op with
  | select aType aCmd aIndex => exact h.select
  | directOperate aType aCmd aIndex aSequence => exact h.directOperate
  | deselectAll => exact h.deselectAll
  | operate aType aCmd aIndex aSequence =>
    refine h.operate fun info hinfo hsel hfits ↦ ?_
    obtain ⟨hcmd, hvar, hqual, hseq, hle, htime⟩ := hfits
    refine ⟨hcmd, hvar, hqual, hseq, hle, ?_⟩
    rw [← ht _ _ _ hinfo]
    have hop : aNow - info.mSelectTime ≤ info.mSelectTimeoutMS ∨
        m.mSelectTimeout < aNow - info.mSelectTime := hop info hinfo hsel
    rcases hop with hin | hout
    · exact hin
    · exact absurd htime (Int.not_le.mpr hout)

/-! ## Every run -/

/-- **A command that was operated was selected within the timeout of its point**, in every run in
which every `OPERATE` of a selected point comes within this timeout or after the common one.  At the
start the clock is past the common timeout. -/
theorem operate_within_point_timeout {aSelectTimeout aStart : Int}
    (hstart : aSelectTimeout < aStart)
    {aMode : CommandModes} {aUnset : CommandInfo ν} {mControls mSetpoints : List PointTemplate}
    (hm : (new aSelectTimeout aMode).configure aUnset mControls mSetpoints = .ok m)
    {es : List (CommandOp ν × Int)} {s : Timed ν}
    (hguard : Run.Guarded Timed.step Timely ⟨m, aStart⟩ es)
    (hrun : Run.run Timed.step ⟨m, aStart⟩ es = some s) :
    Grants.Justified (pointRules (selectTimeoutMS mControls mSetpoints)) s.master.calls := by
  obtain ⟨hb, hcommon⟩ := bound_configure hm
  have hs := Run.inv_of_guarded
    (I := fun s : Timed ν ↦ s.master.HasTimeouts (selectTimeoutMS mControls mSetpoints) ∧
      s.master.ConsistentFor (pointRules (selectTimeoutMS mControls mSetpoints)).Fits s.now)
    (fun s e t hs hg h ↦ ?_) ⟨hasTimeouts_configure hm, hb.consistentFor (hcommon ▸ hstart)⟩
    hguard hrun
  · exact hs.2.justified
  · rw [Timed.step] at h
    split at h
    · next hnow =>
      obtain rfl := Option.some.inj h
      exact ⟨(hs.1.perform e.1).1, hs.2.perform hs.1 hnow hg⟩
    · cases h

/-- A control with a timeout of 5000 under a common timeout of 10000, as an outstation is set up by
default. -/
def shortTimeout : DNPCommandMaster FiniteDouble :=
  match (new 10000 .sboOnly).configure Slave.unset [⟨.sboOnly, 5000⟩] [] with
  | .ok m => m
  | .error _ => new 10000 .sboOnly

/-- The command of a request with this sequence number. -/
def latchOn (aSeq : Int) : CommandRequestInfo FiniteDouble :=
  ⟨.binaryOutput ⟨3, 1, 100, 100⟩, 1, 1, .cnt1BIndex1B, .correct, aSeq⟩

/-- The control is operated within its timeout, and then not before the common one. -/
def operateTimely : List (CommandOp FiniteDouble × Int) :=
  [(.select .binaryOutput (latchOn 0) 0, 20000), (.operate .binaryOutput (latchOn 1) 0 1, 25000),
   (.select .binaryOutput (latchOn 2) 0, 30000), (.operate .binaryOutput (latchOn 3) 0 2, 40001)]

theorem operate_within_point_timeout_timely : ∃ s,
    Run.run Timed.step ⟨shortTimeout, 10001⟩ operateTimely = some s ∧
    Grants.Justified (pointRules (selectTimeoutMS [⟨.sboOnly, 5000⟩] [])) s.master.calls := by
  obtain ⟨s, hrun⟩ : ∃ s, Run.run Timed.step ⟨shortTimeout, 10001⟩ operateTimely = some s :=
    ⟨_, rfl⟩
  have hm : (new 10000 .sboOnly).configure Slave.unset [⟨.sboOnly, 5000⟩]
    [] = .ok shortTimeout := rfl
  refine ⟨s, hrun, operate_within_point_timeout ?_ hm ?_ hrun⟩
  · decide
  · decide +kernel

/-- **A command is accepted after the timeout of its point**: the control with a timeout of 5000 is
operated 7000 after it was selected. -/
theorem operate_after_point_timeout : ∃ s,
    Run.run Timed.step ⟨shortTimeout, 10001⟩
      [(.select .binaryOutput (latchOn 0) 0, 20000),
        (.operate .binaryOutput (latchOn 1) 0 1, 27000)] =
        some s ∧
    s.master.calls = [.select .binaryOutput 0 (latchOn 0) 20000,
      .accept false .binaryOutput 0 (latchOn 1) 27000 0 1] ∧
    ¬Grants.Justified (pointRules (selectTimeoutMS [⟨.sboOnly, 5000⟩] [])) s.master.calls := by
  refine ⟨_, rfl, rfl, ?_⟩
  rintro ⟨f, hf, -⟩
  obtain ⟨hlt, ⟨a, ha, -, hfits⟩, -⟩ := hf 1 _ rfl (by simp [selectRules])
  obtain h0 : f 1 = 0 := Nat.lt_one_iff.mp hlt
  rw [h0] at ha
  obtain rfl := Option.some.inj ha
  exact absurd hfits.2.2.2.2.2 (by decide)

end DNPCommandMaster

namespace Slave

variable {ν ρ υ : Type} [SetpointValue ν] {env : Environment ρ υ}

open DNPCommandMaster

/-- **What the outstation asks of its command master is a run of the command master.** -/
theorem commands_run (hclock : ∀ i j, i ≤ j → env.clock i ≤ env.clock j) {arCfg : SlaveConfig}
    {a : AppLayer (List Byte)} {m : DNPCommandMaster ν} {r : ρ} {es : List (SlaveEvent υ)}
    {s : Slave ν ρ} (h : Run.run (step env) (new arCfg a m r) es = some s) :
    ∃ ops now, Run.run Timed.step ⟨m, env.clock 0⟩ ops = some ⟨s.mpCmdMaster, now⟩ := by
  have hone {m' : DNPCommandMaster ν} {now : Int} {ops : List (CommandOp ν × Int)}
      (hrun : Run.run Timed.step ⟨m, env.clock 0⟩ ops = some ⟨m', now⟩) {aNow : Int}
      (hnow : now ≤ aNow) (op : CommandOp ν) :
      Run.run Timed.step ⟨m, env.clock 0⟩ (ops ++ [(op, aNow)]) = some
        ⟨m'.perform aNow op, aNow⟩ := by
    rw [Run.run_append, hrun, Option.bind_some, Run.run_cons, Timed.step, if_pos hnow,
      Option.bind_some]
    rfl
  have hinv : CommandInvariant env fun m' n ↦ ∃ ops now,
      Run.run Timed.step ⟨m, env.clock 0⟩ ops = some ⟨m', now⟩ ∧ now ≤ env.clock n := by
    refine ⟨?_, ?_, ?_, ?_⟩
    · rintro m' n aType arCmd aIndex ⟨ops, now, hrun, hle⟩
      exact ⟨_, _, hone hrun hle (.select aType arCmd aIndex), hclock n (n + 1) (Nat.le_succ n)⟩
    · rintro m' n aType arCmd aIndex aSequence ⟨ops, now, hrun, hle⟩
      exact ⟨_, _, hone hrun hle (.operate aType arCmd aIndex aSequence),
        hclock n (n + 1) (Nat.le_succ n)⟩
    · rintro m' n aType arCmd aIndex aSequence ⟨ops, now, hrun, hle⟩
      exact ⟨_, _, hone hrun hle (.directOperate aType arCmd aIndex aSequence),
        hclock n (n + 1) (Nat.le_succ n)⟩
    · rintro m' n ⟨ops, now, hrun, hle⟩
      exact ⟨_, _, hone hrun hle .deselectAll, Int.le_refl _⟩
  obtain ⟨ops, now, hrun, -⟩ := hinv.of_run (s := new arCfg a m r)
    ⟨[], env.clock 0, rfl, Int.le_refl _⟩ h
  exact ⟨ops, now, hrun⟩

end Slave

end OpenDNP3
