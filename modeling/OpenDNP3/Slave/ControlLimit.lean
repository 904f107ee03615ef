import OpenDNP3.Slave.Controls
import OpenDNP3.Slave.Selection

/-!
# The limit on the commands of a request

`mMaxControls` is meant to limit the commands of a request.  `RespondToCommands` counts them for
each header anew, and a `SELECT` that goes beyond the limit does not deselect the points that it has
selected before.

* `Slave.KeepsLimit` — no more commands are passed on than the limit, and a `SELECT` of which a
  command is refused leaves no point selected.
* `Slave.keepsLimit_iff` — **exactly which requests keep the limit**.
-/

set_option autoImplicit false

namespace OpenDNP3

open Handler

namespace Slave

variable {ν ρ υ : Type} [SetpointValue ν]

/-! ## The limit -/

/-- The requests with commands. -/
def isControl : FunctionCodes → Bool
  | .select | .operate | .directOperate | .directOperateNoAck => true
  | _ => false

/-- What `SwitchOnFunction` calls for a request with commands. -/
def handleControls (env : Environment ρ υ) (arRequest : APDU) (aSeqInfo : SequenceInfo) :
    M ν ρ Unit :=
  match arRequest.getFunction with
  | .select => handleSelect env arRequest aSeqInfo
  | .operate => handleOperate env arRequest aSeqInfo
  | _ => handleDirectOperate env arRequest aSeqInfo

/-- A command has been answered with `TOO_MANY_OPS`. -/
def Refuses (f : OutAPDU (List Byte)) : Prop :=
  ∃ b ∈ f.blocks, ∃ a ∈ b.objects, a.2.getLast? = some CommandStatus.tooManyOps.toByte

instance (f : OutAPDU (List Byte)) : Decidable (Refuses f) :=
  inferInstanceAs (Decidable (∃ b ∈ f.blocks, ∃ a ∈ b.objects, _ = _))

/-- **The limit is kept**: `Select` and `Operate`, each of which reads the clock once, have not been
called for more commands than the limit, and when a command of a `SELECT` has been refused, no point
is selected. -/
structure KeepsLimit (r : APDU) (s t : Slave ν ρ) : Prop where
  calls : t.timesRead ≤ s.timesRead + s.mConfig.mMaxControls
  select : r.getFunction = .select → Refuses t.mResponse →
    ∀ aType i info, t.mpCmdMaster.mMap aType i = some info → info.mIsSelected = false

/-- The command is for a point that can be selected. -/
def Selectable (m : DNPCommandMaster ν) (it : ObjectReadIterator) : Prop :=
  ∃ aType info, commandType it = some aType ∧ m.mMap aType it.mIndex = some info ∧
    info.mMode ≠ .doOnly

/-- **What the limit asks of a request.**  It is a repeated `OPERATE`; or the commands of its
headers that there is room for, and one more where there is no room for all, are not more than the
limit when each header is cut off at the limit, and if it is a `SELECT`, no header goes beyond the
limit or none of the points can be selected. -/
def WithinLimit (r : APDU) (aSeqInfo : SequenceInfo) (s : Slave ν ρ) : Prop :=
  let l := handled (s.mResponse.mMaxSize - 4) r.mObjectHeaders
  r.getFunction = .operate ∧ aSeqInfo = .prev ∧ s.mLastRequest = r.mBuffer ∨
  (passed r s.mConfig.mMaxControls l).length ≤ s.mConfig.mMaxControls ∧
    (r.getFunction = .select →
      (∀ x ∈ l, min x.header.mCount x.room ≤ s.mConfig.mMaxControls) ∨
        ∀ it ∈ passed r s.mConfig.mMaxControls l, ¬Selectable s.mpCmdMaster it)

/-! ## Refused commands -/

theorem toByte_eq_tooManyOps {st : CommandStatus} :
    st.toByte = CommandStatus.tooManyOps.toByte ↔ st = .tooManyOps := by
  cases st <;> decide

/-- The objects that are left are numbered. -/
theorem map_num_walk {r : APDU} {h : HeaderInfo} {k n : ℕ} {it : ObjectReadIterator}
    (hat : it.At r h k)
    (hacc : h.Accepted)
    (hstep : ObjectReadIterator.Steppable (hasData r.getFunction) h.mObjectBase.getType)
    (hn : k + n = h.mCount) : (it.walk n).map (·.mCurrentObjectNum) = List.range' k n := by
  induction n generalizing it k with
  | zero => rfl
  | succ n ih =>
    obtain ⟨it', hnext, hat'⟩ := hat.next hacc hstep (by omega)
    rw [ObjectReadIterator.walk, hnext, List.map_cons, List.range'_succ, hat.num]
    exact congrArg (k :: ·) (ih hat' (by omega))

theorem map_num_objects {r : APDU} {h : HeaderInfo} {o : CommandObject} (hh : Readable h)
    (hget : CommandObject.get h.radix = some o) :
    (r.objects h).map (·.mCurrentObjectNum) = List.range h.mCount := by
  obtain ⟨it, hit, hat⟩ := ObjectReadIterator.at_beginRead (r := r) hh.accepted
  rw [APDU.objects, hit, List.range_eq_range']
  exact map_num_walk hat hh.accepted (CommandObject.steppable_of_get hget hh.accepted _)
    (Nat.zero_add _)

/-- **A command is refused exactly if a header has more commands in the response than the
limit.** -/
theorem Reached.refuses_iff {r : APDU} {aMax : ℕ} {S : CommandStatus → Prop}
    {I : List ObjectReadIterator → Slave ν ρ → Prop} {l : List ObjectReadIterator}
    {f : OutAPDU (List Byte)}
    {hs : List HeaderInfo} {t : Slave ν ρ} (ht : Reached r aMax S I l f hs t) (hf : f.blocks = [])
    (hall : ∀ h ∈ hs, Readable h) (hS : ∀ st, S st → st ≠ .tooManyOps) :
    Refuses t.mResponse ↔ ∃ x ∈ handled f.remainder hs, aMax < min x.header.mCount x.room := by
  obtain ⟨bs, hbs, hblocks⟩ := ht.blocks
  have hblock : ∀ x ∈ (handled f.remainder hs).filter (0 < ·.room), ∀ b, BlockOf ν r aMax S x b →
      ((∃ a ∈ b.objects, a.2.getLast? = some CommandStatus.tooManyOps.toByte) ↔
        aMax < min x.header.mCount x.room) := by
    intro x hx b hb
    obtain ⟨hmem, hget⟩ := mem_handled (List.mem_of_mem_filter hx)
    have hnums := map_num_objects (r := r) (hall _ hmem) hget
    rw [exists_mem_iff_of_forall₂ (Q := fun it ↦ aMax < it.mCurrentObjectNum + 1) hb.objects]
    · have hrange : ((r.objects x.header).take x.room).map (·.mCurrentObjectNum) =
          List.range (min x.room x.header.mCount) := by
        rw [List.map_take, hnums, List.take_range]
      constructor
      · rintro ⟨it, hit, hmany⟩
        have hlt := List.mem_range.mp (hrange ▸ List.mem_map_of_mem hit)
        omega
      · intro hmany
        have hmem : aMax ∈ ((r.objects x.header).take x.room).map (·.mCurrentObjectNum) := by
          rw [hrange, List.mem_range]
          omega
        obtain ⟨it, hit, hnum⟩ := List.mem_map.mp hmem
        exact ⟨it, hit, by omega⟩
    · rintro it - a ⟨st, rfl, hst⟩
      have hlast : (echo ν x.object it st).2.getLast? = some st.toByte := List.getLast?_concat ..
      rw [hlast, Option.some_inj, toByte_eq_tooManyOps]
      split at hst
      · next hmany => exact ⟨fun _ ↦ hmany, fun _ ↦ hst⟩
      · next hfew => exact ⟨fun heq ↦ absurd heq (hS st hst), fun hmany ↦ absurd hmany hfew⟩
  rw [Refuses, hbs, hf, List.nil_append, exists_mem_iff_of_forall₂ hblocks hblock]
  constructor
  · rintro ⟨x, hx, hmany⟩
    exact ⟨x, List.mem_of_mem_filter hx, hmany⟩
  · rintro ⟨x, hx, hmany⟩
    exact ⟨x, List.mem_filter.mpr ⟨hx, by simp; omega⟩, hmany⟩

/-! ## Commands that are passed on -/

/-- The commands have been passed on, each with one look at the clock. -/
structure Counts (s : Slave ν ρ) (l : List ObjectReadIterator) (t : Slave ν ρ) : Prop where
  config : t.mConfig = s.mConfig
  timesRead : t.timesRead = s.timesRead + l.length

theorem handles_operate (env : Environment ρ υ) (aSeqInfo : SequenceInfo) (aSeqNum : ℕ)
    (aDirect : Bool) (s : Slave ν ρ) :
    Handles s.mConfig.mMaxControls
      (fun hdr aType val index ↦
        operate env aType (commandRequestInfo val hdr aSeqInfo aSeqNum) aDirect index)
      (fun _ ↦ True) (Counts s) where
  config _ _ h := congrArg SlaveConfig.mMaxControls h.config
  response _ _ _ h := ⟨h.config, h.timesRead⟩
  rspIIN _ _ _ h := ⟨h.config, h.timesRead⟩
  func l t it o val _ h := by
    refine wp_mono (wp_operate env o.type _ aDirect it.mIndex t) (fun _ u hu ↦ ?_) fun _ _ he ↦ he
    obtain ⟨n, m, iin, acts, rfl, -⟩ := hu
    refine ⟨trivial, rfl, h.config, ?_⟩
    rw [List.length_append, ← Nat.add_assoc, ← h.timesRead]
    rfl

omit [SetpointValue ν] in
/-- `Select` selects the point, unless it is operated directly only, and leaves the others as they
are. -/
theorem mMap_select (m : DNPCommandMaster ν) (aType : CommandTypes) (aCmd : CommandRequestInfo ν)
    (aIndex : ℕ)
    (aNow : Int) (t : CommandTypes) (i : ℕ) : (m.select aType aCmd aIndex aNow).2.mMap t i =
      (m.mMap t i).map fun info ↦ if info.mMode ≠ .doOnly ∧ aType = t ∧ aIndex = i then { info with
        mSelectTime := aNow
        mIsSelected := true
        mSelectSequence := aCmd.seqAPDU
        mRequest := aCmd } else info := by
  by_cases hpoint : aType = t ∧ aIndex = i
  · obtain ⟨rfl, rfl⟩ := hpoint
    rw [DNPCommandMaster.select]
    cases hinfo : m.mMap aType aIndex with
    | none => exact hinfo
    | some info =>
      dsimp only
      by_cases hmode : info.mMode = .doOnly
      · rw [if_pos hmode, hinfo, Option.map_some, if_neg fun h ↦ h.1 hmode]
      · rw [if_neg hmode, Option.map_some, if_pos ⟨hmode, rfl, rfl⟩, DNPCommandMaster.setInfo]
        exact if_pos ⟨rfl, rfl⟩
  · have hsame : (m.select aType aCmd aIndex aNow).2.mMap t i = m.mMap t i := by
      rw [DNPCommandMaster.select]
      split
      · rfl
      · split
        · rfl
        · exact if_neg fun h ↦ hpoint ⟨h.1.symm, h.2.symm⟩
    rw [hsame]
    cases m.mMap t i with
    | none => rfl
    | some info => rw [Option.map_some, if_neg fun h ↦ hpoint h.2]

/-- The commands have been passed on, and the points of those that can be selected are selected. -/
structure Selects (s : Slave ν ρ) (l : List ObjectReadIterator) (t : Slave ν ρ) :
    Prop extends Counts s l t where
  modes : ∀ aType i, (t.mpCmdMaster.mMap aType i).map (·.mMode) = (s.mpCmdMaster.mMap aType i).map
    (·.mMode)
  selected : ∀ aType i info, t.mpCmdMaster.mMap aType i = some info →
    (info.mIsSelected = true ↔ info.mMode ≠ .doOnly ∧ ∃ it ∈ l, commandType it = some aType ∧
      it.mIndex = i)

omit [SetpointValue ν] in
theorem handles_select (env : Environment ρ υ) (aSeqInfo : SequenceInfo) (aSeqNum : ℕ)
    (s : Slave ν ρ) :
    Handles s.mConfig.mMaxControls
      (fun hdr aType val index ↦ select env aType
        (commandRequestInfo val hdr aSeqInfo aSeqNum) index)
      (· ≠ .tooManyOps) (Selects s) where
  config _ _ h := congrArg SlaveConfig.mMaxControls h.config
  response _ _ _ h := ⟨⟨h.config, h.timesRead⟩, h.modes, h.selected⟩
  rspIIN _ _ _ h := ⟨⟨h.config, h.timesRead⟩, h.modes, h.selected⟩
  func l t it o val hget h := by
    have htype : commandType it = some o.type := by rw [commandType, hget]; rfl
    refine wp_mono (wp_select env o.type _ it.mIndex t) (fun st u hu ↦ ?_) fun _ _ he ↦ he
    obtain ⟨hst, iin, rfl⟩ := hu
    have hcounts : Counts s (l ++ [it]) { t with timesRead := t.timesRead + 1 } := by
      refine ⟨h.config, ?_⟩
      rw [List.length_append, ← Nat.add_assoc, ← h.timesRead]
      rfl
    refine ⟨hst, rfl, ⟨hcounts.config, hcounts.timesRead⟩, fun aType i ↦ ?_,
      fun aType i info hinfo ↦ ?_⟩
    · rw [mMap_select, ← h.modes aType i, Option.map_map]
      congr 1
      funext info
      show CommandInfo.mMode (ite _ _ _) = _
      split <;> rfl
    · rw [mMap_select] at hinfo
      obtain ⟨old, hold, heq⟩ := Option.map_eq_some_iff.mp hinfo
      have hselected := h.selected aType i old hold
      split at heq
      · next hpoint =>
        obtain ⟨hmode, rfl, rfl⟩ := hpoint
        rw [← heq]
        exact ⟨fun _ ↦ ⟨hmode, it, List.mem_append_right l (List.mem_singleton.mpr rfl), htype,
          rfl⟩, fun _ ↦ rfl⟩
      · next hpoint =>
        rw [← heq, hselected]
        refine and_congr_right fun hmode ↦
          ⟨fun ⟨j, hj, hother⟩ ↦ ⟨j, List.mem_append_left _ hj, hother⟩, ?_⟩
        rintro ⟨j, hj, hother⟩
        rcases List.mem_append.mp hj with hj | hj
        · exact ⟨j, hj, hother⟩
        · rw [List.mem_singleton.mp hj, htype] at hother
          exact absurd ⟨hmode, Option.some.inj hother.1, hother.2⟩ hpoint

/-! ## The limit, exactly -/

variable {env : Environment ρ υ} {r : APDU} {s : Slave ν ρ}

/-- How far a request gets, whether it ends or is stopped by an exception. -/
theorem Handles.reached {aMax : ℕ}
    {arFunc : HeaderInfo → CommandTypes → Command ν → ℕ → M ν ρ CommandStatus}
    {S : CommandStatus → Prop}
    {I : List ObjectReadIterator → Slave ν ρ → Prop} (hH : Handles aMax arFunc S I)
    (hdata : hasData r.getFunction = true) (hall : ∀ h ∈ r.mObjectHeaders, Readable h)
    (hI : I [] s) :
    Reached r aMax S I [] (s.mResponse.set .response true true false false) r.mObjectHeaders
      (exec (forEachCommand r arFunc) s).1 :=
  exec_of_wp (Q := fun t _ ↦ Reached r aMax S I [] (s.mResponse.set .response true true false false)
    r.mObjectHeaders t)
      (wp_mono (hH.wp_forEachCommand hdata hall hI) (fun _ _ h ↦ h.2) fun _ _ h ↦ h.2.2)

theorem hasData_of_isControl {f : FunctionCodes} (h : isControl f = true) : hasData f = true := by
  revert h
  cases f <;> decide

/-- The calls of `Operate` keep the limit if the commands that are passed on do. -/
theorem keepsLimit_operate_iff (hdata : hasData r.getFunction = true)
    (hall : ∀ h ∈ r.mObjectHeaders, Readable h)
    (hselect : r.getFunction ≠ .select) (aSeqInfo : SequenceInfo) (aDirect : Bool) (t : Slave ν ρ)
    (ht : t.timesRead = s.timesRead ∧ t.mConfig = s.mConfig ∧ t.mResponse = s.mResponse) :
    KeepsLimit r s (exec (forEachCommand r fun hdr aType val index ↦
        operate env aType (commandRequestInfo val hdr aSeqInfo r.getControl.seq) aDirect index)
          t).1 ↔
      (passed r s.mConfig.mMaxControls
        (handled (s.mResponse.mMaxSize - 4) r.mObjectHeaders)).length ≤
        s.mConfig.mMaxControls := by
  have hreached := (handles_operate env aSeqInfo r.getControl.seq aDirect t).reached hdata hall
    ⟨rfl, rfl⟩
  have hcalls := hreached.passed.timesRead
  rw [List.nil_append, ht.1, ht.2.1, ht.2.2] at hcalls
  constructor
  · intro h
    have hle := h.calls
    rw [hcalls] at hle
    exact Nat.le_of_add_le_add_left hle
  · intro h
    refine ⟨?_, fun hf ↦ absurd hf hselect⟩
    rw [hcalls]
    exact Nat.add_le_add_left h _

omit [SetpointValue ν] in
/-- No point is selected exactly if none of those that a command was passed on for can be. -/
theorem Selects.none_iff {l : List ObjectReadIterator} {t : Slave ν ρ} (h : Selects s l t) :
    (∀ aType i info, t.mpCmdMaster.mMap aType i = some info → info.mIsSelected = false) ↔
      ∀ it ∈ l, ¬Selectable s.mpCmdMaster it := by
  constructor
  · rintro hnone it hit ⟨aType, old, htype, hold, hmode⟩
    have hmodes := h.modes aType it.mIndex
    rw [hold, Option.map_some] at hmodes
    obtain ⟨info, hinfo, hmode'⟩ := Option.map_eq_some_iff.mp hmodes
    have hselected := (h.selected aType it.mIndex info hinfo).mpr
      ⟨hmode' ▸ hmode, it, hit, htype, rfl⟩
    exact Bool.false_ne_true ((hnone aType it.mIndex info hinfo).symm.trans hselected)
  · intro hnone aType i info hinfo
    refine Bool.eq_false_iff.mpr fun hselected ↦ ?_
    obtain ⟨hmode, it, hit, htype, rfl⟩ := (h.selected aType i info hinfo).mp hselected
    have hmodes := h.modes aType it.mIndex
    rw [hinfo, Option.map_some] at hmodes
    obtain ⟨old, hold, hmode'⟩ := Option.map_eq_some_iff.mp hmodes.symm
    exact hnone it hit ⟨aType, old, htype, hold, hmode' ▸ hmode⟩

omit [SetpointValue ν] in
/-- All points are deselected before the first command of a `SELECT`. -/
theorem selects_deselectAll (s : Slave ν ρ) :
    Selects { s with mpCmdMaster := s.mpCmdMaster.deselectAll } []
      { s with mpCmdMaster := s.mpCmdMaster.deselectAll } := by
  refine ⟨⟨rfl, rfl⟩, fun _ _ ↦ rfl, fun aType i info hinfo ↦ ?_⟩
  obtain ⟨old, -, rfl⟩ := Option.map_eq_some_iff.mp hinfo
  simp

omit [SetpointValue ν] in
theorem selectable_deselectAll (m : DNPCommandMaster ν) (it : ObjectReadIterator) :
    Selectable m.deselectAll it ↔ Selectable m it := by
  constructor
  · rintro ⟨aType, info, htype, hinfo, hmode⟩
    obtain ⟨old, hold, rfl⟩ := Option.map_eq_some_iff.mp hinfo
    exact ⟨aType, old, htype, hold, hmode⟩
  · rintro ⟨aType, info, htype, hinfo, hmode⟩
    exact ⟨aType, _, htype, Option.map_eq_some_iff.mpr ⟨info, hinfo, rfl⟩, hmode⟩

/-- What `SELECT` leaves selected. -/
theorem keepsLimit_select_iff (hdata : hasData r.getFunction = true)
    (hall : ∀ h ∈ r.mObjectHeaders, Readable h)
    (hselect : r.getFunction = .select) (aSeqInfo : SequenceInfo) :
    KeepsLimit r s (exec (handleSelect env r aSeqInfo) s).1 ↔
      (passed r s.mConfig.mMaxControls
        (handled (s.mResponse.mMaxSize - 4) r.mObjectHeaders)).length ≤
        s.mConfig.mMaxControls ∧
      ((∀ x ∈ handled (s.mResponse.mMaxSize - 4) r.mObjectHeaders,
          min x.header.mCount x.room ≤ s.mConfig.mMaxControls) ∨
        ∀ it ∈ passed r s.mConfig.mMaxControls
          (handled (s.mResponse.mMaxSize - 4) r.mObjectHeaders), ¬Selectable s.mpCmdMaster it) := by
  have hreached := (handles_select env aSeqInfo r.getControl.seq
    { s with mpCmdMaster := s.mpCmdMaster.deselectAll }).reached hdata hall (selects_deselectAll s)
  have hexec : exec (handleSelect env r aSeqInfo) s = exec
      (forEachCommand r fun hdr aType val index ↦
      select env aType (commandRequestInfo val hdr aSeqInfo r.getControl.seq) index)
      { s with mpCmdMaster := s.mpCmdMaster.deselectAll } := rfl
  rw [hexec]
  revert hreached
  generalize (exec (forEachCommand r fun hdr aType val index ↦
      select env aType (commandRequestInfo val hdr aSeqInfo r.getControl.seq) index)
      { s with mpCmdMaster := s.mpCmdMaster.deselectAll }).1 = t
  intro hreached
  have hrefuses := hreached.refuses_iff rfl hall fun _ h ↦ h
  have hpassed := hreached.passed
  rw [List.nil_append] at hpassed
  have hnone := hpassed.none_iff
  simp only [selectable_deselectAll] at hnone
  constructor
  · intro h
    have hle := h.calls
    rw [hpassed.timesRead] at hle
    refine ⟨Nat.le_of_add_le_add_left hle, ?_⟩
    by_cases hwithin : ∀ x ∈ handled (s.mResponse.mMaxSize - 4) r.mObjectHeaders,
        min x.header.mCount x.room ≤ s.mConfig.mMaxControls
    · exact .inl hwithin
    · refine .inr (hnone.mp (h.select hselect (hrefuses.mpr ?_)))
      simp only [not_forall, Nat.not_le] at hwithin
      obtain ⟨x, hx, hmany⟩ := hwithin
      exact ⟨x, hx, hmany⟩
  · rintro ⟨hle, hwithin⟩
    refine ⟨?_, fun _ hrefused ↦ ?_⟩
    · rw [hpassed.timesRead]
      exact Nat.add_le_add_left hle _
    · obtain ⟨x, hx, hmany⟩ := hrefuses.mp hrefused
      exact hnone.mpr (hwithin.resolve_left fun hall ↦ Nat.not_lt.mpr (hall x hx) hmany)

/-- **The limit is kept exactly by the requests that are within it.** -/
theorem keepsLimit_iff {apData : List Byte} (hr : APDU.interpret apData = .ok r)
    (hcontrol : isControl r.getFunction = true) (aSeqInfo : SequenceInfo) :
    KeepsLimit r s (exec (handleControls env r aSeqInfo) s).1 ↔ WithinLimit r aSeqInfo s := by
  have hdata := hasData_of_isControl hcontrol
  have hall := readable_of_interpret hr
  have hdirect (hselect : r.getFunction ≠ .select) (hoperate : r.getFunction ≠ .operate) :
      KeepsLimit r s (exec (handleDirectOperate env r aSeqInfo) s).1 ↔
        WithinLimit r aSeqInfo s := by
    refine (keepsLimit_operate_iff hdata hall hselect aSeqInfo true s ⟨rfl, rfl, rfl⟩).trans ?_
    simp [WithinLimit, hselect, hoperate]
  unfold handleControls
  cases hf : r.getFunction with
  | select =>
    refine (keepsLimit_select_iff hdata hall hf aSeqInfo).trans ?_
    simp [WithinLimit, hf]
  | operate =>
    have hselect : r.getFunction ≠ .select := by
      rw [hf]
      decide
    have hexec : exec (handleOperate env r aSeqInfo : M ν ρ Unit) s =
        if aSeqInfo = .prev ∧ s.mLastRequest = r.mBuffer then (s, none)
        else exec (forEachCommand r fun hdr aType (val : Command ν) index ↦
          operate env aType (commandRequestInfo val hdr aSeqInfo r.getControl.seq) false index)
          { s with history := s.history ++ [⟨s.executing, s.connection, .perform .operate⟩] } := by
      change exec (ite _ _ _) s = _
      split <;> rfl
    dsimp only
    rw [hexec]
    by_cases hrepeat : aSeqInfo = .prev ∧ s.mLastRequest = r.mBuffer
    · rw [if_pos hrepeat]
      exact ⟨fun _ ↦ .inl ⟨hf, hrepeat⟩, fun _ ↦ ⟨Nat.le_add_right _ _, fun h ↦ absurd h hselect⟩⟩
    · rw [if_neg hrepeat]
      refine (keepsLimit_operate_iff (s := s) hdata hall hselect aSeqInfo false
        { s with history := s.history ++ [⟨s.executing, s.connection, .perform .operate⟩] }
        ⟨rfl, rfl, rfl⟩).trans ?_
      simp [WithinLimit, hf, hrepeat]
  | directOperate => exact hdirect (by rw [hf]; decide) (by rw [hf]; decide)
  | directOperateNoAck => exact hdirect (by rw [hf]; decide) (by rw [hf]; decide)
  | _ =>
    rw [hf] at hcontrol
    exact absurd hcontrol (by decide)

/-! ### Requests -/

/-- A `SELECT` of the control. -/
def selectOne : List Byte := [0xC0, 3, 12, 1, 0x17, 1, 0, 3, 1, 100, 0, 0, 0, 100, 0, 0, 0, 0]

/-- One command is within a limit of one. -/
theorem keepsLimit_selectOne : ∃ r, APDU.interpret selectOne = .ok r ∧
    KeepsLimit r twoPointSlave (exec (handleControls accepting r .other) twoPointSlave).1 := by
  obtain ⟨r, hr⟩ : ∃ r, APDU.interpret selectOne = .ok r := ⟨_, rfl⟩
  have heval : (APDU.interpret selectOne).toOption.all (fun r ↦ isControl r.getFunction = true ∧
      (passed r 1 (handled 2044 r.mObjectHeaders)).length ≤ 1 ∧
      ∀ x ∈ handled 2044 r.mObjectHeaders, min x.header.mCount x.room ≤ 1) = true := by
    decide +kernel
  rw [hr] at heval
  obtain ⟨hcontrol, hlen, hfew⟩ := of_decide_eq_true heval
  exact ⟨r, hr, (keepsLimit_iff hr hcontrol .other).mpr (.inr ⟨hlen, fun _ ↦ .inl hfew⟩)⟩

/-- A `SELECT` with two commands behind one header, and one behind another. -/
def selectThree : List Byte :=
  [0xC0, 3, 12, 1, 0x17, 2, 0, 3, 1, 100, 0, 0, 0, 100, 0, 0, 0, 0, 0, 3, 1, 100, 0, 0, 0, 100, 0,
    0, 0, 0, 12, 1, 0x17, 1, 0, 3, 1, 100, 0, 0, 0, 100, 0, 0, 0, 0]

/-- **Two commands pass a limit of one, and a point stays selected** although a command has been
refused. -/
theorem exceeds_limit : ∃ r, APDU.interpret selectThree = .ok r ∧ r.getFunction = .select ∧
    twoPointSlave.mConfig.mMaxControls = 1 ∧
    (exec (handleControls accepting r .other) twoPointSlave).1.timesRead =
    twoPointSlave.timesRead + 2 ∧
    Refuses (exec (handleControls accepting r .other) twoPointSlave).1.mResponse ∧
    ((exec (handleControls accepting r .other) twoPointSlave).1.mpCmdMaster.mMap
      .binaryOutput 0).any
      (·.mIsSelected) = true ∧
    ¬KeepsLimit r twoPointSlave (exec (handleControls accepting r .other) twoPointSlave).1 := by
  obtain ⟨r, hr⟩ : ∃ r, APDU.interpret selectThree = .ok r := ⟨_, rfl⟩
  have heval : (APDU.interpret selectThree).toOption.all (fun r ↦ r.getFunction = .select ∧
      (exec (handleControls accepting r .other) twoPointSlave).1.timesRead =
        twoPointSlave.timesRead + 2 ∧
      Refuses (exec (handleControls accepting r .other) twoPointSlave).1.mResponse ∧
      ((exec (handleControls accepting r .other) twoPointSlave).1.mpCmdMaster.mMap
        .binaryOutput 0).any
        (·.mIsSelected) = true) = true := by
    decide +kernel
  rw [hr] at heval
  obtain ⟨hselect, hcalls, hrefuses, hselected⟩ := of_decide_eq_true heval
  refine ⟨r, hr, hselect, rfl, hcalls, hrefuses, hselected, fun h ↦ ?_⟩
  have hle := h.calls
  rw [hcalls] at hle
  exact absurd hle (by decide)

end Slave

end OpenDNP3
