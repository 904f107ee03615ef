import Mathlib.Data.List.Forall2
import OpenDNP3.App.Pieces
import OpenDNP3.Slave.Controls
import OpenDNP3.Slave.Repeats

/-!
# The response to a request with commands

A master that sends commands learns from the response what has become of each.  As the commands are
executed while the response is written, whether there is a response at all depends on its size and
on the qualifiers of the request, and what has been executed before the writer throws is never
reported.

* `Slave.Mirrors` — the response has a block for each header, and in it each command with a status.
* `Slave.AnswersControls` — a response that mirrors the request is sent, and reports what has been
  executed.
* `Slave.answersControls_iff` — **exactly which requests are answered so**.
-/

set_option autoImplicit false

namespace OpenDNP3

open Handler

namespace Slave

variable {ν ρ υ : Type} [SetpointValue ν]

/-! ## Responses -/

/-- The block is one for the header: the same object and qualifier, and the commands of the header
in their order, each with its index and a status. -/
structure Mirrored (ν : Type) [SetpointValue ν] (r : APDU) (h : HeaderInfo)
    (b : Block (List Byte)) : Prop where
  group : b.group = h.mGroup
  variation : b.variation = h.mVariation
  qualifier : b.qualifier = h.mQualifier
  objects : ∃ o, CommandObject.get h.radix = some o ∧
    List.Forall₂ (fun it a ↦ ∃ aStatus, a = echo ν o it aStatus) (r.objects h) b.objects

/-- **The response mirrors the request.** -/
def Mirrors (ν : Type) [SetpointValue ν] (f : OutAPDU (List Byte)) (r : APDU) : Prop :=
  List.Forall₂ (Mirrored ν r) r.mObjectHeaders f.blocks

/-- The response has a command of this type for the point. -/
def ReportsCommand (f : OutAPDU (List Byte)) (aType : CommandTypes) (aIndex : ℕ) : Prop :=
  ∃ b ∈ f.blocks, (CommandObject.get (radix b.group b.variation)).map (·.type) = some aType ∧
    ∃ a ∈ b.objects, a.1 = aIndex

/-- **A request with commands is answered**: the response is sent, it mirrors the request, and it
reports what has been executed. -/
structure AnswersControls (r : Request) (s t : Slave ν ρ) : Prop where
  sent : ⟨r.number, s.connection, .respond⟩ ∈ t.history.drop s.history.length
  mirrors : Mirrors ν t.mResponse r.mRequest
  reported : ∀ aType i, ⟨r.number, s.connection, .execute aType i⟩ ∈ t.history.drop
    s.history.length →
    ReportsCommand t.mResponse aType i

/-- **There is room for the response**: each header is one of commands, under their own group and
variation and with a count, and finds room for all of them, and for one if it has none. -/
def RoomForAll : (aRemainder : ℕ) → List HeaderInfo → Prop
  | _, [] => True
  | rem, h :: hs => ∃ o, CommandObject.get h.radix = some o ∧ o.base.getGroup = h.mGroup ∧
      o.base.getVariation = h.mVariation ∧ h.mHeader.isCount = true ∧ 0 < room o h rem ∧
      h.mCount ≤ room o h rem ∧ RoomForAll (rem - blockSize o h rem) hs

/-- The channel has a sequence number for the response, as it has from the first request of a
connection on. -/
def CanSend (s : Slave ν ρ) (f : OutAPDU (List Byte)) : Prop :=
  f.Answers ∧ 0 ≤ AppLayer.sendSequence f (s.mpAppLayer.channel false).mSequence

/-- The request is taken for a repeated `OPERATE`. -/
def RepeatsOperate (s : Slave ν ρ) (r : Request) : Prop :=
  r.mRequest.getFunction = .operate ∧ r.mSeqInfo = .prev ∧ s.mLastRequest = r.mRequest.mBuffer

/-- **What it takes to be answered**: a repeated `OPERATE` is answered with the last response, and
all others with one that there has to be room for. -/
def Answerable (s : Slave ν ρ) (r : Request) : Prop :=
  RepeatsOperate s r ∧ CanSend s s.mResponse ∧ Mirrors ν s.mResponse r.mRequest ∨
    ¬RepeatsOperate s r ∧ 0 ≤ (s.mpAppLayer.channel false).mSequence ∧
      RoomForAll (s.mResponse.mMaxSize - 4) r.mRequest.mObjectHeaders

/-- The slave executes a request only when it is connected and does not wait for a response. -/
structure MayExecute (s : Slave ν ρ) : Prop where
  couples : Couples s.mpAppLayer s.mpState
  opened : s.mpState ≠ .closed
  waits : s.mpState.isResponding = false

/-! ## Room and completeness -/

theorem completes_of_roomForAll {rem : ℕ} {hs : List HeaderInfo} (h : RoomForAll rem hs) :
    Completes rem hs := by
  induction hs generalizing rem with
  | nil => trivial
  | cons hdr hs ih =>
    obtain ⟨o, hget, -, -, hcount, -, hfits, hrest⟩ := h
    rw [Completes, hget]
    exact ⟨hcount, hfits, ih hrest⟩

theorem length_handled_le (rem : ℕ) (hs : List HeaderInfo) :
    (handled rem hs).length ≤ hs.length := by
  induction hs generalizing rem with
  | nil => exact Nat.le_refl _
  | cons h hs ih =>
    rw [handled, List.length_cons]
    split
    · exact Nat.le_succ_of_le (ih rem)
    · split
      · rw [List.length_cons]
        split
        · exact Nat.succ_le_succ (ih _)
        · exact Nat.succ_le_succ (Nat.zero_le _)
      · exact Nat.zero_le _

/-- **A response that is complete mirrors the request exactly if there was room for all of it.** -/
theorem mirrors_iff {r : APDU} {aMax rem : ℕ} {S : CommandStatus → Prop} {hs : List HeaderInfo}
    {bs : List (Block (List Byte))} (hall : ∀ h ∈ hs, Readable h) (hcomplete : Completes rem hs)
    (hblocks : List.Forall₂ (BlockOf ν r aMax S) ((handled rem hs).filter (0 < ·.room)) bs) :
    List.Forall₂ (Mirrored ν r) hs bs ↔ RoomForAll rem hs := by
  induction hs generalizing rem bs with
  | nil =>
    rw [handled, List.filter_nil] at hblocks
    cases hblocks
    simp [RoomForAll]
  | cons h hs ih =>
    have hrest : ∀ x ∈ hs, Readable x := fun x hx ↦ hall x (List.mem_cons_of_mem h hx)
    rw [Completes] at hcomplete
    rw [handled] at hblocks
    cases hget : CommandObject.get h.radix with
    | none =>
      constructor
      · intro hm
        cases hm with
        | cons hm _ =>
          obtain ⟨o, ho, -⟩ := hm.objects
          exact absurd (ho.symm.trans hget) (by simp)
      · rintro ⟨o, ho, -⟩
        exact absurd (ho.symm.trans hget) (by simp)
    | some o =>
      rw [hget] at hcomplete hblocks
      obtain ⟨hcount, hfits, hcomplete⟩ := hcomplete
      dsimp only at hblocks
      rw [if_pos hcount, if_pos hfits, List.filter_cons] at hblocks
      by_cases hroom : room o h rem = 0
      · -- the header has no block, and the others have no more than one each
        rw [if_neg (by simp [hroom])] at hblocks
        have hle := List.length_filter_le (fun x : Handled ↦ decide (0 < x.room))
          (handled (rem - blockSize o h rem) hs)
        rw [hblocks.length_eq] at hle
        constructor
        · intro hm
          have hlen' := hm.length_eq
          rw [List.length_cons] at hlen'
          have := length_handled_le (rem - blockSize o h rem) hs
          omega
        · rintro ⟨o', ho, -, -, -, hpos, -⟩
          obtain rfl := Option.some.inj (ho.symm.trans hget)
          omega
      · rw [if_pos (by simp; omega)] at hblocks
        cases hblocks with
        | @cons _ b _ bs hb hblocks =>
          rw [List.forall₂_cons, ih hrest hcomplete hblocks, RoomForAll]
          constructor
          · rintro ⟨hm, hroomForAll⟩
            exact ⟨o, hget, hb.group.symm.trans hm.group,
              hb.variation.symm.trans hm.variation, hcount, Nat.pos_of_ne_zero hroom, hfits,
              hroomForAll⟩
          · rintro ⟨o', ho, hgroup, hvariation, -, -, -, hroomForAll⟩
            obtain rfl := Option.some.inj (ho.symm.trans hget)
            refine ⟨⟨hb.group.trans hgroup, hb.variation.trans hvariation, hb.qualifier, o', hget,
              ?_⟩, hroomForAll⟩
            have hobjects := hb.objects
            have hlen := length_objects (r := r) (hall h List.mem_cons_self) hget
            dsimp only at hobjects
            rw [List.take_of_length_le (by omega)] at hobjects
            refine hobjects.imp ?_
            rintro it a ⟨st, hst, -⟩
            exact ⟨st, hst⟩

/-! ## What is executed -/

/-- The commands have been passed on, and what has been executed is among them. -/
structure PassesOn (s : Slave ν ρ) (l : List ObjectReadIterator) (t : Slave ν ρ) : Prop where
  config : t.mConfig = s.mConfig
  app : t.mpAppLayer = s.mpAppLayer
  executing : t.executing = s.executing
  connection : t.connection = s.connection
  history : ∃ acts, t.history = s.history ++ acts ∧ ∀ e ∈ acts, ∃ it ∈ l, ∃ aType,
    commandType it = some aType ∧ e = ⟨s.executing, s.connection, .execute aType it.mIndex⟩

omit [SetpointValue ν] in
theorem handles_passesOn_select (env : Environment ρ υ) (aSeqInfo : SequenceInfo) (aSeqNum : ℕ)
    (s : Slave ν ρ) :
    Handles s.mConfig.mMaxControls
      (fun hdr aType val index ↦ select env aType
        (commandRequestInfo val hdr aSeqInfo aSeqNum) index)
      (fun _ ↦ True) (PassesOn s) where
  config _ _ h := congrArg SlaveConfig.mMaxControls h.config
  response _ _ _ h := ⟨h.config, h.app, h.executing, h.connection, h.history⟩
  rspIIN _ _ _ h := ⟨h.config, h.app, h.executing, h.connection, h.history⟩
  func l t it o val _ h := by
    refine wp_mono (wp_select env o.type _ it.mIndex t) (fun st u hu ↦ ?_) fun _ _ he ↦ he
    obtain ⟨-, iin, rfl⟩ := hu
    refine ⟨trivial, rfl, h.config, h.app, h.executing, h.connection, ?_⟩
    obtain ⟨acts, hacts, hall⟩ := h.history
    refine ⟨acts, hacts, fun e he ↦ ?_⟩
    obtain ⟨j, hj, hother⟩ := hall e he
    exact ⟨j, List.mem_append_left _ hj, hother⟩

theorem handles_passesOn_operate (env : Environment ρ υ) (aSeqInfo : SequenceInfo) (aSeqNum : ℕ)
    (aDirect : Bool) (s : Slave ν ρ) :
    Handles s.mConfig.mMaxControls
      (fun hdr aType val index ↦
        operate env aType (commandRequestInfo val hdr aSeqInfo aSeqNum) aDirect index)
      (fun _ ↦ True) (PassesOn s) where
  config _ _ h := congrArg SlaveConfig.mMaxControls h.config
  response _ _ _ h := ⟨h.config, h.app, h.executing, h.connection, h.history⟩
  rspIIN _ _ _ h := ⟨h.config, h.app, h.executing, h.connection, h.history⟩
  func l t it o val hget h := by
    have htype : commandType it = some o.type := by rw [commandType, hget]; rfl
    refine wp_mono (wp_operate env o.type _ aDirect it.mIndex t) (fun _ u hu ↦ ?_) fun _ _ he ↦ he
    obtain ⟨n, m, iin, new, rfl, hnew⟩ := hu
    refine ⟨trivial, rfl, h.config, h.app, h.executing, h.connection, ?_⟩
    obtain ⟨acts, hacts, hall⟩ := h.history
    refine ⟨acts ++ new, ?_, fun e he ↦ ?_⟩
    · rw [← List.append_assoc, ← hacts]
    · rcases List.mem_append.mp he with he | he
      · obtain ⟨j, hj, hother⟩ := hall e he
        exact ⟨j, List.mem_append_left _ hj, hother⟩
      · refine ⟨it, List.mem_append_right _ (List.mem_singleton.mpr rfl), o.type, htype, ?_⟩
        rw [hnew e he, h.executing, h.connection]

/-! ## Sending the response -/

/-- **An idle channel of an outstation sends a response**, if it has been configured as one and
there is a sequence number for it, and else it throws. -/
theorem wp_sendResponse_iff {ω : Type} {a : AppLayer ω} {f : OutAPDU ω}
    (hup : a.mIsLowerLayerUp = true) (hm : a.isMaster = false)
    (hidle : (a.channel false).mpState = .idle) :
    wp (AppLayer.sendResponse f)
      (fun _ _ ↦ f.Answers ∧ 0 ≤ AppLayer.sendSequence f (a.channel false).mSequence)
      (fun e _ ↦ ¬(f.Answers ∧ 0 ≤ AppLayer.sendSequence f (a.channel false).mSequence) ∧
        Escapes e) a := by
  simp only [AppLayer.sendResponse, AppLayer.validate, wp_bind, wp_get, wp_ensure, hup, hm, if_true,
    implies_true, Bool.false_eq_true, false_implies]
  by_cases huns : false = f.control.uns
  · rw [if_pos huns]
    cases hfunc : f.function with
    | none =>
      rw [AppLayer.getFunction, hfunc]
      refine ⟨fun h ↦ ?_, fun m hm ↦ Exception.noConfusion hm⟩
      exact absurd (hfunc.symm.trans h.1.1) (by simp)
    | some func =>
      rw [AppLayer.getFunction, hfunc]
      by_cases hresponse : func = .response
      · subst hresponse
        simp only [wp_lift_ok, if_true]
        refine AppLayer.wp_sendOn_cases hfunc (fun hbusy ↦ absurd hidle hbusy) (fun st _ hst ↦ ?_)
          fun e _ he ↦ ?_
        · exact ⟨⟨hfunc, huns.symm⟩, AppLayer.sendSequence_nonneg_of_nextState hfunc hst⟩
        · rw [AppLayer.nextState] at he
          repeat' split at he
          · next hneg =>
            obtain rfl := Except.error.inj he
            exact ⟨fun h ↦ absurd h.2 (by omega), fun m hm ↦ Exception.noConfusion hm⟩
          · contradiction
          · contradiction
      · simp only [wp_lift_ok, if_neg hresponse]
        refine ⟨fun h ↦ ?_, fun m hm ↦ Exception.noConfusion hm⟩
        exact hresponse (Option.some.inj (hfunc.symm.trans h.1.1))
  · rw [if_neg huns]
    exact ⟨fun h ↦ huns h.1.2.symm, fun m hm ↦ Exception.noConfusion hm⟩

omit [SetpointValue ν] in
/-- **A slave that does not wait for a response sends one if it can**, and else it throws. -/
theorem wp_send_iff {s : Slave ν ρ} (hup : s.mpAppLayer.mIsLowerLayerUp = true)
    (hm : s.mpAppLayer.isMaster = false) (hidle : (s.mpAppLayer.channel false).mpState = .idle) :
    wp (send : M ν ρ Unit)
      (fun _ t ↦ CanSend s s.mResponse ∧ t.mResponse.blocks = s.mResponse.blocks ∧
        t.history = s.history ++ [⟨s.executing, s.connection, .respond⟩])
      (fun e t ↦ ¬CanSend s s.mResponse ∧ Escapes e ∧ t.history = s.history) s := by
  simp only [send, setRspIIN, wp_bind, wp_get, wp_modify]
  generalize hiin : s.mRspIIN.bitwiseOR s.mIIN = iin
  by_cases hany : s.mResponse.function.any isResponse = true
  · have hset : s.mResponse.setIIN iin = .ok { s.mResponse with iin := iin } := by
      have hsome : s.mResponse.function.isSome = true := by
        cases hfunc : s.mResponse.function with
        | none => rw [hfunc] at hany; contradiction
        | some _ => rfl
      rw [OutAPDU.setIIN, hsome, hany]
      rfl
    simp only [hset, wp_lift_ok, onApp, wp_zoom, note, wp_modify]
    refine wp_mono (wp_sendResponse_iff hup hm hidle) (fun _ a ha ↦ ?_) fun e a he ↦ ?_
    · exact ⟨ha, trivial, trivial⟩
    · exact ⟨he.1, he.2, trivial⟩
  · have hset : ∃ c, s.mResponse.setIIN iin = .error (.assertion c) := by
      cases hfunc : s.mResponse.function with
      | none => exact ⟨_, by rw [OutAPDU.setIIN, hfunc]; rfl⟩
      | some func =>
        rw [hfunc] at hany
        refine ⟨"mpAppHeader->GetType() == AHT_RESPONSE", ?_⟩
        rw [OutAPDU.setIIN, hfunc, Bool.not_eq_true _ |>.mp hany]
        rfl
    obtain ⟨c, hset⟩ := hset
    rw [hset, wp_lift_error]
    refine ⟨fun h ↦ hany ?_, fun m hm ↦ Exception.noConfusion hm, rfl⟩
    rw [h.1.1]
    rfl

/-! ## What is reported -/

/-- A loop that gets to its end has found room for all commands. -/
theorem mCount_le_of_mem_handled {rem : ℕ} {hs : List HeaderInfo} (hcomplete : Completes rem hs)
    {x : Handled} (hx : x ∈ handled rem hs) : x.header.mCount ≤ x.room := by
  induction hs generalizing rem with
  | nil => exact absurd hx List.not_mem_nil
  | cons h hs ih =>
    rw [Completes] at hcomplete
    rw [handled] at hx
    split at hx
    · next hget =>
      rw [hget] at hcomplete
      exact ih hcomplete hx
    · next o hget =>
      rw [hget] at hcomplete
      obtain ⟨hcount, hfits, hcomplete⟩ := hcomplete
      rw [if_pos hcount, if_pos hfits] at hx
      rcases List.mem_cons.mp hx with rfl | hx
      · exact hfits
      · exact ih hcomplete hx

/-- The objects of a header are behind it. -/
theorem header_of_mem_objects {r : APDU} {h : HeaderInfo} {o : CommandObject} (hh : Readable h)
    (hget : CommandObject.get h.radix = some o) {it : ObjectReadIterator} (hit : it ∈ r.objects h) :
    it.mHeaderInfo = h := by
  obtain ⟨begin, hbegin, hat⟩ := ObjectReadIterator.at_beginRead (r := r) hh.accepted
  rw [APDU.objects, hbegin] at hit
  obtain ⟨-, hall⟩ :=
    hat.walk hh.accepted (CommandObject.steppable_of_get hget hh.accepted _) (Nat.zero_add _)
  obtain ⟨_, -, hat⟩ := hall it hit
  exact hat.header

/-- What is on the left-hand side has a counterpart. -/
theorem exists_of_forall₂ {α β : Type} {R : α → β → Prop} {l : List α} {l' : List β}
    (h : List.Forall₂ R l l') {a : α} (ha : a ∈ l) : ∃ b ∈ l', R a b := by
  induction h with
  | nil => exact absurd ha List.not_mem_nil
  | cons hab _ ih =>
    rcases List.mem_cons.mp ha with rfl | ha
    · exact ⟨_, List.mem_cons_self, hab⟩
    · obtain ⟨b, hb, hab⟩ := ih ha
      exact ⟨b, List.mem_cons_of_mem _ hb, hab⟩

/-- **When the loop gets to its end, all commands that have been passed on are in the response.** -/
theorem reportsCommand_of_passed {r : APDU} {aMax rem : ℕ} {S : CommandStatus → Prop}
    {hs : List HeaderInfo}
    {f : OutAPDU (List Byte)} (hall : ∀ h ∈ hs, Readable h) (hcomplete : Completes rem hs)
    (hblocks : List.Forall₂ (BlockOf ν r aMax S) ((handled rem hs).filter (0 < ·.room)) f.blocks)
    {it : ObjectReadIterator} (hit : it ∈ passed r aMax (handled rem hs)) {aType : CommandTypes}
    (htype : commandType it = some aType) : ReportsCommand f aType it.mIndex := by
  obtain ⟨x, hx, hit⟩ := List.mem_flatMap.mp hit
  have hit : it ∈ r.objects x.header := List.mem_of_mem_take (List.mem_of_mem_take hit)
  obtain ⟨hmem, hget⟩ := mem_handled hx
  have hfits := mCount_le_of_mem_handled hcomplete hx
  have hlen := length_objects (r := r) (hall _ hmem) hget
  have hroom : 0 < x.room := by
    have := List.length_pos_of_mem hit
    omega
  obtain ⟨b, hb, hof⟩ := exists_of_forall₂ hblocks (List.mem_filter.mpr ⟨hx, by simpa using hroom⟩)
  have hobjects := hof.objects
  rw [List.take_of_length_le (by omega)] at hobjects
  obtain ⟨a, ha, st, rfl, -⟩ := exists_of_forall₂ hobjects hit
  refine ⟨b, hb, ?_, _, ha, rfl⟩
  rw [hof.group, hof.variation, (CommandObject.mem_known_of_get hget).2, ← htype, commandType,
    header_of_mem_objects (hall _ hmem) hget hit]

/-! ## A request is answered -/

/-- A request is looked at, and none of its commands has been passed on. -/
structure Begun (r : Request) (s t : Slave ν ρ) : Prop where
  app : t.mpAppLayer = s.mpAppLayer
  executing : t.executing = r.number
  connection : t.connection = s.connection
  history : ∃ pre, t.history = s.history ++ pre ∧
    ∀ e ∈ pre, e.act ≠ .respond ∧ ∀ aType i, e.act ≠ .execute aType i

/-- The layer is one that a response can be passed to. -/
structure MaySend (a : AppLayer (List Byte)) : Prop where
  up : a.mIsLowerLayerUp = true
  outstation : a.isMaster = false
  idle : (a.channel false).mpState = .idle

variable {r : Request} {s t u v : Slave ν ρ} {l : List ObjectReadIterator}

omit [SetpointValue ν] in
/-- What has been done since the request came in. -/
theorem Begun.history_passesOn (hs : Begun r s t) (ht : PassesOn t l u) :
    ∃ acts, u.history = s.history ++ acts ∧
      ⟨r.number, s.connection, .respond⟩ ∉ acts ∧
      ∀ aType i, ⟨r.number, s.connection, .execute aType i⟩ ∈ acts →
        ∃ it ∈ l, commandType it = some aType ∧ it.mIndex = i := by
  obtain ⟨pre, hpre, hquiet⟩ := hs.history
  obtain ⟨acts, hacts, hall⟩ := ht.history
  refine ⟨pre ++ acts, by rw [hacts, hpre, List.append_assoc], fun hmem ↦ ?_, fun aType i hmem ↦ ?_⟩
  · rcases List.mem_append.mp hmem with hmem | hmem
    · exact (hquiet _ hmem).1 rfl
    · obtain ⟨it, -, aType, -, heq⟩ := hall _ hmem
      exact SlaveAct.noConfusion (congrArg SlaveEntry.act heq)
  · rcases List.mem_append.mp hmem with hmem | hmem
    · exact absurd rfl ((hquiet _ hmem).2 aType i)
    · obtain ⟨it, hit, aType', htype, heq⟩ := hall _ hmem
      obtain ⟨rfl, rfl⟩ := SlaveAct.execute.inj (congrArg SlaveEntry.act heq)
      exact ⟨it, hit, htype, rfl⟩

/-- Without a response the request is not answered. -/
theorem not_answersControls (hs : Begun r s t) (ht : PassesOn t l u) (hv : v.history = u.history) :
    ¬AnswersControls r s v := by
  intro h
  obtain ⟨acts, hacts, hquiet, -⟩ := hs.history_passesOn ht
  have hsent := h.sent
  rw [hv, hacts, List.drop_left] at hsent
  exact hquiet hsent

/-- With a response, it is answered if the response mirrors the request and has all that was passed
on. -/
theorem answersControls_of_respond (hs : Begun r s t) (ht : PassesOn t l u)
    (hv : v.history = u.history ++ [⟨u.executing, u.connection, .respond⟩])
    (hreports : ∀ it ∈ l, ∀ aType, commandType it = some aType →
      ReportsCommand v.mResponse aType it.mIndex) :
    AnswersControls r s v ↔ Mirrors ν v.mResponse r.mRequest := by
  obtain ⟨acts, hacts, -, hexecuted⟩ := hs.history_passesOn ht
  have hdrop : v.history.drop s.history.length = acts ++ [⟨r.number, s.connection, .respond⟩] := by
    rw [hv, hacts, List.append_assoc, List.drop_left, ht.executing, ht.connection, hs.executing,
      hs.connection]
  refine ⟨fun h ↦ h.mirrors, fun hmirrors ↦ ⟨?_, hmirrors, fun aType i hmem ↦ ?_⟩⟩
  · rw [hdrop]
    exact List.mem_append_right _ (List.mem_singleton.mpr rfl)
  · rw [hdrop] at hmem
    rcases List.mem_append.mp hmem with hmem | hmem
    · obtain ⟨it, hit, htype, rfl⟩ := hexecuted aType i hmem
      exact hreports it hit aType htype
    · exact SlaveAct.noConfusion (congrArg SlaveEntry.act (List.mem_singleton.mp hmem))

/-- **A request whose commands are passed on** is answered exactly if there is room for all of
them. -/
theorem Handles.wp_respond_iff {aMax : ℕ}
    {arFunc : HeaderInfo → CommandTypes → Command ν → ℕ → M ν ρ CommandStatus}
    {S : CommandStatus → Prop}
    (hH : Handles aMax arFunc S (PassesOn t)) (hdata : hasData r.mRequest.getFunction = true)
    (hall : ∀ h ∈ r.mRequest.mObjectHeaders, Readable h) (hs : Begun r s t)
    (hmay : MaySend t.mpAppLayer) :
    wp (forEachCommand r.mRequest arFunc)
      (fun _ u ↦ wp (send : M ν ρ Unit)
        (fun _ v ↦ AnswersControls r s v ↔ 0 ≤ (t.mpAppLayer.channel false).mSequence ∧
          RoomForAll (t.mResponse.mMaxSize - 4) r.mRequest.mObjectHeaders)
        (fun e v ↦ (AnswersControls r s v ↔ 0 ≤ (t.mpAppLayer.channel false).mSequence ∧
          RoomForAll (t.mResponse.mMaxSize - 4) r.mRequest.mObjectHeaders) ∧ Escapes e) u)
      (fun e v ↦ (AnswersControls r s v ↔ 0 ≤ (t.mpAppLayer.channel false).mSequence ∧
        RoomForAll (t.mResponse.mMaxSize - 4) r.mRequest.mObjectHeaders) ∧ Escapes e) t := by
  have hstart : PassesOn t [] t :=
    ⟨rfl, rfl, rfl, rfl, [], (List.append_nil _).symm, fun e he ↦ absurd he List.not_mem_nil⟩
  refine wp_mono (hH.wp_forEachCommand hdata hall hstart) (fun _ u hu ↦ ?_) fun e u hu ↦ ?_
  · obtain ⟨hcomplete, hreached⟩ := hu
    have hpasses := hreached.passed
    obtain ⟨bs, hbs, hblocks⟩ := hreached.blocks
    rw [List.nil_append] at hpasses
    have hbs : u.mResponse.blocks = bs := hbs
    have hcan : CanSend u u.mResponse ↔ 0 ≤ (t.mpAppLayer.channel false).mSequence := by
      have hsequence (n : Int) : AppLayer.sendSequence u.mResponse n = n := by
        rw [AppLayer.sendSequence, hreached.function, hreached.control]
        rfl
      rw [CanSend, hsequence, hpasses.app]
      refine ⟨fun h ↦ h.2, fun h ↦ ⟨⟨hreached.function, ?_⟩, h⟩⟩
      rw [hreached.control]
      rfl
    have hsend := wp_send_iff (s := u) (hpasses.app ▸ hmay.up) (hpasses.app ▸ hmay.outstation)
      (hpasses.app ▸ hmay.idle)
    refine wp_mono hsend (fun _ v hv ↦ ?_) fun e v hv ↦ ?_
    · obtain ⟨hsent, hsame, hv⟩ := hv
      have hblocks : List.Forall₂ (BlockOf ν r.mRequest aMax S)
          ((handled (t.mResponse.mMaxSize - 4) r.mRequest.mObjectHeaders).filter (0 < ·.room))
          v.mResponse.blocks := by
        rw [hsame, hbs]
        exact hblocks
      rw [answersControls_of_respond hs hpasses hv fun it hit aType htype ↦
          reportsCommand_of_passed hall hcomplete hblocks hit htype,
        Mirrors, mirrors_iff hall hcomplete hblocks]
      exact (and_iff_right (hcan.mp hsent)).symm
    · obtain ⟨hstuck, hescapes, hv⟩ := hv
      refine ⟨iff_of_false (not_answersControls hs hpasses hv) fun h ↦ ?_, hescapes⟩
      exact hstuck (hcan.mpr h.1)
  · obtain ⟨hstopped, hescapes, hreached⟩ := hu
    refine ⟨iff_of_false (not_answersControls hs hreached.passed rfl) fun h ↦ ?_, hescapes⟩
    exact hstopped (completes_of_roomForAll h.2)

/-- What `DoRequest` does with a request is decided by what its handler and `Send` do. -/
theorem exec_doRequest_iff {env : Environment ρ υ} {next : AS} {P : Prop} {x : M ν ρ Unit}
    (hx : switchOnFunction env next r.mRequest r.mSeqInfo = changeState next >>= fun _ ↦ x)
    (h : ∀ t, Begun r s t → t.mResponse = s.mResponse → t.mLastRequest = s.mLastRequest →
      wp x (fun _ v ↦ AnswersControls r s v ↔ P)
        (fun e v ↦ (AnswersControls r s v ↔ P) ∧ Escapes e) t) :
    AnswersControls r s (exec (doRequest env next r) s).1 ↔ P := by
  refine exec_of_wp (Q := fun v _ ↦ AnswersControls r s v ↔ P) ?_
  simp only [doRequest, wp_bind, wp_modify, note, wp_tryCatch, hx, changeState]
  refine wp_mono (h _ ⟨rfl, rfl, rfl, [_], rfl, fun e he ↦ ?_⟩ rfl rfl) (fun _ v hv ↦ ?_)
    fun e v hv ↦ ?_
  · rw [List.mem_singleton.mp he]
    exact ⟨fun h ↦ SlaveAct.noConfusion h, fun _ _ h ↦ SlaveAct.noConfusion h⟩
  · constructor
    · rintro ⟨hsent, hmirrors, hreported⟩
      exact hv.mp ⟨hsent, hmirrors, hreported⟩
    · intro hP
      obtain ⟨hsent, hmirrors, hreported⟩ := hv.mpr hP
      exact ⟨hsent, hmirrors, hreported⟩
  · split
    · next m => exact absurd rfl (hv.2 m)
    · exact hv.1

omit [SetpointValue ν] in
/-- Before the first command, a handler may note what it performs and deselect the points. -/
theorem Begun.perform (hs : Begun r s t) (f : FunctionCodes) :
    Begun r s { t with history := t.history ++ [⟨t.executing, t.connection, .perform f⟩] } := by
  obtain ⟨pre, hpre, hquiet⟩ := hs.history
  refine ⟨hs.app, hs.executing, hs.connection, pre ++ [_],
    by rw [hpre, List.append_assoc], fun e he ↦ ?_⟩
  rcases List.mem_append.mp he with he | he
  · exact hquiet e he
  · rw [List.mem_singleton.mp he]
    exact ⟨fun h ↦ SlaveAct.noConfusion h, fun _ _ h ↦ SlaveAct.noConfusion h⟩

omit [SetpointValue ν] in
theorem MayExecute.maySend (h : MayExecute s) : MaySend s.mpAppLayer where
  up := h.couples.up.mpr h.opened
  outstation := h.couples.outstation
  idle := h.couples.free false h.waits

/-- A repeated `OPERATE` is answered with the last response. -/
theorem wp_send_repeat (hs : Begun r s t) (hmay : MaySend t.mpAppLayer)
    (hrsp : t.mResponse = s.mResponse) :
    wp (send : M ν ρ Unit)
      (fun _ v ↦ AnswersControls r s v ↔ CanSend s s.mResponse ∧ Mirrors ν s.mResponse r.mRequest)
      (fun e v ↦ (AnswersControls r s v ↔ CanSend s s.mResponse ∧
        Mirrors ν s.mResponse r.mRequest) ∧
        Escapes e) t := by
  have hstart : PassesOn t [] t :=
    ⟨rfl, rfl, rfl, rfl, [], (List.append_nil _).symm, fun e he ↦ absurd he List.not_mem_nil⟩
  have hcan : CanSend t t.mResponse ↔ CanSend s s.mResponse := by
    rw [CanSend, CanSend, hs.app, hrsp]
  refine wp_mono (wp_send_iff hmay.up hmay.outstation hmay.idle) (fun _ v hv ↦ ?_) fun e v hv ↦ ?_
  · obtain ⟨hsent, hsame, hv⟩ := hv
    rw [answersControls_of_respond hs hstart hv fun it hit ↦ absurd hit List.not_mem_nil, Mirrors,
      Mirrors, hsame, hrsp]
    exact (and_iff_right (hcan.mp hsent)).symm
  · obtain ⟨hstuck, hescapes, hv⟩ := hv
    exact ⟨iff_of_false (not_answersControls hs hstart hv) fun h ↦ hstuck (hcan.mpr h.1), hescapes⟩

/-- **Exactly which requests with commands are answered.** -/
theorem answersControls_iff {env : Environment ρ υ} {next : AS} {apData : List Byte}
    (hr : APDU.interpret apData = .ok r.mRequest)
    (hf : r.mRequest.getFunction ∈ [.select, .operate, .directOperate]) (hs : MayExecute s) :
    AnswersControls r s (exec (doRequest env next r) s).1 ↔ Answerable s r := by
  have hall := readable_of_interpret hr
  have hdata : hasData r.mRequest.getFunction = true := by
    revert hf
    cases r.mRequest.getFunction <;> decide
  have hmay {t : Slave ν ρ} (ht : Begun r s t) : MaySend t.mpAppLayer := ht.app ▸ hs.maySend
  have hnew (hnot : ¬RepeatsOperate s r) : Answerable s r ↔
    0 ≤ (s.mpAppLayer.channel false).mSequence ∧
      RoomForAll (s.mResponse.mMaxSize - 4) r.mRequest.mObjectHeaders := by
    simp only [Answerable, hnot, not_false_eq_true, false_and, true_and, false_or]
  have hrespond {t : Slave ν ρ} (hnot : ¬RepeatsOperate s r) (ht : Begun r s t)
    (hrsp : t.mResponse = s.mResponse)
      {arFunc : HeaderInfo → CommandTypes → Command ν → ℕ → M ν ρ CommandStatus}
      (hH : Handles t.mConfig.mMaxControls arFunc (fun _ ↦ True) (PassesOn t)) :
      wp (forEachCommand r.mRequest arFunc)
        (fun _ u ↦ wp (send : M ν ρ Unit) (fun _ v ↦ AnswersControls r s v ↔ Answerable s r)
          (fun e v ↦ (AnswersControls r s v ↔ Answerable s r) ∧ Escapes e) u)
        (fun e v ↦ (AnswersControls r s v ↔ Answerable s r) ∧ Escapes e) t := by
    have hwp := hH.wp_respond_iff hdata hall ht (hmay ht)
    rw [ht.app, hrsp, ← hnew hnot] at hwp
    exact hwp
  simp only [List.mem_cons, List.not_mem_nil, or_false] at hf
  rcases hf with hf | hf | hf
  · have hnot : ¬RepeatsOperate s r := fun h ↦ FunctionCodes.noConfusion (hf.symm.trans h.1)
    refine exec_doRequest_iff (x := handleSelect env r.mRequest r.mSeqInfo >>= fun _ ↦ send) ?_
      fun t ht hrsp _ ↦ ?_
    · rw [switchOnFunction, hf]
    · have ht' : Begun r s { t with mpCmdMaster := t.mpCmdMaster.deselectAll } :=
        ⟨ht.app, ht.executing, ht.connection, ht.history⟩
      rw [wp_bind, handleSelect, wp_bind, wp_modify]
      exact hrespond hnot ht' hrsp
        (handles_passesOn_select env r.mSeqInfo r.mRequest.getControl.seq _)
  · refine exec_doRequest_iff (x := handleOperate env r.mRequest r.mSeqInfo >>= fun _ ↦ send) ?_
      fun t ht hrsp hlast ↦ ?_
    · rw [switchOnFunction, hf]
    · rw [wp_bind, handleOperate, wp_bind, wp_get, hlast]
      by_cases hrepeat : r.mSeqInfo = .prev ∧ s.mLastRequest = r.mRequest.mBuffer
      · have hyes : RepeatsOperate s r := ⟨hf, hrepeat⟩
        rw [if_pos hrepeat, wp_pure]
        have hwp := wp_send_repeat ht (hmay ht) hrsp
        simpa only [Answerable, hyes, true_and, not_true_eq_false, false_and, or_false] using hwp
      · have hnot : ¬RepeatsOperate s r := fun h ↦ hrepeat h.2
        rw [if_neg hrepeat, wp_bind, note, wp_modify]
        exact hrespond hnot (ht.perform .operate) hrsp
          (handles_passesOn_operate env r.mSeqInfo r.mRequest.getControl.seq false _)
  · have hnot : ¬RepeatsOperate s r := fun h ↦ FunctionCodes.noConfusion (hf.symm.trans h.1)
    refine exec_doRequest_iff (x := note (.perform .directOperate) >>= fun _ ↦
      handleDirectOperate env r.mRequest r.mSeqInfo >>= fun _ ↦ send) ?_ fun t ht hrsp _ ↦ ?_
    · rw [switchOnFunction, hf]
    · rw [wp_bind, note, wp_modify, wp_bind, handleDirectOperate]
      exact hrespond hnot (ht.perform .directOperate) hrsp
        (handles_passesOn_operate env r.mSeqInfo r.mRequest.getControl.seq true _)

/-! ### Requests -/

/-- A `DIRECT_OPERATE` of the control, with this sequence number. -/
def directOne (aSeq : Byte) : List Byte :=
  [0xC0 ||| aSeq, 5, 12, 1, 0x17, 1, 0, 3, 1, 100, 0, 0, 0, 100, 0, 0, 0, 0]

/-- The header of the control. -/
def controlHeader : HeaderInfo where
  mPos := 2
  mGroup := 12
  mVariation := 1
  mQualifier := .cnt1BIndex1B
  mCount := 1
  mPrefixSize := 1
  mHeader := .count1Octet
  mObjectBase := ⟨12, 1, .fixed 11⟩

/-- The link comes up, and the control is operated. -/
def upAndOperated : List (SlaveEvent Unit) := .app .lowerLayerUp :: answered (directOne 0)

/-- The next `DIRECT_OPERATE` is answered. -/
theorem answersControls_directOne : ∃ s r, Run.run (step accepting) directPointSlave upAndOperated =
    some s ∧
    APDU.interpret (directOne 1) = .ok r ∧
    AnswersControls ⟨r, .correct, 1⟩ s
      (exec (doRequest accepting .waitForRspSuccess ⟨r, .correct, 1⟩) s).1 := by
  obtain ⟨s, hrun⟩ : ∃ s, Run.run (step accepting) directPointSlave upAndOperated = some s :=
    ⟨_, rfl⟩
  obtain ⟨r, hr⟩ : ∃ r, APDU.interpret (directOne 1) = .ok r := ⟨_, rfl⟩
  have hstate : (Run.run (step accepting) directPointSlave upAndOperated).all
    (fun s ↦ s.mpState = .idle ∧
      0 ≤ (s.mpAppLayer.channel false).mSequence ∧ s.mResponse.mMaxSize = 2048) = true :=
        by decide +kernel
  have hrequest : (APDU.interpret (directOne 1)).toOption.all
    (fun r ↦ r.getFunction = .directOperate ∧
      r.mObjectHeaders = [controlHeader]) = true := by decide +kernel
  rw [hrun] at hstate
  rw [hr] at hrequest
  obtain ⟨hidle, hseq, hmax⟩ := of_decide_eq_true hstate
  obtain ⟨hf, hheaders⟩ := of_decide_eq_true hrequest
  have hkeeps : Keeps Ledger.AllSettled s := keeps_settled_of_run (by decide +kernel) hrun
  have hmay : MayExecute s := by
    refine ⟨hkeeps.couples, ?_, ?_⟩
    · rw [hidle]
      decide
    · rw [hidle]
      rfl
  refine ⟨s, r, hrun, hr, (answersControls_iff hr ?_ hmay).mpr (.inr ⟨?_, hseq, ?_⟩)⟩
  · rw [hf]
    decide
  · exact fun h ↦ FunctionCodes.noConfusion (hf.symm.trans h.1)
  · rw [hmax, hheaders]
    exact ⟨⟨⟨12, 1, .fixed 11⟩, 11, .binaryOutput⟩,
      by decide, rfl, rfl, rfl, by decide, by decide, trivial⟩

/-- A `DIRECT_OPERATE` of the control, once behind a count and once behind a range. -/
def countThenRange : List Byte :=
  directOne 1 ++ [12, 1, 0, 0, 0, 3, 1, 100, 0, 0, 0, 100, 0, 0, 0, 0]

/-- **The command behind the count is executed, and nothing is sent**: the parser accepts the range,
and `WriteIndexed` throws for it. -/
theorem executes_without_response : ∃ s t r,
    Run.run (step accepting) directPointSlave upAndOperated = some s ∧
    APDU.interpret countThenRange = .ok r ∧ step accepting s (.app (.receive countThenRange)) =
      some t ∧
    t.history.drop s.history.length =
      [⟨1, 0, .process .directOperate⟩, ⟨1, 0, .perform .directOperate⟩,
      ⟨1, 0, .execute .binaryOutput 0⟩] ∧
    ¬AnswersControls ⟨r, .correct, 1⟩ s
      (exec (doRequest accepting .waitForRspSuccess ⟨r, .correct, 1⟩) s).1 := by
  obtain ⟨s, hrun⟩ : ∃ s, Run.run (step accepting) directPointSlave upAndOperated = some s :=
    ⟨_, rfl⟩
  obtain ⟨r, hr⟩ : ∃ r, APDU.interpret countThenRange = .ok r := ⟨_, rfl⟩
  have heval : (Run.run (step accepting) directPointSlave upAndOperated).all (fun s ↦
      (APDU.interpret countThenRange).toOption.all fun r ↦
        (exec (handle accepting (.app (.receive countThenRange))) s).1.history.drop
          s.history.length =
          [⟨1, 0, .process .directOperate⟩, ⟨1, 0, .perform .directOperate⟩,
            ⟨1, 0, .execute .binaryOutput 0⟩] ∧
        ⟨1, s.connection, .respond⟩ ∉
          (exec (doRequest accepting .waitForRspSuccess ⟨r, .correct, 1⟩) s).1.history.drop
          s.history.length) = true := by decide +kernel
  rw [hrun, hr] at heval
  obtain ⟨hacts, hsilent⟩ := of_decide_eq_true heval
  exact ⟨s, _, r, hrun, hr, rfl, hacts, fun h ↦ hsilent h.sent⟩

end Slave

end OpenDNP3
