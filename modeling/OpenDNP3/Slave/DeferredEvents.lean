import OpenDNP3.Lib.Run
import OpenDNP3.Slave.Pieces
import OpenDNP3.Slave.Selection

/-!
# What becomes of deferred events

A state that cannot handle an event sets a flag for it, and every callback of the slave ends with
`FlushDeferredEvents`, which handles in `AS_Idle` what was deferred.

* `Outstation.Due` — what the flags are like between two pieces of the slave: while it is idle, the
  parts of `FlushDeferredEvents` that are over have left nothing behind.
* `Outstation.deferred_handled` — **a callback that ends in `AS_Idle` leaves nothing deferred** but
  updates for which there was no room, if requests with an unknown object come only when the slave
  is idle.
* `Outstation.unknown_kept` — no state accepts a deferred unknown object: once deferred, it stays
  so.

A callback that is left by an exception does not end in this sense.
-/

set_option autoImplicit false

namespace OpenDNP3

open Handler

/-! ## Updates that are left unread -/

namespace ResponseContext

variable {ρ υ : Type}

/-- The response context, with a record whether the last `FlushUpdates` has left VTO data unread. -/
def recorded (c : ResponseContext ρ υ) : ResponseContext (ρ × Bool) υ where
  reset r := (c.reset r.1, r.2)
  configure arRequest r :=
    let l := c.configure arRequest r.1
    (l.1, l.2, r.2)
  loadResponse n r :=
    let l := c.loadResponse n r.1
    (l.1, l.2, r.2)
  loadUnsol aMask n r :=
    let l := c.loadUnsol aMask n r.1
    (l.1, l.2, r.2)
  hasEvents aMask r := c.hasEvents aMask r.1
  isComplete r := c.isComplete r.1
  clearWritten r := (c.clearWritten r.1, r.2)
  flushUpdates r :=
    let l := c.flushUpdates r.1
    (l.1, l.2, l.1)
  update u r := (c.update u r.1, r.2)

end ResponseContext

/-- The environment, with a record whether the last `FlushUpdates` has left VTO data unread. -/
def Environment.recorded {ρ υ : Type} (env : Environment ρ υ) : Environment (ρ × Bool) υ :=
  { env with rspContext := env.rspContext.recorded }

/-! ## Flags -/

/-- The state of the slave, what it has deferred, and whether there is VTO data unread. -/
structure Flags where
  state : AS
  update : Bool
  request : Bool
  unsol : Bool
  unread : Bool

/-- The parts of `FlushDeferredEvents` before this one have left nothing behind. -/
def Flags.Settled (f : Flags) : Deferred → Prop
  | .update => True
  | .request => f.update = true → f.unread = true
  | .unsol => (f.update = true → f.unread = true) ∧ f.request = false
  | .unknown => (f.update = true → f.unread = true) ∧ f.request = false ∧ f.unsol = false

theorem Flags.Settled.of_unknown {f : Flags} (h : f.Settled .unknown) (d : Deferred) :
    f.Settled d := by
  cases d with
  | update => trivial
  | request => exact h.1
  | unsol => exact ⟨h.1, h.2.1⟩
  | unknown => exact h

/-- The flags of a slave. -/
def Slave.flags {ν ρ : Type} (s : Slave ν (ρ × Bool)) : Flags where
  state := s.mpState
  update := s.mDeferredUpdate
  request := s.mDeferredRequest.isSome
  unsol := s.mDeferredUnsol
  unread := s.mRspContext.2

namespace Outstation

open Slave

/-- **What the flags are like between two pieces**, by what the slave does next: once it has flushed
one kind of event and is idle, none of this kind is deferred; a call that has not come to
`FlushDeferredEvents` yet may leave anything. -/
def Due (f : Flags) : List SlaveRest → Prop
  | [] => True
  | .flush d :: _ => f.state = .idle → f.Settled d
  | .handled :: _ => f.state = .idle → f.Settled .unknown
  | .user _ _ :: _ | .deferRequest _ :: _ | .onDataUpdate :: _ | .onUnsolTimerExpiration :: _ =>
    True
  | .layer _ :: rest | .receive _ :: rest | .act _ :: rest | .send _ :: rest
  | .setLastRequest _ :: rest | .caught _ :: rest | .returned :: rest => Due f rest

/-- It is not a part of `FlushDeferredEvents`. -/
def isPlain : SlaveRest → Bool
  | .flush _ | .handled => false
  | _ => true

/-- A slave that has nothing deferred when it is idle owes nothing. -/
theorem due_of_settled {f : Flags} (h : f.state = .idle → f.Settled .unknown)
    (stack : List SlaveRest) : Due f stack := by
  induction stack with
  | nil => trivial
  | cons frame rest ih =>
    cases frame with
    | flush d => exact fun hi ↦ (h hi).of_unknown d
    | handled => exact h
    | user _ _ => trivial
    | deferRequest _ => trivial
    | onDataUpdate => trivial
    | onUnsolTimerExpiration => trivial
    | _ => exact ih

theorem due_append {f : Flags} {frames rest : List SlaveRest} (hp : ∀ x ∈ frames, isPlain x = true)
    (h : Due f rest) : Due f (frames ++ rest) := by
  induction frames with
  | nil => exact h
  | cons x frames ih =>
    have hx := hp x List.mem_cons_self
    have ih := ih fun y hy ↦ hp y (List.mem_cons_of_mem _ hy)
    cases x with
    | flush d => exact Bool.noConfusion hx
    | handled => exact Bool.noConfusion hx
    | user _ _ => trivial
    | deferRequest _ => trivial
    | onDataUpdate => trivial
    | onUnsolTimerExpiration => trivial
    | _ => exact ih

theorem plain_ofCall (apData : List Byte) (call : Option UserCall) :
    ∀ x ∈ SlaveRest.ofCall apData call, isPlain x = true := by
  intro x hx
  cases call with
  | none => exact absurd hx List.not_mem_nil
  | some c =>
    rw [List.mem_singleton.mp hx]
    rfl

theorem plain_calls (apData : List Byte) (call : Option UserCall)
    (acts : List (AppLayer.Act (List Byte))) :
    ∀ x ∈ SlaveRest.ofCall apData call ++ acts.map .act, isPlain x = true := by
  intro x hx
  rcases List.mem_append.mp hx with hx | hx
  · exact plain_ofCall apData call x hx
  · obtain ⟨act, _, rfl⟩ := List.mem_map.mp hx
    rfl

/-- What ends with the whole of `FlushDeferredEvents` owes nothing before. -/
theorem due_flushDeferredEvents {f : Flags} {frames : List SlaveRest} (rest : List SlaveRest)
    (hp : ∀ x ∈ frames, isPlain x = true) :
    Due f ((frames ++ Piece.flushDeferredEvents) ++ rest) := by
  rw [List.append_assoc]
  exact due_append hp fun _ ↦ trivial

theorem plain_nil : ∀ x ∈ ([] : List SlaveRest), isPlain x = true :=
  fun _ hx ↦ absurd hx List.not_mem_nil

theorem plain_singleton {x : SlaveRest} (hx : isPlain x = true) : ∀ y ∈ [x], isPlain y = true :=
  fun _ hy ↦ List.mem_singleton.mp hy ▸ hx

end Outstation

namespace Slave

open Outstation

/-! ## One piece -/

section Flush

variable {ν ρ υ : Type} {env : Environment ρ υ} {s t : Slave ν (ρ × Bool)}
  {frames : List SlaveRest} {aUpdate : Bool}

/-- Nothing of the first kinds is deferred, also after a report that has left the slave idle. -/
theorem Reports.settled {d : Deferred} (h : Reports env.recorded aUpdate s frames t)
    (hs : s.flags.Settled d) : t.flags.state = .idle → t.flags.Settled d := by
  intro hi
  cases h with
  | nothing => exact hs
  | starts _ _ _ => exact AS.noConfusion hi
  | null _ _ => exact AS.noConfusion hi
  | packs _ _ => exact hs

omit s t in
theorem Reports.plain {s t : Slave ν ρ} (h : Reports env aUpdate s frames t) :
    ∀ x ∈ frames, isPlain x = true := by
  cases h with
  | nothing => exact plain_nil
  | starts _ _ _ => exact plain_singleton rfl
  | null _ _ => exact plain_singleton rfl
  | packs _ _ => exact plain_nil

omit s t in
theorem Reports.unknown {s t : Slave ν ρ} (h : Reports env aUpdate s frames t) :
    t.mDeferredUnknown = s.mDeferredUnknown := by
  cases h <;> rfl

/-- After the first part of `FlushDeferredEvents` an update is deferred only where VTO data was
left. -/
theorem settled_flushed : (flushed { s with mDeferredUpdate := false } env.recorded).flags.Settled
    .request := by
  intro h
  exact h

end Flush

section Requests

variable {ν ρ υ : Type} {env : Environment ρ υ} {apNext : AS} {r : Request}
  {o : Option (List SlaveRest)}

/-- What is left of a request that was executed. -/
theorem frames_requested {s t : Slave ν ρ} {frames : List SlaveRest}
    (h : Piece.Requested env apNext r s (some frames) t) :
    frames = [.send false, .setLastRequest r.mRequest.mBuffer] ∨
      frames = [.setLastRequest r.mRequest.mBuffer] := by
  have htrue : Carefree fun _ : Slave ν ρ ↦ True :=
    ⟨fun _ _ h ↦ h, fun _ _ h ↦ h, fun _ _ _ h ↦ h, fun _ _ h ↦ h, fun _ _ _ _ h ↦ h⟩
  have h := h (fun _ ↦ True) (fun _ ↦ True) ⟨htrue, htrue, fun _ _ _ ↦ trivial, fun _ _ _ ↦ trivial,
    fun _ _ _ ↦ trivial, fun _ _ _ ↦ trivial⟩ trivial
  exact h.imp And.left And.left

theorem plain_requested {s t : Slave ν ρ} {frames : List SlaveRest}
    (h : Piece.Requested env apNext r s (some frames) t) : ∀ x ∈ frames, isPlain x = true := by
  rcases frames_requested h with rfl | rfl
  · intro x hx
    rcases List.mem_cons.mp hx with rfl | hx
    · rfl
    · rw [List.mem_singleton.mp hx]
      rfl
  · exact plain_singleton rfl

/-- A deferred request that has been executed leaves the slave busy, or no request deferred. -/
theorem settled_requested {s t : Slave ν (ρ × Bool)} {frames : List SlaveRest}
    (hs : s.mDeferredUpdate = true → s.mRspContext.2 = true)
    (h : Piece.Requested env.recorded .waitForRspSuccess r { s with mDeferredRequest := none }
      (some frames) t) : t.flags.state = .idle → t.flags.Settled .unsol := by
  have hI : Carefree fun s : Slave ν (ρ × Bool) ↦
      (s.mDeferredUpdate = true → s.mRspContext.2 = true) ∧ s.mDeferredRequest = none :=
    ⟨fun _ _ h ↦ h, fun _ _ h ↦ h, fun _ _ _ h ↦ h, fun _ _ h ↦ h, fun _ _ _ _ h ↦ h⟩
  have hJ : Carefree fun s : Slave ν (ρ × Bool) ↦ s.mpState = .waitForRspSuccess :=
    ⟨fun _ _ h ↦ h, fun _ _ h ↦ h, fun _ _ _ h ↦ h, fun _ _ h ↦ h, fun _ _ _ _ h ↦ h⟩
  intro hi
  rcases h _ _ ⟨hI, hJ, fun _ _ _ ↦ rfl, fun _ _ h ↦ h, fun _ _ h ↦ h, fun _ _ h ↦ h⟩ ⟨hs, rfl⟩ with
    ⟨_, ht⟩ | ⟨_, ht⟩
  · exact absurd (ht.symm.trans hi) AS.noConfusion
  · exact ⟨ht.1, by rw [flags, ht.2]; rfl⟩

/-- What a request does not touch is as before. -/
theorem requested_keeps {s t : Slave ν ρ} {I : Slave ν ρ → Prop} (hI : Carefree I)
    (hnext : ∀ s b, I s → I { s with mpState := apNext, mpTimeTimer := b })
    (hread : ∀ s c, I s → I { s with mRspContext := c })
    (hunsol : ∀ s, I s → I { s with mDeferredUnsol := true })
    (hmask : ∀ s m, I s → I { s with mConfig := { s.mConfig with mUnsolMask := m } })
    (h : Piece.Requested env apNext r s o t) (hs : I { s with executing := r.number }) : I t := by
  have h := h _ _ ⟨hI, hI, fun s b hs ↦ hnext s b (hs.elim id id), fun s _ hs ↦ hread s _ hs,
    fun s _ hs ↦ hunsol s hs, hmask⟩ hs
  cases o with
  | none => exact h.elim id id
  | some frames => exact h.elim And.right And.right

/-- A request does not touch the flag of an unknown object. -/
theorem unknown_requested {s t : Slave ν ρ} (h : Piece.Requested env apNext r s o t) :
    t.mDeferredUnknown = s.mDeferredUnknown := by
  have hI : Carefree fun t : Slave ν ρ ↦ t.mDeferredUnknown = s.mDeferredUnknown :=
    ⟨fun _ _ h ↦ h, fun _ _ h ↦ h, fun _ _ _ h ↦ h, fun _ _ h ↦ h, fun _ _ _ _ h ↦ h⟩
  exact requested_keeps hI (fun _ _ h ↦ h) (fun _ _ h ↦ h) (fun _ h ↦ h) (fun _ _ h ↦ h) h rfl

end Requests

end Slave

namespace SlaveRest

open Slave Outstation

variable {ν ρ υ : Type}

/-- A piece hands an unknown object to a slave that is busy. -/
def Defers (s : Slave ν ρ) (frame : SlaveRest) : Prop :=
  s.mpState ≠ .idle ∧ ∃ apData, frame = .user .onUnknownObject apData

/-- **The flag of an unknown object** is set by one piece, and never cleared. -/
theorem Does.unknown {env : Environment ρ υ} {s t : Slave ν ρ} {frame : SlaveRest}
    {o : Option (List SlaveRest)} (h : frame.Does env s o t) :
    t.mDeferredUnknown = s.mDeferredUnknown ∨ Defers s frame ∧ t.mDeferredUnknown = true := by
  cases h with
  | requestIdle _ h | requestUnsol _ _ h | flushRequest _ _ h =>
    have h := unknown_requested h
    exact .inl h
  | updateIdle _ h | expiresIdle _ h | flushUpdate _ h | flushUnsol _ _ h =>
    have h := h.unknown
    exact .inl h
  | unknownDeferred hs => exact .inr ⟨⟨hs, _, rfl⟩, rfl⟩
  | @send aUnsol => cases aUnsol <;> exact .inl rfl
  | @sendFails aUnsol => cases aUnsol <;> exact .inl rfl
  | _ => exact .inl rfl

/-- **One piece**: what is owed after it. -/
theorem Does.due {env : Environment ρ υ} {s t : Slave ν (ρ × Bool)} {frame : SlaveRest}
    {frames rest : List SlaveRest} (h : frame.Does env.recorded s (some frames) t)
    (hs : Due s.flags (frame :: rest)) : Due t.flags (frames ++ rest) := by
  generalize ho : some frames = o at h
  cases h with
  | layer _ =>
    obtain rfl := Option.some.inj ho
    exact due_append (plain_calls [] _ _) hs
  | receive _ =>
    obtain rfl := Option.some.inj ho
    rw [List.append_assoc]
    exact due_append (plain_calls _ _ _) (due_append (plain_singleton rfl) hs)
  | receiveCaught _ _ =>
    obtain rfl := Option.some.inj ho
    exact due_append (plain_ofCall _ _) hs
  | act _ =>
    obtain rfl := Option.some.inj ho
    exact due_append (plain_ofCall _ _) hs
  | @send aUnsol _ _ _ _ _ _ _ =>
    obtain rfl := Option.some.inj ho
    refine due_append (plain_calls [] _ _) ?_
    cases aUnsol with
    | false => exact hs
    | true => exact hs
  -- a callback ends with all of `FlushDeferredEvents`
  | lowerLayerUp | lowerLayerDown | completes | ends | fails | unsolSucceeds | unsolFails
  | requestRead | requestDeferred | unknownDeferred | deferRequest | updateClosed | updateDeferred
  | expiresDeferred =>
    exact Option.some.inj ho ▸ due_flushDeferredEvents rest plain_nil
  | proceeds | unsolExpires | unknownIdle =>
    exact Option.some.inj ho ▸ due_flushDeferredEvents rest (plain_singleton rfl)
  | requestIdle _ h =>
    obtain ⟨_, rfl, rfl⟩ := Option.map_eq_some_iff.mp ho.symm
    exact due_flushDeferredEvents rest (plain_requested h)
  | requestCancels _ =>
    obtain rfl := Option.some.inj ho
    exact trivial
  | requestUnsol _ _ h =>
    obtain ⟨_, rfl, rfl⟩ := Option.map_eq_some_iff.mp ho.symm
    exact due_flushDeferredEvents rest (plain_requested h)
  | updateIdle _ h => exact Option.some.inj ho ▸ due_flushDeferredEvents rest h.plain
  | expiresIdle _ h => exact Option.some.inj ho ▸ due_flushDeferredEvents rest h.plain
  -- the parts of `FlushDeferredEvents`
  | @flushNothing d hn =>
    obtain rfl := Option.some.inj ho
    cases d with
    | update =>
      intro hi hu
      exact absurd (hu.symm.trans (hn hi)) Bool.noConfusion
    | request => exact fun hi ↦ ⟨hs hi, hn hi⟩
    | unsol => exact fun hi ↦ ⟨(hs hi).1, (hs hi).2, hn hi⟩
    | unknown => exact hs
  | flushUpdate _ h =>
    obtain rfl := Option.some.inj ho
    rw [List.append_assoc]
    exact due_append h.plain (h.settled settled_flushed)
  | flushRequest hi _ h =>
    obtain ⟨_, rfl, rfl⟩ := Option.map_eq_some_iff.mp ho.symm
    rw [List.append_assoc]
    exact due_append (plain_requested h) (settled_requested (hs hi) h)
  | flushUnsol hi _ h =>
    obtain rfl := Option.some.inj ho
    rw [List.append_assoc]
    exact due_append h.plain (h.settled ⟨(hs hi).1, (hs hi).2, rfl⟩)
  | handled =>
    obtain rfl := Option.some.inj ho
    exact due_of_settled hs rest
  | setLastRequest | caught | returned => exact Option.some.inj ho ▸ hs
  | layerFails | down | receiveFails | actFails | refuses | sendFails | unexpected
  | unsolTimerRuns =>
    exact absurd ho (Option.some_ne_none _)

end SlaveRest

/-! ## Every run -/

namespace Outstation

open Slave

section Throw

variable {ν ρ : Type}

/-- What a predicate must not mind so that an exception keeps it: only the layer catches one. -/
theorem throwTo_inv {I : Slave ν ρ → Prop} (hI : ∀ s a, I s → I (s.withLayer a)) (ex : Exception)
    (stack : List SlaveRest) (s : Slave ν ρ) (hs : I s) : I (throwTo s ex stack).1 := by
  induction stack generalizing s ex with
  | nil => exact hs
  | cons frame rest ih =>
    cases frame with
    | returned => exact hs
    | caught apData =>
      have happ : wp (onApp (AppLayer.onCatch apData ex)) (fun _ ↦ I) (fun _ ↦ I) s := by
        rw [onApp, wp_zoom]
        exact wp_of_forall (fun _ a ↦ hI s a hs) fun _ a ↦ hI s a hs
      rw [throwTo]
      rw [wp] at happ
      split
      · next call t hc =>
        rw [hc] at happ
        exact happ
      · next ex' t hc =>
        rw [hc] at happ
        exact ih ex' t happ
    | _ => exact ih ex s hs

end Throw

section

variable {ν ρ υ : Type} [SetpointValue ν] {env : Environment ρ υ}

omit [SetpointValue ν] in
/-- The timer of the clock touches no flag. -/
theorem exec_timeTimer (s : Slave ν (ρ × Bool)) :
    (exec (do if (← get).mpTimeTimer then resetTimeIIN) s).1.flags = s.flags ∧
      (exec (do if (← get).mpTimeTimer then resetTimeIIN) s).1.mDeferredUnknown =
        s.mDeferredUnknown := by
  refine exec_of_wp (Q := fun (t : Slave ν (ρ × Bool)) _ ↦ t.flags = s.flags ∧
    t.mDeferredUnknown = s.mDeferredUnknown) ?_
  rw [wp_bind, wp_get]
  refine wp_ite (fun _ ↦ ?_) fun _ ↦ ⟨rfl, rfl⟩
  rw [resetTimeIIN, wp_bind, wp_modify, restartTimeSyncTimer, wp_modify]
  exact ⟨rfl, rfl⟩

/-- New updates and the timer of the clock touch no flag. -/
theorem exec_quiet {e : SlaveEvent υ} (he : calls e = []) (s : Slave ν (ρ × Bool)) :
    (exec (Slave.handle env.recorded e) s).1.flags = s.flags ∧
      (exec (Slave.handle env.recorded e) s).1.mDeferredUnknown = s.mDeferredUnknown := by
  cases e with
  | app e =>
    cases e with
    | receive _ => exact absurd he (List.cons_ne_nil _ _)
    | _ => exact absurd he (List.cons_ne_nil _ _)
  | update u => exact ⟨rfl, rfl⟩
  | onDataUpdate => exact absurd he (List.cons_ne_nil _ _)
  | unsolTimer => exact absurd he (List.cons_ne_nil _ _)
  | timeTimer => exact exec_timeTimer s

/-- What an event calls is no part of `FlushDeferredEvents`. -/
theorem plain_event (e : SlaveEvent υ) : ∀ x ∈ calls e, isPlain x = true := by
  cases e with
  | app e =>
    cases e with
    | receive _ => exact plain_singleton rfl
    | _ => exact plain_singleton rfl
  | update u => exact plain_nil
  | onDataUpdate => exact plain_singleton rfl
  | unsolTimer => exact plain_singleton rfl
  | timeTimer => exact plain_nil

/-- An unknown object comes next. -/
def handsUnknown : List SlaveRest → Bool
  | .user .onUnknownObject _ :: _ => true
  | _ => false

/-- **The condition**: a request with an unknown object reaches the slave only while it is idle. -/
def UnknownWhileIdle (s : Outstation ν ρ) (m : OutstationMove υ) : Prop :=
  m = .go → handsUnknown s.stack = true → s.slave.mpState = .idle

instance [DecidableEq υ] (s : Outstation ν ρ) (m : OutstationMove υ) :
    Decidable (UnknownWhileIdle s m) := inferInstanceAs (Decidable (_ → _ → _))

/-- **One move** and the flag of an unknown object. -/
theorem Moves.unknown {env : Environment ρ υ} {s t : Outstation ν (ρ × Bool)} {m : OutstationMove υ}
    (h : Moves env.recorded s m t) :
    t.slave.mDeferredUnknown = s.slave.mDeferredUnknown ∨
      ¬UnknownWhileIdle s m ∧ t.slave.mDeferredUnknown = true := by
  have hpiece {frame : SlaveRest} {rest : List SlaveRest} {o : Option (List SlaveRest)}
      {u : Slave ν (ρ × Bool)} (hs : s.stack = frame :: rest)
      (h : frame.Does env.recorded s.slave o u) :
      u.mDeferredUnknown = s.slave.mDeferredUnknown ∨
        ¬UnknownWhileIdle s (.go : OutstationMove υ) ∧ u.mDeferredUnknown = true := by
    refine h.unknown.imp_right ?_
    rintro ⟨⟨hbusy, apData, rfl⟩, hu⟩
    exact ⟨fun hg ↦ hbusy (hg rfl (by rw [hs]; rfl)), hu⟩
  have hthrow (u : Slave ν (ρ × Bool)) (ex : Exception) (stack : List SlaveRest) :
      (throwTo u ex stack).1.mDeferredUnknown = u.mDeferredUnknown :=
    throwTo_inv (I := fun v ↦ v.mDeferredUnknown = u.mDeferredUnknown)
      (fun _ _ h ↦ h) ex stack u rfl
  cases h with
  | happens he => exact .inl (exec_quiet he s.slave).2
  | enters _ _ => exact .inl rfl
  | returns _ => exact .inl rfl
  | goes hs _ h => exact hpiece hs h
  | throws hs _ h =>
    exact (hpiece hs h).imp (hthrow _ _ _).trans (And.imp_right (hthrow _ _ _).trans)
  | resumes _ => exact .inl rfl
  | unwinds _ => exact .inl (hthrow _ _ _)

/-- **A deferred unknown object stays deferred**: no state accepts it. -/
theorem unknown_kept {env : Environment ρ υ} {s t : Outstation ν (ρ × Bool)}
    {ms : List (OutstationMove υ)} (hs : s.slave.mDeferredUnknown = true)
    (hrun : Run.run (step env.recorded) s ms = some t) : t.slave.mDeferredUnknown = true := by
  refine Run.inv_of_run (I := fun s ↦ s.slave.mDeferredUnknown = true) (fun s m t hs h ↦ ?_) hs hrun
  rcases (moves_of_step h).unknown with ht | ⟨_, ht⟩
  · exact ht.trans hs
  · exact ht

/-- **The invariant**: no unknown object is deferred, and `FlushDeferredEvents` has left nothing. -/
structure Handles (s : Outstation ν (ρ × Bool)) : Prop where
  unknown : s.slave.mDeferredUnknown = false
  due : s.thrown = false → Due s.slave.flags s.stack

theorem Moves.handles {env : Environment ρ υ} {s t : Outstation ν (ρ × Bool)} {m : OutstationMove υ}
    (h : Moves env.recorded s m t) (hs : Handles s) (hg : UnknownWhileIdle s m) : Handles t := by
  refine ⟨?_, ?_⟩
  · rcases h.unknown with ht | ⟨hn, _⟩
    · exact ht.trans hs.unknown
    · exact absurd hg hn
  · intro ht
    cases h with
    | happens he =>
      obtain ⟨hf, _⟩ : (exec (Slave.handle env.recorded _) s.slave).1.flags = s.slave.flags ∧ _ :=
        exec_quiet he s.slave
      exact hf ▸ hs.due ht
    | @enters e _ _ =>
      refine due_append (plain_event e) ?_
      -- an exception is forgotten only when the outstation is at rest
      rcases Bool.and_eq_false_iff.mp ht with ht | ht
      · exact hs.due ht
      · have hnil := List.isEmpty_iff.mp (Bool.not_eq_eq_eq_not.mp ht)
        rw [hnil]
        trivial
    | returns hstack =>
      have hdue := hs.due ht
      rw [hstack] at hdue
      exact hdue
    | goes hstack _ h =>
      have hdue := hs.due ht
      rw [hstack] at hdue
      exact h.due hdue
    | throws _ _ _ => exact Bool.noConfusion ht
    | resumes _ => exact hs.due ht
    | unwinds _ => exact Bool.noConfusion ht

/-- **A callback that ends in `AS_Idle` leaves nothing deferred**, if requests with an unknown
object reach the slave only while it is idle and no exception ends a call. -/
theorem deferred_handled {env : Environment ρ υ} {arCfg : SlaveConfig} {aFragSize aNumRetry : ℕ}
    {c : DNPCommandMaster ν} {r : ρ × Bool} {ms : List (OutstationMove υ)}
    {s : Outstation ν (ρ × Bool)} {rest : List SlaveRest}
    (hguard : Run.Guarded (step env.recorded) UnknownWhileIdle
      (init (.new arCfg (AppLayer.new false aFragSize aNumRetry) c r)) ms)
    (hrun : Run.run (step env.recorded)
      (init (.new arCfg (AppLayer.new false aFragSize aNumRetry) c r)) ms = some s)
    (hend : s.stack = .handled :: rest) (hthrown : s.thrown = false)
    (hidle : s.slave.mpState = .idle) (hread : s.slave.mRspContext.2 = false) :
    s.slave.mDeferredUpdate = false ∧ s.slave.mDeferredRequest = none ∧
      s.slave.mDeferredUnsol = false ∧ s.slave.mDeferredUnknown = false := by
  have hs : Handles s := by
    have hinit : Handles (init (.new arCfg (AppLayer.new false aFragSize aNumRetry) c r)) :=
      ⟨rfl, fun _ ↦ trivial⟩
    refine Run.inv_of_guarded (fun s m t hs hg h ↦ ?_) hinit hguard hrun
    exact (moves_of_step h).handles hs hg
  have hdue := hs.due hthrown
  rw [hend] at hdue
  obtain ⟨hupdate, hrequest, hunsol⟩ := hdue hidle
  refine ⟨Bool.eq_false_iff.mpr fun hu ↦ ?_,
    Option.not_isSome_iff_eq_none.mp (Bool.eq_false_iff.mp hrequest), hunsol, hs.unknown⟩
  exact absurd ((hupdate hu).symm.trans hread) Bool.noConfusion

/-! ## Two runs -/

/-- An outstation with one control and one setpoint. -/
def twoPointOutstation : Outstation FiniteDouble (Unit × Bool) :=
  init (.new plainConfig (AppLayer.new false 2048 0) twoPoints ((), false))

/-- A call that the outstation does not interrupt. -/
def uninterrupted (e : SlaveEvent Unit) (n : ℕ) : List (OutstationMove Unit) :=
  .enter e :: List.replicate n .go

/-- The link comes up, and a read request is answered. -/
def upAndRead : List (OutstationMove Unit) :=
  uninterrupted (.app .lowerLayerUp) 8 ++
    (uninterrupted (.app (.receive [0xC0, 1, 60, 2, 6])) 3 ++ .resume :: List.replicate 9 .go)

/-- While the response is on its way, a write request arrives. -/
def writeWhileBusy : List (OutstationMove Unit) :=
  upAndRead ++ uninterrupted (.app (.receive [0xC1, 2, 80, 1, 0, 7, 7, 0])) 11 ++
    (uninterrupted (.app (.sendResult true)) 5 ++ .resume :: List.replicate 7 .go) ++
    uninterrupted (.app (.sendResult true)) 6

/-- While the response is on its way, a request with an unknown object arrives. -/
def unknownWhileBusy : List (OutstationMove Unit) :=
  upAndRead ++ uninterrupted (.app (.receive [0xC1, 1, 99, 1, 6])) 8 ++
    uninterrupted (.app (.sendResult true)) 6

/-- A callback of the slave is about to return. -/
def returns : List SlaveRest → Bool
  | .handled :: _ => true
  | _ => false

theorem eq_handled_of_returns {stack : List SlaveRest} (h : returns stack = true) :
    ∃ rest, stack = .handled :: rest := by
  cases stack with
  | nil => exact Bool.noConfusion h
  | cons frame rest =>
    cases frame with
    | handled => exact ⟨rest, rfl⟩
    | _ => exact Bool.noConfusion h

/-- The write request is deferred, and executed once the slave is idle. -/
theorem deferred_handled_write : ∃ s, Run.run (step accepting.recorded) twoPointOutstation
      writeWhileBusy = some s ∧ s.slave.history.length = 6 ∧
    s.slave.mDeferredUpdate = false ∧ s.slave.mDeferredRequest = none ∧
      s.slave.mDeferredUnsol = false ∧ s.slave.mDeferredUnknown = false := by
  obtain ⟨s, hrun⟩ : ∃ s, Run.run (step accepting.recorded) twoPointOutstation writeWhileBusy =
    some s := Option.isSome_iff_exists.mp (by decide +kernel)
  have hend : (Run.run (step accepting.recorded) twoPointOutstation writeWhileBusy).map (fun s ↦
      (returns s.stack, s.thrown, s.slave.mpState, s.slave.mRspContext.2, s.slave.history.length)) =
      some (true, false, .idle, false, 6) := by decide +kernel
  rw [hrun] at hend
  simp only [Option.map_some, Option.some.injEq, Prod.mk.injEq] at hend
  obtain ⟨hstack, hthrown, hidle, hread, hlength⟩ := hend
  obtain ⟨rest, hrest⟩ := eq_handled_of_returns hstack
  exact ⟨s, hrun, hlength, deferred_handled (by decide +kernel) hrun hrest hthrown hidle hread⟩

/-- **A deferred unknown object is not answered**: the callback ends in `AS_Idle`, and it is still
deferred. -/
theorem unknown_not_handled : ∃ s rest, Run.run (step accepting.recorded) twoPointOutstation
      unknownWhileBusy = some s ∧
    s.stack = .handled :: rest ∧ s.thrown = false ∧ s.slave.mpState = .idle ∧
    s.slave.mRspContext.2 = false ∧ s.slave.mDeferredUnknown = true := by
  obtain ⟨s, hrun⟩ : ∃ s, Run.run (step accepting.recorded) twoPointOutstation unknownWhileBusy =
    some s := Option.isSome_iff_exists.mp (by decide +kernel)
  have hend : (Run.run (step accepting.recorded) twoPointOutstation unknownWhileBusy).map (fun s ↦
      (returns s.stack, s.thrown, s.slave.mpState, s.slave.mRspContext.2,
        s.slave.mDeferredUnknown)) =
      some (true, false, .idle, false, true) := by decide +kernel
  rw [hrun] at hend
  simp only [Option.map_some, Option.some.injEq, Prod.mk.injEq] at hend
  obtain ⟨hstack, hthrown, hidle, hread, hunknown⟩ := hend
  obtain ⟨rest, hrest⟩ := eq_handled_of_returns hstack
  exact ⟨s, rest, hrun, hrest, hthrown, hidle, hread, hunknown⟩

end

end Outstation

end OpenDNP3
