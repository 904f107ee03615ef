import OpenDNP3.Slave.DeferredEvents
import OpenDNP3.Slave.TimerFaults

/-!
# The timers of the outstation in a run

The slave has a pointer for each of its two timers, `mpUnsolTimer` and `mpTimeTimer`.  Here the
timers of unsolicited responses that run are counted beside the pointer: a timer that the pointer
does not lead to any more goes on, and expires.

* `TimedOutstation.step` — one move of the outstation, with the timers.
* `TimedOutstation.Owned` — every timer that runs is one that the slave has a pointer to.
* `TimedOutstation.owned_and_safe` — **no timer is missing or started twice**, if no timer runs when
  an unsolicited response fails and no request clears the indication that the time is needed more
  often than there is a timer for it.
* `TimedOutstation.faults` — what happens otherwise: `HandleWriteIIN` uses a timer that is not
  there, and after a failure of an unsolicited response another one is started while the timer runs.
-/

set_option autoImplicit false

namespace OpenDNP3

open Handler

/-! ## The pointers -/

namespace Slave

variable {ν ρ υ : Type} {env : Environment ρ υ} {s t : Slave ν ρ} {frames : List SlaveRest}
    {aUpdate : Bool}

/-- A report starts a timer, or none. -/
theorem Reports.pointer (h : Reports env aUpdate s frames t) (hs : s.mpUnsolTimer = true) :
    t.mpUnsolTimer = true := by
  cases h with
  | nothing => exact hs
  | starts _ _ _ => exact hs
  | null _ _ => exact hs
  | packs _ _ => rfl

/-- A report does not close the slave. -/
theorem Reports.open (h : Reports env aUpdate s frames t) (hs : s.mpState ≠ .closed) :
    t.mpState ≠ .closed := by
  cases h with
  | nothing => exact hs
  | starts _ _ _ => exact AS.noConfusion
  | null _ _ => exact AS.noConfusion
  | packs _ _ => exact hs

section Requests

variable {apNext : AS} {r : Request} {o : Option (List SlaveRest)}

theorem pointer_requested (h : Piece.Requested env apNext r s o t) :
    t.mpUnsolTimer = s.mpUnsolTimer := by
  have hI : Carefree fun t : Slave ν ρ ↦ t.mpUnsolTimer = s.mpUnsolTimer :=
    ⟨fun _ _ h ↦ h, fun _ _ h ↦ h, fun _ _ _ h ↦ h, fun _ _ h ↦ h, fun _ _ _ _ h ↦ h⟩
  exact requested_keeps hI (fun _ _ h ↦ h) (fun _ _ h ↦ h) (fun _ h ↦ h) (fun _ _ h ↦ h) h rfl

theorem open_requested (hnext : apNext ≠ .closed) (h : Piece.Requested env apNext r s o t)
    (hs : s.mpState ≠ .closed) : t.mpState ≠ .closed := by
  have hI : Carefree fun t : Slave ν ρ ↦ t.mpState ≠ .closed :=
    ⟨fun _ _ h ↦ h, fun _ _ h ↦ h, fun _ _ _ h ↦ h, fun _ _ h ↦ h, fun _ _ _ _ h ↦ h⟩
  exact requested_keeps hI (fun _ _ _ ↦ hnext) (fun _ _ h ↦ h) (fun _ h ↦ h) (fun _ _ h ↦ h) h hs

end Requests

/-- The timer of the clock runs only while the link is up. -/
def ClockOwned (s : Slave ν ρ) : Prop := s.mpState = .closed → s.mpTimeTimer = false

theorem clockOwned_of_open (h : s.mpState ≠ .closed) : s.ClockOwned := fun hs ↦ absurd hs h

theorem clockOwned_moved (s : Slave ν ρ) (aState : AS) : (s.moved aState).ClockOwned := by
  intro hs
  have hclosed : aState = .closed := hs
  change (s.mpTimeTimer && decide (aState ≠ .closed)) = false
  rw [decide_eq_false (not_not.mpr hclosed), Bool.and_false]

end Slave

namespace SlaveRest

open Slave

variable {ν ρ υ : Type} {env : Environment ρ υ} {s t : Slave ν ρ} {frame : SlaveRest}
  {o : Option (List SlaveRest)}

/-- The timer of unsolicited responses has expired. -/
def isExpiration : SlaveRest → Bool
  | .onUnsolTimerExpiration => true
  | _ => false

/-- **Only the expiration of the timer clears the pointer.** -/
theorem Does.pointer (h : frame.Does env s o t) (hframe : frame.isExpiration = false)
    (hs : s.mpUnsolTimer = true) : t.mpUnsolTimer = true := by
  cases h with
  | requestIdle _ h | requestUnsol _ _ h | flushRequest _ _ h =>
    exact (pointer_requested h).trans hs
  | updateIdle _ h | flushUpdate _ h | flushUnsol _ _ h => exact h.pointer hs
  | expiresIdle _ _ | expiresDeferred _ => exact Bool.noConfusion hframe
  | unsolFails _ _ => rfl
  | @send aUnsol | @sendFails aUnsol =>
    cases aUnsol with
    | false => exact hs
    | true => exact hs
  | _ => exact hs

/-- **The timer of the clock** runs only while the link is up. -/
theorem Does.clock (h : frame.Does env s o t) (hs : s.ClockOwned) : t.ClockOwned := by
  have hopen {aState : AS} (h : s.mpState = aState) (hn : aState ≠ .closed) : s.mpState ≠ .closed :=
    fun hc ↦ hn (h.symm.trans hc)
  cases h with
  | lowerLayerUp _ _ | completes _ _ | ends _ _ | fails _ | unsolExpires _ | unknownIdle _ =>
    exact clockOwned_of_open AS.noConfusion
  | lowerLayerDown _ => exact clockOwned_moved _ .closed
  | unsolSucceeds h | unsolFails h _ | unsolTimerRuns h _ =>
    rcases h with ⟨_, rfl⟩ | ⟨_, rfl⟩
    · exact clockOwned_of_open AS.noConfusion
    · exact clockOwned_of_open AS.noConfusion
  | requestIdle hi h =>
    exact clockOwned_of_open (open_requested AS.noConfusion h (hopen hi AS.noConfusion))
  | requestUnsol hi _ h =>
    exact clockOwned_of_open (open_requested AS.noConfusion h (hopen hi AS.noConfusion))
  | flushRequest hi _ h =>
    exact clockOwned_of_open (open_requested AS.noConfusion h (hopen hi AS.noConfusion))
  | updateIdle hi h | expiresIdle hi h | flushUpdate hi h | flushUnsol hi _ h =>
    exact clockOwned_of_open (h.open (hopen hi AS.noConfusion))
  | @send aUnsol | @sendFails aUnsol =>
    cases aUnsol with
    | false => exact hs
    | true => exact hs
  | _ => exact hs

theorem any_ofCall (apData : List Byte) (call : Option UserCall) :
    (ofCall apData call).any isExpiration = false := by
  cases call with
  | none => rfl
  | some call => rfl

theorem any_calls (apData : List Byte) (call : Option UserCall)
    (acts : List (AppLayer.Act (List Byte))) :
    (ofCall apData call ++ acts.map SlaveRest.act).any isExpiration = false := by
  rw [List.any_append, any_ofCall, Bool.false_or, List.any_map]
  exact List.any_eq_false.mpr fun _ _ ↦ Bool.false_ne_true

theorem any_requested {apNext : AS} {r : Request} {frames : List SlaveRest}
    (h : Piece.Requested env apNext r s (some frames) t) (l : List SlaveRest) :
    (frames ++ l).any isExpiration = l.any isExpiration := by
  rcases frames_requested h with rfl | rfl
  · rfl
  · rfl

theorem any_reports {aUpdate : Bool} {frames : List SlaveRest} (h : Reports env aUpdate s frames t)
    (l : List SlaveRest) : (frames ++ l).any isExpiration = l.any isExpiration := by
  cases h <;> rfl

/-- **Who calls `OnUnsolTimerExpiration`**: the slave itself, where a failed response is to be sent
again at once. -/
theorem Does.expiration {frames : List SlaveRest} (h : frame.Does env s (some frames) t)
    (hx : frames.any isExpiration = true) :
    frame.failsUnsol s = true ∧ frames = .onUnsolTimerExpiration :: Piece.flushDeferredEvents ∧
      t.mpUnsolTimer = s.mpUnsolTimer ∧ t.mpAppLayer = s.mpAppLayer := by
  generalize ho : some frames = o at h
  cases h with
  | layer _ | send _ _ =>
    obtain rfl := Option.some.inj ho
    rw [any_calls] at hx
    exact Bool.noConfusion hx
  | receive _ =>
    obtain rfl := Option.some.inj ho
    rw [List.any_append, any_calls] at hx
    exact Bool.noConfusion hx
  | receiveCaught _ _ | act _ =>
    obtain rfl := Option.some.inj ho
    rw [any_ofCall] at hx
    exact Bool.noConfusion hx
  | unsolExpires hs =>
    refine ⟨?_, Option.some.inj ho, rfl, rfl⟩
    rw [failsUnsol, hs]
    rfl
  | requestIdle _ h | requestUnsol _ _ h | flushRequest _ _ h =>
    obtain ⟨_, rfl, rfl⟩ := Option.map_eq_some_iff.mp ho.symm
    rw [any_requested h] at hx
    exact Bool.noConfusion hx
  | updateIdle _ h | expiresIdle _ h | flushUpdate _ h | flushUnsol _ _ h =>
    obtain rfl := Option.some.inj ho
    rw [any_reports h] at hx
    exact Bool.noConfusion hx
  | @flushNothing d _ =>
    obtain rfl := Option.some.inj ho
    cases d <;> exact Bool.noConfusion hx
  | layerFails | down | receiveFails | actFails | refuses | sendFails | unexpected
  | unsolTimerRuns =>
    exact absurd ho (Option.some_ne_none _)
  | _ =>
    obtain rfl := Option.some.inj ho
    exact Bool.noConfusion hx

end SlaveRest

/-! ## The timers that run

The slave keeps a pointer to its timer. A timer that was started while another one runs is not
known to it, so the timers are counted beside the slave. -/

/-- **The outstation with its timers**: how many timers of unsolicited responses run.  That the
timer of the clock runs is `mpTimeTimer`, since it is cancelled wherever its pointer is cleared. -/
structure TimedOutstation (ν ρ : Type) where
  outstation : Outstation ν ρ
  timers : ℕ

namespace TimedOutstation

open Slave SlaveRest Outstation

variable {ν ρ υ : Type}

/-- No call is under way, and no timer runs. -/
def init (s : Slave ν ρ) : TimedOutstation ν ρ := ⟨.init s, 0⟩

/-- A timer has expired, and `OnUnsolTimerExpiration` comes next. -/
def expires (s : Outstation ν ρ) : Bool := s.stack.head?.any isExpiration

/-- The timers that `StartUnsolTimer` has started: one, if the pointer is set that was not, or that
the expiration of the timer had cleared before. -/
def started (s t : Outstation ν ρ) : ℕ :=
  (t.slave.mpUnsolTimer && (!s.slave.mpUnsolTimer || expires s)).toNat

/-- **A timer expires**, whether the slave has a pointer to it or not. -/
def expire (s : TimedOutstation ν ρ) : TimedOutstation ν ρ where
  outstation := { s.outstation with
    stack := .onUnsolTimerExpiration :: .returned :: s.outstation.stack
    running := true
    thrown := s.outstation.thrown && !s.outstation.stack.isEmpty }
  timers := s.timers - 1

variable [SetpointValue ν] (env : Environment ρ υ)

/-- **One move** of the outstation, and what becomes of its timers. -/
def step (s : TimedOutstation ν ρ) : OutstationMove υ → Option (TimedOutstation ν ρ)
  | .enter .unsolTimer =>
    if s.outstation.running = false ∧ 0 < s.timers then some s.expire else none
  | m => (s.outstation.step env m).map fun t ↦ ⟨t, s.timers + started s.outstation t⟩

/-- The exception that the outstation throws in a move. -/
def raised (s : Outstation ν ρ) : OutstationMove υ → Option Exception
  | .go => s.stack.head?.bind fun frame ↦ (exec (frame.perform env) s.slave).2
  | _ => none

variable {env}

omit [SetpointValue ν] in
/-- **Every timer that runs has its owner.**  The slave has a pointer to the one timer of
unsolicited responses that runs, unless it has just expired; and when the link comes up, which
starts the timer of the clock, that timer does not run. -/
structure Owned (s : TimedOutstation ν ρ) : Prop where
  unsol : s.timers = if expires s.outstation then 0 else s.outstation.slave.mpUnsolTimer.toNat
  clock : s.outstation.slave.ClockOwned

/-- **The move uses no timer that is not there, and starts none while one runs.** -/
structure Safe (env : Environment ρ υ) (s : TimedOutstation ν ρ) (m : OutstationMove υ) : Prop where
  present : ∀ ex, raised env s.outstation m = some ex → ex.isTimerFault = false
  single : ∀ t, s.step env m = some t → t.timers ≤ 1

/-- **The condition**: a piece finds the timers as it needs them. -/
def FindsTimers (s : TimedOutstation ν ρ) (m : OutstationMove υ) : Prop :=
  m = .go → ∀ frame ∈ s.outstation.stack.head?, frame.FindsTimers s.outstation.slave

/-! ## The invariant -/

/-- The timers have owners, and a timer that has expired is handled at once. -/
structure Kept (s : TimedOutstation ν ρ) : Prop extends Owned s where
  once : s.outstation.stack.tail.any isExpiration = false
  idle : s.outstation.running = false → s.outstation.stack.any isExpiration = false

omit [SetpointValue ν] in
theorem expires_of_any {s : Outstation ν ρ} (h : s.stack.any isExpiration = false) :
    expires s = false := by
  rw [expires]
  cases hs : s.stack with
  | nil => rfl
  | cons frame rest =>
    rw [hs, List.any_cons, Bool.or_eq_false_iff] at h
    exact h.1

omit [SetpointValue ν] in
/-- Where no timer expires next, the pointer has to be kept. -/
theorem Kept.quiet {s : TimedOutstation ν ρ} {t : Outstation ν ρ} (hs : Kept s)
    (ht : t.stack.any isExpiration = false)
    (hpointer : expires s.outstation = false → s.outstation.slave.mpUnsolTimer = true →
      t.slave.mpUnsolTimer = true)
    (hclock : t.slave.ClockOwned) : Kept ⟨t, s.timers + started s.outstation t⟩ where
  unsol := by
    have hunsol := hs.unsol
    rw [expires_of_any ht, started]
    revert hunsol hpointer
    cases expires s.outstation <;> cases s.outstation.slave.mpUnsolTimer <;>
      cases t.slave.mpUnsolTimer <;>
      simp
  clock := hclock
  once := by
    change t.stack.tail.any isExpiration = false
    cases hs : t.stack with
    | nil => rfl
    | cons frame rest =>
      rw [hs, List.any_cons, Bool.or_eq_false_iff] at ht
      exact ht.2
  idle _ := ht

omit [SetpointValue ν] in
/-- An exception ends calls, and the layer may call the slave. -/
theorem any_throwTo (ex : Exception) (stack : List SlaveRest) (s : Slave ν ρ)
    (h : stack.any isExpiration = false) : (throwTo s ex stack).2.1.any isExpiration = false := by
  induction stack generalizing s ex with
  | nil => rfl
  | cons frame rest ih =>
    rw [List.any_cons, Bool.or_eq_false_iff] at h
    cases frame with
    | returned => exact h.2
    | caught apData =>
      rw [throwTo]
      split
      · rw [List.any_append, any_ofCall, h.2]
        rfl
      · exact ih _ _ h.2
    | _ => exact ih ex s h.2

/-! ## One move -/

section

variable {s t : TimedOutstation ν ρ} {m : OutstationMove υ}

/-- Every move but the expiration of a timer of unsolicited responses is one of the outstation. -/
theorem step_of_ne (hm : m ≠ .enter .unsolTimer) (h : s.step env m = some t) :
    ∃ u, s.outstation.step env m = some u ∧ t = ⟨u, s.timers + started s.outstation u⟩ := by
  have heq : s.step env m = (s.outstation.step env m).map
      fun t ↦ ⟨t, s.timers + started s.outstation t⟩ := by
    cases m with
    | enter e =>
      cases e with
      | unsolTimer => exact absurd rfl hm
      | _ => rfl
    | _ => rfl
  rw [heq] at h
  obtain ⟨u, hu, rfl⟩ := Option.map_eq_some_iff.mp h
  exact ⟨u, hu, rfl⟩

omit [SetpointValue ν] in
/-- A timer that has expired does not run any more. -/
theorem Kept.expire (hs : Kept s) (hrun : s.outstation.running = false) (hn : 0 < s.timers) :
    Kept s.expire := by
  have hidle : s.outstation.stack.any isExpiration = false := hs.idle hrun
  have hunsol := hs.unsol
  rw [expires_of_any hidle, if_neg Bool.false_ne_true] at hunsol
  have hone : s.timers ≤ 1 := hunsol ▸ Bool.toNat_le _
  refine ⟨⟨?_, hs.clock⟩, hidle, fun h ↦ Bool.noConfusion h⟩
  change s.timers - 1 = 0
  omega

/-- New updates and the timer of the clock touch no pointer but that of the clock. -/
theorem exec_clock {e : SlaveEvent υ} (he : calls e = []) (s : Slave ν ρ) (hs : s.ClockOwned) :
    (exec (Slave.handle env e) s).1.mpUnsolTimer = s.mpUnsolTimer ∧
      (exec (Slave.handle env e) s).1.ClockOwned := by
  cases e with
  | app e =>
    cases e with
    | receive _ => exact absurd he (List.cons_ne_nil _ _)
    | _ => exact absurd he (List.cons_ne_nil _ _)
  | update u => exact ⟨rfl, hs⟩
  | onDataUpdate => exact absurd he (List.cons_ne_nil _ _)
  | unsolTimer => exact absurd he (List.cons_ne_nil _ _)
  | timeTimer =>
    refine exec_of_wp (x := Slave.handle env .timeTimer)
      (Q := fun (t : Slave ν ρ) _ ↦ t.mpUnsolTimer = s.mpUnsolTimer ∧ t.ClockOwned) ?_
    rw [Slave.handle, wp_bind, wp_get]
    refine wp_ite (fun ht ↦ ?_) fun _ ↦ ⟨rfl, hs⟩
    have hopen : s.mpState ≠ .closed := fun hc ↦ Bool.noConfusion (ht.symm.trans (hs hc))
    rw [resetTimeIIN, wp_bind, wp_modify, restartTimeSyncTimer, wp_modify]
    exact ⟨rfl, clockOwned_of_open hopen⟩

omit [SetpointValue ν] in
/-- An exception touches no pointer. -/
theorem throwTo_keeps (u : Slave ν ρ) (ex : Exception) (stack : List SlaveRest)
    (hu : u.ClockOwned) :
    (throwTo u ex stack).1.mpUnsolTimer = u.mpUnsolTimer ∧ (throwTo u ex stack).1.ClockOwned :=
  throwTo_inv (I := fun v ↦ v.mpUnsolTimer = u.mpUnsolTimer ∧ v.ClockOwned)
    (fun _ _ h ↦ h) ex stack u ⟨rfl, hu⟩

/-- Something comes in only while control is outside. -/
theorem not_running_of_enter {s u : Outstation ν ρ} {e : SlaveEvent υ}
    (h : s.step env (.enter e) = some u) : s.running = false := by
  rw [Outstation.step] at h
  split at h
  · next hp => exact hp.1
  · exact absurd h (Option.some_ne_none u).symm

omit [SetpointValue ν] in
/-- The slave calls `OnUnsolTimerExpiration` itself: there is no timer then. -/
theorem Kept.callsExpiration (hs : Kept s) {frame : SlaveRest} {rest frames : List SlaveRest}
    {t : Slave ν ρ} {u : Outstation ν ρ} (hstack : s.outstation.stack = frame :: rest)
    (hg : frame.FindsTimers s.outstation.slave)
    (h : frame.Does env s.outstation.slave (some frames) t)
    (hx : frames.any isExpiration = true) (hrest : rest.any isExpiration = false)
    (hclock : t.ClockOwned) (hu : u.slave = t ∧ u.stack = frames ++ rest ∧
      u.running = !frame.callsLower s.outstation.slave.mpAppLayer t.mpAppLayer) :
    Kept ⟨u, s.timers + started s.outstation u⟩ := by
  obtain ⟨hfails, hframes, hpointer, happ⟩ := h.expiration hx
  obtain ⟨hslave, hstack', hrun⟩ := hu
  have hnone : s.outstation.slave.mpUnsolTimer = false := hg.unsol hfails
  obtain ⟨apData, rfl⟩ : ∃ apData, frame = .user (.onFailure true) apData := by
    rw [failsUnsol.eq_def] at hfails
    split at hfails
    · exact ⟨_, rfl⟩
    · exact Bool.noConfusion hfails
  have hunsol := hs.unsol
  have hexpires : expires s.outstation = false := by
    rw [expires, hstack]
    rfl
  rw [hexpires, hnone] at hunsol
  refine ⟨⟨?_, hslave ▸ hclock⟩, ?_, fun hidle ↦ ?_⟩
  · have hnext : expires u = true := by
      rw [expires, hstack', hframes]
      rfl
    rw [hnext, started, hslave, hpointer, hnone]
    exact hunsol
  · change u.stack.tail.any isExpiration = false
    rw [hstack', hframes]
    exact hrest
  · -- the layer was not called
    have hquiet : SlaveRest.callsLower
      (.user (.onFailure true) apData) s.outstation.slave.mpAppLayer
        t.mpAppLayer = false := by
      rw [happ, callsLower]
      cases s.outstation.slave.mpAppLayer.mSending <;> rfl
    rw [hrun, hquiet] at hidle
    exact Bool.noConfusion hidle

/-- **One move of the outstation** that finds the timers as it needs them. -/
theorem Kept.move {u : Outstation ν ρ} (hs : Kept s) (hg : s.FindsTimers m)
    (hm : m ≠ .enter .unsolTimer)
    (hstep : s.outstation.step env m = some u) : Kept ⟨u, s.timers + started s.outstation u⟩ := by
  cases moves_of_step hstep with
  | happens he =>
    have hidle := hs.idle (not_running_of_enter hstep)
    obtain ⟨hpointer, hclock⟩ := @exec_clock _ _ _ _ env _ he s.outstation.slave hs.clock
    exact hs.quiet hidle (fun _ hp ↦ hpointer.trans hp) hclock
  | @enters e _ hrun =>
    have hidle := hs.idle hrun
    refine hs.quiet ?_ (fun _ hp ↦ hp) hs.clock
    have hcalls : (calls e).any isExpiration = false := by
      cases e with
      | app e => cases e <;> rfl
      | unsolTimer => exact absurd rfl hm
      | _ => rfl
    change (calls e ++ .returned :: s.outstation.stack).any isExpiration = false
    rw [List.any_append, hcalls, List.any_cons, hidle]
    rfl
  | returns hstack =>
    have hrest := hs.once
    rw [hstack] at hrest
    exact hs.quiet hrest (fun _ hp ↦ hp) hs.clock
  | @goes frame rest frames t hstack hrun h =>
    have hrest := hs.once
    rw [hstack] at hrest
    have hclock := h.clock hs.clock
    cases hx : frames.any isExpiration with
    | true =>
      exact hs.callsExpiration hstack (hg rfl frame (by rw [hstack]; rfl)) h hx hrest hclock
        ⟨rfl, rfl, rfl⟩
    | false =>
      refine hs.quiet ?_ (fun he hp ↦ h.pointer ?_ hp) hclock
      · change (frames ++ rest).any isExpiration = false
        rw [List.any_append, hx]
        exact hrest
      · rw [expires, hstack] at he
        exact he
  | @throws frame rest t ex hstack hrun h =>
    have hrest := hs.once
    rw [hstack] at hrest
    obtain ⟨hpointer, hclock⟩ := throwTo_keeps t ex rest (h.clock hs.clock)
    refine hs.quiet (any_throwTo ex rest t hrest) (fun he hp ↦ ?_) hclock
    rw [expires, hstack] at he
    exact hpointer.trans (h.pointer he hp)
  | resumes hrun => exact hs.quiet (hs.idle hrun) (fun _ hp ↦ hp) hs.clock
  | @unwinds ex hrun =>
    obtain ⟨hpointer, hclock⟩ := throwTo_keeps s.outstation.slave ex s.outstation.stack hs.clock
    exact hs.quiet (any_throwTo ex _ _ (hs.idle hrun)) (fun _ hp ↦ hpointer.trans hp) hclock

/-- **One move** that finds the timers as it needs them. -/
theorem Kept.step (hs : Kept s) (hg : s.FindsTimers m) (h : s.step env m = some t) : Kept t := by
  by_cases hm : m = .enter .unsolTimer
  · rw [hm, TimedOutstation.step] at h
    split at h
    · next hp => exact Option.some.inj h ▸ hs.expire hp.1 hp.2
    · exact absurd h (Option.some_ne_none t).symm
  · obtain ⟨u, hu, rfl⟩ := step_of_ne hm h
    exact hs.move hg hm hu

omit [SetpointValue ν] in
theorem Owned.timers_le_one (h : Owned s) : s.timers ≤ 1 := by
  rw [h.unsol]
  split
  · exact Nat.zero_le 1
  · exact Bool.toNat_le _

theorem Kept.safe (hs : Kept s) (hg : s.FindsTimers m) : Safe env s m where
  single t ht := (hs.step hg ht).timers_le_one
  present ex hex := by
    cases m with
    | go =>
      rw [raised] at hex
      obtain ⟨frame, hframe, hthrown⟩ := Option.bind_eq_some_iff.mp hex
      have hwp : wp (frame.perform env) (fun _ _ ↦ True)
          (fun e _ ↦ e.Unrelated) s.outstation.slave :=
        SlaveRest.wp_perform (hg rfl frame hframe)
      have hexec := exec_of_wp (x := frame.perform env)
        (Q := fun _ o ↦ ∀ e, o = some e → e.isTimerFault = false) (s := s.outstation.slave)
        (wp_mono hwp (fun _ _ _ ↦ fun _ h ↦ nomatch h) fun e _ he ↦ fun _ h ↦
          Option.some.inj h ▸ he)
      exact hexec ex hthrown
    | enter e => exact absurd hex (fun h ↦ nomatch h)
    | resume => exact absurd hex (fun h ↦ nomatch h)
    | unwind e => exact absurd hex (fun h ↦ nomatch h)

end

/-! ## Every run -/

/-- **No timer is missing, and none is started twice**, in every run in which no timer of
unsolicited responses runs when one has failed, and no request clears the indication that the time
is needed more often than there is a timer for it. -/
theorem owned_and_safe {env : Environment ρ υ} {arCfg : SlaveConfig}
    {apAppLayer : AppLayer (List Byte)}
    {apCmdMaster : DNPCommandMaster ν} {aRspContext : ρ} {ms : List (OutstationMove υ)}
    (hguard : Run.Guarded (step env) FindsTimers
      (init (.new arCfg apAppLayer apCmdMaster aRspContext)) ms) :
    Run.Guarded (step env) (Safe env) (init (.new arCfg apAppLayer apCmdMaster aRspContext)) ms ∧
      ∀ s, Run.run (step env) (init (.new arCfg apAppLayer apCmdMaster aRspContext)) ms = some s →
        Owned s := by
  have hinit : Kept (init (.new arCfg apAppLayer apCmdMaster aRspContext)) :=
    ⟨⟨rfl, fun _ ↦ rfl⟩, rfl, fun _ ↦ rfl⟩
  have hstep (s : TimedOutstation ν ρ) (m : OutstationMove υ) (t : TimedOutstation ν ρ)
    (hs : Kept s)
      (hg : s.FindsTimers m) (h : s.step env m = some t) : Kept t := hs.step hg h
  refine ⟨Run.guarded_of_inv hstep (fun s m hs hg ↦ hs.safe hg) hinit hguard, fun s hrun ↦ ?_⟩
  exact (Run.inv_of_guarded hstep hinit hguard hrun).toOwned

/-! ## Runs -/

omit [SetpointValue ν] in
/-- The condition can be tested. -/
instance (s : Slave ν ρ) (r : APDU) (aSeqInfo : SequenceInfo) :
    Decidable (Piece.Harmless s r aSeqInfo) :=
  inferInstanceAs (Decidable (_ → _ → _))

omit [SetpointValue ν] in
instance (s : Slave ν ρ) (frame : SlaveRest) : Decidable (frame.FindsTimers s) :=
  decidable_of_iff ((frame.failsUnsol s = true → s.mpUnsolTimer = false) ∧
      ∀ r ∈ frame.executes s, Piece.Harmless s r.mRequest r.mSeqInfo)
    ⟨fun h ↦ ⟨h.1, h.2⟩, fun h ↦ ⟨h.unsol, h.time⟩⟩

omit [SetpointValue ν] in
instance [DecidableEq υ] (s : TimedOutstation ν ρ) (m : OutstationMove υ) :
    Decidable (s.FindsTimers m) :=
  inferInstanceAs (Decidable (_ → _))

/-- An outstation with one control and one setpoint. -/
def configured (arCfg : SlaveConfig) : TimedOutstation FiniteDouble Unit :=
  init (.new arCfg (AppLayer.new false 2048 0) twoPoints ())

/-- The clock is to be synchronized. -/
def clockConfig : SlaveConfig := { plainConfig with mAllowTimeSync := true }

/-- There are unsolicited responses. -/
def unsolConfig : SlaveConfig := { plainConfig with mDisableUnsol := false }

/-- A call that the outstation interrupts by a call of the lower layer. -/
def interrupted (e : SlaveEvent Unit) (n k : ℕ) : List (OutstationMove Unit) :=
  uninterrupted e n ++ .resume :: List.replicate k .go

/-- The link comes up, and the master clears the indication that the time is needed. -/
def timeCleared : List (OutstationMove Unit) :=
  uninterrupted (.app .lowerLayerUp) 8 ++ uninterrupted
    (.app (.receive [0xC0, 2, 80, 1, 0, 4, 4, 0])) 1

/-- The first unsolicited response fails, the master enables unsolicited responses, and the response
that the slave sends at once fails too. -/
def unsolFailsTwice : List (OutstationMove Unit) :=
  interrupted (.app .lowerLayerUp) 6 4 ++ uninterrupted (.app (.sendResult false)) 9 ++
    interrupted (.app (.receive [0xC0, 20, 60, 2, 6])) 3 9 ++ interrupted
      (.app (.sendResult true)) 6 5 ++
    uninterrupted (.app (.sendResult false)) 1

/-- With a timer for the clock, the request is harmless. -/
theorem owned_and_safe_clock : ∃ s, Run.run (step accepting) (configured clockConfig)
    (timeCleared ++ [.go]) =
    some s ∧ Run.Guarded (step accepting) (Safe accepting) (configured clockConfig)
      (timeCleared ++ [.go]) ∧
      Owned s ∧ s.outstation.slave.mpTimeTimer = false := by
  obtain ⟨s, hrun⟩ : ∃ s, Run.run (step accepting) (configured clockConfig) (timeCleared ++ [.go]) =
      some s :=
    Option.isSome_iff_exists.mp (by decide +kernel)
  have hend : (Run.run (step accepting) (configured clockConfig) (timeCleared ++ [.go])).map
      (·.outstation.slave.mpTimeTimer) = some false := by decide +kernel
  rw [hrun] at hend
  have hguard : Run.Guarded (step accepting) FindsTimers
    (init (.new clockConfig (AppLayer.new false 2048 0)
      twoPoints ())) (timeCleared ++ [.go]) := by decide +kernel
  obtain ⟨hsafe, howned⟩ := owned_and_safe hguard
  exact ⟨s, hrun, hsafe, howned s hrun, Option.some.inj hend⟩

/-- **The timers fault**: `HandleWriteIIN` cancels a timer that is not there, and a timer of
unsolicited responses is to be started while it runs. -/
theorem faults :
    (∃ s, Run.run (step accepting) (configured plainConfig) timeCleared = some s ∧
      raised accepting s.outstation (.go : OutstationMove Unit) = some
        (.nullPointer "mpTimeTimer")) ∧
    ∃ s, Run.run (step accepting) (configured unsolConfig) unsolFailsTwice = some s ∧ s.timers = 1 ∧
      raised accepting s.outstation (.go : OutstationMove Unit) =
        some (.assertion "mpUnsolTimer == NULL") := by
  constructor
  · obtain ⟨s, hrun⟩ : ∃ s, Run.run (step accepting) (configured plainConfig) timeCleared =
        some s :=
      Option.isSome_iff_exists.mp (by decide +kernel)
    have hend : (Run.run (step accepting) (configured plainConfig) timeCleared).map (fun s ↦
        raised accepting s.outstation (.go : OutstationMove Unit)) =
        some (some (.nullPointer "mpTimeTimer")) := by decide +kernel
    rw [hrun] at hend
    exact ⟨s, hrun, Option.some.inj hend⟩
  · obtain ⟨s, hrun⟩ : ∃ s, Run.run (step accepting) (configured unsolConfig) unsolFailsTwice =
        some s :=
      Option.isSome_iff_exists.mp (by decide +kernel)
    have hend : (Run.run (step accepting) (configured unsolConfig) unsolFailsTwice).map (fun s ↦
        (s.timers, raised accepting s.outstation (.go : OutstationMove Unit))) =
        some (1, some (.assertion "mpUnsolTimer == NULL")) := by decide +kernel
    rw [hrun] at hend
    obtain ⟨htimers, hraised⟩ := Prod.mk.inj (Option.some.inj hend)
    exact ⟨s, hrun, htimers, hraised⟩

end TimedOutstation

end OpenDNP3
