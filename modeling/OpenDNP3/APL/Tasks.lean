import Mathlib.Data.Int.Basic
import OpenDNP3.APL.Exception
import OpenDNP3.Lib.Handler
import OpenDNP3.Lib.MaxElement
import OpenDNP3.Lib.Reach
import OpenDNP3.Lib.Run

/-!
# Groups of asynchronous tasks

An `AsyncTaskGroup` runs its tasks one at a time.  Each task has a priority, a time at which it is
to run next, and tasks that it depends on.  `CheckState` looks for the next task with
`std::max_element`, by a comparison that puts a task below the incomplete tasks it depends on, and
else compares whether the tasks are enabled, whether they are due, their priorities and their times.
It dispatches the task it finds if this is due, and otherwise starts a timer for it.

A task is known by its place in the group.  The handler of a task is the last thing that a dispatch
does, and a dispatch the last thing that `CheckState` does; what a handler does, such as to complete
its task at once, comes as a later event.

* `AsyncTask` and `TaskVec` — the tasks, and their comparison.
* `AsyncTaskGroup` and its operations.
* `AsyncTaskGroup.step` — one event at a group.
-/

set_option autoImplicit false

namespace OpenDNP3

open Handler

/-! ## Time -/

/-- `ptime`, in microseconds since the earliest date that it has. -/
abbrev PTime := ℤ

/-- `min_date_time` -/
def minDateTime : PTime := 0

/-- `max_date_time`, the last microsecond of the year 9999. -/
def maxDateTime : PTime := 271389743999999999

/-- `milliseconds` -/
def milliseconds (aMillis : ℤ) : PTime := 1000 * aMillis

/-! ## Tasks -/

/-- The classes of tasks. -/
inductive TaskKind where
  /-- `AsyncTaskPeriodic` -/
  | periodic (mPeriod mRetryDelay : ℤ)
  /-- `AsyncTaskNonPeriodic` -/
  | nonPeriodic (mRetryDelay : ℤ)
  /-- `AsyncTaskContinuous` -/
  | continuous
  deriving DecidableEq, Repr

/-- `AsyncTaskBase`; the tasks that it depends on are given by their places in the group. -/
structure AsyncTask where
  kind : TaskKind
  mDependencies : List ℕ := []
  mIsEnabled : Bool := false
  mIsComplete : Bool := false
  mIsExpired : Bool := false
  mIsRunning : Bool := false
  mPriority : ℤ
  mNextRunTime : PTime := minDateTime
  mFlags : BitVec 32 := 0
  deriving DecidableEq, Repr

instance : Inhabited AsyncTask := ⟨{ kind := .continuous, mPriority := 0 }⟩

namespace AsyncTask

variable (p : AsyncTask)

/-- `SilentEnable` -/
def silentEnable : AsyncTask := { p with mIsEnabled := true }

/-- `Reset`; all tasks have the same initial time. -/
def reset : AsyncTask :=
  { p with
    mIsComplete := false, mIsExpired := false, mIsRunning := false
    mNextRunTime := minDateTime }

/-- `SilentDisable` -/
def silentDisable : AsyncTask := { p.reset with mIsEnabled := false }

/-- `UpdateTime` -/
def updateTime (arTime : PTime) : AsyncTask :=
  if arTime ≥ p.mNextRunTime then { p with mIsComplete := false, mIsExpired := true }
  else { p with mIsExpired := false }

/-- `_OnComplete` -/
def complete (aSuccess : Bool) (now : PTime) : AsyncTask :=
  match p.kind with
  | .periodic period retry =>
    if aSuccess then { p with mIsComplete := true, mNextRunTime := now + milliseconds period }
    else { p with mNextRunTime := now + milliseconds retry }
  | .nonPeriodic retry =>
    if aSuccess then { p with mIsComplete := true, mNextRunTime := maxDateTime }
    else { p with mNextRunTime := now + milliseconds retry }
  | .continuous => p

end AsyncTask

/-- `TaskVec` -/
abbrev TaskVec := List AsyncTask

namespace TaskVec

variable (v : TaskVec)

/-- The task at a place. -/
def task (i : ℕ) : AsyncTask := v.getD i default

/-- The tasks that a task depends on directly. -/
def dependencies (i : ℕ) : List ℕ := (v.task i).mDependencies

/-- `IsDependency`, which follows the dependencies; no path is longer than the group. -/
def isDependency (l r : ℕ) : Bool := Reach.within v.dependencies v.length l r

/-- `LessThan` -/
def lessThan (l r : ℕ) : Bool :=
  -- if a dependency is incomplete, it always blocks
  if v.isDependency l r && !(v.task r).mIsComplete then true
  else if v.isDependency r l && !(v.task l).mIsComplete then false
  else if !(v.task l).mIsEnabled && (v.task r).mIsEnabled then true
  else if !(v.task r).mIsEnabled && (v.task l).mIsEnabled then false
  else if (v.task l).mIsExpired then
    if (v.task r).mIsExpired then (v.task l).mPriority < (v.task r).mPriority
    else false
  else if (v.task r).mIsExpired then true
  else (v.task l).mNextRunTime > (v.task r).mNextRunTime

/-- `LessThanGroupLevel` -/
def lessThanGroupLevel (l r : ℕ) : Bool :=
  if (v.task l).mIsRunning then false
  else if (v.task r).mIsRunning then true
  else v.lessThan l r

/-- `GetNext`, after the tasks have been updated. -/
def getNext : Option ℕ :=
  match MaxElement.maxElement v.lessThanGroupLevel (List.range v.length) with
  | none => none
  | some p => if !(v.task p).mIsRunning && (v.task p).mIsEnabled then some p else none

end TaskVec

/-! ## The group -/

/-- What a `CheckState` has compared, and what came of it. -/
structure TaskCheck where
  /-- The tasks after they have been updated. -/
  found : TaskVec
  now : PTime
  /-- The task that has been dispatched. -/
  dispatched : Option ℕ
  /-- When the timer expires. -/
  timer : Option PTime
  deriving DecidableEq, Repr

/-- `AsyncTaskGroup`, with what its checks have found and done. -/
structure AsyncTaskGroup where
  mTaskVec : TaskVec := []
  mIsRunning : Bool := false
  mShutdown : Bool := false
  mpTimer : Option PTime := none
  checks : List TaskCheck := []
  deriving DecidableEq, Repr

namespace AsyncTaskGroup

/-- The operations of a group. -/
abbrev Op := EStateM Exception AsyncTaskGroup

/-- A task changes. -/
def modifyTask (i : ℕ) (f : AsyncTask → AsyncTask) : Op Unit :=
  modify fun s ↦ { s with mTaskVec := s.mTaskVec.modify i f }

/-- All tasks change. -/
def forEach (f : AsyncTask → AsyncTask) : Op Unit :=
  modify fun s ↦ { s with mTaskVec := s.mTaskVec.map f }

/-- A check is over. -/
def checked (found : TaskVec) (now : PTime) (dispatched : Option ℕ) : Op Unit :=
  modify fun s ↦ { s with checks := s.checks ++ [⟨found, now, dispatched, s.mpTimer⟩] }

/-- `Dispatch` -/
def dispatch (i : ℕ) : Op Unit := do
  let p := (← get).mTaskVec.task i
  ensure (¬p.mIsRunning = true) (.invalidState "Running")
  ensure (p.mIsEnabled = true) (.invalidState "Disabled")
  modifyTask i fun p ↦ { p with mIsRunning := true, mIsComplete := false, mIsExpired := false }

/-- `RestartTimer` -/
def restartTimer (arTime : PTime) : Op Unit := do
  modify fun s ↦ if s.mpTimer = some arTime then s else { s with mpTimer := none }
  modify fun s ↦ if s.mpTimer = none then { s with mpTimer := some arTime } else s

/-- `CheckState`, when the next task has been found. -/
def checkNext (found : TaskVec) (now : PTime) (i : ℕ) : Op Unit := do
  if (found.task i).mNextRunTime = maxDateTime then checked found now none
  else if (found.task i).mNextRunTime ≤ now then do
    modify fun s ↦ { s with mIsRunning := true }
    dispatch i
    checked found now (some i)
  else do
    restartTimer (found.task i).mNextRunTime
    checked found now none

/-- `CheckState` -/
def checkState (now : PTime) : Op Unit := do
  if !(← get).mShutdown then do
    -- `Update`
    forEach fun p ↦ p.updateTime now
    let found := (← get).mTaskVec
    match found.getNext with
    | none => checked found now none
    | some i => checkNext found now i

/-- `OnCompletion` -/
def onCompletion (now : PTime) : Op Unit := do
  ensure ((← get).mIsRunning = true) (.invalidState "Not running")
  modify fun s ↦ { s with mIsRunning := false }
  checkState now

/-- `OnComplete` of a task; the clock is read twice. -/
def onComplete (i : ℕ) (aSuccess : Bool) (now later : PTime) : Op Unit := do
  ensure (((← get).mTaskVec.task i).mIsRunning = true) (.invalidState "Not Running")
  modifyTask i fun p ↦ { p with mIsRunning := false }
  modifyTask i fun p ↦ p.complete aSuccess now
  onCompletion later

/-- `AddDependency` -/
def addDependency (i apTask : ℕ) : Op Unit := do
  ensure (apTask ≠ i) (.argument "Self-dependency not allowed")
  ensure (¬(← get).mTaskVec.isDependency apTask i = true)
    (.argument "Circular dependencies not allowed")
  modifyTask i fun p ↦ { p with mDependencies := p.mDependencies ++ [apTask] }

/-- A task is added. -/
def push (p : AsyncTask) : Op Unit := modify fun s ↦ { s with mTaskVec := s.mTaskVec ++ [p] }

/-- `Add` -/
def add (aPeriod aRetryDelay aPriority : ℤ) : Op Unit :=
  if aPeriod ≥ 0 then push { kind := .periodic aPeriod aRetryDelay, mPriority := aPriority }
  else push { kind := .nonPeriodic aRetryDelay, mPriority := aPriority }

/-- `AddContinuous` -/
def addContinuous (aPriority : ℤ) : Op Unit := push { kind := .continuous, mPriority := aPriority }

/-- A function of the tasks with one of the flags. -/
def masked (aMask : BitVec 32) (f : AsyncTask → AsyncTask) (p : AsyncTask) : AsyncTask :=
  if p.mFlags &&& aMask ≠ 0 then f p else p

/-- `ResetTasks` -/
def resetTasks (aMask : BitVec 32) : Op Unit :=
  forEach fun p ↦ if !p.mIsRunning then masked aMask AsyncTask.reset p else p

/-- `OnTimerExpiration` -/
def onTimerExpiration (now : PTime) : Op Unit := do
  modify fun s ↦ { s with mpTimer := none }
  checkState now

/-- `Shutdown` -/
def shutdown : Op Unit := modify fun s ↦ { s with mpTimer := none, mShutdown := true }

end AsyncTaskGroup

/-! ## Events

What happens to a group: its tasks are changed by their users, time passes, and the timer
expires. -/

/-- What happens at a group; with the readings of the clock where it is read. -/
inductive TaskEvent where
  | add (aPeriod aRetryDelay aPriority : ℤ)
  | addContinuous (aPriority : ℤ)
  | addDependency (i apTask : ℕ)
  | setFlags (i : ℕ) (aFlags : BitVec 32)
  | silentEnable (i : ℕ)
  | silentDisable (i : ℕ)
  /-- `Enable` of a task. -/
  | enable (i : ℕ) (now : PTime)
  /-- `Disable` of a task. -/
  | disable (i : ℕ) (now : PTime)
  /-- `Enable` of the group. -/
  | enableAll (now : PTime)
  /-- `Disable` of the group. -/
  | disableAll (now : PTime)
  | enableMask (aMask : BitVec 32) (now : PTime)
  | disableMask (aMask : BitVec 32) (now : PTime)
  | resetTasks (aMask : BitVec 32)
  | onComplete (i : ℕ) (aSuccess : Bool) (now later : PTime)
  | onTimerExpiration (now : PTime)
  | checkState (now : PTime)
  | shutdown
  deriving DecidableEq, Repr

namespace AsyncTaskGroup

/-- The operation that handles an event. -/
def op : TaskEvent → Op Unit
  | .add aPeriod aRetryDelay aPriority => add aPeriod aRetryDelay aPriority
  | .addContinuous aPriority => addContinuous aPriority
  | .addDependency i apTask => addDependency i apTask
  | .setFlags i aFlags => modifyTask i fun p ↦ { p with mFlags := aFlags }
  | .silentEnable i => modifyTask i AsyncTask.silentEnable
  | .silentDisable i => modifyTask i AsyncTask.silentDisable
  | .enable i now => do modifyTask i AsyncTask.silentEnable; checkState now
  | .disable i now => do modifyTask i AsyncTask.silentDisable; checkState now
  | .enableAll now => do forEach AsyncTask.silentEnable; checkState now
  | .disableAll now => do forEach AsyncTask.silentDisable; checkState now
  | .enableMask aMask now => do forEach (masked aMask AsyncTask.silentEnable); checkState now
  | .disableMask aMask now => do forEach (masked aMask AsyncTask.silentDisable); checkState now
  | .resetTasks aMask => resetTasks aMask
  | .onComplete i aSuccess now later => onComplete i aSuccess now later
  | .onTimerExpiration now => onTimerExpiration now
  | .checkState now => checkState now
  | .shutdown => shutdown

/-- Both tasks are tasks of the group, the timer is running, and the clock shows a time. -/
def possible (s : AsyncTaskGroup) : TaskEvent → Bool
  | .addDependency i apTask => i < s.mTaskVec.length && apTask < s.mTaskVec.length
  | .enable _ now | .disable _ now | .enableAll now | .disableAll now | .enableMask _ now
  | .disableMask _ now | .onComplete _ _ _ now | .checkState now => now < maxDateTime
  | .onTimerExpiration now => s.mpTimer.isSome && now < maxDateTime
  | _ => true

/-- **One event**, if it can happen.  What is thrown goes to the caller. -/
def step (s : AsyncTaskGroup) (e : TaskEvent) : Option AsyncTaskGroup :=
  if s.possible e then some (exec (op e) s).1 else none

end AsyncTaskGroup

end OpenDNP3
