import OpenDNP3.APL.Tasks

/-!
# The task that is dispatched

`GetNext` finds a greatest element only as far as the comparison of the tasks is transitive.  It is
not: of three tasks the first may be below the second by its priority, the second below the third
that it depends on, and the third below the first since it is disabled or not due.  Where the run
over the tasks relies on transitivity (`TaskCheck.Ordered`), the task it finds has no incomplete
dependency and is not below another such task.

* `TaskVec.Sound` — the dependencies are tasks of the group and have no cycle, and at most one task
  is running.
* `TaskCheck.Right` — a check has done what it should.
* `AsyncTaskGroup.dispatch_right` — every run.
-/

set_option autoImplicit false

namespace OpenDNP3

open Handler Relation

/-! ## Two tasks

The comparison by priority and time, without dependencies. Only that it is asymmetric is needed. -/

namespace AsyncTask

/-- What is compared if no dependency decides: a task is below another one by being disabled, then
by not being due, then by its priority or its time. -/
def below (p q : AsyncTask) : Bool :=
  if !p.mIsEnabled && q.mIsEnabled then true
  else if !q.mIsEnabled && p.mIsEnabled then false
  else if p.mIsExpired then
    if q.mIsExpired then p.mPriority < q.mPriority
    else false
  else if q.mIsExpired then true
  else p.mNextRunTime > q.mNextRunTime

theorem below_asymm {p q : AsyncTask} (h : p.below q = true) : q.below p = false := by
  revert h
  rw [below, below]
  cases p.mIsEnabled <;> cases q.mIsEnabled <;> cases p.mIsExpired <;> cases q.mIsExpired <;> simp
  all_goals exact le_of_lt

/-- **What is not below an enabled task** is enabled, due if the other is and then of no lower
priority, and else due or not later. -/
theorem below_eq_false {p q : AsyncTask} (hq : q.mIsEnabled = true) (h : p.below q = false) :
    p.mIsEnabled = true ∧ (q.mIsExpired = true → p.mIsExpired = true ∧ q.mPriority ≤ p.mPriority) ∧
      (p.mIsExpired = true ∨ p.mNextRunTime ≤ q.mNextRunTime) := by
  revert h
  rw [below, hq]
  cases p.mIsEnabled <;> cases p.mIsExpired <;> cases q.mIsExpired <;> simp

end AsyncTask

namespace TaskVec

variable {v w : TaskVec} {i j k : ℕ}

/-! ## Dependencies -/

/-- A task depends on another directly. -/
def DependsOn (v : TaskVec) (i k : ℕ) : Prop := k ∈ v.dependencies i

/-- All tasks that a task depends on, directly or not, are complete. -/
def DepsComplete (v : TaskVec) (i : ℕ) : Prop :=
  ∀ k, TransGen v.DependsOn i k → (v.task k).mIsComplete = true

/-- **What holds of the tasks of a group**. -/
structure Sound (v : TaskVec) : Prop where
  inRange : ∀ i, ∀ k ∈ v.dependencies i, k < v.length
  acyclic : Reach.Acyclic v.DependsOn
  single : ∀ i j, (v.task i).mIsRunning = true → (v.task j).mIsRunning = true → i = j

theorem task_of_length_le (h : v.length ≤ i) : v.task i = default := by
  rw [task, List.getD_eq_getElem?_getD, List.getElem?_eq_none h, Option.getD_none]

/-- What is not the default is a task of the group. -/
theorem lt_of_mIsEnabled (h : (v.task i).mIsEnabled = true) : i < v.length := by
  by_contra hlt
  rw [task_of_length_le (Nat.le_of_not_lt hlt)] at h
  exact Bool.noConfusion h

theorem lt_of_mIsRunning (h : (v.task i).mIsRunning = true) : i < v.length := by
  by_contra hlt
  rw [task_of_length_le (Nat.le_of_not_lt hlt)] at h
  exact Bool.noConfusion h

theorem Sound.transGen_lt (h : v.Sound) (hk : TransGen v.DependsOn i k) : k < v.length := by
  cases hk with
  | single hk => exact h.inRange i k hk
  | tail _ hk => exact h.inRange _ k hk

/-- **`IsDependency`** finds the tasks that a task depends on, directly or not. -/
theorem Sound.isDependency_iff (h : v.Sound) : v.isDependency i k = true ↔
    TransGen v.DependsOn i k := by
  refine ⟨fun hk ↦ Reach.within_sound hk, fun hk ↦ ?_⟩
  have hrange : ∀ i, ∀ k ∈ v.dependencies i, k ∈ Finset.range v.length :=
    fun i k hk ↦ Finset.mem_range.mpr (h.inRange i k hk)
  have hfound := Reach.within_complete hrange h.acyclic hk
  rw [Finset.card_range] at hfound
  exact hfound

/-- No two tasks depend on each other. -/
theorem Sound.isDependency_asymm (h : v.Sound) (hk : v.isDependency i k = true) :
    v.isDependency k i = false := by
  rw [Bool.eq_false_iff]
  intro hi
  exact h.acyclic i ((h.isDependency_iff.mp hk).trans (h.isDependency_iff.mp hi))

/-! ## The comparison

Dependencies are looked at first, and only between the two tasks that are compared. This is why
the comparison need not be transitive. -/

theorem lessThan_eq : v.lessThan i j =
    if v.isDependency i j && !(v.task j).mIsComplete then true
    else if v.isDependency j i && !(v.task i).mIsComplete then false
    else (v.task i).below (v.task j) := rfl

/-- **The comparison is asymmetric**. -/
theorem Sound.lessThan_asymm (h : v.Sound) (hlt : v.lessThan i j = true) :
    v.lessThan j i = false := by
  rw [lessThan_eq] at hlt ⊢
  by_cases hij : (v.isDependency i j && !(v.task j).mIsComplete) = true
  · have hdep := h.isDependency_asymm (Bool.and_eq_true_iff.mp hij).1
    rw [hdep, Bool.false_and, if_neg Bool.false_ne_true, if_pos hij]
  · rw [if_neg hij] at hlt
    by_cases hji : (v.isDependency j i && !(v.task i).mIsComplete) = true
    · rw [if_pos hji] at hlt
      exact Bool.noConfusion hlt
    · rw [if_neg hji] at hlt
      rw [if_neg hji, if_neg hij]
      exact AsyncTask.below_asymm hlt

theorem Sound.lessThanGroupLevel_asymm (h : v.Sound) (i j : ℕ)
    (hlt : v.lessThanGroupLevel i j = true) : v.lessThanGroupLevel j i = false := by
  revert hlt
  rw [lessThanGroupLevel, lessThanGroupLevel]
  cases (v.task i).mIsRunning with
  | true => exact fun h ↦ Bool.noConfusion h
  | false =>
    cases (v.task j).mIsRunning with
    | true => exact fun _ ↦ rfl
    | false => exact h.lessThan_asymm

/-- A task that depends on an incomplete one is below it. -/
theorem lessThan_of_blocked (hdep : v.isDependency i k = true)
    (hk : (v.task k).mIsComplete = false) :
    v.lessThan i k = true := by
  rw [lessThan, hdep, hk]
  rfl

/-- A task without incomplete dependencies. -/
def unblocked (v : TaskVec) (i : ℕ) : Bool :=
  (List.range v.length).all fun k ↦ !(v.isDependency i k) || (v.task k).mIsComplete

theorem Sound.unblocked_iff (h : v.Sound) : v.unblocked i = true ↔ v.DepsComplete i := by
  rw [unblocked, List.all_eq_true]
  refine ⟨fun hall k hk ↦ ?_, fun hdeps k _ ↦ ?_⟩
  · have hk' := hall k (List.mem_range.mpr (h.transGen_lt hk))
    rw [h.isDependency_iff.mpr hk] at hk'
    exact hk'
  · by_cases hk : v.isDependency i k = true
    · rw [hdeps k (h.isDependency_iff.mp hk), Bool.or_true]
    · rw [Bool.eq_false_iff.mpr hk]
      rfl

/-- A task is **ready** if it is enabled and all it depends on is complete. -/
def Ready (v : TaskVec) (i : ℕ) : Prop := (v.task i).mIsEnabled = true ∧ v.DepsComplete i

/-- Between ready tasks no dependency decides. -/
theorem Sound.lessThan_ready (h : v.Sound) (hi : v.DepsComplete i) (hj : v.Ready j) :
    v.lessThan i j = (v.task i).below (v.task j) := by
  have hcomplete : ∀ {i j}, v.DepsComplete i →
      ¬(v.isDependency i j && !(v.task j).mIsComplete) = true := by
    rintro i j hi hij
    obtain ⟨hdep, hno⟩ := Bool.and_eq_true_iff.mp hij
    rw [hi j (h.isDependency_iff.mp hdep)] at hno
    exact Bool.noConfusion hno
  rw [lessThan_eq, if_neg (hcomplete hi), if_neg (hcomplete hj.2)]

/-! ## The choice

`std::max_element` makes one comparison for each task after the first. What it finds is the
greatest one if the comparison is transitive where it matters. -/

/-- **The right choice**: it has no incomplete dependency if it is enabled, and is not below an
enabled task without incomplete dependencies. -/
def Fit (v : TaskVec) (m : ℕ) : Prop :=
  ((v.task m).mIsEnabled = true → v.unblocked m = true) ∧
    ∀ f < v.length, (v.task f).mIsEnabled = true → v.unblocked f = true →
      v.lessThanGroupLevel m f = false

instance (v : TaskVec) (m : ℕ) : Decidable (v.Fit m) := inferInstanceAs (Decidable (_ ∧ _))

/-- The comparison is transitive from `a` to the other two tasks. -/
def TransitiveFrom (v : TaskVec) (a b m : ℕ) : Prop :=
  (v.lessThanGroupLevel a b = true → v.lessThanGroupLevel b m = true →
    v.lessThanGroupLevel a m = true) ∧
  (v.lessThanGroupLevel a m = true → v.lessThanGroupLevel m b = true →
    v.lessThanGroupLevel a b = true)

instance (v : TaskVec) (a b m : ℕ) : Decidable (v.TransitiveFrom a b m) :=
  inferInstanceAs (Decidable (_ ∧ _))

/-- **The comparison is transitive where it matters**: from the first of three tasks in the order in
which they were added, the last of which would be a wrong choice. -/
def Ordered (v : TaskVec) : Prop :=
  ∀ m < v.length, v.Fit m ∨ ∀ b < m, ∀ a < b, v.TransitiveFrom a b m

instance (v : TaskVec) : Decidable v.Ordered :=
  inferInstanceAs (Decidable (∀ m < v.length, _ ∨ ∀ b < m, ∀ a < b, _))

/-- What is less than no task is a right choice. -/
theorem fit_of_forall (hidle : ∀ i, (v.task i).mIsRunning = false) {m : ℕ}
    (h : ∀ y ∈ List.range v.length, v.lessThanGroupLevel m y = false) : v.Fit m := by
  refine ⟨fun _ ↦ ?_, fun f hf _ _ ↦ h f (List.mem_range.mpr hf)⟩
  rw [unblocked, List.all_eq_true]
  intro k hk
  by_cases hdep : v.isDependency m k = true
  · have hnot := h k hk
    rw [lessThanGroupLevel, hidle, hidle, if_neg Bool.false_ne_true, if_neg Bool.false_ne_true]
      at hnot
    cases hcomplete : (v.task k).mIsComplete with
    | true => rw [Bool.or_true]
    | false => exact Bool.noConfusion (hnot.symm.trans (lessThan_of_blocked hdep hcomplete))
  · rw [Bool.eq_false_iff.mpr hdep]
    rfl

/-- **The task that is found is a right choice**, if the comparison is transitive where it
matters. -/
theorem Sound.fit_maxElement (h : v.Sound) (hidle : ∀ i, (v.task i).mIsRunning = false)
    (hordered : v.Ordered) {m : ℕ}
    (hm : MaxElement.maxElement v.lessThanGroupLevel (List.range v.length) = some m) : v.Fit m := by
  by_contra hfit
  have hmlt : m < v.length := List.mem_range.mp (MaxElement.maxElement_mem hm)
  refine hfit (fit_of_forall hidle ?_)
  refine MaxElement.not_lt_maxElement hm h.lessThanGroupLevel_asymm fun a b hsub ↦ ?_
  have hpairwise := List.pairwise_lt_range.sublist hsub
  have hab : a < b := (List.pairwise_cons.mp hpairwise).1 b List.mem_cons_self
  have hbm : b < m :=
    (List.pairwise_cons.mp (List.pairwise_cons.mp hpairwise).2).1 m List.mem_cons_self
  exact (hordered m hmlt).resolve_left hfit b hbm a hab

/-- **A right choice that is enabled** is ready; it is due if any ready task is, then with the
highest priority, and else is due or not later than any. -/
theorem Sound.fit_spec (h : v.Sound) (hidle : ∀ i, (v.task i).mIsRunning = false) {m : ℕ}
    (hfit : v.Fit m) (hm : (v.task m).mIsEnabled = true) :
    v.Ready m ∧ ∀ j, v.Ready j →
      ((v.task j).mIsExpired = true → (v.task m).mIsExpired = true ∧
        (v.task j).mPriority ≤ (v.task m).mPriority) ∧
      ((v.task m).mIsExpired = true ∨ (v.task m).mNextRunTime ≤ (v.task j).mNextRunTime) := by
  have hready : v.Ready m := ⟨hm, h.unblocked_iff.mp (hfit.1 hm)⟩
  refine ⟨hready, fun j hj ↦ ?_⟩
  have hnot := hfit.2 j (lt_of_mIsEnabled hj.1) hj.1 (h.unblocked_iff.mpr hj.2)
  rw [lessThanGroupLevel, hidle, hidle, if_neg Bool.false_ne_true, if_neg Bool.false_ne_true,
    h.lessThan_ready hready.2 hj] at hnot
  exact (AsyncTask.below_eq_false hj.1 hnot).2

/-- A right choice is disabled only if no task is ready. -/
theorem Sound.not_ready_of_fit (h : v.Sound) (hidle : ∀ i, (v.task i).mIsRunning = false) {m : ℕ}
    (hfit : v.Fit m) (hm : (v.task m).mIsEnabled = false) (j : ℕ) : ¬v.Ready j := by
  intro hj
  have hnot := hfit.2 j (lt_of_mIsEnabled hj.1) hj.1 (h.unblocked_iff.mpr hj.2)
  have hcomplete : ¬(v.isDependency j m && !(v.task m).mIsComplete) = true := by
    rintro hdep
    obtain ⟨hdep, hno⟩ := Bool.and_eq_true_iff.mp hdep
    rw [hj.2 m (h.isDependency_iff.mp hdep)] at hno
    exact Bool.noConfusion hno
  rw [lessThanGroupLevel, hidle, hidle, if_neg Bool.false_ne_true, if_neg Bool.false_ne_true,
    lessThan_eq, if_neg hcomplete] at hnot
  split at hnot
  · exact Bool.noConfusion hnot
  · exact Bool.noConfusion (hm.symm.trans (AsyncTask.below_eq_false hj.1 hnot).1)

/-- **A running task is the greatest**, so that no other is found. -/
theorem getNext_of_running (hrunning : (v.task i).mIsRunning = true) : v.getNext = none := by
  rw [getNext]
  cases hm : MaxElement.maxElement v.lessThanGroupLevel (List.range v.length) with
  | none => rfl
  | some m =>
    have hm : (v.task m).mIsRunning = true := by
      refine MaxElement.maxElement_of_top (P := fun i ↦ (v.task i).mIsRunning = true) hm ?_ ?_ ?_
      · rintro x y hx
        rw [lessThanGroupLevel, if_pos hx]
      · rintro x y hx hy
        rw [lessThanGroupLevel, if_neg hx, if_pos hy]
      · exact ⟨i, List.mem_range.mpr (lt_of_mIsRunning hrunning), hrunning⟩
    dsimp only
    rw [hm]
    rfl

/-- What is found is enabled, and no task is running. -/
theorem getNext_eq_some (h : v.getNext = some i) :
    MaxElement.maxElement v.lessThanGroupLevel (List.range v.length) = some i ∧
      (v.task i).mIsEnabled = true ∧ ∀ j, (v.task j).mIsRunning = false := by
  have hidle : ∀ j, (v.task j).mIsRunning = false := by
    intro j
    rw [Bool.eq_false_iff]
    intro hj
    rw [getNext_of_running hj] at h
    cases h
  rw [getNext] at h
  cases hm : MaxElement.maxElement v.lessThanGroupLevel (List.range v.length) with
  | none =>
    rw [hm] at h
    cases h
  | some m =>
    rw [hm] at h
    dsimp only at h
    split at h
    · next hen =>
      cases h
      exact ⟨rfl, (Bool.and_eq_true_iff.mp hen).2, hidle⟩
    · cases h

/-- If nothing is found and nothing is running, no task is ready. -/
theorem Sound.not_ready_of_getNext (h : v.Sound) (hidle : ∀ i, (v.task i).mIsRunning = false)
    (hordered : v.Ordered) (hnone : v.getNext = none) (j : ℕ) : ¬v.Ready j := by
  cases hm : MaxElement.maxElement v.lessThanGroupLevel (List.range v.length) with
  | none =>
    rw [MaxElement.maxElement_eq_none, List.range_eq_nil] at hm
    intro hj
    have hlt := lt_of_mIsEnabled hj.1
    omega
  | some m =>
    rw [getNext, hm] at hnone
    dsimp only at hnone
    rw [hidle, Bool.not_false, Bool.true_and] at hnone
    split at hnone
    · cases hnone
    · next hm' =>
      exact h.not_ready_of_fit hidle (h.fit_maxElement hidle hordered hm)
        (Bool.eq_false_iff.mpr hm') j

/-- The condition is exact for three tasks: where it fails, the run ends at the wrong choice. -/
theorem not_fit_of_three (hlength : v.length = 3) (h : ¬v.Ordered) :
    ∃ m, MaxElement.maxElement v.lessThanGroupLevel (List.range v.length) = some m ∧ ¬v.Fit m := by
  simp only [Ordered, not_forall, exists_prop, not_or] at h
  obtain ⟨m, hm, hfit, b, hb, a, ha, hno⟩ := h
  obtain rfl : m = 2 := by omega
  obtain rfl : b = 1 := by omega
  obtain rfl : a = 0 := by omega
  refine ⟨2, ?_, hfit⟩
  have hrange : List.range v.length = [0, 1, 2] := by rw [hlength]; rfl
  rw [hrange]
  by_cases h01 : v.lessThanGroupLevel 0 1 = true
  · have h12 : v.lessThanGroupLevel 1 2 = true := by
      by_contra h12
      exact hno ⟨fun _ h ↦ absurd h h12, fun _ _ ↦ h01⟩
    simp [MaxElement.maxElement, MaxElement.scan, h01, h12]
  · have h02 : v.lessThanGroupLevel 0 2 = true := by
      by_contra h02
      exact hno ⟨fun h _ ↦ absurd h h01, fun h _ ↦ absurd h h02⟩
    simp [MaxElement.maxElement, MaxElement.scan, h01, h02]

end TaskVec

/-! ## A check -/

namespace TaskCheck

/-- A task **may be dispatched** if it is enabled, due, and all it depends on is complete. -/
def Eligible (c : TaskCheck) (i : ℕ) : Prop := c.found.Ready i ∧
    (c.found.task i).mNextRunTime ≤ c.now

/-- No task is running. -/
def Idle (c : TaskCheck) : Prop := ∀ i, (c.found.task i).mIsRunning = false

/-- **A check has done what it should.** -/
structure Right (c : TaskCheck) : Prop where
  only : ∀ i, c.dispatched = some i → c.Eligible i
  running : ¬c.Idle → c.dispatched = none
  highest : c.Idle → (∃ j, c.Eligible j) → ∃ i, c.dispatched = some i ∧
    ∀ j, c.Eligible j → (c.found.task j).mPriority ≤ (c.found.task i).mPriority
  armed : c.Idle → (∀ j, ¬c.Eligible j) → ∀ j, c.found.Ready j →
    (c.found.task j).mNextRunTime < maxDateTime →
    ∃ t, c.timer = some t ∧ t ≤ (c.found.task j).mNextRunTime

/-- The enabled tasks are marked as expired if they are due. -/
def Updated (v : TaskVec) (now : PTime) : Prop :=
  ∀ i, (v.task i).mIsEnabled = true → ((v.task i).mIsExpired = true ↔ (v.task i).mNextRunTime ≤ now)

section Choice

variable {v : TaskVec} {now : PTime} {i : ℕ} {timer : Option PTime}

/-- Nothing has been found. -/
theorem right_of_none (h : v.Sound) (hordered : (∀ i, (v.task i).mIsRunning = false) → v.Ordered)
    (hnone : v.getNext = none) :
    Right ⟨v, now, none, timer⟩ := by
  refine ⟨fun i hi ↦ absurd hi (Option.some_ne_none i).symm, fun _ ↦ rfl, fun hidle hj ↦ ?_,
    fun hidle _ j hj _ ↦ ?_⟩
  · obtain ⟨j, hj⟩ := hj
    exact absurd hj.1 (h.not_ready_of_getNext hidle (hordered hidle) hnone j)
  · exact absurd hj (h.not_ready_of_getNext hidle (hordered hidle) hnone j)

section Found

variable (h : v.Sound) (hordered : (∀ i, (v.task i).mIsRunning = false) → v.Ordered)
  (hupdated : Updated v now) (hsome : v.getNext = some i)

include h hordered hsome

/-- What is known of the task that has been found. -/
theorem ready_of_getNext : v.Ready i ∧ ∀ j, v.Ready j →
    ((v.task j).mIsExpired = true → (v.task i).mIsExpired = true ∧
      (v.task j).mPriority ≤ (v.task i).mPriority) ∧
    ((v.task i).mIsExpired = true ∨ (v.task i).mNextRunTime ≤ (v.task j).mNextRunTime) := by
  obtain ⟨hmax, hen, hidle⟩ := TaskVec.getNext_eq_some hsome
  exact h.fit_spec hidle (h.fit_maxElement hidle (hordered hidle) hmax) hen

include hupdated

/-- **The task that has been found is not due.** -/
theorem right_of_later (hlater : ¬(v.task i).mNextRunTime ≤ now)
    (htimer : (v.task i).mNextRunTime < maxDateTime → timer = some (v.task i).mNextRunTime) :
    Right ⟨v, now, none, timer⟩ := by
  obtain ⟨hready, hbest⟩ := ready_of_getNext h hordered hsome
  have hexpired : ¬(v.task i).mIsExpired = true := fun hi ↦ hlater ((hupdated i hready.1).mp hi)
  refine ⟨fun i hi ↦ absurd hi (Option.some_ne_none i).symm, fun _ ↦ rfl, ?_, ?_⟩
  · rintro - ⟨j, hj⟩
    have hjexpired := (hupdated j hj.1.1).mpr hj.2
    exact absurd ((hbest j hj.1).1 hjexpired).1 hexpired
  · intro _ _ j hj hfinite
    have hle := (hbest j hj).2.resolve_left hexpired
    exact ⟨_, htimer (lt_of_le_of_lt hle hfinite), hle⟩

/-- **The task that has been found is due.** -/
theorem right_of_due (hdue : (v.task i).mNextRunTime ≤ now) : Right ⟨v, now, some i, timer⟩ := by
  obtain ⟨hready, hbest⟩ := ready_of_getNext h hordered hsome
  have heligible : Eligible ⟨v, now, some i, timer⟩ i := ⟨hready, hdue⟩
  refine ⟨?_, ?_, ?_, ?_⟩
  · rintro k hk
    cases hk
    exact heligible
  · exact fun hbusy ↦ absurd (TaskVec.getNext_eq_some hsome).2.2 hbusy
  · intro _ _
    refine ⟨i, rfl, fun j hj ↦ ?_⟩
    exact ((hbest j hj.1).1 ((hupdated j hj.1.1).mpr hj.2)).2
  · exact fun _ hnone ↦ absurd heligible (hnone i)

end Found

end Choice

end TaskCheck

/-! ## The tasks of a group -/

namespace TaskVec

variable {v w : TaskVec} {i k : ℕ} {f : AsyncTask → AsyncTask}

theorem Sound.of_calmer (h : v.Sound) (hlength : v.length ≤ w.length)
    (hdeps : ∀ i, w.dependencies i = v.dependencies i)
    (hrunning : ∀ i, (w.task i).mIsRunning = true → (v.task i).mIsRunning = true) : w.Sound := by
  refine ⟨fun i k hk ↦ ?_, h.acyclic.mono fun a b hab ↦ ?_, fun i j hi hj ↦ ?_⟩
  · rw [hdeps] at hk
    exact lt_of_lt_of_le (h.inRange i k hk) hlength
  · rw [DependsOn, hdeps] at hab
    exact hab
  · exact h.single i j (hrunning i hi) (hrunning j hj)

/-- A change of a task that leaves its dependencies, and does not start it. -/
def Calm (f : AsyncTask → AsyncTask) : Prop :=
  ∀ p, (f p).mDependencies = p.mDependencies ∧ ((f p).mIsRunning = true → p.mIsRunning = true)

theorem task_map (hi : i < v.length) : task (v.map f) i = f (v.task i) := by
  simp [task, hi]

theorem task_modify : task (v.modify k f) i = if k = i ∧
    i < v.length then f (v.task i) else v.task i := by
  rw [task, task, List.getD_eq_getElem?_getD, List.getD_eq_getElem?_getD, List.getElem?_modify]
  by_cases hi : i < v.length
  · by_cases hk : k = i
    · simp [hk, hi]
    · simp [hk, hi]
  · simp [hi]

/-- **All tasks change calmly**. -/
theorem Sound.map (h : v.Sound) (hf : Calm f) : Sound (v.map f) := by
  have hout : ∀ i, ¬i < v.length → task (v.map f) i = v.task i := by
    intro i hi
    rw [task_of_length_le (Nat.le_of_not_lt hi), task_of_length_le]
    rw [List.length_map]
    exact Nat.le_of_not_lt hi
  refine h.of_calmer (by rw [List.length_map]) (fun i ↦ ?_) fun i ↦ ?_
  · rw [dependencies, dependencies]
    by_cases hi : i < v.length
    · rw [task_map hi, (hf _).1]
    · rw [hout i hi]
  · by_cases hi : i < v.length
    · rw [task_map hi]
      exact (hf _).2
    · rw [hout i hi]
      exact id

/-- **A task changes calmly**. -/
theorem Sound.modify (h : v.Sound) (hf : Calm f) (k : ℕ) : Sound (v.modify k f) := by
  refine h.of_calmer (by rw [List.length_modify]) (fun i ↦ ?_) fun i ↦ ?_
  · rw [dependencies, dependencies, task_modify]
    split
    · exact (hf _).1
    · rfl
  · rw [task_modify]
    split
    · exact (hf _).2
    · exact id

/-- **A task is started** when no other is running. -/
theorem Sound.start (h : v.Sound) (hidle : ∀ i, (v.task i).mIsRunning = false)
    (hf : ∀ p, (f p).mDependencies = p.mDependencies) (k : ℕ) : Sound (v.modify k f) := by
  have hdeps : ∀ i, dependencies (v.modify k f) i = v.dependencies i := by
    intro i
    rw [dependencies, dependencies, task_modify]
    split
    · exact hf _
    · rfl
  have honly : ∀ i, (task (v.modify k f) i).mIsRunning = true → i = k := by
    intro i hi
    rw [task_modify] at hi
    split at hi
    · next hk => exact hk.1.symm
    · exact Bool.noConfusion ((hidle i).symm.trans hi)
  refine ⟨fun i j hj ↦ ?_, h.acyclic.mono fun a b hab ↦ ?_, fun i j hi hj ↦ ?_⟩
  · rw [hdeps] at hj
    rw [List.length_modify]
    exact h.inRange i j hj
  · rw [DependsOn, hdeps] at hab
    exact hab
  · rw [honly i hi, honly j hj]

/-- **A task is added**, without dependencies and not running. -/
theorem Sound.push (h : v.Sound) {p : AsyncTask} (hdeps : p.mDependencies = [])
    (hrunning : p.mIsRunning = false) : Sound (v ++ [p]) := by
  have htask : ∀ i, task (v ++ [p]) i = v.task i ∨ task (v ++ [p]) i = p ∧ v.task i = default := by
    intro i
    rcases Nat.lt_trichotomy i v.length with hi | rfl | hi
    · refine .inl ?_
      rw [task, task, List.getD_eq_getElem?_getD, List.getElem?_append_left hi,
        ← List.getD_eq_getElem?_getD]
    · refine .inr ⟨?_, task_of_length_le le_rfl⟩
      rw [task, List.getD_eq_getElem?_getD, List.getElem?_append_right le_rfl, Nat.sub_self]
      rfl
    · refine .inl ?_
      rw [task_of_length_le hi.le, task_of_length_le]
      rw [List.length_append]
      exact hi
  refine h.of_calmer (by rw [List.length_append]; exact Nat.le_add_right _ _) (fun i ↦ ?_)
    fun i hi ↦ ?_
  · rw [dependencies, dependencies]
    rcases htask i with hi | ⟨hi, hdefault⟩
    · rw [hi]
    · rw [hi, hdefault, hdeps]
      rfl
  · rcases htask i with hi' | ⟨hi', -⟩
    · rw [← hi']
      exact hi
    · rw [hi', hrunning] at hi
      exact Bool.noConfusion hi

/-- **A dependency is added** that closes no cycle. -/
theorem Sound.addDependency (h : v.Sound) (hk : k < v.length) (hne : k ≠ i)
    (hcycle : ¬v.isDependency k i = true) :
    Sound (v.modify i fun p ↦ { p with mDependencies := p.mDependencies ++ [k] }) := by
  have hdeps : ∀ a b, DependsOn
    (v.modify i fun p ↦ { p with mDependencies := p.mDependencies ++ [k] }) a b →
      v.DependsOn a b ∨ a = i ∧ b = k := by
    intro a b hab
    rw [DependsOn, dependencies, task_modify] at hab
    split at hab
    · next ha =>
      rcases List.mem_append.mp hab with hab | hab
      · exact .inl hab
      · exact .inr ⟨ha.1.symm, List.mem_singleton.mp hab⟩
    · exact .inl hab
  refine ⟨fun a b hab ↦ ?_, ?_, fun a b ha hb ↦ ?_⟩
  · rw [List.length_modify]
    rcases hdeps a b hab with hab | ⟨-, rfl⟩
    · exact h.inRange a b hab
    · exact hk
  · refine h.acyclic.insert ?_ hdeps
    rintro hreach
    rcases reflTransGen_iff_eq_or_transGen.mp hreach with heq | hreach
    · exact hne heq.symm
    · exact hcycle (h.isDependency_iff.mpr hreach)
  · have hrunning : ∀ a,
        (task (v.modify i fun p ↦ { p with mDependencies := p.mDependencies ++ [k] })
        a).mIsRunning = (v.task a).mIsRunning := by
      intro a
      rw [task_modify]
      split <;> rfl
    rw [hrunning] at ha hb
    exact h.single a b ha hb

end TaskVec

/-! ## Every run

A check finds its task in the state in which it begins, so what it has found is right if the
tasks were. -/

namespace AsyncTaskGroup

open TaskVec

variable {s : AsyncTaskGroup}

/-- **The invariant**: the tasks are as they should be, and so is every check that has found them in
an order where the comparison can be relied on. -/
def Good (s : AsyncTaskGroup) : Prop :=
  s.mTaskVec.Sound ∧ ∀ c ∈ s.checks, (c.Idle → c.found.Ordered) → c.Right

theorem stable_forEach {f : AsyncTask → AsyncTask} (hf : Calm f) : Stable Good (forEach f) :=
  stable_modify fun _ hs ↦ ⟨hs.1.map hf, hs.2⟩

theorem stable_modifyTask {f : AsyncTask → AsyncTask} (hf : Calm f) (i : ℕ) :
    Stable Good (modifyTask i f) :=
  stable_modify fun _ hs ↦ ⟨hs.1.modify hf i, hs.2⟩

theorem stable_push {p : AsyncTask} (hdeps : p.mDependencies = [])
    (hrunning : p.mIsRunning = false) :
    Stable Good (push p) :=
  stable_modify fun _ hs ↦ ⟨hs.1.push hdeps hrunning, hs.2⟩

/-- The end of a check. -/
theorem wp_checked {v : TaskVec} {now : PTime} {dispatched : Option ℕ} (hs : Good s)
    (hright : ((∀ i, (v.task i).mIsRunning = false) → v.Ordered) →
      TaskCheck.Right ⟨v, now, dispatched, s.mpTimer⟩) :
    wp (checked v now dispatched) (fun _ t ↦ Good t) (fun _ t ↦ Good t) s := by
  rw [checked, wp_modify]
  refine ⟨hs.1, fun c hc ↦ ?_⟩
  rcases List.mem_append.mp hc with hc | hc
  · exact hs.2 c hc
  · rw [List.mem_singleton.mp hc]
    exact hright

/-- **`RestartTimer`** sets the timer to this time. -/
theorem wp_restartTimer {t : PTime} {Q : Unit → AsyncTaskGroup → Prop}
    {E : Exception → AsyncTaskGroup → Prop} (h : Q () { s with mpTimer := some t }) :
    wp (restartTimer t) Q E s := by
  rw [restartTimer, wp_bind, wp_modify, wp_modify]
  by_cases ht : s.mpTimer = some t
  · rw [if_pos ht, if_neg (by rw [ht]; exact Option.some_ne_none t)]
    have hsame : { s with mpTimer := some t } = s := by rw [← ht]
    rw [hsame] at h
    exact h
  · rw [if_neg ht]
    exact h

theorem wp_checkNext {now : PTime} (hnow : now < maxDateTime) (hs : Good s)
    (hupdated : TaskCheck.Updated s.mTaskVec now) {i : ℕ} (hsome : s.mTaskVec.getNext = some i) :
    wp (checkNext s.mTaskVec now i) (fun _ t ↦ Good t) (fun _ t ↦ Good t) s := by
  obtain ⟨-, hen, hidle⟩ := getNext_eq_some hsome
  rw [checkNext]
  refine wp_ite (fun hmax ↦ wp_checked hs fun hordered ↦ ?_) fun _ ↦ wp_ite (fun hdue ↦ ?_)
    fun hlater ↦ ?_
  · refine TaskCheck.right_of_later hs.1 hordered hupdated hsome ?_ fun hlt ↦ ?_
    · rw [hmax]
      exact not_le.mpr hnow
    · exact absurd hmax (ne_of_lt hlt)
  · rw [wp_bind, wp_modify, wp_bind, dispatch, wp_bind, wp_get, wp_bind]
    dsimp only
    rw [wp_ensure_of (by rw [hidle]; exact Bool.false_ne_true), wp_bind, wp_ensure_of hen,
      modifyTask, wp_modify]
    have hstart : Sound (s.mTaskVec.modify i fun p ↦
        { p with mIsRunning := true, mIsComplete := false, mIsExpired := false }) := by
      refine hs.1.start hidle ?_ i
      exact fun _ ↦ rfl
    exact wp_checked ⟨hstart, hs.2⟩ fun hordered ↦
      TaskCheck.right_of_due hs.1 hordered hupdated hsome hdue
  · rw [wp_bind]
    refine wp_restartTimer (wp_checked ⟨hs.1, hs.2⟩ fun hordered ↦ ?_)
    exact TaskCheck.right_of_later hs.1 hordered hupdated hsome hlater fun _ ↦ rfl

/-- `Update` marks the tasks that are due. -/
theorem updated_map (v : TaskVec) (now : PTime) :
    TaskCheck.Updated (v.map fun p ↦ p.updateTime now) now := by
  intro i hi
  have hlt := lt_of_mIsEnabled hi
  rw [List.length_map] at hlt
  rw [task_map hlt, AsyncTask.updateTime]
  split
  · next hdue => exact ⟨fun _ ↦ hdue, fun _ ↦ rfl⟩
  · next hdue => exact ⟨fun h ↦ Bool.noConfusion h, fun h ↦ absurd h hdue⟩

/-- **`CheckState`** keeps the invariant. -/
theorem stable_checkState {now : PTime} (hnow : now < maxDateTime) :
    Stable Good (checkState now) := by
  have hcalm : Calm fun p ↦ p.updateTime now := by
    intro p
    dsimp only
    rw [AsyncTask.updateTime]
    split
    · exact ⟨rfl, id⟩
    · exact ⟨rfl, id⟩
  refine stable_get_bind fun s hs ↦ wp_ite (fun _ ↦ ?_) fun _ ↦ hs
  have hmap := hs.1.map hcalm
  rw [forEach, wp_bind, wp_modify, wp_bind, wp_get]
  cases hnext : TaskVec.getNext (s.mTaskVec.map fun p ↦ p.updateTime now) with
  | none =>
    dsimp only
    rw [hnext]
    exact wp_checked ⟨hmap, hs.2⟩ fun hordered ↦ TaskCheck.right_of_none hmap hordered hnext
  | some i =>
    dsimp only
    rw [hnext]
    exact wp_checkNext (s := { s with mTaskVec := s.mTaskVec.map fun p ↦ p.updateTime now }) hnow
      ⟨hmap, hs.2⟩ (updated_map _ now) hnext

/-! ### Events -/

theorem calm_silentEnable : Calm AsyncTask.silentEnable := fun _ ↦ ⟨rfl, id⟩

theorem calm_reset : Calm AsyncTask.reset := fun _ ↦ ⟨rfl, fun h ↦ Bool.noConfusion h⟩

theorem calm_silentDisable : Calm AsyncTask.silentDisable :=
    fun _ ↦ ⟨rfl, fun h ↦ Bool.noConfusion h⟩

theorem calm_masked {f : AsyncTask → AsyncTask} (hf : Calm f) (aMask : BitVec 32) :
    Calm (masked aMask f) := by
  intro p
  rw [masked]
  split
  · exact hf p
  · exact ⟨rfl, id⟩

theorem calm_complete (aSuccess : Bool) (now : PTime) : Calm fun p ↦ p.complete aSuccess now := by
  intro p
  dsimp only
  rw [AsyncTask.complete]
  cases p.kind <;> cases aSuccess <;> exact ⟨rfl, id⟩

/-- A task is completed. -/
theorem stable_onComplete (i : ℕ) (aSuccess : Bool) (now : PTime) {later : PTime}
    (hlater : later < maxDateTime) : Stable Good (onComplete i aSuccess now later) := by
  have hstop : Calm fun p ↦ { p with mIsRunning := false } :=
    fun _ ↦ ⟨rfl, fun h ↦ Bool.noConfusion h⟩
  have hcompletion : Stable Good (onCompletion later) := by
    refine stable_get_bind fun s hs ↦ ?_
    refine stable_bind (stable_ensure _ _) (fun _ ↦ ?_) s hs
    exact stable_bind (stable_modify fun _ ht ↦ ht) fun _ ↦ stable_checkState hlater
  refine stable_get_bind fun s hs ↦ ?_
  refine stable_bind (stable_ensure _ _) (fun _ ↦ ?_) s hs
  refine stable_bind (stable_modifyTask hstop i) fun _ ↦ ?_
  exact stable_bind (stable_modifyTask (calm_complete aSuccess now) i) fun _ ↦ hcompletion

/-- A dependency is added, or refused. -/
theorem wp_addDependency {i apTask : ℕ} (hs : Good s) (hlt : apTask < s.mTaskVec.length) :
    wp (addDependency i apTask) (fun _ t ↦ Good t) (fun _ t ↦ Good t) s := by
  rw [addDependency, wp_bind, wp_ensure]
  split
  · next hne =>
    rw [wp_bind, wp_get, wp_bind, wp_ensure]
    split
    · next hcycle => exact ⟨hs.1.addDependency hlt hne hcycle, hs.2⟩
    · exact hs
  · exact hs

/-- **One event** keeps the invariant. -/
theorem wp_op {e : TaskEvent} (hs : Good s) (hpossible : s.possible e = true) :
    wp (op e) (fun _ t ↦ Good t) (fun _ t ↦ Good t) s := by
  cases e with
  | add aPeriod aRetryDelay aPriority =>
    exact stable_ite (stable_push rfl rfl) (stable_push rfl rfl) s hs
  | addContinuous aPriority => exact stable_push rfl rfl s hs
  | addDependency i apTask =>
    exact wp_addDependency hs (of_decide_eq_true (Bool.and_eq_true_iff.mp hpossible).2)
  | setFlags i aFlags =>
    have hcalm : Calm fun p ↦ { p with mFlags := aFlags } := fun _ ↦ ⟨rfl, id⟩
    exact stable_modifyTask hcalm i s hs
  | silentEnable i => exact stable_modifyTask calm_silentEnable i s hs
  | silentDisable i => exact stable_modifyTask calm_silentDisable i s hs
  | enable i now =>
    have hnow := of_decide_eq_true hpossible
    exact stable_bind (stable_modifyTask calm_silentEnable i) (fun _ ↦ stable_checkState hnow) s hs
  | disable i now =>
    have hnow := of_decide_eq_true hpossible
    exact stable_bind (stable_modifyTask calm_silentDisable i) (fun _ ↦ stable_checkState hnow) s hs
  | enableAll now =>
    have hnow := of_decide_eq_true hpossible
    exact stable_bind (stable_forEach calm_silentEnable) (fun _ ↦ stable_checkState hnow) s hs
  | disableAll now =>
    have hnow := of_decide_eq_true hpossible
    exact stable_bind (stable_forEach calm_silentDisable) (fun _ ↦ stable_checkState hnow) s hs
  | enableMask aMask now =>
    have hnow := of_decide_eq_true hpossible
    exact stable_bind (stable_forEach (calm_masked calm_silentEnable aMask))
      (fun _ ↦ stable_checkState hnow) s hs
  | disableMask aMask now =>
    have hnow := of_decide_eq_true hpossible
    exact stable_bind (stable_forEach (calm_masked calm_silentDisable aMask))
      (fun _ ↦ stable_checkState hnow) s hs
  | resetTasks aMask =>
    have hcalm : Calm fun p ↦ if !p.mIsRunning then masked aMask AsyncTask.reset p else p := by
      intro p
      dsimp only
      split
      · exact calm_masked calm_reset aMask p
      · exact ⟨rfl, id⟩
    exact stable_forEach hcalm s hs
  | onComplete i aSuccess now later =>
    exact stable_onComplete i aSuccess now (of_decide_eq_true hpossible) s hs
  | onTimerExpiration now =>
    have hnow := of_decide_eq_true (Bool.and_eq_true_iff.mp hpossible).2
    have hcancel : Stable Good (modify fun s ↦ { s with mpTimer := none } : Op PUnit) :=
      stable_modify fun _ ht ↦ ht
    exact stable_bind hcancel (fun _ ↦ stable_checkState hnow) s hs
  | checkState now => exact stable_checkState (of_decide_eq_true hpossible) s hs
  | shutdown => exact hs

theorem good_step {s t : AsyncTaskGroup} {e : TaskEvent} (hs : Good s) (h : s.step e = some t) :
    Good t := by
  rw [step] at h
  split at h
  · next hpossible =>
    cases h
    exact exec_of_wp (Q := fun u _ ↦ Good u) (wp_op hs hpossible)
  · cases h

theorem good_empty : Good {} := by
  have hdeps : ∀ i, dependencies [] i = [] := fun _ ↦ rfl
  refine ⟨⟨fun i k hk ↦ ?_, fun a hcycle ↦ ?_, fun i j hi _ ↦ ?_⟩, fun c hc ↦ ?_⟩
  · rw [hdeps] at hk
    exact absurd hk List.not_mem_nil
  · obtain ⟨b, hab, -⟩ := TransGen.head'_iff.mp hcycle
    exact absurd hab List.not_mem_nil
  · exact absurd (lt_of_mIsRunning hi) (Nat.not_lt_zero i)
  · exact absurd hc List.not_mem_nil

/-- **The task group dispatches the right task**, in every run of a group: at most one task is
running, and each check has done what it should that finds a task running, or the tasks in an order
where the comparison can be relied on. -/
theorem dispatch_right {es : List TaskEvent} {s : AsyncTaskGroup}
    (hrun : Run.run step {} es = some s) :
    (∀ i j, (s.mTaskVec.task i).mIsRunning = true → (s.mTaskVec.task j).mIsRunning = true → i = j) ∧
    ∀ c ∈ s.checks, (c.Idle → c.found.Ordered) → c.Right := by
  have hs : Good s := Run.inv_of_run (fun _ _ _ ht h ↦ good_step ht h) good_empty hrun
  exact ⟨hs.1.single, hs.2⟩

/-- A task that depends on a later one of the same priority; both are enabled and completed. -/
def dependencyFirst : List TaskEvent :=
  [.add 100 100 0, .add 100 100 0, .addDependency 0 1, .enableAll 5, .onComplete 1 true 5 6,
    .onComplete 0 true 7 7]

theorem dispatch_right_dependencyFirst : ∃ s, Run.run step {} dependencyFirst = some s ∧
    (∀ i j, (s.mTaskVec.task i).mIsRunning = true → (s.mTaskVec.task j).mIsRunning = true → i = j) ∧
    s.checks.map TaskCheck.dispatched = [some 1, some 0, none] ∧ ∀ c ∈ s.checks, c.Right := by
  obtain ⟨s, hrun, hdispatched, hordered⟩ : ∃ s ∈ Run.run step {} dependencyFirst,
      s.checks.map TaskCheck.dispatched = [some 1, some 0, none] ∧
        ∀ c ∈ s.checks, c.found.Ordered := by
    decide +kernel
  obtain ⟨hsingle, hright⟩ := dispatch_right hrun
  exact ⟨s, hrun, hsingle, hdispatched, fun c hc ↦ hright c hc fun _ ↦ hordered c hc⟩

/-- **A blocked task is dispatched**: task 2 depends on task 0, which is disabled and below task 1
by its priority.  **And a task that is due is not**: task 0 is below task 1, which is below the task
2 that it depends on, and task 2 waits after a failure. -/
theorem dispatch_wrong :
    (∃ s ∈ Run.run step {}
        [.add 1000 1000 0, .add 1000 1000 1, .add 1000 1000 2, .addDependency 2 0, .enable 2 5],
      ∃ c ∈ s.checks, c.dispatched = some 2 ∧ 0 ∈ c.found.dependencies 2 ∧
        (c.found.task 0).mIsComplete = false) ∧
    ∃ s ∈ Run.run step {}
        [.add 1000 1000 0, .add 1000 1000 2, .add 1000 1000 1, .addDependency 1 2, .enable 1 5,
          .enable 2 5, .onComplete 2 false 5 5, .enable 0 5],
      ∃ c ∈ s.checks, c.dispatched = none ∧ (∀ p ∈ c.found, p.mIsRunning = false) ∧
        (c.found.task 0).mIsEnabled = true ∧ (c.found.task 0).mNextRunTime ≤ c.now ∧
        c.found.dependencies 0 = [] := by
  decide +kernel

end AsyncTaskGroup

end OpenDNP3
