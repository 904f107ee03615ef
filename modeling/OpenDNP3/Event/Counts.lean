import OpenDNP3.Event.Sequence

/-!
# Class counters

The counter of a buffer is to say how many unselected events there are of each class (`Counts`).
Each operation adjusts it separately from the set.  `SingleEventBuffer` does not when an event takes
the place of another, so the two have to be of the same class.

* `EventBuffer.SameClass` — the condition on an operation: no event takes the place of one of
  another class.
* `EventBuffer.counts_exact` — **then the counts are exact**, and `DecrCount` is never applied to
  zero.
-/

set_option autoImplicit false

namespace OpenDNP3

open PointClass

/-! ## Counting

A counter is right about a list if it has the number of the events of each class. Adding and
removing an event keeps it right, if the class is that of the event. -/

/-- **The counter counts the events of a list.** -/
def ClassCounter.Counts {α : Type} (n : ClassCounter) (l : List (EventInfo α)) : Prop :=
  ∀ c : PointClass, c.IsEvent → n.getNum c = l.countP (·.mClass = c)

namespace ClassCounter

variable {α : Type} {n m : ClassCounter} {e : EventInfo α} {l l' : List (EventInfo α)}

theorem getNum_incrCount (n : ClassCounter) (c : PointClass) {d : PointClass} (hd : d.IsEvent) :
    (n.incrCount c).getNum d = n.getNum d + if c = d then 1 else 0 := by
  rw [incrCount]
  by_cases h1 : c = class1
  · subst h1
    rcases hd with rfl | rfl | rfl <;> rfl
  · rw [if_neg h1]
    by_cases h2 : c = class2
    · subst h2
      rcases hd with rfl | rfl | rfl <;> rfl
    · rw [if_neg h2]
      by_cases h3 : c = class3
      · subst h3
        rcases hd with rfl | rfl | rfl <;> rfl
      · rw [if_neg h3, if_neg]
        · rfl
        · rintro rfl
          rcases hd with rfl | rfl | rfl <;> contradiction

/-- A count that is not zero can be decremented. -/
theorem decrCount_ok {n : ClassCounter} {c : PointClass} (h : c.IsEvent → 0 < n.getNum c) :
    ∃ m, n.decrCount c = .ok m ∧
      ∀ d : PointClass, d.IsEvent → m.getNum d + (if c = d then 1 else 0) = n.getNum d := by
  rw [decrCount]
  by_cases h1 : c = class1
  · subst h1
    have hpos : n.mNumClass1 > 0 := h (.inl rfl)
    refine ⟨_, by rw [if_pos rfl, assert_of _ hpos, except_ok_bind]; rfl, ?_⟩
    rintro d (rfl | rfl | rfl)
    · exact Nat.sub_add_cancel hpos
    · rfl
    · rfl
  · rw [if_neg h1]
    by_cases h2 : c = class2
    · subst h2
      have hpos : n.mNumClass2 > 0 := h (.inr (.inl rfl))
      refine ⟨_, by rw [if_pos rfl, assert_of _ hpos, except_ok_bind]; rfl, ?_⟩
      rintro d (rfl | rfl | rfl)
      · rfl
      · exact Nat.sub_add_cancel hpos
      · rfl
    · rw [if_neg h2]
      by_cases h3 : c = class3
      · subst h3
        have hpos : n.mNumClass3 > 0 := h (.inr (.inr rfl))
        refine ⟨_, by rw [if_pos rfl, assert_of _ hpos, except_ok_bind]; rfl, ?_⟩
        rintro d (rfl | rfl | rfl)
        · rfl
        · rfl
        · exact Nat.sub_add_cancel hpos
      · refine ⟨n, by rw [if_neg h3]; rfl, fun d hd ↦ ?_⟩
        rw [if_neg]
        · rfl
        · rintro rfl
          rcases hd with rfl | rfl | rfl <;> contradiction

theorem Counts.perm (h : n.Counts l) (hp : l.Perm l') : n.Counts l' :=
  fun c hc ↦ (h c hc).trans (hp.countP_eq _)

/-- A further event. -/
theorem Counts.incr (h : n.Counts l) (e : EventInfo α) : (n.incrCount e.mClass).Counts
    (e :: l) := by
  intro c hc
  rw [getNum_incrCount n _ hc, h c hc, List.countP_cons]
  simp

/-- An event less. -/
theorem Counts.decr (h : n.Counts (e :: l)) : ∃ m, n.decrCount e.mClass = .ok m ∧ m.Counts l := by
  obtain ⟨m, hm, hcount⟩ := decrCount_ok (n := n) (c := e.mClass) fun hc ↦ by
    rw [h _ hc, List.countP_cons]
    simp
  refine ⟨m, hm, fun c hc ↦ ?_⟩
  have hle := hcount c hc
  rw [h c hc, List.countP_cons] at hle
  simpa using hle

/-- An event in place of another of its class. -/
theorem Counts.replace {x : EventInfo α} (h : n.Counts (x :: l)) (hclass : x.mClass = e.mClass) :
    n.Counts (e :: l) := by
  intro c hc
  rw [h c hc, List.countP_cons, List.countP_cons, hclass]

end ClassCounter

namespace EventBuffer

variable {α : Type} {kind : BufferKind α} {s t u : EventBuffer α}

/-! ## One operation

The counter is changed with the events except in one case: an event that takes the place of
another one is counted as that one was. -/

/-- An event that takes the place of another is of the same class. -/
def KeepsClass (kind : BufferKind α) (s : EventBuffer α) (e : EventInfo α) : Prop :=
  match kind with
  | .single getTime => ∀ x ∈ s.mEventSet, x.mIndex = e.mIndex →
      getTime x.mValue ≤ getTime e.mValue →
      x.mClass = e.mClass
  | .timeOrdered _ | .insertionOrdered => True

instance (kind : BufferKind α) (s : EventBuffer α) (e : EventInfo α) :
    Decidable (KeepsClass kind s e) :=
  match kind with
  | .single _ => inferInstanceAs (Decidable (∀ x ∈ s.mEventSet, _ → _ → _))
  | .timeOrdered _ | .insertionOrdered => inferInstanceAs (Decidable True)

/-- The same of events that are put back one after the other. -/
def KeepsClasses (kind : BufferKind α) : EventBuffer α → List (EventInfo α) → Prop
  | _, [] => True
  | s, e :: l => KeepsClass kind s e ∧ KeepsClasses kind (s.updateOld kind e) l

instance KeepsClasses.decidable (kind : BufferKind α) :
    ∀ (s : EventBuffer α) (l : List (EventInfo α)), Decidable (KeepsClasses kind s l)
  | _, [] => isTrue trivial
  | s, e :: l =>
    haveI := KeepsClasses.decidable kind (s.updateOld kind e) l
    inferInstanceAs (Decidable (_ ∧ _))

/-- **The condition**: no event takes the place of an event of another class. -/
def SameClass (kind : BufferKind α) (s : EventBuffer α) : BufferOp α → Prop
  | .update v c i => KeepsClass kind s (s.newEvent v c i)
  | .deselect => KeepsClasses kind s s.mSelectedEvents
  | _ => True

instance (kind : BufferKind α) (s : EventBuffer α) (op : BufferOp α) :
    Decidable (SameClass kind s op) :=
  match op with
  | .update v c i => inferInstanceAs (Decidable (KeepsClass kind s (s.newEvent v c i)))
  | .deselect => inferInstanceAs (Decidable (KeepsClasses kind s s.mSelectedEvents))
  | .select _ _ | .clearWrittenEvents | .markWritten _ | .isOverflown =>
    inferInstanceAs (Decidable True)

/-- An event that is taken in is counted. -/
theorem Takes.counts {e : EventInfo α} (h : Takes kind s e t) (hs : s.mCounter.Counts s.mEventSet)
    (hclass : KeepsClass kind s e) : t.mCounter.Counts t.mEventSet := by
  cases h with
  | adds hp _ => exact (hs.incr e).perm hp.symm
  | @replaces getTime x set rest hkind hindex htime hold hnew =>
    subst hkind
    have hx : x ∈ s.mEventSet := hold.mem_iff.mpr List.mem_cons_self
    exact ((hs.perm hold).replace (hclass x hx hindex htime)).perm hnew.symm
  | keeps _ _ _ _ => exact hs

/-- Events that are taken out are no longer counted. -/
theorem counts_decrAll {picked kept : List (EventInfo α)} {n m : ClassCounter}
    (hn : n.Counts (picked ++ kept)) (h : decrAll picked n = .ok m) : m.Counts kept := by
  induction picked generalizing n with
  | nil =>
    rw [decrAll] at h
    cases h
    exact hn
  | cons e picked ih =>
    obtain ⟨n', hn', hcounts⟩ := hn.decr
    rw [decrAll, hn', except_ok_bind] at h
    exact ih hcounts h

/-- **The counts are exact**, and the sequence numbers as they should be. -/
structure Exact (kind : BufferKind α) (s : EventBuffer α) : Prop where
  sequenced : Sequenced kind s
  counts : s.mCounter.Counts s.mEventSet

/-- **One operation** keeps exact counts. -/
theorem exact_step {op : BufferOp α} (hs : Exact kind s) (hclass : SameClass kind s op)
    (h : s.step kind op = some t) : Exact kind t := by
  refine ⟨sequenced_step hs.sequenced h, ?_⟩
  have hcounts : s.numbered.mCounter.Counts s.numbered.mEventSet := hs.counts
  cases performs_of_step hs.sequenced.valid h with
  | updates hu _ _ => exact (hs.sequenced.takes_new hu).counts hcounts hclass
  | @overflows _ _ _ u e rest n hu _ _ hset hn =>
    have hu := (hs.sequenced.takes_new hu).counts hcounts hclass
    rw [hset] at hu
    obtain ⟨n', hn', hrest⟩ := hu.decr
    rw [hn] at hn'
    cases hn'
    exact hrest
  | selects hp _ _ _ _ hn => exact counts_decrAll (hs.counts.perm hp) hn
  | deselects =>
    obtain ⟨u, -, ⟨hu, -⟩, heq⟩ := deselect_rule
      (P := fun l u ↦ u.mCounter.Counts u.mEventSet ∧ KeepsClasses kind u l) hs.sequenced
      (fun e l u hu h ↦ ⟨hu.takes.counts h.1 h.2.1, h.2.2⟩) ⟨hs.counts, hclass⟩
    rw [heq]
    exact hu
  | clears => exact hs.counts
  | marks => exact hs.counts
  | asks =>
    rw [isOverflown]
    dsimp only
    split <;> exact hs.counts

/-- The loop of `Select` finds a count for each event that it picks. -/
theorem selectLoop_ok {aClass : PointClass} {k : ℕ} {n : ClassCounter}
    {skipped set : List (EventInfo α)} (h : n.Counts (skipped ++ set)) :
    ∃ r, selectLoop aClass k n set = .ok r := by
  induction set generalizing k n skipped with
  | nil => exact ⟨_, by rw [selectLoop]⟩
  | cons e set ih =>
    cases k with
    | zero => exact ⟨(n, [], e :: set), by rw [selectLoop]; exact fun h ↦ List.cons_ne_nil e set h⟩
    | succ k =>
      rw [selectLoop]
      split
      · obtain ⟨m, hm, hcounts⟩ := (h.perm List.perm_middle).decr
        obtain ⟨r, hr⟩ := ih hcounts (k := k)
        exact ⟨_, by rw [hm, except_ok_bind, hr]; rfl⟩
      · have hskip : n.Counts ((skipped ++ [e]) ++ set) := by
          rwa [List.append_assoc]
        obtain ⟨r, hr⟩ := ih hskip (k := k + 1)
        exact ⟨_, by rw [hr]; rfl⟩

/-- **`DecrCount` is not applied to zero.** -/
theorem perform_ok {op : BufferOp α} (hs : Exact kind s) (hclass : SameClass kind s op) :
    ∃ t, s.perform kind op = .ok t := by
  cases op with
  | update v c i =>
    have hupdates := kindUpdate_updates (s := s.numbered) hs.sequenced.valid (s.newEvent v c i)
    have hcounts := (hs.sequenced.takes_new hupdates).counts hs.counts hclass
    have hdrop : ∃ t, (s.numbered.kindUpdate kind (s.newEvent v c i)).dropOverflow = .ok t := by
      rw [dropOverflow]
      split
      · split
        · next e rest hset =>
          rw [hset] at hcounts
          obtain ⟨n, hn, -⟩ := hcounts.decr
          exact ⟨_, by rw [hn]; rfl⟩
        · exact ⟨_, rfl⟩
      · exact ⟨_, rfl⟩
    exact hdrop
  | select c k =>
    have hcounts : s.mCounter.Counts ([] ++ s.mEventSet) := hs.counts
    have hloop : ∃ r, selectLoop c k s.mCounter s.mEventSet = .ok r := selectLoop_ok hcounts
    obtain ⟨r, hr⟩ := hloop
    exact ⟨_, by rw [perform, select, hr]; rfl⟩
  | deselect => exact ⟨_, rfl⟩
  | clearWrittenEvents => exact ⟨_, rfl⟩
  | markWritten i => exact ⟨_, rfl⟩
  | isOverflown => exact ⟨_, rfl⟩

/-! ## Every run -/

/-- **The class counters equal the buffer contents**, in every run in which no event takes the place
of one of another class: the count of each event class is the number of its unselected events,
`HasClassData` is exact, and no operation applies `DecrCount` to zero. -/
theorem counts_exact (kind : BufferKind α) {aMaxEvents : ℕ} {ops : List (BufferOp α)}
    (hguard : Run.Guarded (step kind) (SameClass kind) (new aMaxEvents) ops)
    (hrun : Run.run (step kind) (new aMaxEvents) ops = some s) :
    (∀ c : PointClass, c.IsEvent →
      s.mCounter.getNum c = s.mEventSet.countP (·.mClass = c) ∧
      (s.hasClassData c = true ↔ ∃ e ∈ s.mEventSet, e.mClass = c)) ∧
    ∀ op, SameClass kind s op → ∃ t, s.perform kind op = .ok t := by
  have hs : Exact kind s := by
    refine Run.inv_of_guarded (fun s op t hs hg h ↦ exact_step hs hg h) ?_ hguard hrun
    exact ⟨sequenced_new aMaxEvents, fun c hc ↦ by rcases hc with rfl | rfl | rfl <;> rfl⟩
  refine ⟨fun c hc ↦ ⟨hs.counts c hc, ?_⟩, fun op hop ↦ perform_ok hs hop⟩
  rw [hasClassData, decide_eq_true_eq, hs.counts c hc]
  simp [List.countP_pos_iff]

/-- Two counters, of which the first is updated while it is selected. -/
def updatesWhileSelected : List (BufferOp Int) :=
  [.update 1 .class1 0, .update 1 .class2 1, .select .class1 5, .update 2 .class1 0, .deselect]

theorem counts_exact_updates : ∃ s,
    Run.run (step (.single id)) (new 2) updatesWhileSelected = some s ∧
    (∀ c : PointClass, c.IsEvent →
      s.mCounter.getNum c = s.mEventSet.countP (·.mClass = c) ∧
      (s.hasClassData c = true ↔ ∃ e ∈ s.mEventSet, e.mClass = c)) ∧
    ∀ op, SameClass (.single id) s op → ∃ t, s.perform (.single id) op = .ok t := by
  obtain ⟨s, hrun⟩ : ∃ s, Run.run (step (.single id)) (new 2) updatesWhileSelected = some s :=
    Option.isSome_iff_exists.mp (by decide +kernel)
  exact ⟨s, hrun, counts_exact (.single id) (by decide +kernel) hrun⟩

/-- **An event of class 2 takes the place of one of class 1**: the counter still says class 1. -/
theorem counts_wrong : ∃ s,
    Run.run (step (.single id)) (new 2) [.update 1 .class1 0, .update 2 .class2 0] = some s ∧
    s.mCounter.getNum .class1 = 1 ∧ s.mEventSet.countP (·.mClass = .class1) = 0 ∧
    s.hasClassData .class2 = false ∧ ∃ t, s.perform (.single id) (.select .class2 1) = .error t :=
  ⟨_, rfl, rfl, by decide, by decide, _, rfl⟩

end EventBuffer

end OpenDNP3
