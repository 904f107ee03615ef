import OpenDNP3.Event.Capacity
import OpenDNP3.Event.Sequence

/-!
# Where events go

Every event that has ever been accepted by a buffer is either still held, selected or not, or it has
left the buffer by one operation of the run.  An event leaves when it has been written and
`ClearWrittenEvents` comes, when an update finds the buffer full, or when another event of its index
that is not earlier is there — which is what a `SingleEventBuffer` is for, and no other buffer does.

* `EventBuffer.Leaves` — an event was there before an operation and is not there after it, and why.
* `EventBuffer.accounts_step` — one operation.
* `EventBuffer.accounts_for_all` — every run.
-/

set_option autoImplicit false

namespace OpenDNP3

/-- What a user has reported: the value, the class and the index. -/
def EventInfo.report {α : Type} (e : EventInfo α) : α × PointClass × ℕ :=
    (e.mValue, e.mClass, e.mIndex)

/-- An event as it is accounted for: its number, and what has been reported. -/
def EventInfo.entry {α : Type} (e : EventInfo α) : ℕ × (α × PointClass × ℕ) :=
    (e.mSequence, e.report)

/-- What an operation reports. -/
def BufferOp.reports {α : Type} : BufferOp α → List (α × PointClass × ℕ)
  | .update arVal aClass aIndex => [(arVal, aClass, aIndex)]
  | .select _ _ | .deselect | .clearWrittenEvents | .markWritten _ | .isOverflown => []

/-- The event that an operation brings to a buffer. -/
def BufferOp.incoming {α : Type} (s : EventBuffer α) : BufferOp α → List (EventInfo α)
  | .update arVal aClass aIndex => [s.newEvent arVal aClass aIndex]
  | .select _ _ | .deselect | .clearWrittenEvents | .markWritten _ | .isOverflown => []

theorem BufferOp.map_report_incoming {α : Type} (s : EventBuffer α) (op : BufferOp α) :
    (op.incoming s).map EventInfo.report = op.reports := by
  cases op <;> rfl

namespace EventBuffer

variable {α : Type} {kind : BufferKind α} {s t u : EventBuffer α}

/-- **Why an event leaves the buffer `s`** by an operation that leads to the buffer `t`. -/
inductive Reason (kind : BufferKind α) (s t : EventBuffer α) : BufferOp α → EventInfo α → Prop
  /-- It has been written. -/
  | written {e : EventInfo α} (hmem : e ∈ s.mSelectedEvents) (hwritten : e.mWritten = true) :
      Reason kind s t .clearWrittenEvents e
  /-- There is no room. -/
  | dropped {v : α} {c : PointClass} {i : ℕ} {e : EventInfo α}
      (hfull : s.mMaxEvents ≤ s.numUnselected) (hflag : t.mIsOverflown = true) :
      Reason kind s t (.update v c i) e
  /-- An event of its index comes in that is not earlier, or is there already and is later. -/
  | outdated {getTime : α → Int} {v : α} {c : PointClass} {i : ℕ} {e x : EventInfo α}
      (hkind : kind = .single getTime) (hmem : x = s.newEvent v c i ∨ x ∈ s.mEventSet)
      (hindex : x.mIndex = e.mIndex) (htime : getTime e.mValue ≤ getTime x.mValue)
      (hother : x.mSequence ≠ e.mSequence) : Reason kind s t (.update v c i) e
  /-- An event of its index is put back that is not earlier, or is there already and is later. -/
  | outdatedBack {getTime : α → Int} {e x : EventInfo α} (hkind : kind = .single getTime)
      (hmem : x ∈ s.held) (hindex : x.mIndex = e.mIndex)
      (htime : getTime e.mValue ≤ getTime x.mValue) (hother : x.mSequence ≠ e.mSequence) :
      Reason kind s t .deselect e

/-- **An event leaves the buffer**: it was held or has just come, it is held no more, and there is a
reason. -/
structure Leaves (kind : BufferKind α) (s t : EventBuffer α) (op : BufferOp α) (e : EventInfo α) :
    Prop where
  before : e ∈ op.incoming s ++ s.held
  after : ∀ x ∈ t.held, x.mSequence ≠ e.mSequence
  reason : Reason kind s t op e

/-- **An event that is taken in** is there in addition, or of it and another one the later is
there. -/
theorem Takes.report {e : EventInfo α} (h : Takes kind s e t)
    (hapart : ∀ x ∈ s.mEventSet, x.mSequence ≠ e.mSequence) :
    ∃ gone : List (EventInfo α), (e :: s.mEventSet).Perm (t.mEventSet ++ gone) ∧
      ∀ y ∈ gone, ∃ getTime x,
      kind = .single getTime ∧ (x = e ∨ x ∈ s.mEventSet) ∧ x.mIndex = y.mIndex ∧
        getTime y.mValue ≤ getTime x.mValue ∧ x.mSequence ≠ y.mSequence := by
  cases h with
  | adds hp _ => exact ⟨[], by simpa using hp.symm, fun _ h ↦ absurd h List.not_mem_nil⟩
  | @replaces getTime x set rest hkind hindex htime hold hnew =>
    refine ⟨[x], ?_, fun y hy ↦ ?_⟩
    · calc List.Perm (e :: s.mEventSet) (e :: x :: rest) := hold.cons e
        List.Perm _ (e :: (rest ++ [x])) := (List.perm_append_singleton x rest).symm.cons e
        List.Perm _ (set ++ [x]) := (hnew.append_right [x]).symm
    · obtain rfl := List.mem_singleton.mp hy
      have hmem : y ∈ s.mEventSet := hold.mem_iff.mpr List.mem_cons_self
      exact ⟨getTime, e, hkind, .inl rfl, hindex.symm, htime, (hapart y hmem).symm⟩
  | @keeps getTime x hkind hindex htime hmem =>
    refine ⟨[e], (List.perm_append_singleton e _).symm, fun y hy ↦ ?_⟩
    obtain rfl := List.mem_singleton.mp hy
    exact ⟨getTime, x, hkind, .inr hmem, hindex, Int.le_of_lt htime, hapart x hmem⟩

/-- What is held before and comes in is what is held afterwards, but for the events that leave. -/
def Accounts (kind : BufferKind α) (s t : EventBuffer α) (op : BufferOp α) : Prop :=
  ∃ gone : List (EventInfo α), ((op.incoming s ++ s.held).map EventInfo.entry).Perm
    ((t.held ++ gone).map EventInfo.entry) ∧
    ∀ e ∈ gone, e ∈ op.incoming s ++ s.held ∧ Reason kind s t op e

/-- The events are as they were, but some have left. -/
theorem accounts_of_perm {op : BufferOp α} (gone : List (EventInfo α))
    (h : (op.incoming s ++ s.held).Perm (t.held ++ gone))
    (hgone : ∀ e ∈ gone, Reason kind s t op e) : Accounts kind s t op :=
  ⟨gone, h.map _, fun e he ↦ ⟨h.mem_iff.mpr (List.mem_append_right _ he), hgone e he⟩⟩

/-- Nothing comes, and nothing leaves. -/
theorem accounts_of_entries {op : BufferOp α} (hin : op.incoming s = [])
    (h : (s.held.map EventInfo.entry).Perm (t.held.map EventInfo.entry)) : Accounts kind s t op :=
  ⟨[], by simpa [hin] using h, fun _ h ↦ absurd h List.not_mem_nil⟩

/-! ## Operations

A new event, or one that is put back, is taken in by the set; then the set may be too long by one.
The other operations only move events, or take those off that have been written. -/

/-- A new event is taken in. -/
theorem Sequenced.accounts_update (hs : Sequenced kind s) {v : α} {c : PointClass} {i : ℕ}
    (h : Updates kind s.numbered (s.newEvent v c i) u) :
    ∃ gone : List (EventInfo α), (s.newEvent v c i :: s.held).Perm (u.held ++ gone) ∧
      ∀ t, ∀ e ∈ gone, Reason kind s t (.update v c i) e := by
  obtain ⟨gone, hp, hgone⟩ := (hs.takes_new h).report fun x hx ↦
    Nat.ne_of_lt (hs.below_next x (List.mem_append_right _ hx))
  refine ⟨gone, ?_, fun t e he ↦ ?_⟩
  · have hsel : u.mSelectedEvents = s.mSelectedEvents := h.frame.2.2.1
    rw [held, held, hsel, List.append_assoc]
    exact List.perm_middle.symm.trans (hp.append_left s.mSelectedEvents)
  · obtain ⟨getTime, x, hkind, hmem, hindex, htime, hother⟩ := hgone e he
    exact .outdated hkind hmem hindex htime hother

/-- There is one event too many, and the first of the set is dropped. -/
theorem Sequenced.accounts_overflow (hs : Sequenced kind s) {v : α} {c : PointClass} {i : ℕ}
    {e : EventInfo α} {rest : List (EventInfo α)} {n : ClassCounter}
    (h : Updates kind s.numbered (s.newEvent v c i) u) (hlt : u.mMaxEvents < u.numUnselected)
    (hset : u.mEventSet = e :: rest) :
    Accounts kind s { u with mIsOverflown := true, mCounter := n, mEventSet := rest }
      (.update v c i) := by
  obtain ⟨gone, hp, hgone⟩ := hs.accounts_update h
  obtain ⟨hlen, hmax, -, -⟩ := h.frame
  have hfull : s.mMaxEvents ≤ s.numUnselected := by
    have hlen : u.numUnselected ≤ s.numUnselected + 1 := hlen
    have hmax : u.mMaxEvents = s.mMaxEvents := hmax
    omega
  refine accounts_of_perm (gone ++ [e]) (hp.trans ?_) ?_
  · rw [held, held, hset]
    simp only [List.append_assoc]
    refine List.Perm.append_left _ ?_
    rw [← List.append_assoc]
    exact (List.perm_append_singleton e _).symm
  · rw [List.forall_mem_append]
    exact ⟨hgone _, fun x hx ↦ .dropped hfull rfl⟩

/-- The written events leave. -/
theorem accounts_clearWrittenEvents : Accounts kind s s.clearWrittenEvents .clearWrittenEvents := by
  refine accounts_of_perm (s.mSelectedEvents.takeWhile (·.mWritten)) ?_ fun e he ↦ ?_
  · show s.held.Perm _
    calc List.Perm s.held
          (s.mSelectedEvents.takeWhile (·.mWritten) ++ s.clearWrittenEvents.held) := by
          rw [held, held, clearWrittenEvents, ← List.append_assoc, List.takeWhile_append_dropWhile]
      List.Perm _ _ := List.perm_append_comm
  · exact .written ((List.takeWhile_sublist _).subset he) (List.mem_takeWhile_imp he)

/-- Where `Deselect` stands: these events are still to be put back, and some others have left. -/
def Back (kind : BufferKind α) (s : EventBuffer α) (l : List (EventInfo α)) (u : EventBuffer α) :
    Prop :=
  ∃ gone : List (EventInfo α), s.held.Perm (l ++ u.mEventSet ++ gone) ∧
    ∀ t, ∀ e ∈ gone, Reason kind s t .deselect e

/-- An event is put back. -/
theorem Returning.back {e : EventInfo α} {l : List (EventInfo α)}
    (hret : Returning kind s (e :: l) u)
    (h : Back kind s (e :: l) u) : Back kind s l (u.updateOld kind e) := by
  obtain ⟨gone, hp, hgone⟩ := h
  have hapart : ∀ x ∈ u.mEventSet, x.mSequence ≠ e.mSequence := by
    have hnodup := hret.nodup
    rw [List.cons_append, List.map_cons, List.nodup_cons] at hnodup
    exact fun x hx heq ↦ hnodup.1 (heq ▸ List.mem_map_of_mem (List.mem_append_right l hx))
  have hheld (x : EventInfo α) (hx : x = e ∨ x ∈ u.mEventSet) : x ∈ s.held := by
    refine hp.mem_iff.mpr (List.mem_append_left _ ?_)
    exact hx.elim (fun h ↦ h ▸ List.mem_cons_self) fun h ↦ List.mem_append_right _ h
  obtain ⟨more, hp', hmore⟩ := hret.takes.report hapart
  -- what was in the set and is not any more has left too
  have hset : (e :: l ++ u.mEventSet).Perm (l ++ (u.updateOld kind e).mEventSet ++ more) := by
    rw [List.append_assoc]
    exact List.perm_middle.symm.trans (hp'.append_left l)
  refine ⟨more ++ gone, ?_, fun t ↦ ?_⟩
  · rw [← List.append_assoc]
    exact hp.trans (hset.append_right gone)
  · rw [List.forall_mem_append]
    refine ⟨fun y hy ↦ ?_, hgone t⟩
    obtain ⟨getTime, x, hkind, hmem, hindex, htime, hother⟩ := hmore y hy
    exact .outdatedBack hkind (hheld x hmem) hindex htime hother

/-- The selected events are put back. -/
theorem Sequenced.accounts_deselect (hs : Sequenced kind s) :
    Accounts kind s (s.deselect kind) .deselect := by
  have hback : Back kind s s.mSelectedEvents s :=
    ⟨[], by rw [List.append_nil]; exact .refl _, fun _ _ h ↦ absurd h List.not_mem_nil⟩
  obtain ⟨u, -, ⟨gone, hp, hgone⟩, heq⟩ := deselect_rule hs (fun _ _ _ hret h ↦ hret.back h) hback
  refine accounts_of_perm gone ?_ (hgone _)
  rw [heq]
  exact hp

/-- **One operation**: what comes in is accounted for, and so is what leaves. -/
theorem accounts_step {op : BufferOp α} (hs : Sequenced kind s) (h : s.step kind op = some t) :
    Accounts kind s t op := by
  cases performs_of_step hs.valid h with
  | updates hu _ _ =>
    obtain ⟨gone, hp, hgone⟩ := hs.accounts_update hu
    exact accounts_of_perm gone hp (hgone t)
  | overflows hu _ hlt hset _ => exact hs.accounts_overflow hu hlt hset
  | @selects c k picked kept n hp _ _ _ _ _ =>
    have hunwritten : (picked.map unwritten).map EventInfo.entry = picked.map EventInfo.entry := by
      rw [List.map_map]
      rfl
    refine accounts_of_entries rfl ?_
    have hset := hp.map EventInfo.entry
    rw [List.map_append] at hset
    simp only [held, List.map_append, hunwritten, List.append_assoc]
    exact hset.append_left _
  | deselects => exact hs.accounts_deselect
  | clears => exact accounts_clearWrittenEvents
  | marks =>
    refine accounts_of_entries rfl ?_
    rw [held, held, List.map_append, List.map_append, map_markWritten s _ fun _ ↦ rfl]
    exact .refl _
  | asks =>
    refine accounts_of_entries rfl ?_
    rw [isOverflown]
    dsimp only
    split <;> exact .refl _

/-- What is held and what comes in have numbers of their own. -/
theorem Sequenced.nodup_incoming (hs : Sequenced kind s) (op : BufferOp α) :
    ((op.incoming s ++ s.held).map (·.mSequence)).Nodup := by
  cases op with
  | update v c i =>
    refine List.nodup_cons.mpr ⟨fun hmem ↦ ?_, hs.nodup⟩
    obtain ⟨x, hx, heq⟩ := List.mem_map.mp hmem
    exact Nat.ne_of_lt (hs.below_next x hx) heq
  | select _ _ | deselect | clearWrittenEvents | markWritten _ | isOverflown => exact hs.nodup

/-- **What leaves is held no more**, since no two events have one number. -/
theorem Accounts.leaves {op : BufferOp α} (hs : Sequenced kind s) (h : Accounts kind s t op) :
    ∃ gone : List (EventInfo α), (op.reports ++ s.held.map EventInfo.report).Perm
      (t.held.map EventInfo.report ++ gone.map EventInfo.report) ∧
      (gone.map (·.mSequence)).Nodup ∧ ∀ e ∈ gone, Leaves kind s t op e := by
  obtain ⟨gone, hp, hgone⟩ := h
  have hnodup : ((t.held ++ gone).map (·.mSequence)).Nodup := by
    have hnumbers := hp.map Prod.fst
    rw [List.map_map, List.map_map] at hnumbers
    exact hnumbers.nodup_iff.mp (hs.nodup_incoming op)
  rw [List.map_append, List.nodup_append] at hnodup
  obtain ⟨-, hown, hapart⟩ := hnodup
  refine ⟨gone, ?_, hown, fun e he ↦ ⟨(hgone e he).1, fun x hx heq ↦ ?_, (hgone e he).2⟩⟩
  · have hreports := hp.map Prod.snd
    rw [List.map_map, List.map_map, List.map_append, List.map_append] at hreports
    rw [← op.map_report_incoming s]
    exact hreports
  · exact hapart _ (List.mem_map_of_mem hx) _ (List.mem_map_of_mem he) heq

/-! ## Runs

A departure is an event with the number of the operation by which it leaves.  No two departures of a
run have the same operation and the same event, so that nothing is accounted for twice. -/

/-- The events that have been reported, in a run. -/
def reportsOf (ops : List (BufferOp α)) : List (α × PointClass × ℕ) := ops.flatMap BufferOp.reports

/-- **The event leaves by this operation of a run** from the buffer `s`. -/
def Departs (kind : BufferKind α) (s : EventBuffer α) (ops : List (BufferOp α))
    (d : ℕ × EventInfo α) : Prop :=
  ∃ op t u, ops[d.1]? = some op ∧ Run.run (step kind) s (ops.take d.1) = some t ∧
    t.step kind op = some u ∧ Leaves kind t u op d.2

theorem departs_zero {op : BufferOp α} {ops : List (BufferOp α)} {e : EventInfo α}
    (hstep : s.step kind op = some u) (h : Leaves kind s u op e) : Departs kind s (op :: ops)
    (0, e) :=
  ⟨op, s, u, rfl, rfl, hstep, h⟩

theorem Departs.succ {op : BufferOp α} {ops : List (BufferOp α)} {d : ℕ × EventInfo α}
    (hstep : s.step kind op = some u) (h : Departs kind u ops d) :
    Departs kind s (op :: ops) (d.1 + 1, d.2) := by
  obtain ⟨op', t, v, hop, hrun, hleaves⟩ := h
  refine ⟨op', t, v, hop, ?_, hleaves⟩
  rw [List.take_succ_cons, Run.run_cons, hstep]
  exact hrun

/-- **What a run accounts for.**  By induction on the operations. -/
theorem accounts_run {ops : List (BufferOp α)} (hs : Sequenced kind s)
    (h : Run.run (step kind) s ops = some t) :
    ∃ gone : List (ℕ × EventInfo α), (reportsOf ops ++ s.held.map EventInfo.report).Perm
        (t.held.map EventInfo.report ++ gone.map fun d ↦ d.2.report) ∧
      (gone.map fun d ↦ (d.1, d.2.mSequence)).Nodup ∧ ∀ d ∈ gone, Departs kind s ops d := by
  induction ops generalizing s with
  | nil =>
    obtain rfl := Option.some.inj h
    exact ⟨[], by simp [reportsOf], List.nodup_nil, fun _ h ↦ absurd h List.not_mem_nil⟩
  | cons op ops ih =>
    obtain ⟨u, hu, h⟩ := Run.run_cons_eq_some.mp h
    obtain ⟨now, hp, hnow, hleaves⟩ := (accounts_step hs hu).leaves hs
    obtain ⟨later, hp', hlater, hdeparts⟩ := ih (sequenced_step hs hu) h
    refine ⟨(later.map fun d ↦ (d.1 + 1, d.2)) ++ now.map fun e ↦ (0, e), ?_, ?_, ?_⟩
    · rw [List.map_append, List.map_map, List.map_map, ← List.append_assoc]
      refine List.Perm.trans ?_ (hp'.append_right _)
      calc List.Perm (reportsOf (op :: ops) ++ s.held.map EventInfo.report)
            (reportsOf ops ++ (op.reports ++ s.held.map EventInfo.report)) := by
            rw [reportsOf, List.flatMap_cons, ← List.append_assoc]
            exact List.perm_append_comm.append_right _
        List.Perm _ (reportsOf ops ++ (u.held.map EventInfo.report ++ now.map EventInfo.report)) :=
          hp.append_left _
        List.Perm _ _ := by
          rw [List.append_assoc]
          exact .refl _
    · rw [List.map_append, List.map_map, List.map_map, List.nodup_append]
      refine ⟨?_, ?_, fun a ha b hb heq ↦ ?_⟩
      · have hsucc := hlater.map (f := fun d ↦ (d.1 + 1, d.2)) fun x y hxy ↦ by
          obtain ⟨h1, h2⟩ := Prod.mk.inj hxy
          exact Prod.ext (Nat.succ.inj h1) h2
        rwa [List.map_map] at hsucc
      · have hzero := hnow.map (f := fun n ↦ ((0 : ℕ), n)) fun x y hxy ↦ (Prod.mk.inj hxy).2
        rwa [List.map_map] at hzero
      · -- the departures of this operation have the number 0, and the others have not
        obtain ⟨d, -, rfl⟩ := List.mem_map.mp ha
        obtain ⟨e, -, rfl⟩ := List.mem_map.mp hb
        exact Nat.succ_ne_zero d.1 (Prod.mk.inj heq).1
    · rw [List.forall_mem_append, List.forall_mem_map, List.forall_mem_map]
      exact ⟨fun d hd ↦ (hdeparts d hd).succ hu, fun e he ↦ departs_zero hu (hleaves e he)⟩

/-- A buffer of one event, which drops the first of two; the other one is reported. -/
def overflowAndReport : List (BufferOp ℤ) :=
  [.update 5 .class1 0, .update 6 .class1 1, .select .class1 3, .markWritten 0, .clearWrittenEvents]

end EventBuffer

end OpenDNP3
