import OpenDNP3.Event.Buffer

/-!
# The sequence numbers of held events

Every new event gets the next sequence number, and the numbers start again from zero only when the
buffer is empty.  So no two events that are held at a time have the same number
(`EventBuffer.Sequenced`), and a set that is ordered by these numbers takes in every event
(`EventBuffer.Takes`).

`EventBuffer.deselect_rule` is the rule for `Deselect`, which puts the selected events back one
after the other.
-/

set_option autoImplicit false

namespace OpenDNP3

namespace EventBuffer

variable {α : Type} {kind : BufferKind α} {s t u : EventBuffer α}

/-- The events that are held. -/
def held (s : EventBuffer α) : List (EventInfo α) := s.mSelectedEvents ++ s.mEventSet

/-- **The events that are held have sequence numbers of their own**, below the next one. -/
structure Sequenced (kind : BufferKind α) (s : EventBuffer α) : Prop where
  valid : kind.Valid s.mEventSet
  below : ∀ e ∈ s.held, e.mSequence < s.mSequence
  nodup : (s.held.map (·.mSequence)).Nodup

/-- The set takes in the event, in place of another or in addition. -/
inductive Takes (kind : BufferKind α) (s : EventBuffer α) (e : EventInfo α) : EventBuffer α → Prop
  | adds {set : List (EventInfo α)} (hp : set.Perm (e :: s.mEventSet))
      (hother : ∀ getTime, kind = .single getTime → ∀ x ∈ s.mEventSet, x.mIndex ≠ e.mIndex) :
      Takes kind s e { s with mCounter := s.mCounter.incrCount e.mClass, mEventSet := set }
  | replaces {getTime : α → Int} {x : EventInfo α} {set rest : List (EventInfo α)}
      (hkind : kind = .single getTime) (hindex : x.mIndex = e.mIndex)
      (htime : getTime x.mValue ≤ getTime e.mValue) (hold : s.mEventSet.Perm (x :: rest))
      (hnew : set.Perm (e :: rest)) : Takes kind s e { s with mEventSet := set }
  | keeps {getTime : α → Int} {x : EventInfo α} (hkind : kind = .single getTime)
      (hindex : x.mIndex = e.mIndex) (htime : getTime e.mValue < getTime x.mValue)
      (hmem : x ∈ s.mEventSet) : Takes kind s e s

/-- An event with a number of its own is not swallowed. -/
theorem Updates.takes {e : EventInfo α} (h : Updates kind s e t)
    (hapart : ∀ x ∈ s.mEventSet, x.mSequence ≠ e.mSequence) : Takes kind s e t := by
  cases h with
  | adds hp hother => exact .adds hp hother
  | swallows _ hsame =>
    obtain ⟨x, hx, hseq⟩ := hsame
    exact absurd hseq (hapart x hx)
  | replaces hkind hindex htime hold hnew => exact .replaces hkind hindex htime hold hnew
  | keeps hkind hindex htime hmem => exact .keeps hkind hindex htime hmem

/-- What an event that is taken in leaves as it is, and which events may be in the set then. -/
theorem Takes.frame {e : EventInfo α} (h : Takes kind s e t) :
    t.mSequence = s.mSequence ∧ t.mSelectedEvents = s.mSelectedEvents ∧
      t.mEventSet.Subperm (e :: s.mEventSet) := by
  cases h with
  | adds hp _ => exact ⟨rfl, rfl, hp.subperm⟩
  | replaces _ _ _ hold hnew =>
    refine ⟨rfl, rfl, hnew.subperm.trans ?_⟩
    have hrest := (List.sublist_cons_self _ _).subperm.trans hold.symm.subperm
    exact (List.subperm_cons e).mpr hrest
  | keeps _ _ _ _ => exact ⟨rfl, rfl, (List.sublist_cons_self _ _).subperm⟩

/-- What is held after an event is taken in. -/
theorem Takes.sequenced {e : EventInfo α} (h : Takes kind s e t) (ht : kind.Valid t.mEventSet)
    (hbelow : ∀ x ∈ s.held, x.mSequence < s.mSequence)
    (hnodup : ((e :: s.held).map (·.mSequence)).Nodup)
    (he : e.mSequence < s.mSequence) : Sequenced kind t := by
  obtain ⟨hseq, hsel, hset⟩ := h.frame
  have hheld : t.held.Subperm (e :: s.held) := by
    rw [held, hsel]
    exact ((List.subperm_append_left _).mpr hset).trans List.perm_middle.subperm
  refine ⟨ht, fun x hx ↦ ?_, ?_⟩
  · rw [hseq]
    rcases List.mem_cons.mp (hheld.subset hx) with rfl | hx
    · exact he
    · exact hbelow x hx
  · obtain ⟨l, hp, hsub⟩ := hheld
    exact ((hp.map _).nodup_iff).mp (hnodup.sublist (hsub.map _))

/-! ## Operations -/

theorem Sequenced.below_next (hs : Sequenced kind s) :
    ∀ e ∈ s.held, e.mSequence < s.nextSequence := by
  intro e he
  have hsize : s.size ≠ 0 := by
    have hpos := List.length_pos_of_mem he
    rw [held, List.length_append] at hpos
    exact Nat.ne_of_gt hpos
  rw [nextSequence, if_neg hsize]
  exact hs.below e he

/-- A new event is taken in. -/
theorem Sequenced.takes_new (hs : Sequenced kind s) {v : α} {c : PointClass} {i : ℕ}
    (h : Updates kind s.numbered (s.newEvent v c i) t) :
    Takes kind s.numbered (s.newEvent v c i) t :=
  h.takes fun x hx ↦ Nat.ne_of_lt (hs.below_next x (List.mem_append_right _ hx))

theorem Sequenced.update (hs : Sequenced kind s) {v : α} {c : PointClass} {i : ℕ}
    (h : Updates kind s.numbered (s.newEvent v c i) t) (ht : kind.Valid t.mEventSet) :
    Sequenced kind t := by
  have hnext : s.numbered.mSequence = s.nextSequence + 1 := rfl
  refine (hs.takes_new h).sequenced ht (fun x hx ↦ ?_) ?_ ?_
  · rw [hnext]
    exact Nat.lt_succ_of_lt (hs.below_next x hx)
  · rw [List.map_cons, List.nodup_cons]
    refine ⟨fun hmem ↦ ?_, hs.nodup⟩
    obtain ⟨x, hx, hseq⟩ := List.mem_map.mp hmem
    exact Nat.ne_of_lt (hs.below_next x hx) hseq
  · rw [hnext]
    exact Nat.lt_succ_self _

/-- Fewer events are held. -/
theorem Sequenced.subperm (hs : Sequenced kind s) (ht : kind.Valid t.mEventSet)
    (hseq : t.mSequence = s.mSequence)
    (hheld : (t.held.map (·.mSequence)).Subperm (s.held.map (·.mSequence))) : Sequenced kind t := by
  refine ⟨ht, fun x hx ↦ ?_, ?_⟩
  · obtain ⟨y, hy, heq⟩ := List.mem_map.mp (hheld.subset (List.mem_map_of_mem hx))
    rw [hseq, ← heq]
    exact hs.below y hy
  · obtain ⟨l, hp, hsub⟩ := hheld
    exact hp.nodup_iff.mp (hs.nodup.sublist hsub)

/-! ## Putting back

An event that is put back keeps the sequence number that it has, which is below the number of the
next event. -/

/-- Where the loop of `Deselect` stands: these events are still to be put back. -/
structure Returning (kind : BufferKind α) (s : EventBuffer α) (l : List (EventInfo α))
    (u : EventBuffer α) : Prop where
  valid : kind.Valid u.mEventSet
  suffix : l <:+ s.mSelectedEvents
  selected : u.mSelectedEvents = s.mSelectedEvents
  sequence : u.mSequence = s.mSequence
  below : ∀ e ∈ l ++ u.mEventSet, e.mSequence < s.mSequence
  nodup : ((l ++ u.mEventSet).map (·.mSequence)).Nodup

/-- An event that is put back is taken in. -/
theorem Returning.takes {e : EventInfo α} {l : List (EventInfo α)}
    (h : Returning kind s (e :: l) u) :
    Takes kind u e (u.updateOld kind e) := by
  have hnext : u.nextSequence = u.mSequence := by
    have hpos := h.suffix.length_le
    rw [List.length_cons, ← h.selected] at hpos
    rw [nextSequence, if_neg]
    rw [size]
    omega
  have hold : ({ u with mSequence := u.nextSequence } : EventBuffer α) = u := by rw [hnext]
  rw [updateOld, hold]
  refine (kindUpdate_updates h.valid e).takes fun x hx hseq ↦ ?_
  have hnodup := h.nodup
  rw [List.cons_append, List.map_cons, List.nodup_cons] at hnodup
  exact hnodup.1 (hseq ▸ List.mem_map_of_mem (List.mem_append_right l hx))

theorem Returning.next {e : EventInfo α} {l : List (EventInfo α)}
    (h : Returning kind s (e :: l) u) :
    Returning kind s l (u.updateOld kind e) := by
  obtain ⟨hseq, hsel, hset⟩ := h.takes.frame
  have hvalid : kind.Valid { u with mSequence := u.nextSequence }.mEventSet := h.valid
  have hsub : (l ++ (u.updateOld kind e).mEventSet).Subperm (e :: l ++ u.mEventSet) :=
    ((List.subperm_append_left l).mpr hset).trans List.perm_middle.subperm
  refine ⟨valid_kindUpdate hvalid e, (List.suffix_cons e l).trans h.suffix, hsel.trans h.selected,
    hseq.trans h.sequence, fun x hx ↦ h.below x (hsub.subset hx), ?_⟩
  obtain ⟨l', hp, hl'⟩ := hsub
  exact ((hp.map _).nodup_iff).mp (h.nodup.sublist (hl'.map _))

/-- **The rule for `Deselect`**: what every event that is put back keeps holds at the end. -/
theorem deselect_rule {P : List (EventInfo α) → EventBuffer α → Prop} (hs : Sequenced kind s)
    (hstep : ∀ e l u, Returning kind s (e :: l) u → P (e :: l) u → P l (u.updateOld kind e))
    (h : P s.mSelectedEvents s) : ∃ u, Returning kind s [] u ∧ P [] u ∧
      s.deselect kind = { u with mSelectedEvents := [] } := by
  refine ⟨s.mSelectedEvents.foldl (updateOld kind) s, ?_⟩
  have hboth := foldl_updateOld (P := fun l u ↦ Returning kind s l u ∧ P l u)
    (fun e l u hu ↦ ⟨hu.1.next, hstep e l u hu.1 hu.2⟩)
    ⟨⟨hs.valid, List.suffix_refl _, rfl, rfl, hs.below, hs.nodup⟩, h⟩
  exact ⟨hboth.1, hboth.2, rfl⟩

/-- Marking an event changes no sequence number. -/
theorem map_markWritten (s : EventBuffer α) (aPosition : ℕ) {β : Type} {g : EventInfo α → β}
    (hg : ∀ e, g { e with mWritten := true } = g e) :
    (s.markWritten aPosition).mSelectedEvents.map g = s.mSelectedEvents.map g := by
  rw [markWritten]
  generalize s.mSelectedEvents = l
  dsimp only
  induction l generalizing aPosition with
  | nil => cases aPosition <;> rfl
  | cons e l ih =>
    cases aPosition with
    | zero => simp [hg]
    | succ n => simpa using ih n

/-- **Every operation keeps the sequence numbers of held events apart.** -/
theorem sequenced_step {op : BufferOp α} (hs : Sequenced kind s) (h : s.step kind op = some t) :
    Sequenced kind t := by
  have ht := valid_step hs.valid h
  cases performs_of_step hs.valid h with
  | updates hu hvalid _ => exact hs.update hu hvalid
  | @overflows _ _ _ u e rest n hu hvalid _ hset _ =>
    refine (hs.update hu hvalid).subperm ht rfl ?_
    rw [held, held, hset]
    exact (((List.sublist_cons_self e rest).append_left _).map _).subperm
  | @selects _ _ picked kept n hp _ _ _ _ _ =>
    refine hs.subperm ht rfl (List.Perm.subperm ?_)
    have hunwritten : (picked.map unwritten).map (·.mSequence) = picked.map (·.mSequence) := by
      rw [List.map_map]
      rfl
    have hset := hp.map (·.mSequence)
    rw [List.map_append] at hset
    rw [held, held, List.append_assoc, List.map_append, List.map_append, List.map_append,
      hunwritten]
    exact hset.symm.append_left _
  | deselects =>
    obtain ⟨u, hu, -, heq⟩ := deselect_rule (P := fun _ _ ↦ True) hs
      (fun _ _ _ _ _ ↦ trivial) trivial
    rw [heq]
    exact ⟨hu.valid, fun e he ↦ hu.sequence ▸ hu.below e he, hu.nodup⟩
  | clears =>
    refine hs.subperm ht rfl ?_
    exact (((List.dropWhile_sublist _).append_right _).map _).subperm
  | marks =>
    refine hs.subperm ht rfl ?_
    rw [held, List.map_append, map_markWritten s _ fun _ ↦ rfl, ← List.map_append]
    exact List.Subperm.refl _
  | asks =>
    refine hs.subperm ht ?_ ?_
    · rw [isOverflown]
      dsimp only
      split <;> rfl
    · rw [isOverflown]
      dsimp only
      split <;> exact List.Subperm.refl _

theorem sequenced_new (aMaxEvents : ℕ) : Sequenced kind (new aMaxEvents) :=
  ⟨valid_new aMaxEvents, fun _ he ↦ absurd he List.not_mem_nil, List.nodup_nil⟩

end EventBuffer

end OpenDNP3
