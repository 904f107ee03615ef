import OpenDNP3.App.Grammar
import OpenDNP3.Event.Order

/-!
# Selecting events for a response

A `READ` names the events that the master wants: those of a type, or those of a class in all types,
as many as there are or up to a count.  For every header `ResponseContext` selects events in the
buffers of `SlaveEventBuffer` and notes how many it wants to write.

* `SlaveEventBuffer` — a buffer for each type of event.
* `ResponseContext.Events` — the members of `ResponseContext` that have to do with events, with
  `selectEvents` and `selectVtoEvents`.
* `ResponseContext.Events.class_read` — what a header for a class selects.  The count goes through
  the types in turn; that of the counters and the virtual terminals is adjusted by the number of
  binary events, whatever was selected in between.
-/

set_option autoImplicit false

namespace OpenDNP3

/-! ## The buffers -/

/-- `SlaveEventBuffer`, with the types of the measurements. -/
structure SlaveEventBuffer (β α κ τ : Type) where
  mBinaryEvents : EventBuffer β
  mAnalogEvents : EventBuffer α
  mCounterEvents : EventBuffer κ
  mVtoEvents : EventBuffer τ

namespace SlaveEventBuffer

variable {β α κ τ : Type}

/-- `IsOverflow`, and the buffers after it; the first one that is overflown ends the search. -/
def isOverflow (s : SlaveEventBuffer β α κ τ) : Bool × SlaveEventBuffer β α κ τ :=
  let s := { s with mBinaryEvents := s.mBinaryEvents.isOverflown.2 }
  if s.mBinaryEvents.mIsOverflown then (true, s)
  else
    let s := { s with mAnalogEvents := s.mAnalogEvents.isOverflown.2 }
    if s.mAnalogEvents.mIsOverflown then (true, s)
    else
      let s := { s with mCounterEvents := s.mCounterEvents.isOverflown.2 }
      if s.mCounterEvents.mIsOverflown then (true, s)
      else
        let s := { s with mVtoEvents := s.mVtoEvents.isOverflown.2 }
        (s.mVtoEvents.mIsOverflown, s)

end SlaveEventBuffer

namespace EventBuffer

variable {α : Type}

/-- `Select`, with the number of events that it has selected. -/
def selectNum (s : EventBuffer α) (aClass : PointClass) (aMaxEvent : ℕ) :
    Except Exception (ℕ × EventBuffer α) := do
  let t ← s.select aClass aMaxEvent
  return (t.numSelected - s.numSelected, t)

/-- The number of unselected events of a class. -/
def available (s : EventBuffer α) (aClass : PointClass) : ℕ :=
  (s.mEventSet.filter (·.mClass &&& aClass ≠ 0)).length

end EventBuffer

/-! ## The context -/

/-- `EventRequest` and `VtoEventRequest` -/
structure EventRequest where
  pObj : ObjectBase
  count : ℕ
  deriving DecidableEq, Repr

/-- `SlaveResponseTypes`, of events. -/
structure SlaveResponseTypes where
  mpEventBinary : ObjectBase
  mpEventAnalog : ObjectBase
  mpEventCounter : ObjectBase
  mpEventVto : ObjectBase
  deriving DecidableEq, Repr

/-- `GetEventCount` -/
def getEventCount (arHeader : HeaderInfo) : ℕ :=
  match arHeader.mQualifier with
  | .cnt1B | .cnt2B => arHeader.mCount
  | _ => sizeMax

/-- A count is a number of at most four octets. -/
theorem HeaderAt.getEventCount_le {named : ℕ → ℕ → ObjectBase → Prop} {aBuffer : List Byte}
    {aPos : ℕ}
    {h : HeaderInfo} (hh : HeaderAt named aBuffer aPos h) : getEventCount h ≤ sizeMax := by
  have hhdr := hh.header
  have hcount := hh.count
  have hlt := readUInt_lt aBuffer h.mHeader.fieldSize (aPos + 3)
  rw [getEventCount]
  split
  · next hq =>
    rw [hq] at hhdr
    rw [← Except.ok.inj hhdr] at hcount hlt
    calc h.mCount = readUInt aBuffer 1 (aPos + 3) := hcount
      _ ≤ 256 ^ 1 := Nat.le_of_lt hlt
      _ ≤ sizeMax := by rw [sizeMax_eq]; decide
  · next hq =>
    rw [hq] at hhdr
    rw [← Except.ok.inj hhdr] at hcount hlt
    calc h.mCount = readUInt aBuffer 2 (aPos + 3) := hcount
      _ ≤ 256 ^ 2 := Nat.le_of_lt hlt
      _ ≤ sizeMax := by rw [sizeMax_eq]; decide
  · exact Nat.le_refl _

/-- The members of `ResponseContext` that have to do with events. -/
structure ResponseContext.Events (β α κ τ : Type) where
  mBuffer : SlaveEventBuffer β α κ τ
  mpRspTypes : SlaveResponseTypes
  mTempIIN : IINField
  mBinaryEvents : List EventRequest
  mAnalogEvents : List EventRequest
  mCounterEvents : List EventRequest
  mVtoEvents : List EventRequest

namespace ResponseContext.Events

variable {β α κ τ : Type}

/-- `MAX_VTO_EVENTS` -/
def maxVtoEvents : ℕ := 7

/-- A request for the events that have been selected, if there are any. -/
def request (arQueue : List EventRequest) (apObj : ObjectBase) (aNum num : ℕ) : List EventRequest :=
  if num > 0 then arQueue ++ [⟨apObj, aNum⟩] else arQueue

section Select

variable (s : Events β α κ τ) (aClass : PointClass)

/-- `SelectEvents`, of binary events. -/
def selectBinary (apObj : ObjectBase) (aNum : ℕ) : Except Exception (ℕ × Events β α κ τ) := do
  let (num, b) ← s.mBuffer.mBinaryEvents.selectNum aClass aNum
  return (num, { s with
    mBuffer := { s.mBuffer with mBinaryEvents := b }
    mBinaryEvents := request s.mBinaryEvents apObj aNum num })

/-- `SelectEvents`, of analog events. -/
def selectAnalog (apObj : ObjectBase) (aNum : ℕ) : Except Exception (ℕ × Events β α κ τ) := do
  let (num, b) ← s.mBuffer.mAnalogEvents.selectNum aClass aNum
  return (num, { s with
    mBuffer := { s.mBuffer with mAnalogEvents := b }
    mAnalogEvents := request s.mAnalogEvents apObj aNum num })

/-- `SelectEvents`, of counter events. -/
def selectCounter (apObj : ObjectBase) (aNum : ℕ) : Except Exception (ℕ × Events β α κ τ) := do
  let (num, b) ← s.mBuffer.mCounterEvents.selectNum aClass aNum
  return (num, { s with
    mBuffer := { s.mBuffer with mCounterEvents := b }
    mCounterEvents := request s.mCounterEvents apObj aNum num })

/-- `SelectVtoEvents` -/
def selectVtoEvents (apObj : ObjectBase) (aNum : ℕ) : Except Exception (ℕ × Events β α κ τ) := do
  let (num, b) ← s.mBuffer.mVtoEvents.selectNum aClass (min aNum maxVtoEvents)
  return (num, { s with
    mBuffer := { s.mBuffer with mVtoEvents := b }
    mVtoEvents := request s.mVtoEvents apObj aNum num })

/-- What `SelectEvents` does first: an overflow is indicated. -/
def checkOverflow : Events β α κ τ :=
  let (overflow, b) := s.mBuffer.isOverflow
  { s with
    mBuffer := b
    mTempIIN := if overflow then s.mTempIIN.setEventBufferOverflow true else s.mTempIIN }

/-- `SelectEvents`, of all types. -/
def selectEvents (aNum : ℕ) : Except Exception (Events β α κ τ) := do
  let remain := aNum
  let (numBinaryEvents, s) ← s.checkOverflow.selectBinary aClass s.mpRspTypes.mpEventBinary remain
  let remain := sizeSub remain numBinaryEvents
  let (_, s) ← s.selectAnalog aClass s.mpRspTypes.mpEventAnalog remain
  let remain := sizeSub remain numBinaryEvents
  let (_, s) ← s.selectCounter aClass s.mpRspTypes.mpEventCounter remain
  let remain := sizeSub remain numBinaryEvents
  let (_, s) ← s.selectVtoEvents aClass s.mpRspTypes.mpEventVto remain
  return s

end Select

/-- The class that an object of group 60 stands for. -/
def classOf (aRadix : ℕ) : Option PointClass :=
  if aRadix = radix 60 2 then some .class1
  else if aRadix = radix 60 3 then some .class2
  else if aRadix = radix 60 4 then some .class3
  else none

/-- The `switch` of `Configure`, as far as it selects events. -/
def configure (s : Events β α κ τ) (hdr : HeaderInfo) : Except Exception (Events β α κ τ) := do
  let num := getEventCount hdr
  if hdr.mGroup = 113 then
    return (← s.selectVtoEvents .allEvents ⟨113, 0, .sizeByVariation⟩ num).2
  else if hdr.radix = radix 2 0 then
    return (← s.selectBinary .allEvents s.mpRspTypes.mpEventBinary num).2
  else if hdr.radix = radix 22 0 then
    return (← s.selectCounter .allEvents s.mpRspTypes.mpEventCounter num).2
  else if hdr.radix = radix 32 0 then
    return (← s.selectAnalog .allEvents s.mpRspTypes.mpEventAnalog num).2
  else if hdr.radix = radix 2 1 then
    return (← s.selectBinary .allEvents ⟨2, 1, .fixed 1⟩ num).2
  else if hdr.radix = radix 2 2 then
    return (← s.selectBinary .allEvents ⟨2, 2, .fixed 7⟩ num).2
  else if hdr.radix = radix 2 3 then
    return (← s.selectBinary .allEvents ⟨2, 3, .fixed 3⟩ num).2
  else
    match classOf hdr.radix with
    | some aClass => s.selectEvents aClass num
    | none => return s

/-- The loop of `Configure`. -/
def configureAll (s : Events β α κ τ) (hdrs : List HeaderInfo) :
    Except Exception (Events β α κ τ) :=
  hdrs.foldlM configure s

end ResponseContext.Events

/-! ## One buffer -/

namespace EventBuffer

variable {α : Type} {s t : EventBuffer α} {c : PointClass} {n num : ℕ}

/-- **`Select` selects as many events of the class as it may.** -/
theorem selectNum_eq_ok (h : s.selectNum c n = .ok (num, t)) :
    num = min n (s.available c) ∧ t.numSelected = s.numSelected + num := by
  obtain ⟨u, hu, h⟩ := except_bind_eq_ok.mp h
  obtain ⟨rfl, rfl⟩ := Prod.mk.inj (Except.ok.inj h)
  obtain ⟨⟨m, selected, kept⟩, hloop, hu⟩ := except_bind_eq_ok.mp hu
  obtain ⟨picked, hpicked, -, rfl, -⟩ := selectLoop_spec hloop
  obtain rfl := Except.ok.inj hu
  have hlen : picked.length = min n (s.available c) := by
    rw [hpicked, List.length_take]
    rfl
  have hsel : (s.mSelectedEvents ++ picked.map unwritten).length =
      s.mSelectedEvents.length + min n (s.available c) := by
    rw [List.length_append, List.length_map, hlen]
  simp only [numSelected, hsel, Nat.add_sub_cancel_left, and_self]

/-- With exact counts `Select` goes through. -/
theorem selectNum_ok (hs : s.mCounter.Counts s.mEventSet) (c : PointClass) (n : ℕ) :
    ∃ num t, s.selectNum c n = .ok (num, t) := by
  have hcounts : s.mCounter.Counts ([] ++ s.mEventSet) := hs
  have hloop : ∃ r, selectLoop c n s.mCounter s.mEventSet = .ok r := selectLoop_ok hcounts
  obtain ⟨r, hr⟩ := hloop
  exact ⟨_, _, by rw [selectNum, select, hr]; rfl⟩

/-- The counts stay exact. -/
theorem selectNum_counts (hs : s.mCounter.Counts s.mEventSet) (h : s.selectNum c n = .ok (num, t)) :
    t.mCounter.Counts t.mEventSet := by
  obtain ⟨u, hu, h⟩ := except_bind_eq_ok.mp h
  obtain ⟨-, rfl⟩ := Prod.mk.inj (Except.ok.inj h)
  obtain ⟨⟨m, selected, kept⟩, hloop, hu⟩ := except_bind_eq_ok.mp hu
  obtain ⟨picked, -, hperm, -, -, -, -, -, hdecr⟩ := selectLoop_spec hloop
  obtain rfl := Except.ok.inj hu
  exact counts_decrAll (hs.perm hperm) hdecr

/-- What the overflow flag leaves as it is. -/
theorem isOverflown_same (s : EventBuffer α) :
    s.isOverflown.2.mEventSet = s.mEventSet ∧ s.isOverflown.2.mSelectedEvents = s.mSelectedEvents ∧
      s.isOverflown.2.mCounter = s.mCounter := by
  rw [isOverflown]
  dsimp only
  split <;> exact ⟨rfl, rfl, rfl⟩

end EventBuffer

/-! ## All buffers -/

/-- A number for each type of event. -/
structure EventCounts where
  binary : ℕ
  analog : ℕ
  counter : ℕ
  vto : ℕ
  deriving DecidableEq, Repr

namespace EventCounts

def total (n : EventCounts) : ℕ := n.binary + n.analog + n.counter + n.vto

instance : Sub EventCounts where
  sub n m := ⟨n.binary - m.binary, n.analog - m.analog, n.counter - m.counter, n.vto - m.vto⟩

/-- What was added is the difference. -/
theorem sub_of_add (n m : EventCounts) :
    (⟨n.binary + m.binary, n.analog + m.analog, n.counter + m.counter, n.vto + m.vto⟩ :
      EventCounts) - n =
      m := by
  show EventCounts.mk _ _ _ _ = m
  simp only [Nat.add_sub_cancel_left]

end EventCounts

namespace SlaveEventBuffer

variable {β α κ τ : Type}

/-- How many events are selected. -/
def selected (s : SlaveEventBuffer β α κ τ) : EventCounts :=
  ⟨s.mBinaryEvents.numSelected, s.mAnalogEvents.numSelected, s.mCounterEvents.numSelected,
    s.mVtoEvents.numSelected⟩

/-- How many unselected events of a class there are. -/
def available (s : SlaveEventBuffer β α κ τ) (aClass : PointClass) : EventCounts :=
  ⟨s.mBinaryEvents.available aClass, s.mAnalogEvents.available aClass,
    s.mCounterEvents.available aClass, s.mVtoEvents.available aClass⟩

/-- The class counters are right. -/
def CountsExact (s : SlaveEventBuffer β α κ τ) : Prop :=
  s.mBinaryEvents.mCounter.Counts s.mBinaryEvents.mEventSet ∧
  s.mAnalogEvents.mCounter.Counts s.mAnalogEvents.mEventSet ∧
  s.mCounterEvents.mCounter.Counts s.mCounterEvents.mEventSet ∧
  s.mVtoEvents.mCounter.Counts s.mVtoEvents.mEventSet

/-- The sets fit in the memory; a node of a set takes more than four octets. -/
def Fits (s : SlaveEventBuffer β α κ τ) : Prop :=
  s.mBinaryEvents.mEventSet.length < 2 ^ 62 ∧ s.mAnalogEvents.mEventSet.length < 2 ^ 62 ∧
    s.mCounterEvents.mEventSet.length < 2 ^ 62 ∧ s.mVtoEvents.mEventSet.length < 2 ^ 62

instance (s : SlaveEventBuffer β α κ τ) : Decidable s.Fits := inferInstanceAs (Decidable (_ ∧ _))

/-- **To ask for an overflow changes nothing else.** -/
theorem isOverflow_same (s : SlaveEventBuffer β α κ τ) :
    s.isOverflow.2.selected = s.selected ∧ (∀ c, s.isOverflow.2.available c = s.available c) ∧
      (s.CountsExact → s.isOverflow.2.CountsExact) := by
  obtain ⟨hb, hb', hb''⟩ := s.mBinaryEvents.isOverflown_same
  obtain ⟨ha, ha', ha''⟩ := s.mAnalogEvents.isOverflown_same
  obtain ⟨hc, hc', hc''⟩ := s.mCounterEvents.isOverflown_same
  obtain ⟨hv, hv', hv''⟩ := s.mVtoEvents.isOverflown_same
  rw [isOverflow]
  dsimp only
  split
  · simp only [selected, available, CountsExact, EventBuffer.numSelected, EventBuffer.available, hb,
      hb', hb'']
    exact ⟨trivial, fun _ ↦ trivial, id⟩
  split
  · simp only [selected, available, CountsExact, EventBuffer.numSelected, EventBuffer.available, hb,
      hb', hb'', ha, ha', ha'']
    exact ⟨trivial, fun _ ↦ trivial, id⟩
  split
  · simp only [selected, available, CountsExact, EventBuffer.numSelected, EventBuffer.available, hb,
      hb', hb'', ha, ha', ha'', hc, hc', hc'']
    exact ⟨trivial, fun _ ↦ trivial, id⟩
  · simp only [selected, available, CountsExact, EventBuffer.numSelected, EventBuffer.available, hb,
      hb', hb'', ha, ha', ha'', hc, hc', hc'', hv, hv', hv'']
    exact ⟨trivial, fun _ ↦ trivial, id⟩

end SlaveEventBuffer

/-! ## A class -/

namespace ResponseContext.Events

variable {β α κ τ : Type} {s t : Events β α κ τ} {c : PointClass} {n : ℕ}

/-- The numbers that `SelectEvents` selects of the events of a class. -/
def numbers (aNum : ℕ) (there : EventCounts) : EventCounts :=
  let numBinaryEvents := min aNum there.binary
  let remain := sizeSub aNum numBinaryEvents
  let remain' := sizeSub remain numBinaryEvents
  let remain'' := sizeSub remain' numBinaryEvents
  ⟨numBinaryEvents, min remain there.analog, min remain' there.counter,
    min (min remain'' maxVtoEvents) there.vto⟩

/-- **What `SelectEvents` selects of each type.** -/
theorem selectEvents_eq_ok (h : s.selectEvents c n = .ok t) :
    t.mBuffer.selected - s.mBuffer.selected = numbers n (s.mBuffer.available c) := by
  suffices heq : t.mBuffer.selected =
      ⟨s.mBuffer.selected.binary + (numbers n (s.mBuffer.available c)).binary,
        s.mBuffer.selected.analog + (numbers n (s.mBuffer.available c)).analog,
        s.mBuffer.selected.counter + (numbers n (s.mBuffer.available c)).counter,
        s.mBuffer.selected.vto + (numbers n (s.mBuffer.available c)).vto⟩ by
    rw [heq]
    exact EventCounts.sub_of_add _ _
  obtain ⟨hsel, hav, -⟩ := s.mBuffer.isOverflow_same
  obtain ⟨⟨nb, s₁⟩, h₁, h⟩ := except_bind_eq_ok.mp h
  obtain ⟨⟨nb', b⟩, hb, h₁⟩ := except_bind_eq_ok.mp h₁
  obtain ⟨rfl, rfl⟩ := Prod.mk.inj (Except.ok.inj h₁)
  obtain ⟨⟨na, s₂⟩, h₂, h⟩ := except_bind_eq_ok.mp h
  obtain ⟨⟨na', a⟩, ha, h₂⟩ := except_bind_eq_ok.mp h₂
  obtain ⟨rfl, rfl⟩ := Prod.mk.inj (Except.ok.inj h₂)
  obtain ⟨⟨nc, s₃⟩, h₃, h⟩ := except_bind_eq_ok.mp h
  obtain ⟨⟨nc', k⟩, hc, h₃⟩ := except_bind_eq_ok.mp h₃
  obtain ⟨rfl, rfl⟩ := Prod.mk.inj (Except.ok.inj h₃)
  obtain ⟨⟨nv, s₄⟩, h₄, h⟩ := except_bind_eq_ok.mp h
  obtain ⟨⟨nv', v⟩, hv, h₄⟩ := except_bind_eq_ok.mp h₄
  obtain ⟨rfl, rfl⟩ := Prod.mk.inj (Except.ok.inj h₄)
  obtain rfl := Except.ok.inj h
  have hav := hav c
  simp only [SlaveEventBuffer.selected, SlaveEventBuffer.available, EventCounts.mk.injEq]
    at hsel hav
  obtain ⟨rfl, hb⟩ := EventBuffer.selectNum_eq_ok hb
  obtain ⟨rfl, ha⟩ := EventBuffer.selectNum_eq_ok ha
  obtain ⟨rfl, hc⟩ := EventBuffer.selectNum_eq_ok hc
  obtain ⟨rfl, hv⟩ := EventBuffer.selectNum_eq_ok hv
  simp only [checkOverflow] at hb ha hc hv
  simp only [SlaveEventBuffer.selected, SlaveEventBuffer.available, EventCounts.mk.injEq]
  simp only [hsel, hav] at hb ha hc hv
  exact ⟨hb, ha, hc, hv⟩

/-! ## Exact counts -/

section Exact

variable {o : ObjectBase} (hs : s.mBuffer.CountsExact)

include hs

theorem selectBinary_ok : ∃ r, s.selectBinary c o n = .ok r ∧ r.2.mBuffer.CountsExact := by
  obtain ⟨hb, ha, hc, hv⟩ := hs
  obtain ⟨num, b, h⟩ := EventBuffer.selectNum_ok hb c n
  exact ⟨_, by rw [selectBinary, h]; rfl, EventBuffer.selectNum_counts hb h, ha, hc, hv⟩

theorem selectAnalog_ok : ∃ r, s.selectAnalog c o n = .ok r ∧ r.2.mBuffer.CountsExact := by
  obtain ⟨hb, ha, hc, hv⟩ := hs
  obtain ⟨num, b, h⟩ := EventBuffer.selectNum_ok ha c n
  exact ⟨_, by rw [selectAnalog, h]; rfl, hb, EventBuffer.selectNum_counts ha h, hc, hv⟩

theorem selectCounter_ok : ∃ r, s.selectCounter c o n = .ok r ∧ r.2.mBuffer.CountsExact := by
  obtain ⟨hb, ha, hc, hv⟩ := hs
  obtain ⟨num, b, h⟩ := EventBuffer.selectNum_ok hc c n
  exact ⟨_, by rw [selectCounter, h]; rfl, hb, ha, EventBuffer.selectNum_counts hc h, hv⟩

theorem selectVtoEvents_ok : ∃ r, s.selectVtoEvents c o n = .ok r ∧ r.2.mBuffer.CountsExact := by
  obtain ⟨hb, ha, hc, hv⟩ := hs
  obtain ⟨num, b, h⟩ := EventBuffer.selectNum_ok hv c (min n maxVtoEvents)
  exact ⟨_, by rw [selectVtoEvents, h]; rfl, hb, ha, hc, EventBuffer.selectNum_counts hv h⟩

theorem selectEvents_ok : ∃ t, s.selectEvents c n = .ok t ∧ t.mBuffer.CountsExact := by
  have hover : s.checkOverflow.mBuffer.CountsExact := s.mBuffer.isOverflow_same.2.2 hs
  rw [selectEvents]
  obtain ⟨⟨nb, s₁⟩, h₁, hs₁⟩ := selectBinary_ok (c := c) (o := s.mpRspTypes.mpEventBinary)
    (n := n) hover
  rw [h₁, except_ok_bind]
  dsimp only
  obtain ⟨⟨na, s₂⟩, h₂, hs₂⟩ := selectAnalog_ok (c := c) (o := s₁.mpRspTypes.mpEventAnalog)
    (n := sizeSub n nb) hs₁
  rw [h₂, except_ok_bind]
  dsimp only
  obtain ⟨⟨nc, s₃⟩, h₃, hs₃⟩ := selectCounter_ok (c := c) (o := s₂.mpRspTypes.mpEventCounter)
    (n := sizeSub (sizeSub n nb) nb) hs₂
  rw [h₃, except_ok_bind]
  dsimp only
  obtain ⟨⟨nv, s₄⟩, h₄, hs₄⟩ := selectVtoEvents_ok (c := c) (o := s₃.mpRspTypes.mpEventVto)
    (n := sizeSub (sizeSub (sizeSub n nb) nb) nb) hs₃
  rw [h₄, except_ok_bind]
  exact ⟨s₄, rfl, hs₄⟩

/-- **With exact counts every header is read**, and the counts stay exact. -/
theorem configure_ok (hdr : HeaderInfo) : ∃ t, s.configure hdr = .ok t ∧ t.mBuffer.CountsExact := by
  have hfst {r : ℕ × Events β α κ τ} {x : Except Exception (ℕ × Events β α κ τ)} (hx : x = .ok r)
      (hr : r.2.mBuffer.CountsExact) :
      ∃ t, (do return (← x).2) = Except.ok (ε := Exception) t ∧ t.mBuffer.CountsExact :=
    ⟨r.2, by rw [hx]; rfl, hr⟩
  rw [configure]
  split
  · obtain ⟨r, hx, hr⟩ := selectVtoEvents_ok hs
    exact hfst hx hr
  split
  · obtain ⟨r, hx, hr⟩ := selectBinary_ok hs
    exact hfst hx hr
  split
  · obtain ⟨r, hx, hr⟩ := selectCounter_ok hs
    exact hfst hx hr
  split
  · obtain ⟨r, hx, hr⟩ := selectAnalog_ok hs
    exact hfst hx hr
  split
  · obtain ⟨r, hx, hr⟩ := selectBinary_ok hs
    exact hfst hx hr
  split
  · obtain ⟨r, hx, hr⟩ := selectBinary_ok hs
    exact hfst hx hr
  split
  · obtain ⟨r, hx, hr⟩ := selectBinary_ok hs
    exact hfst hx hr
  split
  · exact selectEvents_ok hs
  · exact ⟨s, rfl, hs⟩

theorem configureAll_ok (hdrs : List HeaderInfo) :
    ∃ t, s.configureAll hdrs = .ok t ∧ t.mBuffer.CountsExact := by
  induction hdrs generalizing s with
  | nil => exact ⟨s, rfl, hs⟩
  | cons h hdrs ih =>
    obtain ⟨u, hu, hu'⟩ := configure_ok hs h
    obtain ⟨t, ht, ht'⟩ := ih hu'
    refine ⟨t, ?_, ht'⟩
    rw [configureAll, List.foldlM_cons, hu]
    exact ht

end Exact

/-! ## A header for a class -/

/-- The header reads the events of a class. -/
def ReadsClass (h : HeaderInfo) (aClass : PointClass) : Prop :=
  h.mGroup = 60 ∧ (h.mVariation, aClass) ∈ [(2, PointClass.class1), (3, .class2), (4, .class3)]

theorem ReadsClass.configure {h : HeaderInfo} (hc : ReadsClass h c) :
    s.configure h = s.selectEvents c (getEventCount h) := by
  obtain ⟨hg, hv⟩ := hc
  simp only [List.mem_cons, Prod.mk.injEq, List.not_mem_nil, or_false] at hv
  rcases hv with ⟨hv, rfl⟩ | ⟨hv, rfl⟩ | ⟨hv, rfl⟩ <;>
    simp [Events.configure, HeaderInfo.radix, radix, hg, hv, classOf]

/-- The numbers that a header with a count selects, of those that are there. -/
structure LimitedTo (aCount : ℕ) (there num : EventCounts) : Prop where
  binary : num.binary = min aCount there.binary
  analog : num.analog = min (aCount - num.binary) there.analog
  counter : num.counter ≤ there.counter
  vto : num.vto ≤ min maxVtoEvents there.vto
  total : there.counter = 0 ∨ num.analog = num.binary →
    there.vto = 0 ∨ num.analog + num.counter = 2 * num.binary →
    num.total = min aCount
      (there.binary + there.analog + there.counter + min maxVtoEvents there.vto)

/-- Numbers that are limited by what the ones before leave have a sum that is limited. -/
theorem sum_of_limits {nb na nc b a c v : ℕ} (hb : min n b = nb) (ha : min (n - nb) a = na)
    (hc : min (n - nb - na) c = nc) :
    nb + na + nc + min (n - nb - na - nc) v = min n (b + a + c + v) := by
  omega

/-- The numbers of `SelectEvents` are limited by the count. -/
theorem limitedTo_numbers {there : EventCounts} (hn : n ≤ sizeMax) :
    LimitedTo n there (numbers n there) := by
  obtain ⟨b, a, c, v⟩ := there
  have hle : min n b ≤ n := Nat.min_le_left n b
  have hremain : sizeSub n (min n b) = n - min n b := sizeSub_of_le hle hn
  have hmax : n - min n b ≤ sizeMax := Nat.le_trans (Nat.sub_le _ _) hn
  refine ⟨rfl, ?_, Nat.min_le_right _ _, ?_, ?_⟩
  · simp only [numbers, hremain]
  · exact Nat.le_min.mpr
      ⟨Nat.le_trans (Nat.min_le_left _ _) (Nat.min_le_right _ _), Nat.min_le_right _ _⟩
  simp only [numbers, EventCounts.total, hremain]
  generalize hnb : min n b = nb at *
  generalize hna : min (n - nb) a = na at *
  have hnale : na ≤ n - nb := hna ▸ Nat.min_le_left _ _
  intro hcounter hvto
  -- what is left for the counters, unless there are none
  have hcounter' : min (sizeSub (n - nb) nb) c = min (n - nb - na) c := by
    rcases hcounter with rfl | rfl
    · rw [Nat.min_zero, Nat.min_zero]
    · rw [sizeSub_of_le hnale hmax]
  rw [hcounter'] at hvto ⊢
  generalize hnc : min (n - nb - na) c = nc at *
  rw [← sum_of_limits hnb hna hnc]
  rcases hvto with rfl | hvto
  · rw [Nat.min_zero, Nat.min_zero, Nat.min_zero]
  · have hncle : nc ≤ n - nb - na := hnc ▸ Nat.min_le_left _ _
    clear hcounter hcounter'
    have h₁ : nb ≤ n - nb := by omega
    have h₂ : nb ≤ n - nb - nb := by omega
    rw [sizeSub_of_le h₁ hmax, sizeSub_of_le h₂ (Nat.le_trans (Nat.sub_le _ _) hmax), Nat.min_assoc,
      show n - nb - nb - nb = n - nb - na - nc by omega]

/-- With no limit all events are selected, of the virtual terminals seven at most. -/
theorem numbers_sizeMax {there : EventCounts} (hb : there.binary < 2 ^ 62)
    (ha : there.analog < 2 ^ 62) (hc : there.counter < 2 ^ 62) :
    numbers sizeMax there = { there with vto := min maxVtoEvents there.vto } := by
  have hmax := sizeMax_eq
  have hsub {x : ℕ} (hx : 2 ^ 62 ≤ x) (hx' : x ≤ sizeMax) :
      sizeSub x there.binary = x - there.binary :=
    sizeSub_of_le (Nat.le_trans (Nat.le_of_lt hb) hx) hx'
  have hbinary : min sizeMax there.binary = there.binary := by omega
  have hseven : maxVtoEvents = 7 := rfl
  simp only [numbers, hbinary]
  generalize sizeMax = m at *
  have h₁ : sizeSub m there.binary = m - there.binary := hsub (by omega) (Nat.le_refl _)
  have h₂ : sizeSub (m - there.binary) there.binary = m - there.binary - there.binary :=
    hsub (by omega) (Nat.sub_le _ _)
  have h₃ : sizeSub (m - there.binary - there.binary) there.binary =
      m - there.binary - there.binary - there.binary := hsub (by omega) (by omega)
  rw [h₁, h₂, h₃, EventCounts.mk.injEq]
  refine ⟨rfl, ?_, ?_, ?_⟩ <;> omega

/-- **A header for a class selects up to its count.**  Of the virtual terminals it selects seven
events at most.  The binary and the analog events are as many as the count allows, and so are all
together where the number of binary events is the right one to subtract for the counters and the
virtual terminals.  With no count all events of the class are selected. -/
theorem class_read {data : List Byte} {apdu : APDU} (hread : APDU.interpret data = .ok apdu)
    (s : Events β α κ τ) :
    (s.mBuffer.CountsExact → ∃ t, s.configureAll apdu.mObjectHeaders = .ok t) ∧
    ∀ pre h post u v aClass, apdu.mObjectHeaders = pre ++ h :: post → s.configureAll pre = .ok u →
      u.configure h = .ok v → ReadsClass h aClass →
      let there := u.mBuffer.available aClass
      let num := v.mBuffer.selected - u.mBuffer.selected
      (h.mQualifier ∈ [.cnt1B, .cnt2B] → LimitedTo h.mCount there num) ∧
      (h.mQualifier ∉ [.cnt1B, .cnt2B, .cnt4B] → u.mBuffer.Fits →
        num = { there with vto := min maxVtoEvents there.vto }) := by
  refine ⟨fun hs ↦ (configureAll_ok hs _).imp fun _ h ↦ h.1, ?_⟩
  intro pre h post u v aClass hhdrs _ hv hclass
  rw [hclass.configure] at hv
  have hcut := (APDU.interpret_eq_ok.mp hread).2.objects
  obtain ⟨⟨p, hat⟩, -⟩ := hcut.size_eq hcut h (hhdrs ▸ List.mem_append_right pre List.mem_cons_self)
  rw [selectEvents_eq_ok hv]
  constructor
  · intro hq
    have hn : getEventCount h = h.mCount := by
      rcases List.mem_pair.mp hq with hq | hq <;> rw [getEventCount, hq]
    rw [← hn]
    exact limitedTo_numbers hat.getEventCount_le
  · rintro hq ⟨hb, ha, hc, -⟩
    have hn : getEventCount h = sizeMax := by
      rw [getEventCount]
      split <;> simp_all
    rw [hn]
    exact numbers_sizeMax (Nat.lt_of_le_of_lt (List.length_filter_le _ _) hb)
      (Nat.lt_of_le_of_lt (List.length_filter_le _ _) ha)
      (Nat.lt_of_le_of_lt (List.length_filter_le _ _) hc)

/-- A context with events of class 1 in each of its buffers. -/
def ofClass1 (binary analog counter vto : ℕ) : Events ℕ ℕ ℕ ℕ :=
  let events (n : ℕ) : EventBuffer ℕ :=
    { EventBuffer.new 100 with
      mCounter := { mNumClass1 := n }
      mEventSet := (List.range n).map fun i ↦ ⟨i, .class1, i, i, false⟩ }
  { mBuffer := ⟨events binary, events analog, events counter, events vto⟩
    mpRspTypes := ⟨⟨2, 2, .fixed 7⟩, ⟨32, 1, .fixed 5⟩, ⟨22, 1, .fixed 5⟩,
      ⟨113, 0, .sizeByVariation⟩⟩
    mTempIIN := {}
    mBinaryEvents := []
    mAnalogEvents := []
    mCounterEvents := []
    mVtoEvents := [] }

theorem countsExact_ofClass1 (binary analog counter vto : ℕ) :
    (ofClass1 binary analog counter vto).mBuffer.CountsExact := by
  have hcounts (n : ℕ) : ClassCounter.Counts { mNumClass1 := n }
      ((List.range n).map fun i ↦ (⟨i, .class1, i, i, false⟩ : EventInfo ℕ)) := by
    have hother : PointClass.class1 ≠ .class2 ∧ PointClass.class1 ≠ .class3 := by decide
    rintro c (rfl | rfl | rfl) <;>
      simp [ClassCounter.getNum, List.countP_map, Function.comp_def, hother, hother.1.symm,
        hother.2.symm]
  exact ⟨hcounts binary, hcounts analog, hcounts counter, hcounts vto⟩

/-- A header for up to three events of class 1. -/
def threeOfClass1 : HeaderInfo := ⟨2, 60, 2, .cnt1B, 3, 0, .count1Octet, ⟨60, 2, .placeholder⟩⟩

/-- A header for the events of class 1. -/
def allOfClass1 : HeaderInfo := ⟨6, 60, 2, .allObj, 0, 0, .allObjects, ⟨60, 2, .placeholder⟩⟩

/-- A read of up to three events of class 1, and of all that remain. -/
theorem class_read_three : ∃ apdu u v,
    APDU.interpret [0xC0, 0x01, 60, 2, 0x07, 3, 60, 2, 0x06] = .ok apdu ∧
    apdu.mObjectHeaders = [threeOfClass1, allOfClass1] ∧
    (ofClass1 1 1 1 1).configure threeOfClass1 = .ok u ∧ u.configure allOfClass1 = .ok v ∧
    LimitedTo 3 ⟨1, 1, 1, 1⟩ (u.mBuffer.selected - (ofClass1 1 1 1 1).mBuffer.selected) ∧
    v.mBuffer.selected - u.mBuffer.selected = ⟨0, 0, 0, 1⟩ := by
  obtain ⟨apdu, hread⟩ :
      ∃ apdu, APDU.interpret [0xC0, 0x01, 60, 2, 0x07, 3, 60, 2, 0x06] = .ok apdu := ⟨_, rfl⟩
  have hclass := (class_read hread (ofClass1 1 1 1 1)).2
  cases hread
  obtain ⟨u, hu, hexact⟩ := configure_ok (countsExact_ofClass1 1 1 1 1) threeOfClass1
  obtain ⟨v, hv, -⟩ := configure_ok hexact allOfClass1
  have heval : ((ofClass1 1 1 1 1).configure threeOfClass1).toOption.all fun u ↦
      u.mBuffer.available .class1 = ⟨0, 0, 0, 1⟩ ∧ u.mBuffer.Fits := by decide +kernel
  rw [hu] at heval
  have hthere := of_decide_eq_true heval
  have hpre : (ofClass1 1 1 1 1).configureAll [threeOfClass1] = .ok u := by
    rw [configureAll, List.foldlM_cons, hu]
    rfl
  have hu' := hclass [] threeOfClass1 [allOfClass1] _ u .class1 rfl rfl hu ⟨rfl, by decide⟩
  have hv' := hclass [threeOfClass1] allOfClass1 [] u v .class1 rfl hpre hv ⟨rfl, by decide⟩
  refine ⟨_, u, v, rfl, rfl, hu, hv, hu'.1 (by decide), ?_⟩
  rw [hv'.2 (by decide) hthere.2, hthere.1]
  rfl

/-- **Of eight events of virtual terminals a read of eight selects seven.** -/
theorem class_read_vto : ∃ apdu h u, APDU.interpret [0xC0, 0x01, 60, 2, 0x07, 8] = .ok apdu ∧
    apdu.mObjectHeaders = [h] ∧ ReadsClass h .class1 ∧ h.mQualifier = .cnt1B ∧ h.mCount = 8 ∧
    (ofClass1 0 0 0 8).mBuffer.CountsExact ∧ (ofClass1 0 0 0 8).configure h = .ok u ∧
    ((ofClass1 0 0 0 8).mBuffer.available .class1).total = 8 ∧
    (u.mBuffer.selected - (ofClass1 0 0 0 8).mBuffer.selected).total = 7 := by
  refine ⟨_, _, _, rfl, rfl, ⟨rfl, by decide⟩, rfl, rfl, countsExact_ofClass1 0 0 0 8, rfl,
    by decide +kernel, by decide +kernel⟩

end ResponseContext.Events

end OpenDNP3
