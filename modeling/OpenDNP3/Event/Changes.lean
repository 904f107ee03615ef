import Mathlib.Algebra.Order.Field.Rat
import Mathlib.Algebra.Order.Ring.Cast
import OpenDNP3.Codec.Objects
import OpenDNP3.Event.Buffer
import OpenDNP3.Response.Static

/-!
# Which updates become events

An update of a point always sets its value.  It becomes an event as well where the point has a class
of events and the update differs from what was reported last, in the quality or by more than the
deadband of the point.  `Database` does not keep what was reported last: it keeps the value of the
last event, and compares the quality with that of the last update.

* `ChangeRule` — how the points of a type notice a change, with `ChangeRule.ofBool` and
  `ChangeRule.ofTyped`.
* `ChangeRule.updates` — a run of updates, with the calls of the event buffer.
* `ChangeRule.reports` — what the calls should be: a report of every update that differs from the
  one reported last.
* `ChangeRule.updates_report` — they are, and every point is near to what was reported of it last.
-/

set_option autoImplicit false

namespace OpenDNP3

/-! ## Deadbands

A deadband is a `double`, and so is the value of an analog.  What a comparison makes of infinities
and of what is not a number matters here, as an application may pass them on; how a difference is
rounded is left open. -/

/-- `double`, where a finite value is a rational number; the two zeros compare as one. -/
inductive Double where
  | finite (q : ℚ)
  | infinite (negative : Bool)
  | nan
  deriving DecidableEq, Repr

namespace Double

/-- `<`, which is false of what is not a number. -/
def less : Double → Double → Bool
  | .nan, _ | _, .nan => false
  | .finite a, .finite b => a < b
  | .finite _, .infinite negative => !negative
  | .infinite negative, .finite _ => negative
  | .infinite m, .infinite n => m && !n

/-- `fabs` -/
def fabs : Double → Double
  | .finite q => .finite |q|
  | .infinite _ => .infinite false
  | .nan => .nan

end Double

/-- `ExceedsDeadband`; the difference is a `boost::uint32_t`. -/
def exceedsDeadband (val1 val2 : ℤ) (aDeadband : Double) : Bool :=
  let diff : ℤ := (if val1 < val2 then val2 - val1 else val1 - val2) % 2 ^ 32
  aDeadband.less (.finite diff)

/-- `ExceedsDeadband<double>`, where `sub` is the subtraction of the machine. -/
def exceedsDeadbandDouble (sub : Double → Double → Double) (val1 val2 aDeadband : Double) : Bool :=
  let val := (sub val1 val2).fabs
  if val = .infinite false then true else aDeadband.less val.fabs

/-- Two counters are apart by more than the deadband. -/
theorem exceedsDeadband_eq {a b : ℤ} (ha : 0 ≤ a ∧ a < 2 ^ 32) (hb : 0 ≤ b ∧ b < 2 ^ 32) (d : ℚ) :
    exceedsDeadband a b (.finite d) = decide (d < |(a : ℚ) - b|) := by
  have hdiff : (if a < b then b - a else a - b) % 2 ^ 32 = |a - b| := by
    split
    · rw [abs_of_neg (by omega)]
      omega
    · rw [abs_of_nonneg (by omega)]
      omega
  rw [exceedsDeadband, hdiff, Int.cast_abs, Int.cast_sub, Double.less]

/-! ## What a change is -/

/-- **How the points of a type notice a change.**  `keeps` says of a point with its value and its
`mLastEventValue` which measurement was reported last, as far as that is kept. -/
structure ChangeRule (α V : Type) where
  /-- A new measurement, of which the quality may have been set to `ONLINE`. -/
  start : Bool → α
  /-- A new `mLastEventValue`. -/
  startLast : V
  /-- `ShouldGenerateEvent` -/
  shouldGenerateEvent : α → α → Double → V → Bool
  /-- `mLastEventValue` after an event. -/
  setLast : V → α → V
  keeps : α → V → α → Prop
  /-- The second measurement differs from the first. -/
  differs : Double → α → α → Bool
  keeps_start : ∀ b, keeps (start b) startLast (start b)
  keeps_setLast : ∀ l v, keeps v (setLast l v) v
  keeps_of_not_differs : ∀ {p l x v d}, keeps p l x → differs d x v = false → keeps v l x
  shouldGenerateEvent_eq : ∀ {p l x} (v d), keeps p l x →
    shouldGenerateEvent p v d l = differs d x v

namespace ChangeRule

/-- `BoolDataPoint`: the state is a bit of the quality, and there is neither a deadband nor a last
value. -/
def ofBool : ChangeRule Objects.BoolDataPoint Unit where
  start aStartOnline := if aStartOnline then Objects.BoolDataPoint.new.setQuality 0x01
    else Objects.BoolDataPoint.new
  startLast := ()
  shouldGenerateEvent v arRHS _ _ := v.mQuality != arRHS.mQuality
  setLast l _ := l
  keeps p _ x := p.mQuality = x.mQuality
  differs _ x v := x.mQuality != v.mQuality
  keeps_start _ := rfl
  keeps_setLast _ _ := rfl
  keeps_of_not_differs {_ _ x v _} _ hd := by
    have hquality : x.mQuality = v.mQuality := by simpa using hd
    exact hquality.symm
  shouldGenerateEvent_eq v d h := by rw [h]

/-- `TypedDataPoint`, with its zero and its `ExceedsDeadband`. -/
def ofTyped (T : Type) (zero : T) (exceeds : T → T → Double → Bool) :
    ChangeRule (Objects.TypedDataPoint T) T where
  start aStartOnline := ⟨if aStartOnline then 0x01 else 0x02, 0, zero⟩
  startLast := zero
  shouldGenerateEvent v arRHS aDeadband aLastReportedVal :=
    if v.mQuality ≠ arRHS.mQuality then true
    else exceeds arRHS.mValue aLastReportedVal aDeadband
  setLast _ v := v.mValue
  keeps p l x := p.mQuality = x.mQuality ∧ l = x.mValue
  differs d x v := x.mQuality != v.mQuality || exceeds v.mValue x.mValue d
  keeps_start _ := ⟨rfl, rfl⟩
  keeps_setLast _ _ := ⟨rfl, rfl⟩
  keeps_of_not_differs {_ _ x v _} h hd := by
    rw [Bool.or_eq_false_iff] at hd
    have hquality : x.mQuality = v.mQuality := by simpa using hd.1
    exact ⟨hquality.symm, h.2⟩
  shouldGenerateEvent_eq v d h := by
    rw [h.1, h.2]
    split <;> simp_all

/-- `Binary` -/
def binary : ChangeRule Objects.BoolDataPoint Unit := ofBool
/-- `Counter` -/
def counter : ChangeRule Objects.Counter ℤ := ofTyped ℤ 0 exceedsDeadband
/-- `Analog` -/
def analog (sub : Double → Double → Double) : ChangeRule (Objects.TypedDataPoint Double) Double :=
  ofTyped Double (.finite 0) (exceedsDeadbandDouble sub)

/-- Two counters do not differ if they have one quality and are not apart by more than the
deadband. -/
theorem counter_differs_eq_false {d : ℚ} {x v : Objects.Counter}
    (hx : 0 ≤ x.mValue ∧ x.mValue < 2 ^ 32) (hv : 0 ≤ v.mValue ∧ v.mValue < 2 ^ 32) :
    counter.differs (.finite d) x v = false ↔
      x.mQuality = v.mQuality ∧ |(v.mValue : ℚ) - x.mValue| ≤ d := by
  simp [counter, ofTyped, exceedsDeadband_eq hv hx]

end ChangeRule

/-! ## Updates

The points of one type with what they were last reported as, and the calls that their updates
make of the event buffer. -/

/-- The members of `PointInfo` that an update looks at. -/
structure EventPoint (α V : Type) extends PointInfo α where
  mClass : PointClass
  mDeadband : Double
  mLastEventValue : V

namespace ChangeRule

variable {α V : Type} (r : ChangeRule α V)

/-- `Configure`, of one type: each point gets its class and its deadband. -/
def configure (aStartOnline : Bool) (infos : List (PointClass × Double)) : List (EventPoint α V) :=
  infos.mapIdx fun i info ↦ ⟨⟨i, r.start aStartOnline⟩, info.1, info.2, r.startLast⟩

/-- `UpdateValue`; there is no point behind the last one. -/
def updateValue (arVec : List (EventPoint α V)) (arValue : α) (aIndex : ℕ) :
    Option (Bool × List (EventPoint α V)) :=
  arVec[aIndex]?.map fun p ↦
    let arVec := arVec.set aIndex { p with mValue := arValue }
    if r.shouldGenerateEvent p.mValue arValue p.mDeadband p.mLastEventValue then
      (p.mClass &&& PointClass.allEvents != 0, arVec)
    else (false, arVec)

/-- `_Update`, with the call of the event buffer. -/
def update (vec : List (EventPoint α V)) (arPoint : α) (aIndex : ℕ) :
    Option (List (EventPoint α V) × List (BufferOp α)) := do
  let (event, vec) ← r.updateValue vec arPoint aIndex
  if event then
    let vec := vec.modify aIndex
      fun p ↦ { p with mLastEventValue := r.setLast p.mLastEventValue p.mValue }
    let v ← vec[aIndex]?
    return (vec, [.update v.mValue v.mClass aIndex])
  else return (vec, [])

/-- **A run of updates**, with all calls of the event buffer. -/
def updates : List (α × ℕ) → List (EventPoint α V) →
    Option (List (EventPoint α V) × List (BufferOp α))
  | [], vec => some (vec, [])
  | u :: us, vec => do
    let (vec, calls) ← r.update vec u.1 u.2
    let (vec, more) ← updates us vec
    return (vec, calls ++ more)

end ChangeRule

namespace Database

variable {M : DataTypes → Type} {α : Type}

/-- An update sets the value of a point. -/
def setValue (points : List (PointInfo α)) (arValue : α) (aIndex : ℕ) : List (PointInfo α) :=
  points.modify aIndex fun p ↦ { p with mValue := arValue }

theorem vec_updateValue {aType : DataTypes} (db : Database M) (v : M aType) (i : ℕ) :
    (db.updateValue aType v i).vec aType = setValue (db.vec aType) v i :=
  Function.update_self _ _ _

/-- The points after some updates. -/
theorem vec_updateValue_foldl {aType : DataTypes} (us : List (M aType × ℕ)) (db : Database M) :
    (us.foldl (fun db u ↦ db.updateValue aType u.1 u.2) db).vec aType =
      us.foldl (fun points u ↦ setValue points u.1 u.2) (db.vec aType) := by
  induction us generalizing db with
  | nil => rfl
  | cons u us ih =>
    rw [List.foldl_cons, List.foldl_cons, ih, vec_updateValue]

end Database

/-! ## What should be reported

The specification: an update is reported if it is a change from what was reported last. It looks
at the values and at the rule of the type, and not at the flags of the source. -/

namespace ChangeRule

variable {α V : Type} (r : ChangeRule α V)

/-- The class and the deadband of a point. -/
def infoAt (infos : List (PointClass × Double)) (i : ℕ) : PointClass × Double :=
    infos.getD i (0, .finite 0)

/-- An update of a point that was last reported as `x` is an event. -/
def isEvent (info : PointClass × Double) (x v : α) : Bool := info.1 &&& PointClass.allEvents != 0 &&
    r.differs info.2 x v

/-- **The updates that should be reported**, where the points were last reported as `x` says. -/
def reports (infos : List (PointClass × Double)) : (ℕ → α) → List (α × ℕ) → List (α × ℕ)
  | _, [] => []
  | x, (v, i) :: us =>
    if r.isEvent (infoAt infos i) (x i) v then (v, i) :: reports infos (Function.update x i v) us
    else reports infos x us

/-- What the points were last reported as, after some reports. -/
def picture (x : ℕ → α) (events : List (α × ℕ)) : ℕ → α :=
  events.foldl (fun x e ↦ Function.update x e.2 e.1) x

/-- The call of the event buffer for a report. -/
def call (infos : List (PointClass × Double)) (e : α × ℕ) : BufferOp α :=
    .update e.1 (infoAt infos e.2).1 e.2

/-- **What is between a point and the report of it**: the point is as configured, and where it has a
class of events, the report is kept and is near to the value. -/
structure Pictured (info : PointClass × Double) (p : EventPoint α V) (x : α) : Prop where
  mClass : p.mClass = info.1
  mDeadband : p.mDeadband = info.2
  keeps : info.1 &&& PointClass.allEvents ≠ 0 → r.keeps p.mValue p.mLastEventValue x
  near : info.1 &&& PointClass.allEvents ≠ 0 → p.mValue = x ∨ r.differs info.2 x p.mValue = false

variable {r} {infos : List (PointClass × Double)} {info : PointClass × Double}
variable {vec : List (EventPoint α V)} {x : ℕ → α}

theorem pictured_configure (aStartOnline : Bool) {i : ℕ} {p : EventPoint α V}
    (h : (r.configure aStartOnline infos)[i]? = some p) : r.Pictured (infoAt infos i) p
    (r.start aStartOnline) := by
  rw [configure, List.getElem?_mapIdx] at h
  obtain ⟨info, hinfo, rfl⟩ := Option.map_eq_some_iff.mp h
  have heq : infoAt infos i = info := by
    rw [infoAt, List.getD_eq_getElem?_getD, hinfo, Option.getD_some]
  rw [heq]
  exact ⟨rfl, rfl, fun _ ↦ r.keeps_start aStartOnline, fun _ ↦ .inl rfl⟩

/-- `UpdateValue` finds out whether the update is an event. -/
theorem Pictured.event_eq {p : EventPoint α V} {y : α} (h : r.Pictured info p y) (v : α) :
    (if r.shouldGenerateEvent p.mValue v p.mDeadband p.mLastEventValue
      then p.mClass &&& PointClass.allEvents != 0
      else false) = r.isEvent info y v := by
  rw [isEvent, h.mClass, h.mDeadband]
  by_cases hclass : info.1 &&& PointClass.allEvents = 0
  · simp [hclass]
  · rw [r.shouldGenerateEvent_eq v info.2 (h.keeps hclass)]
    cases r.differs info.2 y v <;> simp

/-- An update that is an event is the new report. -/
theorem Pictured.event {p : EventPoint α V} {y : α} (h : r.Pictured info p y) (v : α) :
    r.Pictured info { p with mValue := v, mLastEventValue := r.setLast p.mLastEventValue v } v :=
  ⟨h.mClass, h.mDeadband, fun _ ↦ r.keeps_setLast _ v, fun _ ↦ .inl rfl⟩

/-- An update that is no event leaves the report near. -/
theorem Pictured.quiet {p : EventPoint α V} {y v : α} (h : r.Pictured info p y)
    (hquiet : r.isEvent info y v = false) :
    r.Pictured info { p with mValue := v } y := by
  have hdiffers (hclass : info.1 &&& PointClass.allEvents ≠ 0) : r.differs info.2 y v = false := by
    rw [isEvent, Bool.and_eq_false_iff] at hquiet
    exact hquiet.resolve_left (by simpa using hclass)
  exact ⟨h.mClass, h.mDeadband, fun hclass ↦ r.keeps_of_not_differs (h.keeps hclass)
    (hdiffers hclass), fun hclass ↦ .inr (hdiffers hclass)⟩

/-- One point changes, and its report; the others are as before. -/
theorem pictured_set {i : ℕ} {q : EventPoint α V} {y : α} (hq : r.Pictured (infoAt infos i) q y)
    (h : ∀ j p, vec[j]? = some p → r.Pictured (infoAt infos j) p (x j)) :
    ∀ j p, (vec.set i q)[j]? = some p →
      r.Pictured (infoAt infos j) p (Function.update x i y j) := by
  intro j p hp
  by_cases hj : j = i
  · subst hj
    obtain rfl : q = p := by
      rw [List.getElem?_set_self'] at hp
      obtain ⟨_, -, heq⟩ := Option.map_eq_some_iff.mp hp
      exact heq
    rwa [Function.update_self]
  · rw [List.getElem?_set_ne (Ne.symm hj)] at hp
    rw [Function.update_of_ne hj]
    exact h j p hp

/-- **One update**: it is reported if it should be, and what is known of the points is kept. -/
theorem update_spec {i : ℕ} (hi : i < vec.length) (v : α)
    (h : ∀ j p, vec[j]? = some p → r.Pictured (infoAt infos j) p (x j)) :
    ∃ p q : EventPoint α V, vec[i]? = some p ∧ q.toPointInfo = { p.toPointInfo with mValue := v } ∧
      r.update vec v i =
        some (vec.set i q, if r.isEvent (infoAt infos i) (x i) v then [call infos (v, i)] else []) ∧
      r.Pictured (infoAt infos i) q (if r.isEvent (infoAt infos i) (x i) v then v else x i) := by
  obtain ⟨p, hp⟩ : ∃ p, vec[i]? = some p := ⟨_, List.getElem?_eq_getElem hi⟩
  have hpic := h i p hp
  have hvalue : r.updateValue vec v i =
      some (r.isEvent (infoAt infos i) (x i) v, vec.set i { p with mValue := v }) := by
    rw [updateValue, hp, Option.map_some, ← hpic.event_eq v]
    split <;> rfl
  by_cases hevent : r.isEvent (infoAt infos i) (x i) v = true
  · refine ⟨p, { p with mValue := v, mLastEventValue := r.setLast p.mLastEventValue v }, hp,
      rfl, ?_, ?_⟩
    · have hclass := hpic.mClass
      simp [update, hvalue, hevent, List.modify_eq_set_getElem?, hi, call, hclass]
    · rw [if_pos hevent]
      exact hpic.event v
  · rw [Bool.not_eq_true] at hevent
    refine ⟨p, { p with mValue := v }, hp, rfl, ?_, ?_⟩
    · simp [update, hvalue, hevent]
    · simpa [hevent] using hpic.quiet hevent

/-- The points of a type that has been configured are those of the database. -/
theorem map_configure {M : DataTypes → Type} {aType : DataTypes} (r : ChangeRule (M aType) V)
    (aStartOnline : Bool) : (r.configure aStartOnline infos).map EventPoint.toPointInfo =
      (Database.new.configure aType infos.length (r.start aStartOnline) : Database M).vec
        aType := by
  refine List.ext_getElem? fun i ↦ ?_
  by_cases hi : i < infos.length
  · simp [configure, Database.configure, Database.setVec, Database.assignIndices, Database.resize,
      Database.new, hi]
  · simp [configure, Database.configure, Database.setVec, Database.assignIndices, Database.resize,
      Database.new, hi]

/-- **A run of updates.**  By induction on the updates, with what is known of the points and what
they were reported as. -/
theorem updates_spec (us : List (α × ℕ)) (hus : ∀ u ∈ us, u.2 < vec.length)
    (h : ∀ j p, vec[j]? = some p → r.Pictured (infoAt infos j) p (x j)) :
    ∃ vec', r.updates us vec = some (vec', (r.reports infos x us).map (call infos)) ∧
      vec'.map EventPoint.toPointInfo =
        us.foldl (fun points u ↦ Database.setValue points u.1 u.2)
          (vec.map EventPoint.toPointInfo) ∧
      ∀ j p, vec'[j]? = some p →
        r.Pictured (infoAt infos j) p (picture x (r.reports infos x us) j) := by
  induction us generalizing vec x with
  | nil => exact ⟨vec, rfl, rfl, h⟩
  | cons u us ih =>
    obtain ⟨v, i⟩ := u
    rw [List.forall_mem_cons] at hus
    obtain ⟨p, q, hp, hvalue, hupdate, hq⟩ := update_spec hus.1 v h
    have hset := pictured_set hq h
    have hlen : ∀ u ∈ us, u.2 < (vec.set i q).length := by simpa using hus.2
    have hvalues : (vec.set i q).map EventPoint.toPointInfo =
        Database.setValue (vec.map EventPoint.toPointInfo) v i := by
      simp [Database.setValue, List.map_set, hvalue, List.modify_eq_set_getElem?, hp]
    by_cases hevent : r.isEvent (infoAt infos i) (x i) v = true
    · rw [if_pos hevent] at hset hupdate
      obtain ⟨vec', hrun, hlast, hpic⟩ := ih hlen hset
      refine ⟨vec', ?_, by rw [hlast, hvalues, List.foldl_cons], ?_⟩
      · simp [updates, hupdate, hrun, reports, hevent]
      · rw [reports, if_pos hevent]
        exact hpic
    · rw [if_neg hevent, Function.update_eq_self] at hset
      rw [if_neg hevent] at hupdate
      obtain ⟨vec', hrun, hlast, hpic⟩ := ih hlen hset
      refine ⟨vec', ?_, by rw [hlast, hvalues, List.foldl_cons], ?_⟩
      · simp [updates, hupdate, hrun, reports, hevent]
      · rw [reports, if_neg hevent]
        exact hpic

/-- **The master can know every point to within its deadband.**  Whatever is updated, and however
often, the event buffer is called once for every update that differs from what was reported of its
point last, and for no other.  The points are those of the database that reads look at, and where a
point has a class of events, what was reported of it last is its value or does not differ from
it. -/
theorem updates_report {M : DataTypes → Type} {aType : DataTypes} (r : ChangeRule (M aType) V)
    (aStartOnline : Bool)
    (infos : List (PointClass × Double)) (us : List (M aType × ℕ))
    (hus : ∀ u ∈ us, u.2 < infos.length) :
    ∃ vec, r.updates us (r.configure aStartOnline infos) =
        some (vec, (r.reports infos (fun _ ↦ r.start aStartOnline) us).map (call infos)) ∧
      vec.map EventPoint.toPointInfo =
        (us.foldl (fun db u ↦ db.updateValue aType u.1 u.2)
          (Database.new.configure aType infos.length (r.start aStartOnline) : Database M)).vec
            aType ∧
      ∀ i p, vec[i]? = some p → p.mClass &&& PointClass.allEvents ≠ 0 →
        p.mValue = picture (fun _ ↦ r.start aStartOnline)
          (r.reports infos (fun _ ↦ r.start aStartOnline) us) i ∨
          r.differs p.mDeadband (picture (fun _ ↦ r.start aStartOnline)
            (r.reports infos (fun _ ↦ r.start aStartOnline) us) i) p.mValue = false := by
  have hlen : (r.configure aStartOnline infos).length = infos.length := List.length_mapIdx
  obtain ⟨vec, hrun, hvalues, hpic⟩ := updates_spec us (by rwa [hlen]) fun _ _ ↦
    pictured_configure aStartOnline
  refine ⟨vec, hrun,
    by rw [hvalues, Database.vec_updateValue_foldl, map_configure], fun i p hp hclass ↦ ?_⟩
  have h := hpic i p hp
  rw [h.mClass] at hclass
  rw [h.mDeadband]
  exact h.near hclass

/-- A counter with a deadband of 2 counts to 3. -/
theorem updates_report_counter :
    counter.reports [(PointClass.class1, .finite 2)] (fun _ ↦ counter.start false)
        [(⟨0x02, 0, 2⟩, 0), (⟨0x02, 0, 3⟩, 0)] = [(⟨0x02, 0, 3⟩, 0)] ∧
    ∃ vec,
      counter.updates [(⟨0x02, 0, 2⟩, 0), (⟨0x02, 0, 3⟩, 0)]
        (counter.configure false [(PointClass.class1, .finite 2)]) =
        some (vec, [.update ⟨0x02, 0, 3⟩ PointClass.class1 0]) := by
  have hreports : counter.reports [(PointClass.class1, .finite 2)] (fun _ ↦ counter.start false)
      [(⟨0x02, 0, 2⟩, 0), (⟨0x02, 0, 3⟩, 0)] = [(⟨0x02, 0, 3⟩, 0)] := rfl
  obtain ⟨vec, hrun, -, -⟩ := @updates_report ℤ (fun _ ↦ Objects.Counter) .counter counter false
    [(PointClass.class1, .finite 2)] [(⟨0x02, 0, 2⟩, 0), (⟨0x02, 0, 3⟩, 0)] (by decide)
  exact ⟨hreports, vec, hrun⟩

end ChangeRule
end OpenDNP3
