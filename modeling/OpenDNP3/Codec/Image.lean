import Mathlib.Data.Rat.Floor
import OpenDNP3.Codec.RoundTrip

/-!
# What is left of a measurement

Not every measurement fits the class that it is written with.  A value beyond the range of its field
is replaced by the end of the range, a fraction is cut off, and what there is no field for is lost.
Here is what is read for *any* measurement, fitting or not.

* `TypedDataPoint.image` — what is left of a measurement.
* `Carries` — the class takes every measurement to that, and takes no more octets than it says.
* `carries_of_fields` — a class that sets and reads its fields does; `carries_counters`,
  `carries_analogs` — all classes with a value do.
-/

set_option autoImplicit false

namespace OpenDNP3.Objects

open Pack

/-! ## Values

What is carried of a value is a function of the value and of the field that it is written to. A
value that does not fit the field is changed. -/

/-- The conversion to an integer does not go beyond bounds that the value is within. -/
class BoundedValueType (T : Type) [ValueType T] : Prop extends LawfulValueType T where
  le_convert : ∀ (v : T) (m : ℤ), ValueType.below v m = false → m ≤ ValueType.convert v
  convert_le : ∀ (v : T) (m : ℤ), ValueType.above v m = false → ValueType.convert v ≤ m

instance : BoundedValueType ℤ where
  le_convert _ _ h := Int.not_lt.mp (of_decide_eq_false h)
  convert_le _ _ h := Int.not_lt.mp (of_decide_eq_false h)

/-- Cutting off the fraction rounds down where a number is not negative, and up where it is not
positive. -/
theorem tdiv_eq (v : ℚ) : v.num.tdiv v.den = if 0 ≤ v then ⌊v⌋ else ⌈v⌉ := by
  have hfloor (q : ℚ) (hq : 0 ≤ q) : q.num.tdiv q.den = ⌊q⌋ := by
    rw [Int.tdiv_eq_ediv_of_nonneg (Rat.num_nonneg.mpr hq), Rat.floor_def']
  split
  · next h => exact hfloor v h
  · next h =>
    have hneg := hfloor (-v) (by linarith)
    rw [Rat.neg_num, Rat.neg_den, Int.neg_tdiv, Int.floor_neg] at hneg
    omega

instance : BoundedValueType ℚ where
  le_convert v m h := by
    have hle : (m : ℚ) ≤ v := not_lt.mp (of_decide_eq_false h)
    show m ≤ v.num.tdiv v.den
    rw [tdiv_eq]
    split
    · exact Int.le_floor.mpr hle
    · exact Int.le_of_lt_add_one
        (by exact_mod_cast lt_of_le_of_lt hle (lt_of_le_of_lt (Int.le_ceil v) (lt_add_one _)))
  convert_le v m h := by
    have hle : v ≤ (m : ℚ) := not_lt.mp (of_decide_eq_false h)
    show v.num.tdiv v.den ≤ m
    rw [tdiv_eq]
    split
    · exact_mod_cast le_trans (Int.floor_le v) hle
    · exact Int.ceil_le.mpr hle

variable {T : Type} [ValueType T]

/-- What is left of a value. -/
def carriedValue (apObj : Fields) (v : T) : T :=
    ValueType.ofPacked (ValueType.convert (checkRange apObj v).1)

/-- What is left of a measurement with a value. -/
def TypedDataPoint.image (apObj : Fields) (v : TypedDataPoint T) : TypedDataPoint T where
  mQuality :=
    if apObj.mFlag.isSome then
      if (checkRange apObj v.mValue).2 then v.mQuality ||| apObj.overRangeMask else v.mQuality
    else (TypedDataPoint.new T).mQuality
  mTime := if apObj.mTime.isSome then v.mTime else 0
  mValue := carriedValue apObj v.mValue

/-- The class takes every measurement to what is left of it, and fills the octets that it is
given. -/
def Carries (o : StreamObject (TypedDataPoint T)) : Prop :=
  ∀ (p : List Byte) (v : TypedDataPoint T), o.getSize ≤ p.length → HoldsTime o.fields v.mTime →
    o.read (o.write p v) = v.image o.fields ∧ (o.write p v).length = p.length

/-- Of a measurement that fits, nothing but the time is lost. -/
theorem TypedDataPoint.image_of_holds [LawfulValueType T] {apObj : Fields} {v : TypedDataPoint T}
    {f : Pack}
    (hvalue : apObj.mValue = some f) (hv : HoldsValue apObj v.mValue)
    (hflag : apObj.mFlag.isSome = true) :
    v.image apObj = { v with mTime := if apObj.mTime.isSome then v.mTime else 0 } := by
  obtain ⟨z, heq, -, hrange⟩ := checkRange_of_holds hvalue hv
  rw [TypedDataPoint.image, carriedValue, hrange, if_pos hflag, if_neg Bool.false_ne_true,
    LawfulValueType.convert_ofPacked, ← heq]

/-- **What is written of a value fits**, whatever the value. -/
theorem holds_checkRange [BoundedValueType T] {apObj : Fields} {f : Pack}
    (hvalue : apObj.mValue = some f) (v : T) :
    f.packer.Holds (ValueType.convert (checkRange apObj v).1) := by
  have hle : f.packer.min ≤ f.packer.max := by cases f.packer <;> decide
  have hmax : maxField apObj.mValue = f.packer.max := by rw [hvalue]; rfl
  have hmin : minField apObj.mValue = f.packer.min := by rw [hvalue]; rfl
  rw [checkRange, hmax, hmin]
  cases habove : ValueType.above v f.packer.max with
  | true =>
    have hbelow := LawfulValueType.below_ofPacked (T := T) f.packer.max f.packer.min hle
    rw [if_pos rfl, hbelow, if_neg Bool.false_ne_true, LawfulValueType.convert_ofPacked]
    exact ⟨hle, le_refl _⟩
  | false =>
    rw [if_neg Bool.false_ne_true]
    cases hbelow : ValueType.below v f.packer.min with
    | true =>
      rw [if_pos rfl, LawfulValueType.convert_ofPacked]
      exact ⟨le_refl _, hle⟩
    | false =>
      rw [if_neg Bool.false_ne_true]
      exact ⟨BoundedValueType.le_convert v _ hbelow, BoundedValueType.convert_le v _ habove⟩

/-! ## The templates -/

/-- The fields of a class, with what they are set to. -/
def fieldsOf (apObj : Fields) (v : TypedDataPoint T) : List (Pack × ℤ) :=
  apObj.mFlag.toList.map (·, ((v.image apObj).mQuality.toNat : ℤ)) ++
    (apObj.mValue.toList.map (·, ValueType.convert (checkRange apObj v.mValue).1) ++
      apObj.mTime.toList.map (·, v.mTime))

/-- The fields of a class, in their order. -/
def Fields.packs (apObj : Fields) : List Pack :=
    apObj.mFlag.toList ++ (apObj.mValue.toList ++ apObj.mTime.toList)

/-- What is read of the fields that there are. -/
def readFields (T : Type) [ValueType T] (apObj : Fields) (p : List Byte) : TypedDataPoint T where
  mQuality := if apObj.mFlag.isSome then getOctet apObj.mFlag p else (TypedDataPoint.new T).mQuality
  mTime := if apObj.mTime.isSome then getField apObj.mTime p else 0
  mValue := ValueType.ofPacked (getField apObj.mValue p)

theorem map_fst_fieldsOf (apObj : Fields) (v : TypedDataPoint T) : (fieldsOf apObj v).map (·.1) =
    apObj.packs := by
  simp [fieldsOf, Fields.packs, Function.comp_def]

/-- Every field is read as it was set. -/
theorem readFields_setAll [BoundedValueType T] {apObj : Fields} {p : List Byte}
    (v : TypedDataPoint T)
    (hapart : Apart p.length apObj.packs) (hflag : ∀ f ∈ apObj.mFlag, f.packer = .uInt8)
    (hvalue : apObj.mValue.isSome = true) (htime : HoldsTime apObj v.mTime) :
    readFields T apObj (setAll (fieldsOf apObj v) p) = v.image apObj := by
  have hapart : Apart p.length ((fieldsOf apObj v).map (·.1)) := by rwa [map_fst_fieldsOf]
  obtain ⟨value, hvalue⟩ := Option.isSome_iff_exists.mp hvalue
  have hq (hsome : apObj.mFlag.isSome = true) :
      getOctet apObj.mFlag (setAll (fieldsOf apObj v) p) = (v.image apObj).mQuality := by
    obtain ⟨flag, hsome⟩ := Option.isSome_iff_exists.mp hsome
    have hholds : flag.packer.Holds (v.image apObj).mQuality.toNat :=
      hflag flag hsome ▸ holds_octet _
    rw [getOctet, getField]
    nth_rewrite 1 [hsome]
    have hget := get_setAll hapart (f := flag) (by simp [fieldsOf, hsome]) hholds
    exact (congrArg _ hget).trans (ofInt_toNat _)
  have hv : getField apObj.mValue (setAll (fieldsOf apObj v) p) = ValueType.convert
      (checkRange apObj v.mValue).1 := by
    rw [getField]
    nth_rewrite 1 [hvalue]
    exact get_setAll hapart (by simp [fieldsOf, hvalue]) (holds_checkRange hvalue v.mValue)
  have ht (hsome : apObj.mTime.isSome = true) : getField apObj.mTime (setAll (fieldsOf apObj v) p) =
      v.mTime := by
    obtain ⟨time, hsome⟩ := Option.isSome_iff_exists.mp hsome
    rw [getField]
    nth_rewrite 1 [hsome]
    exact get_setAll hapart (by simp [fieldsOf, hsome]) (htime time hsome)
  rw [readFields, hv, TypedDataPoint.image]
  congr 1
  · split
    · next hsome =>
      rw [hq hsome, TypedDataPoint.image, if_pos hsome]
    · rfl
  · split
    · next hsome => exact ht hsome
    · rfl

/-- A class that sets all of its fields, and reads those that it has. -/
theorem carries_of_fields [BoundedValueType T] {o : StreamObject (TypedDataPoint T)}
    (hwrite : ∀ p v, o.write p v = setAll (fieldsOf o.fields v) p)
    (hread : ∀ p, o.read p = readFields T o.fields p)
    (hflag : ∀ f ∈ o.fields.mFlag, f.packer = .uInt8) (hvalue : o.fields.mValue.isSome = true)
    (hapart : Apart o.getSize o.fields.packs) : Carries o := by
  intro p v hp htime
  rw [hread, hwrite]
  refine ⟨readFields_setAll v (hapart.mono hp) hflag hvalue htime, length_setAll ?_⟩
  rw [map_fst_fieldsOf]
  exact hapart.mono hp

/-- Where no flag says that a value is out of its range, `WriteQV` does as `WriteCheckRangeQV`. -/
theorem writeQV_eq_writeCheckRangeQV {apObj : Fields} (hmask : apObj.overRangeMask = 0)
    (p : List Byte) (v : TypedDataPoint T) : writeQV apObj p v = writeCheckRangeQV apObj p v := by
  simp [writeQV, writeCheckRangeQV, writeV, hmask]

/-! ## The classes

One lemma for each family of classes, by the templates. -/

section Classes

variable [BoundedValueType T] {base : ObjectBase} {size pos : ℕ} {packer : Packer}

theorem carries_V (h : Apart size [⟨packer, 0⟩]) : Carries (T := T)
    ⟨base, size, value packer, writeV, readV T⟩ :=
  carries_of_fields (fun _ _ ↦ rfl) (fun _ ↦ rfl) nofun rfl h

theorem carries_QV (h : Apart size [⟨.uInt8, 0⟩, ⟨packer, 1⟩]) :
    Carries (T := T) ⟨base, size, flagValue packer, writeQV, readQV T⟩ := by
  refine carries_of_fields (fun p v ↦ ?_) (fun _ ↦ rfl) (fun _ h ↦ Option.some.inj h ▸ rfl) rfl h
  show writeQV (flagValue packer) p v = _
  rw [writeQV_eq_writeCheckRangeQV rfl]
  rfl

theorem carries_QVT (h : Apart size [⟨.uInt8, 0⟩, ⟨packer, 1⟩, ⟨.uInt48LE, pos⟩]) :
    Carries (T := T) ⟨base, size, flagValueTime packer pos, writeQVT, readQVT T⟩ := by
  refine carries_of_fields (fun p v ↦ ?_) (fun _ ↦ rfl) (fun _ h ↦ Option.some.inj h ▸ rfl) rfl h
  show setField (flagValueTime packer pos).mTime
    (writeQV (flagValueTime packer pos) p v) v.mTime = _
  rw [writeQV_eq_writeCheckRangeQV rfl]
  rfl

theorem carries_checkRangeQV (h : Apart size [⟨.uInt8, 0⟩, ⟨packer, 1⟩]) :
    Carries (T := T) ⟨base, size, overRange (flagValue packer), writeCheckRangeQV, readQV T⟩ :=
  carries_of_fields (fun _ _ ↦ rfl) (fun _ ↦ rfl) (fun _ h ↦ Option.some.inj h ▸ rfl) rfl h

theorem carries_checkRangeQVT (h : Apart size [⟨.uInt8, 0⟩, ⟨packer, 1⟩, ⟨.uInt48LE, pos⟩]) :
    Carries (T := T) ⟨base, size, overRange (flagValueTime packer pos), writeCheckRangeQVT,
      readQVT T⟩ :=
  carries_of_fields (fun _ _ ↦ rfl) (fun _ ↦ rfl) (fun _ h ↦ Option.some.inj h ▸ rfl) rfl h

end Classes

/-- Every class of a counter. -/
theorem carries_counters : ∀ o ∈ counters, Carries o := by
  simp only [counters, List.forall_mem_cons]
  exact ⟨carries_QV (by decide), carries_QV (by decide), carries_QV (by decide), carries_QV
    (by decide), carries_V (by decide), carries_V (by decide), carries_V (by decide),
    carries_V (by decide), carries_QV (by decide), carries_QV (by decide), carries_QV (by decide),
    carries_QV (by decide), carries_QVT (by decide), carries_QVT (by decide),
    carries_QVT (by decide), carries_QVT
      (by decide),
    fun _ h ↦ absurd h List.not_mem_nil⟩

/-- Every class of an analog or of the status of a setpoint. -/
theorem carries_analogs : ∀ o ∈ analogs, Carries o := by
  simp only [analogs, List.forall_mem_cons]
  exact ⟨carries_checkRangeQV (by decide), carries_checkRangeQV (by decide), carries_V (by decide),
    carries_V (by decide), carries_checkRangeQV (by decide), carries_checkRangeQV (by decide),
    carries_checkRangeQVT (by decide), carries_checkRangeQVT (by decide), carries_QV (by decide),
    carries_QV (by decide), fun _ h ↦ absurd h List.not_mem_nil⟩

end OpenDNP3.Objects
