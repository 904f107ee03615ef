import OpenDNP3.APL.Exception
import OpenDNP3.App.Header

/-!
# Objects, qualifiers and object headers

An object of a fragment is named by its group and variation.  The singletons of `Objects.h` are
described here by what the reading and writing of fragments asks of them: the group, the variation,
and how the size of the data is found.

`ObjectBase::Get` and the handlers of the two stations look a group and a variation up by the one
number `(group << 4) | variation`.  As a variation can be as large as 255, two different pairs can
have the same number, and a fragment with the one is then taken for the other.
-/

set_option autoImplicit false

namespace OpenDNP3

/-! ## Objects -/

/-- `ObjectTypes`; the size of the data of a fixed object is the one of its class. -/
inductive ObjectTypes where
  | placeholder
  | fixed (aSize : ℕ)
  | bitfield
  | variable
  | sizeByVariation
  deriving DecidableEq, Repr

/-- `ObjectBase`: `GetGroup`, `GetVariation` and `GetType`. -/
structure ObjectBase where
  getGroup : ℕ
  getVariation : ℕ
  getType : ObjectTypes
  deriving DecidableEq, Repr

/-- `RADIX` and `MACRO_DNP_RADIX`. -/
def radix (aGroup aVariation : ℕ) : ℕ := (aGroup <<< 4) ||| aVariation

/-- The objects that `ObjectBase::Get` knows by group and variation, with their classes. -/
def ObjectBase.known : List ObjectBase :=
  [⟨1, 0, .placeholder⟩, ⟨1, 1, .bitfield⟩, ⟨1, 2, .fixed 1⟩,
   ⟨2, 0, .placeholder⟩, ⟨2, 1, .fixed 1⟩, ⟨2, 2, .fixed 7⟩, ⟨2, 3, .fixed 3⟩,
   ⟨10, 0, .placeholder⟩, ⟨10, 1, .bitfield⟩, ⟨10, 2, .fixed 1⟩,
   ⟨12, 1, .fixed 11⟩, ⟨12, 2, .fixed 11⟩, ⟨12, 3, .bitfield⟩,
   ⟨20, 0, .placeholder⟩, ⟨20, 1, .fixed 5⟩, ⟨20, 2, .fixed 3⟩, ⟨20, 3, .fixed 5⟩,
   ⟨20, 4, .fixed 3⟩, ⟨20, 5, .fixed 4⟩, ⟨20, 6, .fixed 2⟩, ⟨20, 7, .fixed 4⟩, ⟨20, 8, .fixed 2⟩,
   ⟨21, 0, .placeholder⟩, ⟨21, 1, .fixed 5⟩, ⟨21, 2, .fixed 3⟩, ⟨21, 3, .fixed 5⟩,
   ⟨21, 4, .fixed 3⟩, ⟨21, 5, .fixed 11⟩, ⟨21, 6, .fixed 9⟩, ⟨21, 7, .fixed 11⟩, ⟨21, 8, .fixed 9⟩,
   ⟨21, 9, .fixed 4⟩, ⟨21, 10, .fixed 2⟩, ⟨21, 11, .fixed 4⟩, ⟨21, 12, .fixed 2⟩,
   ⟨22, 0, .placeholder⟩, ⟨22, 1, .fixed 5⟩, ⟨22, 2, .fixed 3⟩, ⟨22, 3, .fixed 5⟩,
   ⟨22, 4, .fixed 3⟩, ⟨22, 5, .fixed 11⟩, ⟨22, 6, .fixed 9⟩, ⟨22, 7, .fixed 11⟩, ⟨22, 8, .fixed 9⟩,
   ⟨23, 0, .placeholder⟩, ⟨23, 1, .fixed 5⟩, ⟨23, 2, .fixed 3⟩, ⟨23, 3, .fixed 5⟩,
   ⟨23, 4, .fixed 3⟩, ⟨23, 5, .fixed 11⟩, ⟨23, 6, .fixed 9⟩, ⟨23, 7, .fixed 11⟩, ⟨23, 8, .fixed 9⟩,
   ⟨30, 0, .placeholder⟩, ⟨30, 1, .fixed 5⟩, ⟨30, 2, .fixed 3⟩, ⟨30, 3, .fixed 4⟩,
   ⟨30, 4, .fixed 2⟩, ⟨30, 5, .fixed 5⟩, ⟨30, 6, .fixed 9⟩,
   ⟨31, 0, .placeholder⟩, ⟨31, 1, .fixed 5⟩, ⟨31, 2, .fixed 3⟩, ⟨31, 3, .fixed 11⟩,
   ⟨31, 4, .fixed 9⟩, ⟨31, 5, .fixed 4⟩, ⟨31, 6, .fixed 2⟩,
   ⟨32, 0, .placeholder⟩, ⟨32, 1, .fixed 5⟩, ⟨32, 2, .fixed 3⟩, ⟨32, 3, .fixed 11⟩,
   ⟨32, 4, .fixed 9⟩, ⟨32, 5, .fixed 5⟩, ⟨32, 6, .fixed 9⟩, ⟨32, 7, .fixed 11⟩, ⟨32, 8, .fixed 15⟩,
   ⟨33, 0, .placeholder⟩, ⟨33, 1, .fixed 5⟩, ⟨33, 2, .fixed 3⟩, ⟨33, 3, .fixed 11⟩,
   ⟨33, 4, .fixed 9⟩, ⟨33, 5, .fixed 5⟩, ⟨33, 6, .fixed 9⟩, ⟨33, 7, .fixed 11⟩, ⟨33, 8, .fixed 15⟩,
   ⟨40, 0, .placeholder⟩, ⟨40, 1, .fixed 5⟩, ⟨40, 2, .fixed 3⟩, ⟨40, 3, .fixed 5⟩,
   ⟨40, 4, .fixed 9⟩,
   ⟨41, 1, .fixed 5⟩, ⟨41, 2, .fixed 3⟩, ⟨41, 3, .fixed 5⟩, ⟨41, 4, .fixed 9⟩,
   ⟨50, 1, .fixed 6⟩, ⟨50, 2, .fixed 10⟩,
   ⟨51, 1, .fixed 6⟩, ⟨51, 2, .fixed 6⟩,
   ⟨52, 1, .fixed 2⟩, ⟨52, 2, .fixed 2⟩,
   ⟨60, 1, .placeholder⟩, ⟨60, 2, .placeholder⟩, ⟨60, 3, .placeholder⟩, ⟨60, 4, .placeholder⟩,
   ⟨80, 1, .bitfield⟩]

/-- The objects that `ObjectBase::Get` knows by the group alone: octet strings and virtual
terminals. -/
def ObjectBase.knownGroups : List ObjectBase :=
  [⟨110, 0, .sizeByVariation⟩, ⟨111, 0, .sizeByVariation⟩, ⟨112, 0, .sizeByVariation⟩,
   ⟨113, 0, .sizeByVariation⟩]

/-- `ObjectBase::Get` -/
def ObjectBase.get (aGroup aVariation : ℕ) : Option ObjectBase :=
  match known.find? fun o ↦ radix o.getGroup o.getVariation = radix aGroup aVariation with
  | some o => some o
  | none => knownGroups.find? fun o ↦ o.getGroup = aGroup

/-- The number that is looked up does not tell every two pairs apart. -/
example : ObjectBase.get 0 0xC1 = ObjectBase.get 12 1 := by decide

/-- What is found is one of the objects that are known. -/
theorem ObjectBase.mem_of_get {g v : ℕ} {o : ObjectBase} (h : ObjectBase.get g v = some o) :
    o ∈ known ++ knownGroups := by
  rw [List.mem_append]
  rw [get] at h
  split at h
  · next heq => exact .inl (Option.some.inj h ▸ List.mem_of_find?_eq_some heq)
  · exact .inr (List.mem_of_find?_eq_some h)

/-- No object is of variable size. -/
theorem ObjectBase.getType_ne_variable {g v : ℕ} {o : ObjectBase}
    (h : ObjectBase.get g v = some o) :
    o.getType ≠ .variable := by
  have hall : ∀ o ∈ known ++ knownGroups, o.getType ≠ .variable := by decide
  exact hall o (mem_of_get h)

/-- `BitfieldObject::GetSize` -/
def bitfieldSize (aNumValues : ℕ) : ℕ :=
  if aNumValues % 8 ≠ 0 then aNumValues / 8 + 1 else aNumValues / 8

/-! ## Qualifiers -/

/-- `QualifierCode` -/
inductive QualifierCode where
  | startStop1B | startStop2B | startStop4B
  | allObj
  | cnt1B | cnt2B | cnt4B
  | cnt1BIndex1B | cnt2BIndex2B | cnt4BIndex4B
  | vcnt1BSize1B | vcnt1BSize2B | vcnt1BSize4B
  | undefined
  deriving DecidableEq, Repr

/-- The qualifiers with the values of the enumeration, but for `QC_UNDEFINED`. -/
def QualifierCode.values : List (ℕ × QualifierCode) :=
  [(0x00, .startStop1B), (0x01, .startStop2B), (0x02, .startStop4B), (0x06, .allObj),
   (0x07, .cnt1B), (0x08, .cnt2B), (0x09, .cnt4B), (0x17, .cnt1BIndex1B), (0x28, .cnt2BIndex2B),
   (0x39, .cnt4BIndex4B), (0x4B, .vcnt1BSize1B), (0x5B, .vcnt1BSize2B), (0x6B, .vcnt1BSize4B)]

/-- `IObjectHeader::ByteToQualifierCode` -/
def byteToQualifierCode (aCode : ℕ) : QualifierCode :=
  (QualifierCode.values.lookup aCode).getD .undefined

/-! ## Object headers -/

/-- `ObjectHeaderTypes` -/
inductive ObjectHeaderTypes where
  | allObjects | ranged2Octet | ranged4Octet | ranged8Octet
  | count1Octet | count2Octet | count4Octet
  deriving DecidableEq, Repr

namespace ObjectHeaderTypes

/-- `IObjectHeader::GetSize` -/
def getSize : ObjectHeaderTypes → ℕ
  | .allObjects => 3
  | .ranged2Octet => 5
  | .ranged4Octet => 7
  | .ranged8Octet => 11
  | .count1Octet => 4
  | .count2Octet => 5
  | .count4Octet => 7

/-- The octets of a number of a range or of a count. -/
def fieldSize : ObjectHeaderTypes → ℕ
  | .allObjects => 0
  | .ranged2Octet | .count1Octet => 1
  | .ranged4Octet | .count2Octet => 2
  | .ranged8Octet | .count4Octet => 4

/-- `MaxRange` and `MaxCount`, the largest number that a field holds. -/
def maxField : ObjectHeaderTypes → ℕ
  | .allObjects => 0
  | .ranged2Octet | .count1Octet => 0xFF
  | .ranged4Octet | .count2Octet => 0xFFFF
  | .ranged8Octet | .count4Octet => 0xFFFFFFFF

/-- It is an `ICountHeader`. -/
def isCount : ObjectHeaderTypes → Bool
  | .count1Octet | .count2Octet | .count4Octet => true
  | _ => false

theorem three_le_getSize (h : ObjectHeaderTypes) : 3 ≤ h.getSize := by
  cases h <;> decide

end ObjectHeaderTypes

/-- `APDU::GetObjectHeader` -/
def getObjectHeader : QualifierCode → Except Exception ObjectHeaderTypes
  | .startStop1B => .ok .ranged2Octet
  | .startStop2B => .ok .ranged4Octet
  | .startStop4B => .ok .ranged8Octet
  | .allObj => .ok .allObjects
  | .cnt1B | .cnt1BIndex1B | .vcnt1BSize1B | .vcnt1BSize2B | .vcnt1BSize4B => .ok .count1Octet
  | .cnt2B | .cnt2BIndex2B => .ok .count2Octet
  | .cnt4B | .cnt4BIndex4B => .ok .count4Octet
  | .undefined => .error (.general "Unknown range specifier")

/-- `APDU::GetCountHeader` -/
def getCountHeader : QualifierCode → Except Exception ObjectHeaderTypes
  | .cnt1B | .cnt1BIndex1B | .vcnt1BSize1B | .vcnt1BSize2B | .vcnt1BSize4B => .ok .count1Octet
  | .cnt2B | .cnt2BIndex2B => .ok .count2Octet
  | .cnt4B | .cnt4BIndex4B => .ok .count4Octet
  | _ => .error (.argument "Invalid qualifier for count header")

/-- `APDU::GetPrefixSizeAndValidate`: the octets in front of each object of the type. -/
def getPrefixSizeAndValidate : QualifierCode → ObjectTypes → Except Exception ℕ
  | .allObj, .placeholder | .allObj, .fixed _ | .allObj, .bitfield
  | .startStop1B, .fixed _ | .startStop2B, .fixed _ | .startStop4B, .fixed _
  | .startStop1B, .placeholder | .startStop2B, .placeholder | .startStop4B, .placeholder
  | .startStop1B, .bitfield | .startStop2B, .bitfield | .startStop4B, .bitfield
  | .cnt1B, .fixed _ | .cnt2B, .fixed _ | .cnt4B, .fixed _
  | .cnt1B, .bitfield | .cnt2B, .bitfield | .cnt4B, .bitfield
  | .cnt1B, .placeholder | .cnt2B, .placeholder | .cnt4B, .placeholder => .ok 0
  -- objects that are prefixed with an index
  | .cnt1BIndex1B, .fixed _ => .ok 1
  | .cnt2BIndex2B, .fixed _ => .ok 2
  | .cnt4BIndex4B, .fixed _ => .ok 4
  | .cnt1BIndex1B, .sizeByVariation => .ok 1
  | .cnt2BIndex2B, .sizeByVariation => .ok 2
  | .cnt4BIndex4B, .sizeByVariation => .ok 4
  -- objects that are prefixed with a size must be of variable length
  | .vcnt1BSize1B, .variable => .ok 1
  | .vcnt1BSize2B, .variable => .ok 2
  | .vcnt1BSize4B, .variable => .ok 4
  | _, _ => .error (.general "Unknown Prefix Size")

/-- The qualifiers of a size go with objects of variable size only. -/
theorem getPrefixSizeAndValidate_vcnt {q : QualifierCode} {t : ObjectTypes} {n : ℕ}
    (h : getPrefixSizeAndValidate q t = .ok n) (ht : t ≠ .variable) :
    q ≠ .vcnt1BSize1B ∧ q ≠ .vcnt1BSize2B ∧ q ≠ .vcnt1BSize4B := by
  refine ⟨?_, ?_, ?_⟩
  all_goals
    rintro rfl
    cases t <;> simp_all [getPrefixSizeAndValidate]

end OpenDNP3
