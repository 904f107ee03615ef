import Mathlib.Data.List.Basic

/-!
# Exceptions

The exception classes of `Exception.h` and `DNPExceptions.h` with the texts they carry, and the two
ways in which an operation of the library stops that no `catch` sees: failed assertions and null
pointers.  An operation that may throw is modelled as a function into `Except Exception`, or as a
handler whose exceptions are these.
-/

set_option autoImplicit false

namespace OpenDNP3

/-- What can stop an operation of the library. -/
inductive Exception where
  /-- `assert` of the given condition. -/
  | assertion (aCondition : String)
  /-- `InvalidStateException`, raised by the state of that name. -/
  | invalidState (aState : String)
  /-- `ArgumentException`. -/
  | argument (aMessage : String)
  /-- `Exception` itself, raised while a fragment is read. -/
  | general (aMessage : String)
  /-- `ObjectException`, of an object that is not known. -/
  | object (aMessage : String)
  /-- `NotSupportedException`. -/
  | notSupported (aMessage : String)
  /-- A member of an object accessed through a pointer that is `NULL`. -/
  | nullPointer (aPointer : String)
  deriving DecidableEq, Repr

/-- A `catch` of `Exception` catches it. -/
def Exception.isCaught : Exception → Bool
  | .assertion _ => false
  | .nullPointer _ => false
  | _ => true

/-- It is one of the exceptions by which a fragment is rejected. -/
def Exception.isRejection : Exception → Bool
  | .general _ | .argument _ | .object _ => true
  | _ => false

theorem Exception.isCaught_of_isRejection {e : Exception} (h : e.isRejection = true) :
    e.isCaught = true := by
  cases e <;> first | rfl | exact h

/-- `assert` -/
def assert (aCondition : String) (p : Prop) [Decidable p] : Except Exception Unit :=
  if p then .ok () else .error (.assertion aCondition)

theorem assert_of {p : Prop} [Decidable p] (aCondition : String) (h : p) :
    assert aCondition p = .ok () := by
  rw [assert, if_pos h]

theorem assert_eq_ok {p : Prop} [Decidable p] {aCondition : String} {u : Unit} :
    assert aCondition p = .ok u ↔ p := by
  rw [assert]
  split <;> simp [*]

/-- A bind that succeeds is two computations that succeed. -/
theorem except_bind_eq_ok {ε α β : Type} {x : Except ε α} {f : α → Except ε β} {b : β} :
    (x >>= f) = .ok b ↔ ∃ a, x = .ok a ∧ f a = .ok b := by
  cases x with
  | error e => simp [bind, Except.bind]
  | ok a => simp [bind, Except.bind]

/-- A bind that fails fails in one of the two computations. -/
theorem except_bind_eq_error {ε α β : Type} {x : Except ε α} {f : α → Except ε β} {e : ε} :
    (x >>= f) = .error e ↔ x = .error e ∨ ∃ a, x = .ok a ∧ f a = .error e := by
  cases x with
  | error e => simp [bind, Except.bind]
  | ok a => simp [bind, Except.bind]

@[simp] theorem except_ok_bind {ε α β : Type} (a : α) (f : α → Except ε β) :
    ((Except.ok a : Except ε α) >>= f) = f a := rfl

end OpenDNP3
