import TypeAssertion.Check

/-!
The strict and the soft check in closed form. Both turn on one verdict, `conforms`, which is true of
everything while the switch is off and is what the descriptor decides while it is on.
-/

set_option autoImplicit false

namespace TypeAssertion

theorem conforms_eq (switch : Bool) (value : Value) (descriptor : Descriptor) :
    conforms switch value descriptor = (!switch || descriptor.accepts switch value) := by
  unfold conforms conformsIn checkIn EnforcementMode.resolve Strictness.isSoft
  cases switch with
  | false => rfl
  | true => cases descriptor.accepts true value <;> simp

@[simp] theorem conforms_off (value : Value) (descriptor : Descriptor) :
    conforms false value descriptor = true := rfl

theorem conforms_on (value : Value) (descriptor : Descriptor) :
    conforms true value descriptor = descriptor.accepts true value := by
  simp [conforms_eq]

theorem conforms_array (switch : Bool) (value : Value) :
    conforms switch value .array = (!switch || value.isArray) := conforms_eq switch value .array

theorem conforms_object (switch : Bool) (value : Value) :
    conforms switch value .object = (!switch || value.isObject) := conforms_eq switch value .object

theorem conforms_iff_of_on {switch : Bool} {value : Value} {descriptor : Descriptor} :
    conforms switch value descriptor = true ↔
      (switch = true → conforms true value descriptor = true) := by
  cases switch <;> simp

theorem conforms_eq_false_iff {switch : Bool} {value : Value} {descriptor : Descriptor} :
    conforms switch value descriptor = false ↔
      switch = true ∧ descriptor.accepts true value = false := by
  cases switch <;> simp [conforms_on]

/-- A strict check succeeds on what conforms, and names the value and the descriptor otherwise. -/
theorem ensure_eq (switch : Bool) (value : Value) (descriptor : Descriptor) :
    ensure switch value descriptor =
      if conforms switch value descriptor then .ok () else .error (.ofMismatch value descriptor) := by
  rw [conforms_eq]
  unfold ensure ensureIn checkIn EnforcementMode.resolve Strictness.isSoft
  cases switch with
  | false => rfl
  | true => cases descriptor.accepts true value <;> simp [Except.map]

theorem ensure_eq_ok_iff {switch : Bool} {value : Value} {descriptor : Descriptor} :
    ensure switch value descriptor = .ok () ↔ conforms switch value descriptor = true := by
  rw [ensure_eq]
  cases conforms switch value descriptor <;> simp

end TypeAssertion
