import TypeAssertion.Check

/-!
A slot that holds null or a value of a fixed type. Writes are checked strictly, so while enforcement
is on the slot holds nothing else. A refused write changes nothing.
-/

set_option autoImplicit false

namespace TypeAssertion

/-- Null, or a value of a descriptor. -/
structure Slot where
  descriptor : Descriptor
  value : Value

namespace Slot

def vacant (descriptor : Descriptor) : Slot := ⟨descriptor, .null⟩

/-- Writes a value. Null is always accepted. -/
def write (switch : Bool) (slot : Slot) (value : Value) : Except TypeFailure Slot :=
  if value.isNull then .ok { slot with value := value }
  else (ensure switch value slot.descriptor).map fun _ => { slot with value := value }

/-- A slot with an initial value, which is checked like a write; without one it holds null. -/
def make (switch : Bool) (descriptor : Descriptor) (initial? : Option Value) :
    Except TypeFailure Slot :=
  match initial? with
  | some value => (vacant descriptor).write switch value
  | none => .ok (vacant descriptor)

/-- The value of a slot, and the slot holding null. -/
def take (slot : Slot) : Value × Slot := (slot.value, { slot with value := .null })

def asDescriptor (slot : Slot) : Descriptor := .nullable slot.descriptor

/-- True when two slots have equal descriptors and hold equal values. -/
def equals (first second : Slot) : Bool :=
  first.descriptor.equals second.descriptor && first.value.equals second.value

end Slot

end TypeAssertion
