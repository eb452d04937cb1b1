import TypeAssertion.Check

/-!
Record specifications: the names of fields, each with its descriptor. A specification is built field
by field or read from a schema, an object whose entries are descriptor texts.
-/

set_option autoImplicit false

namespace TypeAssertion

abbrev RecordSpec := Fields Descriptor

namespace RecordSpec

/-- The descriptors of the entries of a schema, in their order; the first bad entry fails. -/
def readEntries : List (String × Value) → Except Failure (List (String × Descriptor))
  | [] => .ok []
  | (name, text) :: rest => do
    let descriptor ← Descriptor.ofValue text
    let others ← readEntries rest
    return (name, descriptor) :: others

/-- The specification that a schema describes. A schema without entries of its own is a type failure
while enforcement is on, and stands for no fields while it is off. -/
def ofSchema (switch : Bool) (schema : Value) : Except Failure RecordSpec := do
  liftType (ensure switch schema .object)
  let entries ← readEntries (schema.entries?.getD [])
  return Fields.ofList entries

/-- True when two specifications have the same fields with equal descriptors. -/
def equals (first second : RecordSpec) : Bool := first.all₂ Descriptor.equals second

end RecordSpec

end TypeAssertion
