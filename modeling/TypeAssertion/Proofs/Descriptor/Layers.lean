import TypeAssertion.Proofs.Descriptor.Grammar
import TypeAssertion.Proofs.Json.WellFormed
import TypeAssertion.Value.Document

/-!
A descriptor by its layers and its core. Layers let null in and nothing else, so what is accepted is
null under a layer, or what the core accepts. For the descriptors that a text can give this settles
which documents they accept.
-/

set_option autoImplicit false

namespace TypeAssertion

namespace Descriptor

/-- The descriptor under all nullable layers. -/
def core : Descriptor → Descriptor
  | nullable inner => inner.core
  | descriptor => descriptor

theorem accepts_eq (enforced : Bool) (descriptor : Descriptor) (value : Value) :
    descriptor.accepts enforced value =
      (value.isNull && descriptor.isNullable || descriptor.core.accepts enforced value) := by
  induction descriptor with
  | nullable inner ih =>
    rw [accepts, ih, core, isNullable]
    cases value.isNull <;> simp
  | _ => simp [core, isNullable]

theorem core_of_isWritable {descriptor : Descriptor} (h : descriptor.isWritable = true) :
    (∃ kind, descriptor.core = .primitive kind) ∨ descriptor.core = .absent := by
  induction descriptor with
  | primitive kind => exact .inl ⟨kind, rfl⟩
  | absent => exact .inr rfl
  | nullable inner ih => exact ih h
  | custom id name test => simp [isWritable] at h
  | instanceOf cls => simp [isWritable] at h

theorem isWritable_of_parse {text : String} {descriptor : Descriptor}
    (h : parse text = .ok descriptor) : descriptor.isWritable = true := by
  obtain ⟨shape, -, -, rfl⟩ := derives_of_ofText (parse_eq_ok_iff.1 h)
  exact isWritable_meaning shape

end Descriptor

namespace Json

/-- The kind of a document. Null is of no kind, and no document is a function. -/
def kind? : Json → Option Primitive
  | null => none
  | bool _ => some .boolean
  | number _ => some .number
  | string _ => some .string
  | array _ => some .array
  | object _ => some .object

/-- A document fits a descriptor when it is null under a layer, or of the kind of the core. -/
def Fits (document : Json) (descriptor : Descriptor) : Prop :=
  (document = .null ∧ descriptor.isNullable = true) ∨
    ∃ kind, descriptor.core = .primitive kind ∧ document.kind? = some kind

end Json

theorem Primitive.accepts_ofDocument_iff {kind : Primitive} {document : Json}
    (h : document.WellFormed) :
    kind.accepts (Value.ofDocument document) = true ↔ document.kind? = some kind := by
  cases h with
  | number sound =>
    have number := Number.isNaN_of_isFinite (Numeral.isFinite_toNumber sound)
    cases kind <;> simp [accepts, Value.ofDocument, Json.kind?, Value.isString, Value.isBoolean,
      Value.isNumber, Value.isArray, Value.isObject, Value.isFunction, Value.text?, Value.number?,
      Value.items?, Value.entries?, Value.function?, number]
  | _ =>
    cases kind <;> simp [accepts, Value.ofDocument, Json.kind?, Value.isString, Value.isBoolean,
      Value.isNumber, Value.isArray, Value.isObject, Value.isFunction, Value.text?, Value.number?,
      Value.items?, Value.entries?, Value.function?]

/-- A descriptor that a text can give accepts the documents that fit it. -/
theorem Descriptor.accepts_ofDocument_iff {descriptor : Descriptor} {document : Json}
    (writable : descriptor.isWritable = true) (h : document.WellFormed) :
    descriptor.accepts true (Value.ofDocument document) = true ↔ document.Fits descriptor := by
  have null_iff : (Value.ofDocument document).isNull = true ↔ document = .null := by
    cases document <;> simp [Value.ofDocument, Value.isNull]
  have defined : (Value.ofDocument document).isUndefined = false := by
    cases document <;> rfl
  rw [accepts_eq, Bool.or_eq_true, Bool.and_eq_true, null_iff, Json.Fits]
  rcases core_of_isWritable writable with ⟨kind, core⟩ | core
  · rw [core, accepts, Primitive.accepts_ofDocument_iff h]
    simp
  · rw [core, accepts, defined]
    simp

end TypeAssertion
