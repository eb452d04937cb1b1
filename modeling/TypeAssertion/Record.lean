import TypeAssertion.Record.Spec
import TypeAssertion.Registry
import TypeAssertion.Value.Document

/-!
Record types and records. A record type has a class of its own, which extends the class of all
records, and a fixed set of fields. A record carries exactly the fields of its type; each reads
undefined until it is written. Writes are checked strictly, and a refused write changes nothing. A
field named `prototype` is never installed.
-/

set_option autoImplicit false

namespace TypeAssertion

/-- A kind of record: its class and its fields. -/
structure RecordType where
  cls : Class
  spec : RecordSpec

namespace RecordType

/-- The field name that is never installed. -/
def reservedField : String := "prototype"

def installed (spec : RecordSpec) : RecordSpec := spec.filter fun name => name != reservedField

def make (registry : Registry) (name : String) (spec : RecordSpec) :
    Monitored (RecordType × Registry) := do
  let fields := installed spec
  report (.recordTypeBuilt name fields.size)
  let (cls, registry) := registry.makeClass name (some Class.record)
  return (⟨cls, fields⟩, registry)

def ofSchema (registry : Registry) (name : String) (schema : Value) :
    Action (RecordType × Registry) := do
  let enforced ← (isEnforced : Monitored Bool)
  match RecordSpec.ofSchema enforced schema with
  | .error failure => throw failure
  | .ok spec => (make registry name spec : Monitored (RecordType × Registry))

def name (type : RecordType) : String := type.cls.name

def descriptor (type : RecordType) : Descriptor := .instanceOf type.cls

def same (first second : RecordType) : Bool := first.cls.same second.cls

end RecordType

/-- A record: its type, and a value for each field of the type. -/
structure Record where
  type : RecordType
  values : Fields Value
  names_values : values.names = type.spec.names

namespace Record

/-- The record of a type in which no field is written. -/
def blank (type : RecordType) : Record := ⟨type, type.spec.map fun _ => .undefined, by simp⟩

def get? (record : Record) (field : String) : Option Value := record.values.get? field

/-- Replaces the value of a field, unchecked. -/
def put (record : Record) (field : String) (value : Value) : Record :=
  { record with
    values := record.values.set field value
    names_values := by simpa using record.names_values }

def fieldFailure (type : RecordType) (field : String) (failure : TypeFailure) : TypeFailure :=
  { failure with wording := some (type.name ++ "." ++ field ++ ": " ++ failure.message) }

/-- Writes a field, checking the value against the descriptor of the field. -/
def set (switch : Bool) (record : Record) (field : String) (value : Value) :
    Except Failure Record :=
  match record.type.spec.get? field with
  | none => .error (.precondition (.unknownField record.type.name field))
  | some descriptor =>
    match ensure switch value descriptor with
    | .ok () => .ok (record.put field value)
    | .error failure => .error (.type (fieldFailure record.type field failure))

/-- Writes those of the given fields that a value has as properties; the first refusal fails. -/
def fill (switch : Bool) (values : Value) : List String → Record → Except Failure Record
  | [], record => .ok record
  | field :: rest, record =>
    match values.property? field with
    | none => fill switch values rest record
    | some value =>
      match record.set switch field value with
      | .ok written => fill switch values rest written
      | .error failure => .error failure

/-- Builds a record from initial values, which are the properties of an object or an instance. Other
properties than the declared fields are ignored. -/
def construct (switch : Bool) (type : RecordType) (values : Value) : Except Failure Record :=
  match ensure switch values .object with
  | .error failure => .error (.type failure)
  | .ok () => fill switch values type.spec.names (blank type)

def constructDocument (switch : Bool) (type : RecordType) (values : Json) :
    Except Failure Record :=
  construct switch type (Value.ofDocument values)

def isOf (record : Record) (type : RecordType) : Bool := record.type.same type

/-- A record as a value: an instance of the class of its type. -/
def toValue (record : Record) : Value := .instance record.type.cls record.values.entries

/-- A record as a document, without the fields that have none. -/
def document (record : Record) : Json := record.toValue.document?.getD .null

end Record

end TypeAssertion
