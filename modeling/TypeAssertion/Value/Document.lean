import TypeAssertion.Json.Printer
import TypeAssertion.Json.Reader
import TypeAssertion.Value

/-!
Values as JSON documents, and documents as values. Boxes are opened and an instance becomes the
object of its fields. The undefined value and functions have no document: they vanish from objects
and become null inside arrays. A number without a finite magnitude becomes null.
-/

set_option autoImplicit false

namespace TypeAssertion.Value

/-- A number as a document: an integer when it is whole and below the exact limit. -/
def numberDocument (n : Number) : Json :=
  match n.toInteger? with
  | some i => .number (.integer i)
  | none => if n.isFinite then .number (.double n) else .null

mutual

def document? : Value → Option Json
  | undefined => none
  | function _ => none
  | null => some .null
  | bool truth => some (.bool truth)
  | number n => some (numberDocument n)
  | boxedNumber n => some (numberDocument n)
  | string text => some (.string text)
  | boxedString text => some (.string text)
  | array items => some (.array (itemDocuments items))
  | object properties => some (.object (memberDocuments properties))
  | .instance _ fields => some (.object (memberDocuments fields))

/-- The documents of the items of an array, null where there is none. -/
def itemDocuments : List Value → List Json
  | [] => []
  | item :: rest => (document? item).getD .null :: itemDocuments rest

/-- The documents of named entries, without the entries that have none. -/
def memberDocuments : List (String × Value) → List (String × Json)
  | [] => []
  | (name, item) :: rest =>
    match document? item with
    | some document => (name, document) :: memberDocuments rest
    | none => memberDocuments rest

end

mutual

def ofDocument : Json → Value
  | .null => null
  | .bool truth => bool truth
  | .number numeral => number numeral.toNumber
  | .string text => string text
  | .array items => array (ofItems items)
  | .object members => object (ofMembers members)

def ofItems : List Json → List Value
  | [] => []
  | item :: rest => ofDocument item :: ofItems rest

def ofMembers : List (String × Json) → List (String × Value)
  | [] => []
  | (name, item) :: rest => (name, ofDocument item) :: ofMembers rest

end

/-- A value as it is shown: an instance by its class and fields, other data by their document. -/
def display (value : Value) : String :=
  match value with
  | undefined => "undefined"
  | function f => "[function " ++ f.name ++ "]"
  | .instance cls fields => cls.name ++ " " ++ (Json.object (memberDocuments fields)).compact
  | _ =>
    match document? value with
    | some document => document.compact
    | none => "undefined"

end TypeAssertion.Value
