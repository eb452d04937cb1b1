import TypeAssertion.Descriptor
import TypeAssertion.Json.Reader
import TypeAssertion.Json.Printer
import TypeAssertion.Text.Blank
import TypeAssertion.Text.Quoted

/-!
Descriptors as text. A descriptor is written as a base name under nullable layers; a layer is `?`
before the rest or `nullable<` and `>` around it, at most sixteen of them. Blanks may stand around
the whole, after `?` and just inside the brackets, and the letters of ASCII may have any case.
Custom and class descriptors have no text that reads back.
-/

set_option autoImplicit false

namespace TypeAssertion

namespace Descriptor

def layerLimit : Nat := 16

/-- Why a text is no descriptor. -/
inductive TextError where
  | tooManyLayers
  | unknownName (name : String)

def TextError.message : TextError → String
  | tooManyLayers =>
    "type descriptor nests more than " ++ toString layerLimit ++ " nullable layers"
  | unknownName name => "unknown type descriptor: " ++ Text.quoted name

def nullableOpening : List Char := ['n', 'u', 'l', 'l', 'a', 'b', 'l', 'e', '<']

def baseNames : List (String × Descriptor) :=
  [("string", string), ("boolean", boolean), ("bool", boolean), ("number", number),
    ("array", array), ("object", object), ("function", function), ("nothing", absent),
    ("undefined", absent)]

/-- True of a text that stands in the brackets of a nullable layer. -/
def isWrapped (text : List Char) : Bool :=
  text.getLast? == some '>' && decide (nullableOpening.length < text.length) &&
    Text.lower (text.take nullableOpening.length) == nullableOpening

/-- The text under its outermost nullable layer, without the blanks around it, if it has one. -/
def peel? : List Char → Option (List Char)
  | '?' :: rest => some (Text.trim rest)
  | text =>
    if isWrapped text then some (Text.trim ((text.drop nullableOpening.length).dropLast)) else none

/-- Peels all layers of a text, if there are no more than the given number: how many there are, and
the text under them. -/
def peelLayers? : Nat → List Char → Option (Nat × List Char)
  | 0, text => if (peel? text).isSome then none else some (0, text)
  | most + 1, text =>
    match peel? text with
    | some inner => (peelLayers? most inner).map fun (layers, base) => (layers + 1, base)
    | none => some (0, text)

def ofText (text : String) : Except TextError Descriptor :=
  match peelLayers? layerLimit (Text.trim text.toList) with
  | none => .error .tooManyLayers
  | some (layers, base) =>
    match baseNames.lookup (String.ofList (Text.lower base)) with
    | none => .error (.unknownName (String.ofList base))
    | some descriptor => .ok (descriptor.underLayers layers)

def display : Descriptor → String
  | primitive kind => kind.name
  | absent => "Nothing"
  | nullable inner => "Nullable<" ++ inner.display ++ ">"
  | custom _ name _ => name
  | instanceOf cls => cls.name

/-- A descriptor as a diagnosis shows it, constructor by constructor. -/
def describe : Descriptor → String
  | primitive kind => "Primitive(" ++ kind.name ++ ")"
  | absent => "Absent"
  | nullable inner => "Nullable(" ++ inner.describe ++ ")"
  | custom _ name _ => "Custom(CustomType \x7b name: " ++ Text.quoted name ++ ", .. \x7d)"
  | instanceOf cls => "Custom(CustomType \x7b name: " ++ Text.quoted cls.name ++ ", .. \x7d)"

end Descriptor

namespace Primitive

/-- The name of a kind in documents: its name in small letters. -/
def documentName (kind : Primitive) : String := String.ofList (Text.lower kind.name.toList)

def ofDocumentName? (name : String) : Option Primitive := all.find? (·.documentName == name)

def document (kind : Primitive) : Json := .string kind.documentName

/-- The kind held by a JSON text: its name, or an object whose only member has that name and is
null. -/
def ofDocumentText? (text : String) : Option Primitive :=
  match Json.skipSpaces text.toList with
  | '\x7b' :: rest =>
    match Json.readSequence (Json.readMember (Json.readDocument 1)) '\x7d' rest with
    | some ([(name, .null)], rest) =>
      if (Json.skipSpaces rest).isEmpty then ofDocumentName? name else none
    | _ => none
  | _ =>
    match Json.ofText? text with
    | some (.string name) => ofDocumentName? name
    | _ => none

end Primitive

end TypeAssertion
