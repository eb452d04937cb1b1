import TypeAssertion.Class
import TypeAssertion.Number
import TypeAssertion.Fields
import TypeAssertion.Text.Quoted

/-!
Values of a dynamically typed program. There are two empty values: the undefined one of a slot that
holds nothing, and null. Texts and numbers come plain or boxed. The properties of an object and the
fields of an instance stand in ascending order of their names.

A function is known by its number; what it does when called is kept beside the values, so that
values stay plain data.
-/

set_option autoImplicit false

namespace TypeAssertion

/-- A function as a value: the number that identifies it, and its name. -/
structure Function where
  id : Nat
  name : String

def Function.describe (f : Function) : String :=
  "Function \x7b name: " ++ Text.quoted f.name ++ ", .. \x7d"

/-- A value of a dynamically typed program. -/
inductive Value where
  | undefined
  | null
  | bool (truth : Bool)
  | number (n : Number)
  | string (text : String)
  | boxedString (text : String)
  | boxedNumber (n : Number)
  | array (items : List Value)
  | object (properties : List (String × Value))
  | function (f : Function)
  | instance (cls : Class) (fields : List (String × Value))

instance : Inhabited Value := ⟨.undefined⟩

namespace Value

/-- An object with the given properties; of several under one name the last one stays. -/
def ofProperties (properties : List (String × Value)) : Value := object (sortEntries properties)

/-- An optional value, null when there is none. -/
def ofOption (value? : Option Value) : Value := value?.getD null

def isUndefined : Value → Bool
  | undefined => true
  | _ => false

def isNull : Value → Bool
  | null => true
  | _ => false

/-- The text of a plain or boxed string. -/
def text? : Value → Option String
  | string text => some text
  | boxedString text => some text
  | _ => none

/-- The number of a plain or boxed number. -/
def number? : Value → Option Number
  | number n => some n
  | boxedNumber n => some n
  | _ => none

def items? : Value → Option (List Value)
  | array items => some items
  | _ => none

def properties? : Value → Option (List (String × Value))
  | object properties => some properties
  | _ => none

def function? : Value → Option Function
  | function f => some f
  | _ => none

def class? : Value → Option Class
  | .instance cls _ => some cls
  | _ => none

def entries? : Value → Option (List (String × Value))
  | object properties => some properties
  | .instance _ fields => some fields
  | _ => none

/-- The property of that name, of an object or an instance. Other values have none. -/
def property? (value : Value) (name : String) : Option Value :=
  value.entries?.bind fun entries => entries.lookup name

def typeName : Value → String
  | undefined => "undefined"
  | null => "null"
  | bool _ => "boolean"
  | number _ => "number"
  | string _ => "string"
  | boxedString _ => "String object"
  | boxedNumber _ => "Number object"
  | array _ => "array"
  | object _ => "object"
  | function f => "function " ++ f.name
  | .instance cls _ => cls.name

/-- The first value that is neither undefined nor null, and null when there is none. -/
def firstDefined (candidates : List Value) : Value :=
  (candidates.find? fun value => !value.isUndefined && !value.isNull).getD null

end Value

end TypeAssertion
