import TypeAssertion.Value.Predicates

/-!
Descriptors: what a value should be, as data. A primitive descriptor names one of six kinds, the
absent one accepts only the undefined value, a nullable one accepts null and all that its inner one
accepts. A custom descriptor has a membership test of its own, which may also look at the
enforcement switch; a class descriptor accepts the instances of a class.
-/

set_option autoImplicit false

namespace TypeAssertion

/-- The six built-in kinds of value. -/
inductive Primitive where
  | string
  | boolean
  | number
  | array
  | object
  | function
  deriving DecidableEq

namespace Primitive

def all : List Primitive := [string, boolean, number, array, object, function]

def name : Primitive → String
  | string => "String"
  | boolean => "Boolean"
  | number => "Number"
  | array => "Array"
  | object => "Object"
  | function => "Function"

def accepts : Primitive → Value → Bool
  | string, value => value.isString
  | boolean, value => value.isBoolean
  | number, value => value.isNumber
  | array, value => value.isArray
  | object, value => value.isObject
  | function, value => value.isFunction

end Primitive

/-- A membership test on values, which is also told whether enforcement is on. -/
abbrev Matcher := Bool → Value → Bool

/-- What a value should be. A custom descriptor is identified by its number. -/
inductive Descriptor where
  | primitive (kind : Primitive)
  | absent
  | nullable (inner : Descriptor)
  | custom (id : Nat) (name : String) (test : Matcher)
  | instanceOf (cls : Class)

namespace Descriptor

abbrev string : Descriptor := primitive .string

abbrev boolean : Descriptor := primitive .boolean

abbrev number : Descriptor := primitive .number

abbrev array : Descriptor := primitive .array

abbrev object : Descriptor := primitive .object

abbrev function : Descriptor := primitive .function

def isNullable : Descriptor → Bool
  | nullable _ => true
  | _ => false

def isAbsent : Descriptor → Bool
  | absent => true
  | _ => false

def class? : Descriptor → Option Class
  | instanceOf cls => some cls
  | _ => none

def underLayers (inner : Descriptor) : Nat → Descriptor
  | 0 => inner
  | layers + 1 => nullable (underLayers inner layers)

/-- True of the instances of a class and of the classes that inherit from it. -/
def isInstance (cls : Class) (value : Value) : Bool :=
  match value.class? with
  | some observed => observed.inheritsFrom cls
  | none => false

/-- True of the values that a descriptor accepts while the enforcement switch is as given. Only
custom tests look at the switch. -/
def accepts (enforced : Bool) : Descriptor → Value → Bool
  | primitive kind, value => kind.accepts value
  | absent, value => value.isUndefined
  | nullable inner, value => value.isNull || accepts enforced inner value
  | custom _ _ test, value => test enforced value
  | instanceOf cls, value => isInstance cls value

/-- True when two descriptors are equal: custom ones when they are the same descriptor, class
descriptors when they have the same class. -/
def equals : Descriptor → Descriptor → Bool
  | primitive a, primitive b => a == b
  | absent, absent => true
  | nullable a, nullable b => equals a b
  | custom a _ _, custom b _ _ => a == b
  | instanceOf a, instanceOf b => a.same b
  | _, _ => false

/-- The built-in descriptors in the order in which they are listed. -/
def supported : List Descriptor := Primitive.all.map primitive ++ [absent]

end Descriptor

end TypeAssertion
