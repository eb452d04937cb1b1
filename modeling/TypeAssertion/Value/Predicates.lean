import TypeAssertion.Number.Rounding
import TypeAssertion.Value

/-!
Membership tests on values. A test looks at the kind of a value and never converts it: a text of
digits is no number, and a boolean is none either.
-/

set_option autoImplicit false

namespace TypeAssertion.Value

/-- The number nearest to an integer. -/
def ofInt (i : Int) : Value := number (Number.ofInt i)

/-- True of the undefined value, of null and of the empty plain string. -/
def isEmpty : Value → Bool
  | undefined => true
  | null => true
  | string text => text.isEmpty
  | _ => false

def isBoolean : Value → Bool
  | bool _ => true
  | _ => false

/-- True of plain and boxed numbers that are numbers. -/
def isNumber (value : Value) : Bool :=
  match value.number? with
  | some n => !n.isNaN
  | none => false

/-- True of plain and boxed strings. -/
def isString (value : Value) : Bool := value.text?.isSome

/-- True of a number between two bounds, ends included. A missing bound leaves its side open. -/
def isInRange (value : Value) (least? most? : Option Number) : Bool :=
  match value.number? with
  | some n =>
    !n.isNaN && !(least?.any fun least => n.isBelow least) &&
      !(most?.any fun most => most.isBelow n)
  | none => false

/-- True of numbers that are zero or greater. -/
def isPositive (value : Value) : Bool := value.isNumber && value.isInRange (some Number.zero) none

def isArray (value : Value) : Bool := value.items?.isSome

/-- True of what has named entries: objects and instances. -/
def isObject (value : Value) : Bool := value.entries?.isSome

def isFunction (value : Value) : Bool := value.function?.isSome

end TypeAssertion.Value
