import TypeAssertion.Check

/-!
A stock of membership tests for custom descriptors.
-/

set_option autoImplicit false

namespace TypeAssertion.Matcher

def always (verdict : Bool) : Matcher := fun _ _ => verdict

/-- Accepts even whole numbers, plain or boxed. -/
def even : Matcher := fun _ value => value.number?.any Number.isEven

def notEmpty : Matcher := fun _ value => !value.isEmpty

/-- Accepts what has a property of that name, also an undefined one. -/
def having (name : String) : Matcher := fun _ value => (value.property? name).isSome

/-- Accepts arrays whose items all conform to a descriptor, following the switch. -/
def every (descriptor : Descriptor) : Matcher := fun enforced value =>
  value.items?.any fun items => items.all fun item => conforms enforced item descriptor

def conforming (descriptor : Descriptor) : Matcher := fun enforced value =>
  conforms enforced value descriptor

def equalTo (other : Value) : Matcher := fun _ value => value.equals other

/-- Accepts everything while enforcement is on, and nothing while it is off. -/
def whileEnforced : Matcher := fun enforced _ => enforced

end TypeAssertion.Matcher
