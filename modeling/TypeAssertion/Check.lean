import TypeAssertion.Enforcement
import TypeAssertion.Value.Equality

/-!
The check of a value against a descriptor. A check that is not forced passes unseen while it is not
enforced; otherwise the descriptor decides. A soft check answers with a boolean, a strict or forced
one fails on a mismatch. The setting of the switch is an argument, so a check is a function.
-/

set_option autoImplicit false

namespace TypeAssertion

/-- How a mismatch is reported, and whether the check may be skipped. -/
inductive Strictness where
  | strict
  | soft
  | forced
  deriving DecidableEq

namespace Strictness

/-- Strict when the flag is missing, soft when it is set, and forced when it is explicitly not. -/
def ofSoftFlag : Option Bool → Strictness
  | none => strict
  | some true => soft
  | some false => forced

def isSoft : Strictness → Bool
  | soft => true
  | _ => false

end Strictness

/-- Checks a value in a mode, while the switch is as given. -/
def checkIn (mode : EnforcementMode) (switch : Bool) (value : Value) (descriptor : Descriptor)
    (strictness : Strictness) : Except TypeFailure Bool :=
  if strictness ≠ .forced && !mode.resolve switch then .ok true
  else if descriptor.accepts switch value then .ok true
  else if strictness.isSoft then .ok false
  else .error (.ofMismatch value descriptor)

def ensureIn (mode : EnforcementMode) (switch : Bool) (value : Value) (descriptor : Descriptor) :
    Except TypeFailure Unit :=
  (checkIn mode switch value descriptor .strict).map fun _ => ()

def conformsIn (mode : EnforcementMode) (switch : Bool) (value : Value) (descriptor : Descriptor) :
    Bool :=
  match checkIn mode switch value descriptor .soft with
  | .ok verdict => verdict
  | .error _ => false

def check (switch : Bool) (value : Value) (descriptor : Descriptor) (strictness : Strictness) :
    Except TypeFailure Bool :=
  checkIn .followSwitch switch value descriptor strictness

def ensure (switch : Bool) (value : Value) (descriptor : Descriptor) : Except TypeFailure Unit :=
  ensureIn .followSwitch switch value descriptor

/-- Strict check that runs even while enforcement is off. -/
def ensureForced (switch : Bool) (value : Value) (descriptor : Descriptor) :
    Except TypeFailure Unit :=
  (check switch value descriptor .forced).map fun _ => ()

def conforms (switch : Bool) (value : Value) (descriptor : Descriptor) : Bool :=
  conformsIn .followSwitch switch value descriptor

/-- True when a value equals an item of an array. A haystack that is no array is a type failure
while enforcement is on and holds nothing while it is off. -/
def isIn (switch : Bool) (needle haystack : Value) : Except TypeFailure Bool := do
  ensure switch haystack .array
  return (haystack.items?.getD []).any fun item => item.equals needle

def isNotIn (switch : Bool) (needle haystack : Value) : Except TypeFailure Bool :=
  (isIn switch needle haystack).map (!·)

def liftType {α : Type} : Except TypeFailure α → Except Failure α
  | .ok a => .ok a
  | .error failure => .error (.type failure)

/-- The descriptor that a text stands for; a text that is none breaks a precondition. -/
def Descriptor.parse (text : String) : Except Failure Descriptor :=
  match Descriptor.ofText text with
  | .ok descriptor => .ok descriptor
  | .error cause => .error (.precondition (.descriptorText cause))

/-- The descriptor held by a string, plain or boxed. Other values are a type failure, whatever the
switch. -/
def Descriptor.ofValue (value : Value) : Except Failure Descriptor :=
  match value.text? with
  | some text => Descriptor.parse text
  | none => .error (.type (.ofMismatch value .string))

end TypeAssertion
