import TypeAssertion.Check

/-!
Questions about the properties of a value and about values being there at all. A property counts as
present when an object or an instance has it with a value that is not undefined.
-/

set_option autoImplicit false

namespace TypeAssertion

/-- The present property of a value; a missing one breaks a precondition. -/
def presentProperty (object : Value) (name : String) : Except Precondition Value :=
  if object.isUndefined then .error (.objectUndefined name)
  else
    match object.property? name with
    | some value => if value.isUndefined then .error (.propertyUndefined name) else .ok value
    | none => .error (.propertyUndefined name)

/-- Tests for a property, of a given type if one is given, with a given strictness. A soft test
answers a missing property with `false`, any other fails. -/
def testProperty (switch : Bool) (object : Value) (name : String) (type? : Option Descriptor)
    (strictness : Strictness) : Except Failure Bool :=
  match presentProperty object name with
  | .error cause => if strictness.isSoft then .ok false else .error (.precondition cause)
  | .ok value =>
    match type? with
    | none => .ok true
    | some descriptor => liftType (check switch value descriptor strictness)

/-- Tests softly for a property, or fails without it. The hard test checks the type even while
enforcement is off. -/
def hasProperty (switch : Bool) (object : Value) (name : String) (type? : Option Descriptor)
    (soft : Bool) : Except Failure Bool :=
  testProperty switch object name type? (if soft then .soft else .forced)

def requireKind (switch : Bool) (object : Value) (name : String) (kind : Primitive) :
    Except Failure Unit :=
  (testProperty switch object name (some (.primitive kind)) .strict).map fun _ => ()

def requireFunction (switch : Bool) (object : Value) (name : String) : Except Failure Unit :=
  requireKind switch object name .function

def requireString (switch : Bool) (object : Value) (name : String) : Except Failure Unit :=
  requireKind switch object name .string

def requireNumber (switch : Bool) (object : Value) (name : String) : Except Failure Unit :=
  requireKind switch object name .number

def requireObject (switch : Bool) (object : Value) (name : String) : Except Failure Unit :=
  requireKind switch object name .object

/-- Fails on the undefined value, on null and on the empty plain string. -/
def requireDefined (value : Value) : Except Failure Unit :=
  if value.isEmpty then .error (.precondition .notDefined) else .ok ()

def isConstructed (cls : Class) (context : Value) : Bool := Descriptor.isInstance cls context

/-- Fails unless the context of a call is an instance of a class. -/
def requireConstructed (cls : Class) (context : Value) : Except Failure Unit :=
  if isConstructed cls context then .ok ()
  else .error (.precondition (.notConstructed cls.name context.typeName))

end TypeAssertion
