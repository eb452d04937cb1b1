import TypeAssertion.Descriptor.Text

/-!
What can go wrong, by cause, and the message of each cause. A failure is a value of the wrong type,
a call with the wrong number of arguments or an unexpected answer, or a precondition that does not
hold.
-/

set_option autoImplicit false

namespace TypeAssertion

/-- A value was of the wrong type. The wording, when given, replaces the derived message. -/
structure TypeFailure where
  expected : Descriptor
  provided : Option String
  wording : Option String

namespace TypeFailure

def ofMismatch (value : Value) (expected : Descriptor) : TypeFailure :=
  ⟨expected, some value.typeName, none⟩

/-- The message that names the expected type and the observed one, when it is known. -/
def derivedMessage (failure : TypeFailure) : String :=
  match failure.provided with
  | some observed => "invalid type: " ++ observed ++ ", expected " ++ failure.expected.display
  | none => "invalid type, expected " ++ failure.expected.display

def message (failure : TypeFailure) : String := failure.wording.getD failure.derivedMessage

end TypeFailure

/-- A call broke the contract on its argument count or on answering nothing. -/
inductive ArityFailure where
  | argumentCount (least most actual : Nat)
  | unexpectedReturn (observed : String)

def ArityFailure.message : ArityFailure → String
  | argumentCount least most actual =>
    "invalid argument count: expected " ++ toString least ++ "..=" ++ toString most ++ ", got " ++
      toString actual
  | unexpectedReturn observed =>
    "function returned a value when nothing was expected (got " ++ observed ++ ")"

/-- The preconditions that can fail. -/
inductive Precondition where
  | descriptorText (cause : Descriptor.TextError)
  | objectUndefined (property : String)
  | propertyUndefined (property : String)
  | notDefined
  | notConstructed (cls : String) (observed : String)
  | unknownField (record : String) (field : String)
  | notCallable
  | requiredAfterOptional (position : Nat)
  | stated (reason : String)

def Precondition.message : Precondition → String
  | descriptorText cause => cause.message
  | objectUndefined property =>
    "expected object to have property " ++ Text.quoted property ++ " but the object is undefined"
  | propertyUndefined property =>
    "expected object to have property " ++ Text.quoted property ++ " but it is undefined"
  | notDefined => "expected a defined variable, got null, undefined, or empty string"
  | notConstructed cls observed =>
    "expected to be called on an instance of " ++ cls ++ ", got " ++ observed
  | unknownField record field => "record " ++ record ++ " has no field " ++ Text.quoted field
  | notCallable => "shield needs a callable function"
  | requiredAfterOptional position =>
    "argument " ++ toString position ++ " is required but follows an optional argument"
  | stated reason => reason

/-- A failure of any kind. -/
inductive Failure where
  | type (cause : TypeFailure)
  | arity (cause : ArityFailure)
  | precondition (cause : Precondition)

def Failure.message : Failure → String
  | type cause => "type failure: " ++ cause.message
  | arity cause => "arity error: " ++ cause.message
  | precondition cause => "precondition failed: " ++ cause.message

end TypeAssertion
