import TypeAssertion.CommandLine.Invocation
import TypeAssertion.Configuration
import TypeAssertion.Record

/-!
The program as a function: from arguments, an environment text, an input and files to an exit code
and what is written. A check writes `ok` or `mismatch`, a record is written as a document over
several lines. Code 0 means success, 1 a mismatch or a failure, 2 refused arguments.
-/

set_option autoImplicit false

namespace TypeAssertion.CommandLine

abbrev Files := String → Option String

/-- Why a command fails. -/
inductive CommandFailure where
  | descriptor (cause : Failure)
  | invalidInput
  | unreadableFile (path : String)
  | invalidDocument (path : String)
  | schema (cause : Failure)
  | values (cause : Failure)
  | unreadableConfiguration (path : String)
  | invalidConfiguration (path? : Option String)

/-- A failure with the failure of a kind that it holds, each by its message. -/
def failureChain (failure : Failure) : String :=
  match failure with
  | .type cause => failure.message ++ ": " ++ cause.message
  | .arity cause => failure.message ++ ": " ++ cause.message
  | .precondition _ => failure.message

/-- The message of a failed command, from the outside in. -/
def CommandFailure.message : CommandFailure → String
  | descriptor cause => failureChain cause
  | invalidInput => "input is not valid JSON"
  | unreadableFile path => "failed to read " ++ path
  | invalidDocument path => "invalid JSON in " ++ path
  | schema cause => "invalid record schema: " ++ failureChain cause
  | values cause => "values do not fit the record schema: " ++ failureChain cause
  | unreadableConfiguration path => "failed to read config: " ++ path
  | invalidConfiguration none => "invalid ensure configuration"
  | invalidConfiguration (some path) => "in " ++ path ++ ": invalid ensure configuration"

/-! ### Check -/

/-- What a check finds. A mismatch that is not soft has a message. -/
inductive CheckOutcome where
  | matched
  | mismatch (message? : Option String)
  deriving DecidableEq

def evaluate (mode : EnforcementMode) (switch : Bool) (input : String) (descriptor : Descriptor)
    (strictness : Strictness) : Except CommandFailure CheckOutcome :=
  match Json.ofText? input with
  | none => .error .invalidInput
  | some document =>
    .ok <|
      match checkIn mode switch (Value.ofDocument document) descriptor strictness with
      | .ok true => .matched
      | .ok false => .mismatch none
      | .error failure => .mismatch (some failure.message)

/-! ### Record -/

def readDocumentFile (files : Files) (path : String) : Except CommandFailure Json :=
  match files path with
  | none => .error (.unreadableFile path)
  | some text =>
    match Json.ofText? text with
    | none => .error (.invalidDocument path)
    | some document => .ok document

/-- Builds the record of a schema and values. Both files are read before anything is built. -/
def buildRecord (registry : Registry) (files : Files) (request : RecordRequest) :
    Monitored (Except CommandFailure (Record × Registry)) := do
  match readDocumentFile files request.schema, readDocumentFile files request.values with
  | .error failure, _ => return .error failure
  | .ok _, .error failure => return .error failure
  | .ok schema, .ok values =>
    let type ← (RecordType.ofSchema registry request.name (Value.ofDocument schema)).run
    match type with
    | .error failure => return .error (.schema failure)
    | .ok (type, registry) =>
      match Record.constructDocument (← isEnforced) type values with
      | .error failure => return .error (.values failure)
      | .ok record => return .ok (record, registry)

/-! ### Types -/

def typeNames : List String :=
  Descriptor.supported.map fun d => String.ofList (Text.lower d.display.toList)

/-- The list of the built-in descriptors, with a hint on nullable ones. -/
def typesText : String :=
  String.join (typeNames.map fun name => "  " ++ name ++ "\n") ++ "\n" ++
    "Prefix any type with `?` (or wrap it in nullable<...>) to also accept null.\n"

/-! ### Program -/

/-- What surrounds a run: the text of the environment, the standard input and the files. -/
structure Surroundings where
  setting? : Option String
  input : String
  files : Files

/-- What a run leaves: its exit code, its output, and the lines for the user beside it. -/
structure Outcome where
  code : Nat
  output : String
  notes : List String
  deriving DecidableEq

def Outcome.failed (failure : CommandFailure) : Outcome := ⟨1, "", [failure.message]⟩

def loadConfiguration (files : Files) (path : String) : Except CommandFailure Configuration :=
  match files path with
  | none => .error (.unreadableConfiguration path)
  | some text =>
    match Configuration.ofText? text with
    | none => .error (.invalidConfiguration (some path))
    | some configuration => .ok configuration

def parseConfiguration (text : String) : Except CommandFailure Configuration :=
  match Configuration.ofText? text with
  | none => .error (.invalidConfiguration none)
  | some configuration => .ok configuration

def chosenConfiguration (files : Files) : Option String →
    Except CommandFailure (Option Configuration)
  | none => .ok none
  | some path => (loadConfiguration files path).map some

def runCheck (switch : Bool) (input : String) (request : CheckRequest) : Outcome :=
  match Descriptor.parse request.descriptor with
  | .error failure => .failed (.descriptor failure)
  | .ok descriptor =>
    let text := if request.input = "-" then input else request.input
    match evaluate .followSwitch switch text descriptor request.strictness with
    | .error failure => .failed failure
    | .ok .matched => ⟨0, "ok\n", []⟩
    | .ok (.mismatch message?) => ⟨1, "mismatch\n", message?.toList⟩

def runRecord (files : Files) (request : RecordRequest) : Monitored Outcome := do
  match ← buildRecord .initial files request with
  | .error failure => return .failed failure
  | .ok (record, _) => return ⟨0, record.document.pretty ++ "\n", []⟩

/-- Carries out an invocation. The configuration is settled before the command is looked at. -/
def perform (surroundings : Surroundings) (invocation : Invocation) : Monitored Outcome := do
  match chosenConfiguration surroundings.files invocation.configuration? with
  | .error failure => return .failed failure
  | .ok configuration? =>
    let enforced ←
      Configuration.resolve configuration? surroundings.setting? invocation.turnedOff
    let _ ← setEnforced enforced
    match invocation.command with
    | .check request => return runCheck (← isEnforced) surroundings.input request
    | .record request => runRecord surroundings.files request
    | .types => return ⟨0, typesText, []⟩

def versionText : String := "ensure 0.1.0\n"

def helpText : String :=
  "Runtime type assertions for JSON values\n\n" ++
    "Usage: ensure [OPTIONS] <COMMAND>\n\n" ++
    "Commands:\n" ++
    "  check   Check a JSON value against a type descriptor\n" ++
    "  record  Build a record from a schema file and a values file\n" ++
    "  types   List the supported type descriptors\n"

def stopped : Stop → Outcome
  | .version => ⟨0, versionText, []⟩
  | .help => ⟨0, helpText, []⟩
  | .misuse cause => ⟨2, "", ["error: " ++ cause.message]⟩

def wantedPaths (arguments : List String) : List String :=
  match readInvocation arguments with
  | .error _ => []
  | .ok invocation =>
    invocation.configuration?.toList ++
      match invocation.command with
      | .record request => [request.schema, request.values]
      | _ => []

def wantsInput (arguments : List String) : Bool :=
  match readInvocation arguments with
  | .ok ⟨_, _, _, .check request⟩ => request.input == "-"
  | _ => false

def run (surroundings : Surroundings) (arguments : List String) : Outcome :=
  match readInvocation arguments with
  | .error stop => stopped stop
  | .ok invocation => ((perform surroundings invocation).run .initial).1

end TypeAssertion.CommandLine
