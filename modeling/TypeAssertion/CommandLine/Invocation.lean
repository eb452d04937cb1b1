import TypeAssertion.Check
import TypeAssertion.CommandLine.Arguments

/-!
The commands of the program and what their arguments mean. The options that stand for the whole
program may be given before the command and after it; what is given after it goes first.
-/

set_option autoImplicit false

namespace TypeAssertion.CommandLine

/-- The arguments of a check: the text of a descriptor, two flags, and the document or a dash. -/
structure CheckRequest where
  descriptor : String
  soft : Bool
  force : Bool
  input : String
  deriving DecidableEq

def CheckRequest.strictness (request : CheckRequest) : Strictness :=
  if request.soft then .soft else if request.force then .forced else .strict

/-- The arguments of a record: the paths of a schema and of the values, and the name of the type. -/
structure RecordRequest where
  schema : String
  values : String
  name : String
  deriving DecidableEq

/-- A command with its arguments. -/
inductive Command where
  | check (request : CheckRequest)
  | record (request : RecordRequest)
  | types
  deriving DecidableEq

/-- A whole invocation. -/
structure Invocation where
  verbosity : Nat
  configuration? : Option String
  turnedOff : Bool
  command : Command
  deriving DecidableEq

def sharedForms : List OptionForm :=
  [⟨"verbose", some 'v', .counter⟩, ⟨"config", none, .path⟩, ⟨"no-enforce", none, .flag⟩,
    ⟨"help", some 'h', .help⟩]

def topForms : List OptionForm := sharedForms ++ [⟨"version", some 'V', .version⟩]

def checkForms : List OptionForm :=
  sharedForms ++ [⟨"type", none, .text⟩, ⟨"soft", none, .flag⟩, ⟨"force", none, .flag⟩]

def recordForms : List OptionForm :=
  sharedForms ++ [⟨"schema", none, .path⟩, ⟨"values", none, .path⟩, ⟨"name", none, .text⟩]

def commandNames : List String := ["check", "record", "types", "help"]

def Given.require (given : Given) (name : String) : Except Stop String :=
  match given.value? name with
  | some value => .ok value
  | none => .error (.misuse (.missingArgument name))

def readCheck (arguments : List String) : Except Stop (Given × Command) := do
  let (given, _) ← readLevel checkForms [] 1 none .nothing arguments
  if given.has "soft" && given.has "force" then
    throw (.misuse (.conflictingOptions "soft" "force"))
  let descriptor ← given.require "type"
  match given.words.head? with
  | some input => return (given, .check ⟨descriptor, given.has "soft", given.has "force", input⟩)
  | none => throw (.misuse (.missingArgument "input"))

def readRecord (arguments : List String) : Except Stop (Given × Command) := do
  let (given, _) ← readLevel recordForms [] 0 none .nothing arguments
  let schema ← given.require "schema"
  let values ← given.require "values"
  return (given, .record ⟨schema, values, (given.value? "name").getD "Record"⟩)

def readTypes (arguments : List String) : Except Stop (Given × Command) := do
  let (given, _) ← readLevel sharedForms [] 0 none .nothing arguments
  return (given, .types)

/-- The arguments of the help: at most the name of a command. -/
def readHelp : List String → Stop
  | [] => .help
  | [name] => if commandNames.contains name then .help else .misuse (.surplusWord name)
  | _ :: name :: _ => .misuse (.surplusWord name)

def readCommand (name : String) (arguments : List String) : Except Stop (Given × Command) :=
  if name = "check" then readCheck arguments
  else if name = "record" then readRecord arguments
  else if name = "types" then readTypes arguments
  else .error (readHelp arguments)

def readInvocation (arguments : List String) : Except Stop Invocation := do
  let (top, command?) ← readLevel topForms commandNames 0 none .nothing arguments
  match command? with
  | none => throw (.misuse .missingCommand)
  | some (name, rest) =>
    let (given, command) ← readCommand name rest
    return {
      verbosity := if given.count = 0 then top.count else given.count
      configuration? := (given.value? "config").or (top.value? "config")
      turnedOff := given.has "no-enforce" || top.has "no-enforce"
      command := command }

end TypeAssertion.CommandLine
