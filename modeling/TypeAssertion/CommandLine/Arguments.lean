/-!
The arguments of a command. Options have long names and some have letters; a value follows its
option or is joined to it by an equals sign. Every option but a counter is given at most once on
its level, and names are never shortened. After `--` all arguments are words. What starts with a
dash, a lone dash apart, is never taken for a value or a word before that.
-/

set_option autoImplicit false

namespace TypeAssertion.CommandLine

/-- Why arguments are refused. -/
inductive Misuse where
  | unknownOption (text : String)
  | missingValue (option : String)
  | unwantedValue (option : String)
  | emptyValue (option : String)
  | repeatedOption (option : String)
  | conflictingOptions (first second : String)
  | surplusWord (text : String)
  | missingArgument (name : String)
  | missingCommand
  deriving DecidableEq

def Misuse.message : Misuse → String
  | unknownOption text => "unexpected argument '" ++ text ++ "'"
  | missingValue option => "a value is required for '--" ++ option ++ "'"
  | unwantedValue option => "no value is allowed for '--" ++ option ++ "'"
  | emptyValue option => "an empty value is not allowed for '--" ++ option ++ "'"
  | repeatedOption option => "the argument '--" ++ option ++ "' cannot be used multiple times"
  | conflictingOptions first second =>
    "the argument '--" ++ first ++ "' cannot be used with '--" ++ second ++ "'"
  | surplusWord text => "unexpected argument '" ++ text ++ "'"
  | missingArgument name => "a required argument is missing: " ++ name
  | missingCommand => "a command is required"

/-- Why no command is run: the version or the help is asked for, or the arguments are refused. -/
inductive Stop where
  | version
  | help
  | misuse (cause : Misuse)
  deriving DecidableEq

/-- What an option does. A path must not be empty. -/
inductive OptionKind where
  | flag
  | counter
  | text
  | path
  | version
  | help
  deriving DecidableEq

/-- An option: its long name, its letter if it has one, and what it does. -/
structure OptionForm where
  name : String
  letter? : Option Char
  kind : OptionKind

/-- What was given on one level of arguments. -/
structure Given where
  values : List (String × String)
  flags : List String
  count : Nat
  words : List String

namespace Given

def nothing : Given := ⟨[], [], 0, []⟩

def value? (given : Given) (name : String) : Option String := given.values.lookup name

def has (given : Given) (name : String) : Bool := given.flags.contains name

def addValue (given : Given) (form : OptionForm) (value : String) : Except Stop Given :=
  if (given.value? form.name).isSome then .error (.misuse (.repeatedOption form.name))
  else if form.kind = .path && value.isEmpty then .error (.misuse (.emptyValue form.name))
  else .ok { given with values := given.values ++ [(form.name, value)] }

def addPlain (given : Given) (form : OptionForm) : Except Stop Given :=
  match form.kind with
  | .version => .error .version
  | .help => .error .help
  | .counter => .ok { given with count := given.count + 1 }
  | .flag =>
    if given.has form.name then .error (.misuse (.repeatedOption form.name))
    else .ok { given with flags := given.flags ++ [form.name] }
  | .text | .path => .error (.misuse (.missingValue form.name))

/-- Adds a word, of which there may be only so many. -/
def addWord (most : Nat) (given : Given) (word : String) : Except Stop Given :=
  if given.words.length < most then .ok { given with words := given.words ++ [word] }
  else .error (.misuse (.surplusWord word))

def addWords (most : Nat) : Given → List String → Except Stop Given
  | given, [] => .ok given
  | given, word :: rest =>
    match given.addWord most word with
    | .ok given => addWords most given rest
    | .error stop => .error stop

def addLetters (forms : List OptionForm) : Given → List Char → Except Stop Given
  | given, [] => .ok given
  | given, letter :: rest =>
    match forms.find? fun form => form.letter? == some letter with
    | none => .error (.misuse (.unknownOption (String.ofList ['-', letter])))
    | some form =>
      match given.addPlain form with
      | .ok given => addLetters forms given rest
      | .error stop => .error stop

end Given

/-- How an argument is spelled: a long option with its joined value, a run of letters, or a word. -/
inductive Spelling where
  | long (name : String) (joined? : Option String)
  | letters (run : List Char)
  | word

/-- The spelling of an argument other than `--`. -/
def spelling (argument : String) : Spelling :=
  match argument.toList with
  | '-' :: '-' :: rest =>
    let name := rest.takeWhile (· != '=')
    match rest.dropWhile (· != '=') with
    | [] => .long (String.ofList name) none
    | _ :: value => .long (String.ofList name) (some (String.ofList value))
  | '-' :: letter :: rest => .letters (letter :: rest)
  | _ => .word

/-- True of what starts with a dash, a lone dash apart. -/
def looksLikeOption (argument : String) : Bool :=
  match argument.toList with
  | '-' :: _ :: _ => true
  | _ => false

/-- What a long option asks for: a value that is still to come, or nothing more. -/
def readLong (forms : List OptionForm) (given : Given) (name : String) (joined? : Option String) :
    Except Stop (Option OptionForm × Given) :=
  match forms.find? fun form => form.name == name with
  | none => .error (.misuse (.unknownOption ("--" ++ name)))
  | some form =>
    match decide (form.kind = .text ∨ form.kind = .path), joined? with
    | true, some value => (given.addValue form value).map fun given => (none, given)
    | true, none => .ok (some form, given)
    | false, some _ => .error (.misuse (.unwantedValue name))
    | false, none => (given.addPlain form).map fun given => (none, given)

/-- Reads one argument other than `--` and the name of a command. -/
def readArgument (forms : List OptionForm) (mostWords : Nat) (given : Given) (argument : String) :
    Except Stop (Option OptionForm × Given) :=
  match spelling argument with
  | .word => (given.addWord mostWords argument).map fun given => (none, given)
  | .letters run => (given.addLetters forms run).map fun given => (none, given)
  | .long name joined? => readLong forms given name joined?

/-- Reads the arguments of one level, up to the name of a command: what was given, and the command
with the arguments after it. An option may be waiting for its value. -/
def readLevel (forms : List OptionForm) (commands : List String) (mostWords : Nat) :
    Option OptionForm → Given → List String →
      Except Stop (Given × Option (String × List String))
  | none, given, [] => .ok (given, none)
  | some form, _, [] => .error (.misuse (.missingValue form.name))
  | some form, given, value :: rest =>
    if looksLikeOption value then .error (.misuse (.missingValue form.name))
    else
      match given.addValue form value with
      | .ok given => readLevel forms commands mostWords none given rest
      | .error stop => .error stop
  | none, given, argument :: rest =>
    if commands.contains argument then .ok (given, some (argument, rest))
    else if argument = "--" then
      (given.addWords mostWords rest).map fun given => (given, none)
    else
      match readArgument forms mostWords given argument with
      | .ok (waiting?, given) => readLevel forms commands mostWords waiting? given rest
      | .error stop => .error stop

end TypeAssertion.CommandLine
