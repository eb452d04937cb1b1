import TypeAssertion.Registry

/-!
Shields around functions. A shielded call is checked three times: the number of arguments, always;
each argument against its descriptor, following the switch; the answer against the return
descriptor. A function that is to return nothing has to answer undefined, whatever the switch.

The optional arguments are those with nullable descriptors; they stand after all others.
-/

set_option autoImplicit false

namespace TypeAssertion

/-- A function under a contract. -/
structure Shield where
  arguments : List Descriptor
  returns : Descriptor
  function : Function
  behaviour : Behaviour
  bound? : Option Value
  least : Nat

namespace Shield

/-- How many arguments have to be given: those before the first optional one. An argument after it
that is not optional breaks a precondition. -/
def requiredCount (arguments : List Descriptor) : Except Failure Nat :=
  let required := (arguments.takeWhile fun d => !d.isNullable).length
  match (arguments.drop required).findIdx? fun d => !d.isNullable with
  | some position => .error (.precondition (.requiredAfterOptional (required + position)))
  | none => .ok required

def most (shield : Shield) : Nat := shield.arguments.length

/-- Decides a shield, without reporting it. -/
def assemble (switch : Bool) (registry : Registry) (arguments : List Descriptor)
    (returns : Descriptor) (function : Value) (bound? : Option Value) : Except Failure Shield := do
  liftType (ensure switch function .function)
  match function.function? with
  | none => .error (.precondition .notCallable)
  | some f =>
    let least ← requiredCount arguments
    return ⟨arguments, returns, f, registry.behaviour f, bound?, least⟩

def built (shield : Shield) : Event :=
  .shieldBuilt shield.function.name shield.least shield.most shield.returns.display

def make (registry : Registry) (arguments : List Descriptor) (returns : Descriptor)
    (function : Value) (bound? : Option Value) : Action Shield := do
  let enforced ← (isEnforced : Monitored Bool)
  match assemble enforced registry arguments returns function bound? with
  | .error failure => throw failure
  | .ok shield =>
    (report shield.built : Monitored Unit)
    return shield

/-- The descriptors held by a list of values, in their order; the first bad value fails. -/
def readDescriptors : List Value → Except Failure (List Descriptor)
  | [] => .ok []
  | text :: rest => do
    let descriptor ← Descriptor.ofValue text
    let others ← readDescriptors rest
    return descriptor :: others

/-- The descriptors that values give for the arguments and the answer of a shield. -/
def readContract (switch : Bool) (arguments returns : Value) :
    Except Failure (List Descriptor × Descriptor) := do
  liftType (ensure switch arguments .array)
  let arguments ← readDescriptors (arguments.items?.getD [])
  let returns ← Descriptor.ofValue returns
  return (arguments, returns)

/-- Puts a shield around a function, with descriptors given as values. -/
def ofValues (registry : Registry) (arguments returns function : Value) (bound? : Option Value) :
    Action Shield := do
  let enforced ← (isEnforced : Monitored Bool)
  match readContract enforced arguments returns with
  | .error failure => throw failure
  | .ok (arguments, returns) => make registry arguments returns function bound?

/-- Checks arguments against the descriptors in their positions; the first mismatch fails. -/
def checkArguments (switch : Bool) : List Value → List Descriptor → Except TypeFailure Unit
  | argument :: arguments, descriptor :: descriptors =>
    match ensure switch argument descriptor with
    | .ok () => checkArguments switch arguments descriptors
    | .error failure => .error failure
  | _, _ => .ok ()

/-- Checks the answer of a function against the return descriptor. -/
def checkAnswer (switch : Bool) (returns : Descriptor) (answer : Value) : Except Failure Unit :=
  if returns.isAbsent then
    if answer.isUndefined then .ok ()
    else .error (.arity (.unexpectedReturn answer.typeName))
  else liftType (ensure switch answer returns)

/-- True when a number of arguments is within the bounds of a shield. -/
def admits (shield : Shield) (count : Nat) : Bool :=
  decide (shield.least ≤ count) && decide (count ≤ shield.most)

/-- Reports and refuses a call with a number of arguments out of bounds. -/
def reject (shield : Shield) (count : Nat) : Action Value := do
  (report (.callRejected shield.function.name count shield.least shield.most) : Monitored Unit)
  throw (.arity (.argumentCount shield.least shield.most count))

/-- Runs the function of a shield and checks its answer, following the switch as the function
leaves it. A context bound to the shield goes before that of the caller. -/
def invoke (shield : Shield) (context : Value) (arguments : List Value) : Action Value := do
  let answer ← shield.behaviour (shield.bound?.getD context) arguments
  let enforced ← (isEnforced : Monitored Bool)
  match checkAnswer enforced shield.returns answer with
  | .error failure => throw failure
  | .ok () => return answer

/-- Calls the function of a shield: the number of arguments is checked first, then each argument,
then the function runs. -/
def call (shield : Shield) (context : Value) (arguments : List Value) : Action Value := do
  if shield.admits arguments.length then
    let enforced ← (isEnforced : Monitored Bool)
    match checkArguments enforced arguments shield.arguments with
    | .error failure => throw (.type failure)
    | .ok () => shield.invoke context arguments
  else shield.reject arguments.length

/-- What a shielded call gives and leaves, as a function of the switch and the events before it. -/
theorem run_call (shield : Shield) (context : Value) (arguments : List Value) (monitor : Monitor) :
    (shield.call context arguments).run.run monitor =
      if shield.admits arguments.length then
        match checkArguments monitor.enforced arguments shield.arguments with
        | .error failure => (.error (.type failure), monitor)
        | .ok () =>
          match (shield.behaviour (shield.bound?.getD context) arguments).run.run monitor with
          | (.error failure, left) => (.error failure, left)
          | (.ok answer, left) =>
            match checkAnswer left.enforced shield.returns answer with
            | .error failure => (.error failure, left)
            | .ok () => (.ok answer, left)
      else
        (.error (.arity (.argumentCount shield.least shield.most arguments.length)),
          ⟨monitor.enforced, monitor.events.push
            (.callRejected shield.function.name arguments.length shield.least shield.most)⟩) := by
  unfold call
  split
  · change (match checkArguments monitor.enforced arguments shield.arguments with
      | .error failure => (throw (Failure.type failure) : Action Value)
      | .ok () => shield.invoke context arguments).run.run monitor = _
    cases checkArguments monitor.enforced arguments shield.arguments with
    | error failure => rfl
    | ok _ =>
      unfold invoke
      simp only [ExceptT.run_bind, StateT.run_bind]
      rcases (shield.behaviour (shield.bound?.getD context) arguments).run.run monitor with
        ⟨failure | answer, left⟩
      · rfl
      · change (match checkAnswer left.enforced shield.returns answer with
          | .error failure => (throw failure : Action Value)
          | .ok () => return answer).run.run left = _
        dsimp only
        cases checkAnswer left.enforced shield.returns answer <;> rfl
  · rfl

def toFunction (shield : Shield) (registry : Registry) : Function × Registry :=
  registry.makeFunction shield.function.name shield.call

end Shield

/-- Puts a shield around a function and gives the function whose calls go through it. -/
def shieldFunction (registry : Registry) (arguments : List Descriptor) (returns : Descriptor)
    (function : Value) (bound? : Option Value) : Action (Function × Registry) := do
  let shield ← Shield.make registry arguments returns function bound?
  return shield.toFunction registry

end TypeAssertion
