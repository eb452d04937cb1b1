import TypeAssertion.Check

/-!
The registry hands out the numbers that identify classes, custom descriptors and functions, so that
no two of a kind share one, and keeps what each function does when it is called. Function `n` does
what stands at position `n`; behaviours are only ever added.
-/

set_option autoImplicit false

namespace TypeAssertion

/-- What a function does when it is called with a context and arguments. -/
abbrev Behaviour := Value → List Value → Action Value

/-- What has been made so far: how many classes and custom descriptors, and the functions. -/
structure Registry where
  classCount : Nat
  customCount : Nat
  behaviours : Array Behaviour

namespace Registry

/-- The registry at the start: it knows only the class that record types extend. -/
def initial : Registry := ⟨1, 0, #[]⟩

def makeClass (registry : Registry) (name : String) (parent? : Option Class) : Class × Registry :=
  let id := registry.classCount
  let cls := match parent? with
    | some parent => .extend parent id name
    | none => .root id name
  (cls, { registry with classCount := id + 1 })

def makeCustom (registry : Registry) (name : String) (test : Matcher) : Descriptor × Registry :=
  let id := registry.customCount
  (.custom id name test, { registry with customCount := id + 1 })

def makeFunction (registry : Registry) (name : String) (behaviour : Behaviour) :
    Function × Registry :=
  (⟨registry.behaviours.size, name⟩,
    { registry with behaviours := registry.behaviours.push behaviour })

/-- What a function does; one that was never made answers the undefined value. -/
def behaviour (registry : Registry) (f : Function) : Behaviour :=
  match registry.behaviours[f.id]? with
  | some behaviour => behaviour
  | none => fun _ _ => pure .undefined

/-- A new function has the behaviour it was made with. -/
theorem behaviour_makeFunction (registry : Registry) (name : String) (behaviour : Behaviour) :
    (registry.makeFunction name behaviour).2.behaviour (registry.makeFunction name behaviour).1 =
      behaviour := by
  simp [makeFunction, Registry.behaviour]

end Registry

def callFunction (registry : Registry) (f : Function) (context : Value) (arguments : List Value) :
    Action Value :=
  registry.behaviour f context arguments

end TypeAssertion
