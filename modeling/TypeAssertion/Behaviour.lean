import TypeAssertion.Registry
import TypeAssertion.Value.Document

/-!
A stock of simple functions, to be made and combined: answering a constant, an argument or something
of the context, failing, and running another behaviour under a setting of the enforcement switch.
-/

set_option autoImplicit false

namespace TypeAssertion.Behaviour

def constant (value : Value) : Behaviour := fun _ _ => pure value

/-- Answers the argument at a position, and the undefined value when it is missing. -/
def argument (position : Nat) : Behaviour := fun _ arguments =>
  pure (arguments[position]?.getD .undefined)

def arguments : Behaviour := fun _ arguments => pure (.array arguments)

def argumentCount : Behaviour := fun _ arguments =>
  pure (.number (Number.ofNat arguments.length))

def context : Behaviour := fun context _ => pure context

def contextType : Behaviour := fun context _ => pure (.string context.typeName)

/-- Answers twice the first argument, and zero when that is no number. -/
def doubled : Behaviour := fun _ arguments =>
  pure (.number ((arguments.head?.bind Value.number?).elim Number.zero Number.double))

/-- Answers a property of the context, and the undefined value when it is missing. -/
def contextProperty (name : String) : Behaviour := fun context _ =>
  pure ((context.property? name).getD .undefined)

/-- Answers whether the first argument conforms to a descriptor, following the switch. -/
def conformity (descriptor : Descriptor) : Behaviour := fun _ arguments => do
  let enforced ← (isEnforced : Monitored Bool)
  pure (.bool (conforms enforced (arguments.head?.getD .undefined) descriptor))

def failing (failure : Failure) : Behaviour := fun _ _ => throw failure

/-- Sets the switch, leaves it so, and goes on. -/
def setting (enabled : Bool) (next : Behaviour) : Behaviour := fun context arguments => do
  let _ ← (setEnforced enabled : Monitored Bool)
  next context arguments

/-- Runs a behaviour with the switch set, and puts the old setting back. -/
def guarded (enabled : Bool) (body : Behaviour) : Behaviour := fun context arguments =>
  ExceptT.mk (withEnforcement enabled (body context arguments).run)

/-- Runs another behaviour on the same arguments, with a context of its own if one is given. -/
def forwarding (next : Behaviour) (context? : Option Value) : Behaviour := fun context arguments =>
  next (context?.getD context) arguments

end TypeAssertion.Behaviour
