import TypeAssertion.Failure

/-!
The enforcement switch and the events that are reported while a program runs. While the switch is
off, checks report success unless they are forced. A scope or a guard sets the switch and puts the
old setting back at its end, however the work inside ended. Setting the switch to what it already is
reports nothing.
-/

set_option autoImplicit false

namespace TypeAssertion

/-- What is reported while a program runs. -/
inductive Event where
  | toggled (enabled : Bool)
  | recordTypeBuilt (record : String) (fields : Nat)
  | shieldBuilt (function : String) (least most : Nat) (returns : String)
  | callRejected (function : String) (actual least most : Nat)
  | settingIgnored (value : String)
  deriving DecidableEq

namespace Event

/-- How urgent an event is. -/
inductive Level where
  | trace
  | debug
  | warn
  deriving DecidableEq

def Level.name : Level → String
  | trace => "TRACE"
  | debug => "DEBUG"
  | warn => "WARN"

def level : Event → Level
  | toggled _ => .debug
  | recordTypeBuilt _ _ => .debug
  | shieldBuilt _ _ _ _ => .trace
  | callRejected _ _ _ _ => .debug
  | settingIgnored _ => .warn

def message : Event → String
  | toggled _ => "type enforcement toggled"
  | recordTypeBuilt _ _ => "record type built"
  | shieldBuilt _ _ _ _ => "shield built"
  | callRejected _ _ _ _ => "shielded call rejected"
  | settingIgnored _ => "ignoring unrecognised ENSURE_ENFORCE"

def details : Event → List (String × String)
  | toggled enabled => [("enabled", toString enabled)]
  | recordTypeBuilt record fields => [("record", record), ("fields", toString fields)]
  | shieldBuilt function least most returns =>
    [("function", function), ("min_args", toString least), ("max_args", toString most),
      ("returns", returns)]
  | callRejected function actual least most =>
    [("function", function), ("actual", toString actual), ("min", toString least),
      ("max", toString most)]
  | settingIgnored value => [("value", value)]

end Event

/-- The enforcement switch, and the events reported so far, the oldest first. -/
structure Monitor where
  enforced : Bool
  events : Array Event

/-- The start of a run: enforcement is on and nothing is reported. -/
def Monitor.initial : Monitor := ⟨true, #[]⟩

/-- A computation that may read and set the switch and report events. -/
abbrev Monitored := StateM Monitor

/-- A computation that may also fail. What it did to the switch before failing stays. -/
abbrev Action := ExceptT Failure Monitored

def isEnforced : Monitored Bool := do return (← get).enforced

def report (event : Event) : Monitored Unit :=
  modify fun monitor => { monitor with events := monitor.events.push event }

/-- Sets the switch and gives its former setting. Only a change is reported. -/
def setEnforced (enabled : Bool) : Monitored Bool := do
  let previous ← isEnforced
  if previous != enabled then
    modify fun monitor => { monitor with enforced := enabled }
    report (.toggled enabled)
  return previous

/-- Setting the switch gives its former setting, and reports a change and nothing else. -/
theorem run_setEnforced (enabled : Bool) (monitor : Monitor) :
    (setEnforced enabled).run monitor =
      (monitor.enforced,
        if monitor.enforced = enabled then monitor
        else ⟨enabled, monitor.events.push (.toggled enabled)⟩) := by
  obtain ⟨enforced, events⟩ := monitor
  cases enforced <;> cases enabled <;> rfl

/-- After it is set, the switch has that setting. -/
theorem enforced_setEnforced (enabled : Bool) (monitor : Monitor) :
    ((setEnforced enabled).run monitor).2.enforced = enabled := by
  rw [run_setEnforced]
  by_cases h : monitor.enforced = enabled <;> simp [h]

/-- A guard of the switch: it holds the setting to put back when it is dropped. -/
structure Guard where
  previous : Bool

/-- Sets the switch until the guard is dropped. -/
def Guard.set (enabled : Bool) : Monitored Guard := do return ⟨← setEnforced enabled⟩

/-- Puts back the setting from before the guard. -/
def Guard.drop (guard : Guard) : Monitored Unit := do
  let _ ← setEnforced guard.previous

/-- Runs a computation with the switch set, and puts the old setting back. How the computation
ended, by an answer, a failure or a breakdown, is part of what it gives, so no end escapes. -/
def withEnforcement {α : Type} (enabled : Bool) (body : Monitored α) : Monitored α := do
  let guard ← Guard.set enabled
  let result ← body
  guard.drop
  return result

/-- A scope leaves the switch as it was before, whatever its body does. -/
theorem enforced_withEnforcement {α : Type} (enabled : Bool) (body : Monitored α)
    (monitor : Monitor) :
    ((withEnforcement enabled body).run monitor).2.enforced = monitor.enforced := by
  have previous : ((setEnforced enabled).run monitor).1 = monitor.enforced := by
    rw [run_setEnforced]
  have dropped := enforced_setEnforced ((setEnforced enabled).run monitor).1
    (body.run ((setEnforced enabled).run monitor).2).2
  rw [previous] at dropped
  rw [← dropped, ← previous]
  rfl

def strictly {α : Type} (body : Monitored α) : Monitored α := withEnforcement true body

/-- Where a checker takes its setting from. -/
inductive EnforcementMode where
  | followSwitch
  | enabled
  | disabled
  deriving DecidableEq

namespace EnforcementMode

def ofBool (enabled : Bool) : EnforcementMode := if enabled then .enabled else .disabled

def standard : EnforcementMode := followSwitch

/-- Whether checks are enforced in a mode, while the switch is as given. -/
def resolve (switch : Bool) : EnforcementMode → Bool
  | followSwitch => switch
  | enabled => true
  | disabled => false

end EnforcementMode

end TypeAssertion
