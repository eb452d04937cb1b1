import TypeAssertion.Record
import TypeAssertion.Slot
import TypeAssertion.Proofs.Session.Question
import TypeAssertion.Proofs.Shield.Call

/-!
Bodies of code that work the enforcement switch, and what happens while one runs. A body sets the
switch, makes guards and drops them, opens scopes, calls shields whose functions are bodies again,
and asks the engine for anything else. It ends by an answer, which may be an error, or by a panic.

A run is told twice: `Code.run` carries the body out, and `Code.trace` lists its moments, each with
the state of the switch before and after it. The moments join up to the run (`path_trace`).
-/

set_option autoImplicit false

namespace TypeAssertion

namespace Enforcement

/-- How a body ends. An error is an answer like any other. -/
inductive Ending (α : Type) where
  | returned (answer : α)
  | panicked

/-- What the engine does without running code that is given to it, by the type of the answer. -/
inductive Service : Type → Type 1
  | readSwitch : Service Bool
  | ask {α : Type} (question : Session.Question α) : Service α
  | makeSlot (descriptor : Descriptor) (initial? : Option Value) :
      Service (Except TypeFailure Slot)
  | writeSlot (slot : Slot) (value : Value) : Service (Except TypeFailure Slot)
  | makeType (registry : Registry) (name : String) (spec : RecordSpec) :
      Service (RecordType × Registry)
  | readType (registry : Registry) (name : String) (schema : Value) :
      Service (Except Failure (RecordType × Registry))
  | construct (type : RecordType) (values : Value) : Service (Except Failure Record)
  | setField (record : Record) (field : String) (value : Value) : Service (Except Failure Record)
  | makeShield (registry : Registry) (arguments : List Descriptor) (returns : Descriptor)
      (function : Value) (bound? : Option Value) : Service (Except Failure Shield)
  | readShield (registry : Registry) (arguments returns function : Value)
      (bound? : Option Value) : Service (Except Failure Shield)

/-- Carries out a service. -/
def Service.run : {α : Type} → Service α → Monitored α
  | _, readSwitch => isEnforced
  | _, ask question => return question.answer (← isEnforced)
  | _, makeSlot descriptor initial? => return Slot.make (← isEnforced) descriptor initial?
  | _, writeSlot slot value => return slot.write (← isEnforced) value
  | _, makeType registry name spec => RecordType.make registry name spec
  | _, readType registry name schema => (RecordType.ofSchema registry name schema).run
  | _, construct type values => return Record.construct (← isEnforced) type values
  | _, setField record field value => return record.set (← isEnforced) field value
  | _, makeShield registry arguments returns function bound? =>
    (Shield.make registry arguments returns function bound?).run
  | _, readShield registry arguments returns function bound? =>
    (Shield.ofValues registry arguments returns function bound?).run

/-- A body of code, as it goes on from each answer. A guard that it makes is its own until it is
dropped, or released to whoever adopts it; places count its own guards from the latest. A panic in a
part ends the body too, unless the part is an attempt. Every run is finite. -/
inductive Code : Type → Type 1
  | finish {α : Type} (answer : α) : Code α
  | panic {α : Type} : Code α
  | serve {α β : Type} (service : Service β) (next : β → Code α) : Code α
  | setSwitch {α : Type} (enabled : Bool) (next : Bool → Code α) : Code α
  | makeGuard {α : Type} (enabled : Bool) (next : Guard → Code α) : Code α
  | dropGuard {α : Type} (place : Nat) (next : Code α) : Code α
  | release {α : Type} (place : Nat) (next : Option Guard → Code α) : Code α
  | adopt {α : Type} (guard : Guard) (next : Code α) : Code α
  | scope {α β : Type} (enabled : Bool) (body : Code β) (next : β → Code α) : Code α
  | strictScope {α β : Type} (body : Code β) (next : β → Code α) : Code α
  | attempt {α β : Type} (body : Code β) (next : Ending β → Code α) : Code α
  | callShield {α : Type} (shield : Shield)
      (function : Value → List Value → Code (Except Failure Value)) (context : Value)
      (arguments : List Value) (next : Except Failure Value → Code α) : Code α

/-! ### Runs -/

/-- Drops guards, in the order of the list. -/
def dropAll : List Guard → Monitored Unit
  | [] => pure ()
  | guard :: rest => do
    guard.drop
    dropAll rest

/-- Ends a body: the guards that it still has are dropped, the latest first. -/
def leave {α : Type} (own : List Guard) (ending : Ending α) : Monitored (Ending α) := do
  dropAll own
  return ending

/-- Goes on from the answer of a part of a body. If the part panicked, so does the body. -/
def Ending.goOn {α β : Type} (own : List Guard) (next : β → Monitored (Ending α)) :
    Ending β → Monitored (Ending α)
  | returned answer => next answer
  | panicked => leave own panicked

/-- What a call takes for the outcome of a function. After a panic a call does what it does after a
failure: it checks nothing more. -/
def Ending.outcome : Ending (Except Failure Value) → Except Failure Value
  | returned outcome => outcome
  | panicked => .error (.precondition (.stated "panic"))

/-- The shield with another function. -/
def around (shield : Shield)
    (function : Value → List Value → Monitored (Ending (Except Failure Value))) : Shield :=
  { shield with
    behaviour := fun context arguments => ExceptT.mk (Ending.outcome <$> function context arguments) }

/-- Calls the shield with another function. The call panics if the function runs and panics. -/
def callAround (shield : Shield)
    (function : Value → List Value → Monitored (Ending (Except Failure Value))) (context : Value)
    (arguments : List Value) : Monitored (Ending (Except Failure Value)) := fun monitor =>
  let called := ((around shield function).call context arguments).run.run monitor
  let ran := (function (shield.bound?.getD context) arguments).run monitor
  match shield.refusal? monitor.enforced arguments, ran.1 with
  | none, .panicked => (.panicked, called.2)
  | _, _ => (.returned called.1, called.2)

/-- Runs a body that has some guards of its own. -/
def Code.run : {α : Type} → Code α → List Guard → Monitored (Ending α)
  | _, finish answer, own => leave own (.returned answer)
  | _, panic, own => leave own .panicked
  | _, serve service next, own => do
    let answer ← service.run
    (next answer).run own
  | _, setSwitch enabled next, own => do
    let previous ← setEnforced enabled
    (next previous).run own
  | _, makeGuard enabled next, own => do
    let guard ← Guard.set enabled
    (next guard).run (guard :: own)
  | _, dropGuard place next, own => do
    dropAll own[place]?.toList
    next.run (own.eraseIdx place)
  | _, release place next, own => (next own[place]?).run (own.eraseIdx place)
  | _, adopt guard next, own => next.run (guard :: own)
  | _, scope enabled body next, own => do
    let ending ← withEnforcement enabled (body.run [])
    ending.goOn own fun answer => (next answer).run own
  | _, strictScope body next, own => do
    let ending ← strictly (body.run [])
    ending.goOn own fun answer => (next answer).run own
  | _, attempt body next, own => do
    let ending ← body.run []
    (next ending).run own
  | _, callShield shield function context arguments next, own => do
    let ending ← callAround shield (fun context arguments => (function context arguments).run [])
      context arguments
    ending.goOn own fun outcome => (next outcome).run own

/-! ### Moments -/

/-- What is done at a moment. A guard opens and closes with itself; a scope opens and closes with
the guard that it holds. -/
inductive Act where
  | opened (enabled : Bool) (guard : Guard)
  | replaced (enabled previous : Bool)
  | closed (guard : Guard)
  | served

/-- A moment of a run: what is done, and the switch and the events before and after it. -/
structure Moment where
  before : Monitor
  act : Act
  after : Monitor

/-- The moments in which guards are dropped. -/
def closing : List Guard → Monitor → List Moment
  | [], _ => []
  | guard :: rest, monitor =>
    let left := (guard.drop.run monitor).2
    ⟨monitor, .closed guard, left⟩ :: closing rest left

/-- The moments after a part of a body has ended. -/
def Ending.moments {β : Type} (own : List Guard) (next : β → List Moment) (monitor : Monitor) :
    Ending β → List Moment
  | returned answer => next answer
  | panicked => closing own monitor

/-- The moments of a scope: it opens with a guard, and closes when its body has ended. -/
def scopeMoments {β : Type} (enabled : Bool) (body : Monitored (Ending β))
    (inside : Monitor → List Moment) (monitor : Monitor) : List Moment :=
  let made := (Guard.set enabled).run monitor
  let left := (withEnforcement enabled body).run monitor
  ⟨monitor, .opened enabled made.1, made.2⟩ ::
    (inside made.2 ++ [⟨(body.run made.2).2, .closed made.1, left.2⟩])

/-- The moments of a run. -/
def Code.trace : {α : Type} → Code α → List Guard → Monitor → List Moment
  | _, finish _, own, monitor => closing own monitor
  | _, panic, own, monitor => closing own monitor
  | _, serve service next, own, monitor =>
    let served := service.run.run monitor
    ⟨monitor, .served, served.2⟩ :: (next served.1).trace own served.2
  | _, setSwitch enabled next, own, monitor =>
    let set := (setEnforced enabled).run monitor
    ⟨monitor, .replaced enabled set.1, set.2⟩ :: (next set.1).trace own set.2
  | _, makeGuard enabled next, own, monitor =>
    let made := (Guard.set enabled).run monitor
    ⟨monitor, .opened enabled made.1, made.2⟩ :: (next made.1).trace (made.1 :: own) made.2
  | _, dropGuard place next, own, monitor =>
    let dropped := own[place]?.toList
    closing dropped monitor ++ next.trace (own.eraseIdx place) ((dropAll dropped).run monitor).2
  | _, release place next, own, monitor => (next own[place]?).trace (own.eraseIdx place) monitor
  | _, adopt guard next, own, monitor => next.trace (guard :: own) monitor
  | _, scope enabled body next, own, monitor =>
    let ended := (withEnforcement enabled (body.run [])).run monitor
    scopeMoments enabled (body.run []) (body.trace []) monitor ++
      ended.1.moments own (fun answer => (next answer).trace own ended.2) ended.2
  | _, strictScope body next, own, monitor =>
    let ended := (strictly (body.run [])).run monitor
    scopeMoments true (body.run []) (body.trace []) monitor ++
      ended.1.moments own (fun answer => (next answer).trace own ended.2) ended.2
  | _, attempt body next, own, monitor =>
    let ended := (body.run []).run monitor
    body.trace [] monitor ++ (next ended.1).trace own ended.2
  | _, callShield shield function context arguments next, own, monitor =>
    let ended := (callAround shield
      (fun context arguments => (function context arguments).run []) context arguments).run monitor
    let inside := match shield.refusal? monitor.enforced arguments with
      | some _ => [⟨monitor, .served, ended.2⟩]
      | none => (function (shield.bound?.getD context) arguments).trace [] monitor
    inside ++ ended.1.moments own (fun outcome => (next outcome).trace own ended.2) ended.2

end Enforcement

end TypeAssertion
