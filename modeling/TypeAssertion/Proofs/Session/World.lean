import TypeAssertion.Slot
import TypeAssertion.Proofs.Record.Write
import TypeAssertion.Proofs.Session.Routine
import TypeAssertion.Proofs.Shield.Make

/-!
The operations of a session and the world they work on: the functions, slots, records and shields
that were made so far. Slots, records and shields are known by their places, in the order in which
they were made; an operation on a place that holds nothing answers `none`.
-/

set_option autoImplicit false

namespace TypeAssertion.Session

/-- What is there to work on. Routine `n` is what function `n` does. -/
structure World where
  registry : Registry
  routines : List Routine
  slots : List Slot
  records : List Record
  shields : List (Shield × Routine)

/-- What can be done, by the type of its answer. Where something is made in a place, that place is
the answer. -/
inductive Operation : Type → Type 1
  | ask {α : Type} (question : Question α) : Operation α
  | makeSlot (descriptor : Descriptor) (initial? : Option Value) :
      Operation (Except TypeFailure Nat)
  | writeSlot (slot : Nat) (value : Value) : Operation (Option (Except TypeFailure Unit))
  | takeSlot (slot : Nat) : Operation (Option Value)
  | makeType (name : String) (spec : RecordSpec) : Operation RecordType
  | readType (name : String) (schema : Value) : Operation (Except Failure RecordType)
  | construct (type : RecordType) (values : Value) : Operation (Except Failure Nat)
  | setField (record : Nat) (field : String) (value : Value) :
      Operation (Option (Except Failure Unit))
  | getField (record : Nat) (field : String) : Operation (Option (Option Value))
  | recordValue (record : Nat) : Operation (Option Value)
  | recordDocument (record : Nat) : Operation (Option Json)
  | makeFunction (name : String) (routine : Routine) : Operation Function
  | makeShield (arguments : List Descriptor) (returns : Descriptor) (function : Value)
      (bound? : Option Value) : Operation (Except Failure Nat)
  | readShield (arguments returns function : Value) (bound? : Option Value) :
      Operation (Except Failure Nat)
  | callShield (shield : Nat) (context : Value) (arguments : List Value) :
      Operation (Option (Except Failure Value))
  | shieldFunction (shield : Nat) : Operation (Option Function)
  | callFunction (f : Function) (context : Value) (arguments : List Value) :
      Operation (Except Failure Value)

namespace World

/-- The world before anything is made. -/
def initial : World := ⟨.initial, [], [], [], []⟩

/-- What a function does. One that was never made answers the undefined value. -/
def routine (world : World) (f : Function) : Routine :=
  world.routines[f.id]?.getD (.plain (Behaviour.constant .undefined))

/-- Keeps what was made, if it was made. -/
def keep {ε α β : Type} (world : World) (store : α → β × World) : Except ε α → Except ε β × World
  | .ok made => ((.ok (store made).1 : Except ε β), (store made).2)
  | .error failure => (.error failure, world)

/-- Keeps a new slot, whose place is answered. -/
def addSlot (world : World) (slot : Slot) : Nat × World :=
  (world.slots.length, { world with slots := world.slots ++ [slot] })

/-- Keeps a slot in its place. -/
def putSlot (world : World) (place : Nat) (slot : Slot) : Unit × World :=
  ((), { world with slots := world.slots.set place slot })

/-- Keeps a new record, whose place is answered. -/
def addRecord (world : World) (record : Record) : Nat × World :=
  (world.records.length, { world with records := world.records ++ [record] })

/-- Keeps a record in its place. -/
def putRecord (world : World) (place : Nat) (record : Record) : Unit × World :=
  ((), { world with records := world.records.set place record })

/-- Keeps a new record type, which is answered. -/
def addType (world : World) (made : RecordType × Registry) : RecordType × World :=
  (made.1, { world with registry := made.2 })

/-- Keeps a new shield, whose place is answered. -/
def addShield (world : World) (shield : Shield) : Nat × World :=
  (world.shields.length,
    { world with shields := world.shields ++ [(shield, world.routine shield.function)] })

/-- Keeps a new function, which is answered, and what it does. -/
def addFunction (world : World) (made : Function × Registry) (routine : Routine) :
    Function × World :=
  (made.1, { world with registry := made.2, routines := world.routines ++ [routine] })

/-- Carries out an operation: its answer, and what it leaves. -/
def perform (world : World) (monitor : Monitor) :
    {α : Type} → Operation α → α × World × Monitor
  | _, .ask question => (question.answer monitor.enforced, world, monitor)
  | _, .makeSlot descriptor initial? =>
    let (answer, next) := world.keep world.addSlot (Slot.make monitor.enforced descriptor initial?)
    (answer, next, monitor)
  | _, .writeSlot place value =>
    match world.slots[place]? with
    | none => (none, world, monitor)
    | some slot =>
      let (answer, next) := world.keep (world.putSlot place) (slot.write monitor.enforced value)
      (some answer, next, monitor)
  | _, .takeSlot place =>
    match world.slots[place]? with
    | none => (none, world, monitor)
    | some slot => (some slot.take.1, (world.putSlot place slot.take.2).2, monitor)
  | _, .makeType name spec =>
    let (made, left) := (RecordType.make world.registry name spec).run monitor
    ((world.addType made).1, (world.addType made).2, left)
  | _, .readType name schema =>
    let (made, left) := (RecordType.ofSchema world.registry name schema).run.run monitor
    let (answer, next) := world.keep world.addType made
    (answer, next, left)
  | _, .construct type values =>
    let (answer, next) :=
      world.keep world.addRecord (Record.construct monitor.enforced type values)
    (answer, next, monitor)
  | _, .setField place field value =>
    match world.records[place]? with
    | none => (none, world, monitor)
    | some record =>
      let (answer, next) :=
        world.keep (world.putRecord place) (record.set monitor.enforced field value)
      (some answer, next, monitor)
  | _, .getField place field =>
    (world.records[place]?.map fun record => record.get? field, world, monitor)
  | _, .recordValue place => (world.records[place]?.map Record.toValue, world, monitor)
  | _, .recordDocument place => (world.records[place]?.map Record.document, world, monitor)
  | _, .makeFunction name routine =>
    let (answer, next) :=
      world.addFunction (world.registry.makeFunction name routine.behaviour) routine
    (answer, next, monitor)
  | _, .makeShield arguments returns function bound? =>
    let (made, left) :=
      (Shield.make world.registry arguments returns function bound?).run.run monitor
    let (answer, next) := world.keep world.addShield made
    (answer, next, left)
  | _, .readShield arguments returns function bound? =>
    let (made, left) :=
      (Shield.ofValues world.registry arguments returns function bound?).run.run monitor
    let (answer, next) := world.keep world.addShield made
    (answer, next, left)
  | _, .callShield place context arguments =>
    match world.shields[place]? with
    | none => (none, world, monitor)
    | some (shield, _) =>
      let (answer, left) := (shield.call context arguments).run.run monitor
      (some answer, world, left)
  | _, .shieldFunction place =>
    match world.shields[place]? with
    | none => (none, world, monitor)
    | some (shield, inner) =>
      let (answer, next) :=
        world.addFunction (shield.toFunction world.registry) (.shielded shield inner)
      (some answer, next, monitor)
  | _, .callFunction f context arguments =>
    let (answer, left) := (callFunction world.registry f context arguments).run.run monitor
    (answer, world, left)

end World

end TypeAssertion.Session
