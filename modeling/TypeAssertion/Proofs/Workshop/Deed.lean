import TypeAssertion.Record
import TypeAssertion.Proofs.Registry

/-!
Runs that make classes, record types and descriptors, in any order and number, and copy them. Every
record type and every descriptor bears the number of its making, which its copies share.
-/

set_option autoImplicit false

namespace TypeAssertion

/-- Something that was made, with the number of its making. A copy has the number of the first. -/
structure Made (α : Type) where
  making : Nat
  item : α

/-- What a run has made so far. Record types and descriptors stand in the order in which they were
got, copies included. -/
structure Workshop where
  registry : Registry
  monitor : Monitor
  handles : Handles
  makings : Nat
  types : List (Made RecordType)
  descriptors : List (Made Descriptor)

/-- What can be done next. Things are chosen by their places; what needs a place that holds nothing
is left undone. -/
inductive Deed where
  | setSwitch (enabled : Bool)
  | makeFunction (name : String) (behaviour : Behaviour)
  | makeClass (name : String)
  | extendClass (parent : Nat) (name : String)
  | makeType (name : String) (spec : RecordSpec)
  | readType (name : String) (schema : Value)
  | copyType (type : Nat)
  | describeKind (kind : Primitive)
  | describeNothing
  | describeClass (cls : Nat)
  | describeType (type : Nat)
  | makeCustom (name : String) (test : Matcher)
  | readDescriptor (text : Value)
  | wrap (descriptor : Nat)
  | copyDescriptor (descriptor : Nat)

namespace Workshop

/-- The workshop before anything is made: it has the class that record types extend. -/
def opened : Workshop := ⟨.initial, .initial, ⟨[], [], [Class.record]⟩, 0, [], []⟩

/-- The classes in the order of their making, those of record types included. -/
def classes (workshop : Workshop) : List Class := workshop.handles.classes.reverse

def addClass (workshop : Workshop) (made : Class × Registry) : Workshop :=
  { workshop with
    registry := made.2
    handles := { workshop.handles with classes := made.1 :: workshop.handles.classes } }

/-- Keeps a new record type, and its class. -/
def addType (workshop : Workshop) (made : RecordType × Registry) : Workshop :=
  { workshop.addClass (made.1.cls, made.2) with
    makings := workshop.makings + 1
    types := workshop.types ++ [⟨workshop.makings, made.1⟩] }

def addDescriptor (workshop : Workshop) (descriptor : Descriptor) : Workshop :=
  { workshop with
    makings := workshop.makings + 1
    descriptors := workshop.descriptors ++ [⟨workshop.makings, descriptor⟩] }

/-- Keeps a new custom descriptor. -/
def addCustom (workshop : Workshop) (made : Descriptor × Registry) : Workshop :=
  { workshop with
    registry := made.2
    handles := { workshop.handles with customs := made.1 :: workshop.handles.customs } }
  |>.addDescriptor made.1

/-- Goes on with the thing in a place, if there is one. -/
def withPlace {α : Type} (workshop : Workshop) (items : List α) (place : Nat)
    (next : α → Workshop) : Workshop :=
  items[place]?.elim workshop next

/-- Does a deed. -/
def perform (workshop : Workshop) : Deed → Workshop
  | .setSwitch enabled =>
    { workshop with monitor := ((setEnforced enabled).run workshop.monitor).2 }
  | .makeFunction name behaviour =>
    let made := workshop.registry.makeFunction name behaviour
    { workshop with
      registry := made.2
      handles := { workshop.handles with functions := made.1 :: workshop.handles.functions } }
  | .makeClass name => workshop.addClass (workshop.registry.makeClass name none)
  | .extendClass parent name =>
    workshop.withPlace workshop.classes parent fun cls =>
      workshop.addClass (workshop.registry.makeClass name (some cls))
  | .makeType name spec =>
    let (made, left) := (RecordType.make workshop.registry name spec).run workshop.monitor
    { workshop with monitor := left }.addType made
  | .readType name schema =>
    match (RecordType.ofSchema workshop.registry name schema).run.run workshop.monitor with
    | (.ok made, left) => { workshop with monitor := left }.addType made
    | (.error _, left) => { workshop with monitor := left }
  | .copyType place =>
    workshop.withPlace workshop.types place fun made =>
      { workshop with types := workshop.types ++ [made] }
  | .describeKind kind => workshop.addDescriptor (.primitive kind)
  | .describeNothing => workshop.addDescriptor .absent
  | .describeClass place =>
    workshop.withPlace workshop.classes place fun cls => workshop.addDescriptor (.instanceOf cls)
  | .describeType place =>
    workshop.withPlace workshop.types place fun made =>
      workshop.addDescriptor made.item.descriptor
  | .makeCustom name test => workshop.addCustom (workshop.registry.makeCustom name test)
  | .readDescriptor text =>
    match Descriptor.ofValue text with
    | .ok descriptor => workshop.addDescriptor descriptor
    | .error _ => workshop
  | .wrap place =>
    workshop.withPlace workshop.descriptors place fun made =>
      workshop.addDescriptor (.nullable made.item)
  | .copyDescriptor place =>
    workshop.withPlace workshop.descriptors place fun made =>
      { workshop with descriptors := workshop.descriptors ++ [made] }

/-- The workshop after a run. -/
def after (workshop : Workshop) (deeds : List Deed) : Workshop := deeds.foldl perform workshop

/-- What is kept in a place is one of the things, and nothing happens without one. -/
theorem withPlace_cases {α : Type} {workshop : Workshop} {items : List α} {place : Nat}
    {next : α → Workshop} {P : Workshop → Prop} (unchanged : P workshop)
    (changed : ∀ item ∈ items, P (next item)) : P (workshop.withPlace items place next) := by
  unfold withPlace
  cases found : items[place]? with
  | none => exact unchanged
  | some item => exact changed item (List.mem_of_getElem? found)

end Workshop

end TypeAssertion
