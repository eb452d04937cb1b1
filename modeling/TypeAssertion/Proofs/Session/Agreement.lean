import TypeAssertion.Proofs.Session.World

/-!
What an operation inspects while the switch is on, and what follows when all of it passes: the same
operation has the same answer and leaves the same world while the switch is off.
-/

set_option autoImplicit false

namespace TypeAssertion

namespace Session

/-- The inspection of a write to a slot. Null is not inspected. -/
def slotInspections (descriptor : Descriptor) (value : Value) : List Inspection :=
  if value.isNull then [] else [⟨value, descriptor⟩]

/-- The inspection of a write to a field. A field that the type does not have is not inspected. -/
def fieldInspections (spec : RecordSpec) (field : String) (value : Value) : List Inspection :=
  (spec.get? field).toList.map fun descriptor => ⟨value, descriptor⟩

/-- The inspections of the writes that fill some fields from the properties of a value. -/
def fillInspections (spec : RecordSpec) (values : Value) (fields : List String) :
    List Inspection :=
  fields.flatMap fun field => (values.property? field).toList.flatMap (fieldInspections spec field)

/-- What an operation inspects, in this order, while the switch is on. -/
def Operation.inspections (world : World) (events : Array Event) :
    {α : Type} → Operation α → List Inspection
  | _, .ask question => question.inspections
  | _, .makeSlot descriptor initial? => initial?.toList.flatMap (slotInspections descriptor)
  | _, .writeSlot place value =>
    world.slots[place]?.toList.flatMap fun slot => slotInspections slot.descriptor value
  | _, .readType _ schema => [⟨schema, .object⟩]
  | _, .construct type values =>
    ⟨values, .object⟩ :: fillInspections type.spec values type.spec.names
  | _, .setField place field value =>
    world.records[place]?.toList.flatMap fun record =>
      fieldInspections record.type.spec field value
  | _, .makeShield _ _ function _ => [⟨function, .function⟩]
  | _, .readShield arguments returns function _ =>
    ⟨arguments, .array⟩ ::
      match Shield.readContract true arguments returns with
      | .ok _ => [⟨function, .function⟩]
      | .error _ => []
  | _, .callShield place context arguments =>
    world.shields[place]?.toList.flatMap fun entry =>
      (Routine.shielded entry.1 entry.2).inspections context arguments events
  | _, .callFunction f context arguments =>
    (world.routine f).inspections context arguments events
  | _, _ => []

end Session

open Session

/-! ### Slots, records and shields -/

theorem Slot.write_of_passes {slot : Slot} {value : Value}
    (h : ∀ inspection ∈ slotInspections slot.descriptor value, inspection.Passes)
    (switch : Bool) : slot.write switch value = .ok { slot with value := value } := by
  unfold slotInspections at h
  unfold write
  by_cases null : value.isNull = true
  · rw [if_pos null]
  · rw [if_neg null] at h ⊢
    have passes := h _ (List.mem_singleton_self _)
    rw [passes.ensure_eq]
    rfl

theorem Slot.make_of_passes {descriptor : Descriptor} {initial? : Option Value}
    (h : ∀ inspection ∈ initial?.toList.flatMap (slotInspections descriptor), inspection.Passes)
    (switch : Bool) : make switch descriptor initial? = make true descriptor initial? := by
  cases initial? with
  | none => rfl
  | some value =>
    have passes : ∀ inspection ∈ slotInspections descriptor value, inspection.Passes := by
      simpa using h
    have written := @write_of_passes (vacant descriptor) value passes
    exact (written switch).trans (written true).symm

theorem Record.set_of_passes {record : Record} {field : String} {value : Value}
    (h : ∀ inspection ∈ fieldInspections record.type.spec field value, inspection.Passes)
    (switch : Bool) : record.set switch field value = record.set true field value := by
  unfold fieldInspections at h
  unfold set
  cases declared : record.type.spec.get? field with
  | none => rfl
  | some descriptor =>
    rw [declared] at h
    have passes := h _ (List.mem_singleton_self _)
    dsimp only
    rw [passes.ensure_eq switch, passes.ensure_eq true]

theorem Record.fill_of_passes {values : Value} {fields : List String} {record : Record}
    (h : ∀ inspection ∈ fillInspections record.type.spec values fields, inspection.Passes)
    (switch : Bool) : fill switch values fields record = fill true values fields record := by
  induction fields generalizing record with
  | nil => rfl
  | cons field rest ih =>
    rw [fillInspections, List.flatMap_cons, List.forall_mem_append] at h
    rw [fill, fill]
    cases given : values.property? field with
    | none => exact ih h.2
    | some value =>
      have passes : ∀ inspection ∈ fieldInspections record.type.spec field value,
          inspection.Passes := by
        simpa [given] using h.1
      dsimp only
      rw [set_of_passes passes switch]
      cases step : record.set true field value with
      | error failure => rfl
      | ok written =>
        -- The rest is inspected against the same fields: a write keeps the type of the record.
        obtain ⟨_, _, _, rfl⟩ := set_eq_ok_iff.1 step
        exact ih h.2

theorem Record.construct_of_passes {type : RecordType} {values : Value}
    (object : (⟨values, .object⟩ : Inspection).Passes)
    (h : ∀ inspection ∈ fillInspections type.spec values type.spec.names, inspection.Passes)
    (switch : Bool) : construct switch type values = construct true type values := by
  have filled := @fill_of_passes values type.spec.names (blank type) h switch
  simp only [construct, object.ensure_eq, filled]

theorem RecordSpec.ofSchema_of_passes {schema : Value}
    (object : (⟨schema, .object⟩ : Inspection).Passes) (switch : Bool) :
    ofSchema switch schema = ofSchema true schema := by
  simp only [ofSchema, object.ensure_eq]

theorem Shield.assemble_of_passes {registry : Registry} {arguments : List Descriptor}
    {returns : Descriptor} {function : Value} {bound? : Option Value}
    (callable : (⟨function, .function⟩ : Inspection).Passes) (switch : Bool) :
    assemble switch registry arguments returns function bound? =
      assemble true registry arguments returns function bound? := by
  simp only [assemble, callable.ensure_eq]

theorem Shield.readContract_of_passes {arguments returns : Value}
    (array : (⟨arguments, .array⟩ : Inspection).Passes) (switch : Bool) :
    readContract switch arguments returns = readContract true arguments returns := by
  simp only [readContract, array.ensure_eq]

/-! ### Making and calling -/

theorem RecordType.make_agrees (registry : Registry) (name : String) (spec : RecordSpec)
    (events : Array Event) :
    ∃ made left, ∀ switch,
      (make registry name spec).run ⟨switch, events⟩ = (made, ⟨switch, left⟩) :=
  ⟨(⟨(registry.makeClass name (some Class.record)).1, installed spec⟩,
      (registry.makeClass name (some Class.record)).2),
    events.push (.recordTypeBuilt name (installed spec).size), fun _ => rfl⟩

theorem Shield.make_agrees {registry : Registry} {arguments : List Descriptor}
    {returns : Descriptor} {function : Value} {bound? : Option Value} {events : Array Event}
    (callable : (⟨function, .function⟩ : Inspection).Passes) :
    ∃ made left, ∀ switch,
      (make registry arguments returns function bound?).run.run ⟨switch, events⟩ =
        (made, ⟨switch, left⟩) := by
  cases assembled : assemble true registry arguments returns function bound? with
  | error failure =>
    refine ⟨.error failure, events, fun switch => ?_⟩
    rw [run_make, assemble_of_passes callable, assembled]
  | ok shield =>
    refine ⟨.ok shield, events.push shield.built, fun switch => ?_⟩
    rw [run_make, assemble_of_passes callable, assembled]

/-! ### Operations -/

namespace Session

/-- True of a world whose functions do what their routines do, none of which looks at the switch by
itself. -/
structure World.Sound (world : World) : Prop where
  behaviours : world.registry.behaviours.toList = world.routines.map Routine.behaviour
  routines : ∀ routine ∈ world.routines, routine.Blind
  shields : ∀ entry ∈ world.shields, (Routine.shielded entry.1 entry.2).Blind

/-- True of an operation that makes no function whose plain parts look at the switch or set it. -/
def Operation.Blind : {α : Type} → Operation α → Prop
  | _, .makeFunction _ routine => routine.Blind
  | _, _ => True

theorem World.sound_initial : World.initial.Sound where
  behaviours := rfl
  routines := by simp [initial]
  shields := by simp [initial]

theorem Behaviour.blind_constant (value : Value) : (Behaviour.constant value).Blind :=
  fun _ _ events => ⟨.ok value, events, fun _ => rfl⟩

theorem World.Sound.behaviour_eq {world : World} (sound : world.Sound) (f : Function) :
    world.registry.behaviour f = (world.routine f).behaviour := by
  have known : world.registry.behaviours[f.id]? =
      (world.routines[f.id]?).map Routine.behaviour := by
    rw [← Array.getElem?_toList, sound.behaviours, List.getElem?_map]
  rw [Registry.behaviour, known, routine]
  cases world.routines[f.id]? <;> rfl

theorem World.Sound.blind_routine {world : World} (sound : world.Sound) (f : Function) :
    (world.routine f).Blind := by
  rw [routine]
  cases found : world.routines[f.id]? with
  | none => exact Behaviour.blind_constant .undefined
  | some routine => exact sound.routines routine (List.mem_of_getElem? found)

theorem World.Sound.keep {ε α β : Type} {world : World} (sound : world.Sound)
    {store : α → β × World} {outcome : Except ε α}
    (stored : ∀ made, outcome = .ok made → (store made).2.Sound) :
    (world.keep store outcome).2.Sound := by
  cases outcome with
  | error failure => exact sound
  | ok made => exact stored made rfl

theorem World.Sound.addFunction {world : World} (sound : world.Sound) (name : String)
    {routine : Routine} (blind : routine.Blind) :
    (world.addFunction (world.registry.makeFunction name routine.behaviour) routine).2.Sound where
  behaviours := by
    simp [World.addFunction, Registry.makeFunction, sound.behaviours]
  routines := by
    simpa [World.addFunction, or_imp, forall_and] using ⟨sound.routines, blind⟩
  shields := sound.shields

theorem World.Sound.addShield {world : World} (sound : world.Sound) {shield : Shield}
    (around : shield.behaviour = world.registry.behaviour shield.function) :
    (world.addShield shield).2.Sound where
  behaviours := sound.behaviours
  routines := sound.routines
  shields := by
    intro entry member
    rcases List.mem_append.1 member with old | new
    · exact sound.shields entry old
    · obtain rfl := List.mem_singleton.1 new
      exact ⟨around.trans (sound.behaviour_eq shield.function),
        sound.blind_routine shield.function⟩

theorem World.Sound.registry {world : World} (sound : world.Sound) {registry : Registry}
    (same : registry.behaviours = world.registry.behaviours) :
    ({ world with registry := registry } : World).Sound where
  behaviours := (congrArg Array.toList same).trans sound.behaviours
  routines := sound.routines
  shields := sound.shields

/-- Every operation keeps a world sound. -/
theorem World.Sound.perform {world : World} (sound : world.Sound) (monitor : Monitor) {α : Type}
    {operation : Operation α} (blind : operation.Blind) :
    (world.perform monitor operation).2.1.Sound := by
  cases operation with
  | ask question => exact sound
  | makeSlot descriptor initial? =>
    exact sound.keep fun slot _ => ⟨sound.behaviours, sound.routines, sound.shields⟩
  | writeSlot place value =>
    rw [World.perform]
    cases world.slots[place]? with
    | none => exact sound
    | some slot =>
      exact sound.keep fun slot _ => ⟨sound.behaviours, sound.routines, sound.shields⟩
  | takeSlot place =>
    rw [World.perform]
    cases world.slots[place]? with
    | none => exact sound
    | some slot => exact ⟨sound.behaviours, sound.routines, sound.shields⟩
  | makeType name spec => exact sound.registry rfl
  | readType name schema =>
    exact sound.keep fun made e => sound.registry (RecordType.behaviours_of_run_ofSchema e)
  | construct type values =>
    exact sound.keep fun record _ => ⟨sound.behaviours, sound.routines, sound.shields⟩
  | setField place field value =>
    rw [World.perform]
    cases world.records[place]? with
    | none => exact sound
    | some record =>
      exact sound.keep fun record _ => ⟨sound.behaviours, sound.routines, sound.shields⟩
  | getField place field => exact sound
  | recordValue place => exact sound
  | recordDocument place => exact sound
  | makeFunction name routine => exact sound.addFunction name blind
  | makeShield arguments returns function bound? =>
    exact sound.keep fun shield e => sound.addShield (Shield.behaviour_of_run_make e)
  | readShield arguments returns function bound? =>
    exact sound.keep fun shield e => sound.addShield (Shield.behaviour_of_run_ofValues e)
  | callShield place context arguments =>
    rw [World.perform]
    cases world.shields[place]? with
    | none => exact sound
    | some entry => exact sound
  | shieldFunction place =>
    rw [World.perform]
    cases found : world.shields[place]? with
    | none => exact sound
    | some entry =>
      exact sound.addFunction entry.1.function.name
        (sound.shields entry (List.mem_of_getElem? found))
  | callFunction f context arguments => exact sound

/-- An operation of which every inspection passes gives and leaves the same under both settings. -/
theorem World.Sound.perform_agrees {world : World} (sound : world.Sound) {events : Array Event}
    {α : Type} {operation : Operation α}
    (h : ∀ inspection ∈ operation.inspections world events, inspection.Indifferent) :
    ∃ answer next left, ∀ switch,
      world.perform ⟨switch, events⟩ operation = (answer, next, ⟨switch, left⟩) := by
  have passes (inspection : Inspection) (member : inspection ∈ operation.inspections world events) :
      inspection.Passes := (h inspection member).passes
  -- Each case looks at the switch only in a function that gives the same under both settings once
  -- its inspections pass; what is kept of the result does not look at the switch at all.
  cases operation with
  | ask question =>
    refine ⟨question.answer true, world, events, fun switch => ?_⟩
    rw [World.perform, question.answer_of_indifferent h switch]
  | makeSlot descriptor initial? =>
    rcases kept : world.keep world.addSlot (Slot.make true descriptor initial?) with ⟨answer, next⟩
    refine ⟨answer, next, events, fun switch => ?_⟩
    rw [World.perform, Slot.make_of_passes passes switch, kept]
  | writeSlot place value =>
    simp only [World.perform]
    rw [Operation.inspections] at passes
    cases found : world.slots[place]? with
    | none => exact ⟨none, world, events, fun switch => rfl⟩
    | some slot =>
      rw [found] at passes
      have written := @Slot.write_of_passes slot value (by simpa using passes)
      refine ⟨some (.ok ()), (world.putSlot place { slot with value := value }).2, events,
        fun switch => ?_⟩
      dsimp only
      rw [written switch]
      rfl
  | takeSlot place =>
    simp only [World.perform]
    cases world.slots[place]? with
    | none => exact ⟨none, world, events, fun switch => rfl⟩
    | some slot => exact ⟨_, _, events, fun switch => rfl⟩
  | makeType name spec =>
    obtain ⟨made, left, run⟩ := RecordType.make_agrees world.registry name spec events
    refine ⟨(world.addType made).1, (world.addType made).2, left, fun switch => ?_⟩
    rw [World.perform, run switch]
  | readType name schema =>
    have object := passes _ (List.mem_singleton_self _)
    simp only [World.perform, RecordType.run_ofSchema, RecordSpec.ofSchema_of_passes object]
    cases RecordSpec.ofSchema true schema with
    | error failure => exact ⟨.error failure, world, events, fun switch => rfl⟩
    | ok spec =>
      obtain ⟨made, left, run⟩ := RecordType.make_agrees world.registry name spec events
      refine ⟨.ok (world.addType made).1, (world.addType made).2, left, fun switch => ?_⟩
      dsimp only
      rw [run switch]
      rfl
  | construct type values =>
    obtain ⟨object, filled⟩ := List.forall_mem_cons.1 passes
    rcases kept : world.keep world.addRecord (Record.construct true type values) with
      ⟨answer, next⟩
    refine ⟨answer, next, events, fun switch => ?_⟩
    rw [World.perform, Record.construct_of_passes object filled switch, kept]
  | setField place field value =>
    simp only [World.perform]
    rw [Operation.inspections] at passes
    cases found : world.records[place]? with
    | none => exact ⟨none, world, events, fun switch => rfl⟩
    | some record =>
      rw [found] at passes
      have same := @Record.set_of_passes record field value (by simpa using passes)
      rcases kept : world.keep (world.putRecord place) (record.set true field value) with
        ⟨answer, next⟩
      refine ⟨some answer, next, events, fun switch => ?_⟩
      dsimp only
      rw [same switch, kept]
  | getField place field => exact ⟨_, _, events, fun switch => rfl⟩
  | recordValue place => exact ⟨_, _, events, fun switch => rfl⟩
  | recordDocument place => exact ⟨_, _, events, fun switch => rfl⟩
  | makeFunction name routine => exact ⟨_, _, events, fun switch => rfl⟩
  | makeShield arguments returns function bound? =>
    have callable := passes _ (List.mem_singleton_self _)
    obtain ⟨made, left, run⟩ := @Shield.make_agrees world.registry arguments returns function bound?
      events callable
    rcases kept : world.keep world.addShield made with ⟨answer, next⟩
    refine ⟨answer, next, left, fun switch => ?_⟩
    simp only [World.perform, run switch, kept]
  | readShield arguments returns function bound? =>
    obtain ⟨array, callable⟩ := List.forall_mem_cons.1 passes
    simp only [World.perform, Shield.run_ofValues, Shield.readContract_of_passes array]
    cases read : Shield.readContract true arguments returns with
    | error failure => exact ⟨.error failure, world, events, fun switch => rfl⟩
    | ok contract =>
      rw [read] at callable
      obtain ⟨made, left, run⟩ := @Shield.make_agrees world.registry contract.1 contract.2 function
        bound? events (callable _ (List.mem_singleton_self _))
      rcases kept : world.keep world.addShield made with ⟨answer, next⟩
      refine ⟨answer, next, left, fun switch => ?_⟩
      simp only [run switch, kept]
  | callShield place context arguments =>
    simp only [World.perform]
    rw [Operation.inspections] at h
    cases found : world.shields[place]? with
    | none => exact ⟨none, world, events, fun switch => rfl⟩
    | some entry =>
      rw [found] at h
      obtain ⟨outcome, left, run⟩ := Routine.agrees
        (sound.shields entry (List.mem_of_getElem? found)) (by simpa using h)
      refine ⟨some outcome, world, left, fun switch => ?_⟩
      rw [Routine.behaviour] at run
      dsimp only
      rw [run switch]
  | shieldFunction place =>
    simp only [World.perform]
    cases world.shields[place]? with
    | none => exact ⟨none, world, events, fun switch => rfl⟩
    | some entry => exact ⟨_, _, events, fun switch => rfl⟩
  | callFunction f context arguments =>
    obtain ⟨outcome, left, run⟩ := Routine.agrees (sound.blind_routine f) h
    refine ⟨outcome, world, left, fun switch => ?_⟩
    rw [World.perform, callFunction, sound.behaviour_eq, run switch]

end Session

end TypeAssertion
