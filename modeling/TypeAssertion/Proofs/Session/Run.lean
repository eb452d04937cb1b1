import TypeAssertion.Proofs.Session.Agreement

/-!
Whole sessions, carried out twice. A script decides each operation by the answers before it. If the
run with enforcement on finds no mismatch, the run with enforcement off cannot be told from it: by
induction on the script, for each operation has the same answer and leaves the same world.
-/

set_option autoImplicit false

namespace TypeAssertion.Session

/-- A session as it goes on from each answer. Every run of it is finite. -/
inductive Script : Type 1
  | stop
  | step {α : Type} (operation : Operation α) (next : α → Script)

/-- One operation of a run: the world and the events before it, and its answer. -/
structure Step where
  Answer : Type
  operation : Operation Answer
  world : World
  events : Array Event
  answer : Answer

/-- What a step inspects while the switch is on. -/
def Step.inspections (step : Step) : List Inspection :=
  step.operation.inspections step.world step.events

/-- True of a step in which neither a function nor a descriptor looks at the switch or sets it. -/
structure Step.Blind (step : Step) : Prop where
  operation : step.operation.Blind
  descriptors : ∀ inspection ∈ step.inspections, inspection.descriptor.Blind

/-- Carries out a script: the steps of the run, and what it leaves. -/
def Script.run : Script → World → Monitor → List Step × World × Monitor
  | stop, world, monitor => ([], world, monitor)
  | step operation next, world, monitor =>
    let done := world.perform monitor operation
    let rest := (next done.1).run done.2.1 done.2.2
    (⟨_, operation, world, monitor.events, done.1⟩ :: rest.1, rest.2)

/-- A run that finds no mismatch while enforcement is on is the same while enforcement is off: each
step has the same answer in the same world, and what is left in the end is the same. -/
theorem run_is_same_while_off {script : Script} {world final : World} (sound : world.Sound)
    {events : Array Event} {steps : List Step} {left : Monitor}
    (on : script.run world ⟨true, events⟩ = (steps, final, left))
    (blind : ∀ step ∈ steps, step.Blind)
    (passes : ∀ step ∈ steps, ∀ inspection ∈ step.inspections, inspection.Passes) :
    left.enforced = true ∧
      script.run world ⟨false, events⟩ = (steps, final, ⟨false, left.events⟩) := by
  induction script generalizing world events steps with
  | stop =>
    obtain ⟨rfl, e⟩ := Prod.mk.inj on
    obtain ⟨rfl, rfl⟩ := Prod.mk.inj e
    exact ⟨rfl, rfl⟩
  | @step α operation next ih =>
    obtain ⟨rfl, e⟩ := Prod.mk.inj on
    obtain ⟨here, later⟩ := List.forall_mem_cons.1 blind
    obtain ⟨seen, ahead⟩ := List.forall_mem_cons.1 passes
    obtain ⟨answer, world', events', performed⟩ := sound.perform_agrees fun inspection member =>
      ⟨here.descriptors inspection member, seen inspection member⟩
    have kept : world'.Sound := by
      have kept := sound.perform ⟨true, events⟩ here.operation
      rwa [performed true] at kept
    rw [performed true] at e later ahead
    obtain ⟨enforced, rest⟩ := ih answer kept (Prod.ext rfl e) later ahead
    refine ⟨enforced, ?_⟩
    simp only [Script.run, performed]
    rw [rest]

/-- A shield is called with enough arguments and with too few, a record is built and written where
it has no field, and a property is tested against a custom descriptor. -/
def shieldedBox : Script :=
  .step (.makeFunction "f" (.plain (Behaviour.argument 0))) fun f =>
  .step (.makeShield [.string, .nullable .boolean] .string (.function f) none) fun _ =>
  .step (.callShield 0 .null [.string "a"]) fun _ =>
  .step (.callShield 0 .null []) fun _ =>
  .step (.makeType "Box" ⟨[("size", .boolean)], by decide⟩) fun type =>
  .step (.construct type (.object [("size", .bool true)])) fun _ =>
  .step (.setField 0 "color" .null) fun _ =>
  .step (.ask (.hasProperty (.object [("size", .null)]) "size"
    (some (.custom 0 "any" fun _ _ => true)) false)) fun _ =>
  .stop

theorem shieldedBox_is_same_while_off :
    ∃ steps final left, steps.length = 8 ∧
      shieldedBox.run .initial .initial = (steps, final, left) ∧
      shieldedBox.run .initial ⟨false, #[]⟩ = (steps, final, ⟨false, left.events⟩) := by
  have plain : (Behaviour.argument 0).Blind :=
    fun _ arguments events => ⟨.ok (arguments[0]?.getD .undefined), events, fun _ => rfl⟩
  have clear : ∀ step ∈ (shieldedBox.run .initial .initial).1,
      step.operation.Blind ∧ ∀ inspection ∈ step.inspections, inspection.Indifferent := by
    refine List.forall_mem_cons.2 ⟨⟨plain, List.forall_mem_nil _⟩, ?_⟩
    refine List.forall_mem_cons.2 ⟨⟨trivial, List.forall_mem_singleton.2 ⟨fun _ => rfl, rfl⟩⟩, ?_⟩
    refine List.forall_mem_cons.2 ⟨⟨trivial, List.forall_mem_cons.2
      ⟨⟨fun _ => rfl, rfl⟩, List.forall_mem_singleton.2 ⟨fun _ => rfl, rfl⟩⟩⟩, ?_⟩
    refine List.forall_mem_cons.2 ⟨⟨trivial, List.forall_mem_nil _⟩, ?_⟩
    refine List.forall_mem_cons.2 ⟨⟨trivial, List.forall_mem_nil _⟩, ?_⟩
    refine List.forall_mem_cons.2 ⟨⟨trivial, List.forall_mem_cons.2
      ⟨⟨fun _ => rfl, rfl⟩, List.forall_mem_singleton.2 ⟨fun _ => rfl, rfl⟩⟩⟩, ?_⟩
    refine List.forall_mem_cons.2 ⟨⟨trivial, List.forall_mem_nil _⟩, ?_⟩
    exact List.forall_mem_singleton.2 ⟨trivial, List.forall_mem_singleton.2 ⟨fun _ => rfl, rfl⟩⟩
  have same := run_is_same_while_off World.sound_initial rfl
    (fun step member => ⟨(clear step member).1, fun i held => ((clear step member).2 i held).blind⟩)
    fun step member i held => ((clear step member).2 i held).passes
  exact ⟨_, _, _, rfl, rfl, same.2⟩

end TypeAssertion.Session
