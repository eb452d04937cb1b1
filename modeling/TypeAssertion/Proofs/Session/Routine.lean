import TypeAssertion.Behaviour
import TypeAssertion.Proofs.Session.Question
import TypeAssertion.Proofs.Shield.Call

/-!
What functions do, as far as the engine takes part in it. A routine may look at its context and its
arguments, ask the engine, call other routines and act on what comes of that, or be a shield around
another routine; apart from these it does not look at the switch and does not set it. If no
inspection on its way finds a mismatch, it does the same under both settings.
-/

set_option autoImplicit false

namespace TypeAssertion

/-- True of a call that gives and reports the same under both settings of the switch, and leaves the
switch as it is. -/
def Behaviour.Agrees (behaviour : Behaviour) (context : Value) (arguments : List Value)
    (events : Array Event) : Prop :=
  ∃ outcome left, ∀ switch,
    (behaviour context arguments).run.run ⟨switch, events⟩ = (outcome, ⟨switch, left⟩)

/-- True of what neither looks at the switch nor sets it. -/
def Behaviour.Blind (behaviour : Behaviour) : Prop :=
  ∀ context arguments events, behaviour.Agrees context arguments events

namespace Session

/-- What a function does. A shield comes with the routine of the function that it is around. -/
inductive Routine : Type 1
  | plain (behaviour : Behaviour)
  | choosing (choose : Value → List Value → Routine)
  | asking {α : Type} (question : Question α) (next : α → Routine)
  | calling (callee : Routine) (context : Value) (arguments : List Value)
      (next : Except Failure Value → Routine)
  | shielded (shield : Shield) (inner : Routine)

namespace Routine

/-- What a routine does when it is called. -/
def behaviour : Routine → Behaviour
  | plain behaviour => behaviour
  | choosing choose => fun context arguments =>
    (choose context arguments).behaviour context arguments
  | asking question next => fun context arguments => do
    let enforced ← (isEnforced : Monitored Bool)
    (next (question.answer enforced)).behaviour context arguments
  | calling callee there given next => fun context arguments => ExceptT.mk do
    let outcome ← (callee.behaviour there given).run
    ((next outcome).behaviour context arguments).run
  | shielded shield _ => shield.call

/-- True of a routine whose plain parts are blind and whose shields are around their routines. -/
def Blind : Routine → Prop
  | plain behaviour => behaviour.Blind
  | choosing choose => ∀ context arguments, (choose context arguments).Blind
  | asking _ next => ∀ answer, (next answer).Blind
  | calling callee _ _ next => callee.Blind ∧ ∀ outcome, (next outcome).Blind
  | shielded shield inner => shield.behaviour = inner.behaviour ∧ inner.Blind

/-- What is inspected of an answer: a function that is to return nothing is not inspected. -/
def answerInspections (returns : Descriptor) : Except Failure Value → List Inspection
  | .ok answer => if returns.isAbsent then [] else [⟨answer, returns⟩]
  | .error _ => []

/-- What is inspected, in this order, during a call while the switch is on. A mismatch ends a call
of a shield, so what stands behind the first mismatch need not be reached. -/
def inspections : Routine → Value → List Value → Array Event → List Inspection
  | plain _, _, _, _ => []
  | choosing choose, context, arguments, events =>
    (choose context arguments).inspections context arguments events
  | asking question next, context, arguments, events =>
    question.inspections ++ (next (question.answer true)).inspections context arguments events
  | calling callee there given next, context, arguments, events =>
    let called := (callee.behaviour there given).run.run ⟨true, events⟩
    callee.inspections there given events ++
      (next called.1).inspections context arguments called.2.events
  | shielded shield inner, context, arguments, events =>
    if shield.admits arguments.length then
      let inside := shield.bound?.getD context
      (arguments.zip shield.arguments).map (fun pair => ⟨pair.1, pair.2⟩) ++
        (inner.inspections inside arguments events ++
          answerInspections shield.returns
            ((inner.behaviour inside arguments).run.run ⟨true, events⟩).1)
    else []

end Routine

end Session

/-- Arguments that pass every inspection are no reason to refuse a call, under either setting. -/
theorem Shield.refusal?_of_passes {shield : Shield} {arguments : List Value}
    (admitted : shield.admits arguments.length = true)
    (passes : ∀ pair ∈ arguments.zip shield.arguments,
      (⟨pair.1, pair.2⟩ : Session.Inspection).Passes) (switch : Bool) :
    shield.refusal? switch arguments = none := by
  have bounds : shield.least ≤ arguments.length ∧ arguments.length ≤ shield.most := by
    simpa [admits] using admitted
  rw [refusal?_eq_none_iff]
  exact ⟨bounds, fun pair member => conforms_iff_of_on.2 fun _ => passes pair member⟩

/-- A call with a wrong number of arguments is refused alike under both settings. -/
theorem Shield.refusal?_of_not_admits {shield : Shield} {arguments : List Value}
    (refused : ¬shield.admits arguments.length = true) (switch : Bool) :
    shield.refusal? switch arguments =
      some (.arity (.argumentCount shield.least shield.most arguments.length)) := by
  rw [refusal?, if_neg refused]

/-- What a shield holds against an answer does not depend on the switch if the answer passes. -/
theorem Shield.complaint?_of_passes {shield : Shield} {answer : Value}
    (passes : ∀ inspection ∈ Session.Routine.answerInspections shield.returns (.ok answer),
      inspection.Passes) (switch : Bool) :
    shield.complaint? switch answer = shield.complaint? true answer := by
  unfold complaint? checkAnswer
  by_cases absent : shield.returns.isAbsent = true
  · simp only [if_pos absent]
  · simp only [Session.Routine.answerInspections, if_neg absent] at passes
    have passed := passes _ (List.mem_singleton_self _)
    simp only [if_neg absent, passed.ensure_eq]

namespace Session

theorem Routine.agrees_calling {callee : Routine} {there : Value} {given : List Value}
    {next : Except Failure Value → Routine} {context : Value} {arguments : List Value}
    {events left : Array Event} {outcome : Except Failure Value}
    (called : ∀ switch, (callee.behaviour there given).run.run ⟨switch, events⟩ =
      (outcome, ⟨switch, left⟩))
    (goes : (next outcome).behaviour.Agrees context arguments left) :
    (calling callee there given next).behaviour.Agrees context arguments events := by
  obtain ⟨answer, rest, run⟩ := goes
  refine ⟨answer, rest, fun switch => ?_⟩
  change (match (callee.behaviour there given).run.run ⟨switch, events⟩ with
    | (outcome, left) => ((next outcome).behaviour context arguments).run.run left) = _
  rw [called switch]
  exact run switch

theorem Routine.agrees_shielded {shield : Shield} {inner : Routine} {context : Value}
    {arguments : List Value} {events left : Array Event} {outcome : Except Failure Value}
    (around : shield.behaviour = inner.behaviour)
    (admitted : shield.admits arguments.length = true)
    (passes : ∀ pair ∈ arguments.zip shield.arguments, (⟨pair.1, pair.2⟩ : Inspection).Passes)
    (called : ∀ switch, (inner.behaviour (shield.bound?.getD context) arguments).run.run
      ⟨switch, events⟩ = (outcome, ⟨switch, left⟩))
    (answered : ∀ inspection ∈ answerInspections shield.returns outcome, inspection.Passes) :
    (shielded shield inner).behaviour.Agrees context arguments events := by
  have run (switch : Bool) := shield.run_call_eq context arguments ⟨switch, events⟩
  simp only [shield.refusal?_of_passes admitted passes, around, called] at run
  cases outcome with
  | error failure => exact ⟨_, left, run⟩
  | ok answer =>
    simp only [shield.complaint?_of_passes answered] at run
    cases complaint : shield.complaint? true answer with
    | none =>
      simp only [complaint] at run
      exact ⟨_, left, run⟩
    | some failure =>
      simp only [complaint] at run
      exact ⟨_, left, run⟩

theorem Routine.agrees_rejected {shield : Shield} {inner : Routine} {context : Value}
    {arguments : List Value} {events : Array Event}
    (refused : ¬shield.admits arguments.length = true) :
    (shielded shield inner).behaviour.Agrees context arguments events := by
  refine ⟨.error (.arity (.argumentCount shield.least shield.most arguments.length)),
    events.push (.callRejected shield.function.name arguments.length shield.least shield.most),
    fun switch => ?_⟩
  have run := shield.run_call_eq context arguments ⟨switch, events⟩
  rw [shield.refusal?_of_not_admits refused, Shield.refused, if_neg refused] at run
  exact run

/-- A blind routine of which every inspection passes does the same under both settings. -/
theorem Routine.agrees {routine : Routine} (blind : routine.Blind) {context : Value}
    {arguments : List Value} {events : Array Event}
    (h : ∀ inspection ∈ routine.inspections context arguments events, inspection.Indifferent) :
    routine.behaviour.Agrees context arguments events := by
  induction routine generalizing context arguments events with
  | plain behaviour => exact blind context arguments events
  | choosing choose ih => exact ih context arguments (blind context arguments) h
  | asking question next ih =>
    rw [inspections, List.forall_mem_append] at h
    obtain ⟨outcome, left, run⟩ := ih (question.answer true) (blind _) h.2
    refine ⟨outcome, left, fun switch => ?_⟩
    change ((next (question.answer switch)).behaviour context arguments).run.run _ = _
    rw [question.answer_of_indifferent h.1 switch]
    exact run switch
  | calling callee there given next callee_ih next_ih =>
    rw [inspections, List.forall_mem_append] at h
    obtain ⟨outcome, left, called⟩ := callee_ih blind.1 h.1
    rw [called true] at h
    exact agrees_calling called (next_ih outcome (blind.2 outcome) h.2)
  | shielded shield inner ih =>
    rw [inspections] at h
    by_cases admitted : shield.admits arguments.length = true
    · simp only [if_pos admitted, List.forall_mem_append, List.forall_mem_map] at h
      obtain ⟨given, inside, answered⟩ := h
      obtain ⟨outcome, left, called⟩ := ih blind.2 inside
      rw [called true] at answered
      exact agrees_shielded blind.1 admitted (fun pair member => (given pair member).passes) called
        fun inspection member => (answered inspection member).passes
    · exact agrees_rejected admitted

end Session

end TypeAssertion
