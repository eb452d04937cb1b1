import TypeAssertion.Behaviour
import TypeAssertion.Proofs.Shield.Call
import TypeAssertion.Proofs.Shield.Make

/-!
Stacks of shields: each shield is put around the function that the one below was made into. A call
of the outermost function goes through the argument checks from the outside in, runs the function at
the bottom once, and goes through the answer checks from the inside out. By induction on the stack
this is one run of the bottom function between two searches for the first objection.
-/

set_option autoImplicit false

namespace TypeAssertion.Shield

/-- A function that was made into by a stack of shields over a behaviour, the innermost shield
first. Each shield may be built under a state of the switch of its own, and anything may be made
between two of them. -/
inductive Stacked (behaviour : Behaviour) : List Shield → Registry → Function → Prop
  | bottom {registry : Registry} {f : Function} :
      registry.behaviours[f.id]? = some behaviour → Stacked behaviour [] registry f
  | layer {shields : List Shield} {registry : Registry} {f : Function}
      {arguments : List Descriptor} {returns : Descriptor} {bound? : Option Value}
      {monitor left : Monitor} {shield : Shield} :
      Stacked behaviour shields registry f →
      (make registry arguments returns (.function f) bound?).run.run monitor = (.ok shield, left) →
      Stacked behaviour (shields ++ [shield]) (shield.toFunction registry).2
        (shield.toFunction registry).1
  | later {shields : List Shield} {registry grown : Registry} {f : Function} :
      Stacked behaviour shields registry f →
      registry.behaviours.toList <+: grown.behaviours.toList →
      Stacked behaviour shields grown f

/-- The outermost shield that holds something against the arguments, and what it is. -/
def firstRefusal? (switch : Bool) (arguments : List Value) (shields : List Shield) :
    Option (Shield × Failure) :=
  shields.reverse.findSome? fun shield =>
    (shield.refusal? switch arguments).map fun failure => (shield, failure)

/-- The context that reaches the bottom of a stack: the innermost bound one, else the caller's. -/
def innerContext (shields : List Shield) (context : Value) : Value :=
  (shields.findSome? Shield.bound?).getD context

/-- What the innermost shield with something against an answer holds against it. -/
def firstComplaint? (switch : Bool) (answer : Value) (shields : List Shield) : Option Failure :=
  shields.findSome? (complaint? switch answer)

theorem firstRefusal?_concat (switch : Bool) (arguments : List Value) (shields : List Shield)
    (shield : Shield) :
    firstRefusal? switch arguments (shields ++ [shield]) =
      match shield.refusal? switch arguments with
      | some failure => some (shield, failure)
      | none => firstRefusal? switch arguments shields := by
  rw [firstRefusal?, List.reverse_append, List.reverse_singleton, List.singleton_append,
    List.findSome?_cons]
  cases shield.refusal? switch arguments <;> rfl

theorem innerContext_concat (shields : List Shield) (shield : Shield) (context : Value) :
    innerContext (shields ++ [shield]) context =
      innerContext shields (shield.bound?.getD context) := by
  rw [innerContext, innerContext, List.findSome?_append, List.findSome?_singleton]
  cases shields.findSome? Shield.bound? <;> rfl

theorem firstComplaint?_concat (switch : Bool) (answer : Value) (shields : List Shield)
    (shield : Shield) :
    firstComplaint? switch answer (shields ++ [shield]) =
      (firstComplaint? switch answer shields).or (shield.complaint? switch answer) := by
  rw [firstComplaint?, List.findSome?_append, List.findSome?_singleton]
  rfl

theorem firstRefusal?_eq_none_iff {switch : Bool} {arguments : List Value} {shields : List Shield} :
    firstRefusal? switch arguments shields = none ↔
      ∀ shield ∈ shields, shield.refusal? switch arguments = none := by
  simp [firstRefusal?, List.findSome?_eq_none_iff]

/-- Shields further in are not asked once one objects. -/
theorem firstRefusal?_of_outermost {switch : Bool} {arguments : List Value}
    {inner outer : List Shield} {shield : Shield} {failure : Failure}
    (silent : ∀ other ∈ outer, other.refusal? switch arguments = none)
    (h : shield.refusal? switch arguments = some failure) :
    firstRefusal? switch arguments (inner ++ shield :: outer) = some (shield, failure) := by
  have passed : outer.reverse.findSome? (fun other =>
      (other.refusal? switch arguments).map fun cause => (other, cause)) = none := by
    simpa [List.findSome?_eq_none_iff] using silent
  simp [firstRefusal?, List.findSome?_append, passed, h]

theorem firstComplaint?_eq_none_iff {switch : Bool} {answer : Value} {shields : List Shield} :
    firstComplaint? switch answer shields = none ↔
      ∀ shield ∈ shields, shield.complaint? switch answer = none := by
  simp [firstComplaint?, List.findSome?_eq_none_iff]

/-- Shields further out do not see an answer once one complains. -/
theorem firstComplaint?_of_innermost {switch : Bool} {answer : Value}
    {inner outer : List Shield} {shield : Shield} {failure : Failure}
    (silent : ∀ other ∈ inner, other.complaint? switch answer = none)
    (h : shield.complaint? switch answer = some failure) :
    firstComplaint? switch answer (inner ++ shield :: outer) = some failure := by
  have passed : inner.findSome? (complaint? switch answer) = none := by
    simpa [List.findSome?_eq_none_iff] using silent
  simp [firstComplaint?, List.findSome?_append, passed, h]

/-- What a call through a stack gives and leaves, by one run of the behaviour at the bottom. -/
def throughStack (behaviour : Behaviour) (shields : List Shield) (context : Value)
    (arguments : List Value) (monitor : Monitor) : Except Failure Value × Monitor :=
  match firstRefusal? monitor.enforced arguments shields with
  | some (shield, failure) => (.error failure, shield.refused arguments.length monitor)
  | none =>
    match (behaviour (innerContext shields context) arguments).run.run monitor with
    | (.error failure, left) => (.error failure, left)
    | (.ok answer, left) =>
      match firstComplaint? left.enforced answer shields with
      | some failure => (.error failure, left)
      | none => (.ok answer, left)

theorem throughStack_nil (behaviour : Behaviour) (context : Value) (arguments : List Value)
    (monitor : Monitor) :
    throughStack behaviour [] context arguments monitor =
      (behaviour context arguments).run.run monitor := by
  rw [throughStack, firstRefusal?, List.reverse_nil, List.findSome?_nil, innerContext,
    List.findSome?_nil, Option.getD_none]
  dsimp only
  rcases (behaviour context arguments).run.run monitor with ⟨failure | answer, left⟩ <;> rfl

/-- One more shield on the outside. -/
theorem throughStack_concat (behaviour : Behaviour) (shields : List Shield) (shield : Shield)
    (context : Value) (arguments : List Value) (monitor : Monitor) :
    throughStack behaviour (shields ++ [shield]) context arguments monitor =
      match shield.refusal? monitor.enforced arguments with
      | some failure => (.error failure, shield.refused arguments.length monitor)
      | none =>
        match throughStack behaviour shields (shield.bound?.getD context) arguments monitor with
        | (.error failure, left) => (.error failure, left)
        | (.ok answer, left) =>
          match shield.complaint? left.enforced answer with
          | some failure => (.error failure, left)
          | none => (.ok answer, left) := by
  rw [throughStack, throughStack, firstRefusal?_concat, innerContext_concat]
  cases shield.refusal? monitor.enforced arguments with
  | some failure => rfl
  | none =>
    cases firstRefusal? monitor.enforced arguments shields with
    | some refusal => rfl
    | none =>
      dsimp only
      rcases (behaviour (innerContext shields (shield.bound?.getD context)) arguments).run.run monitor
        with ⟨failure | answer, left⟩
      · rfl
      · simp only [firstComplaint?_concat]
        cases firstComplaint? left.enforced answer shields <;> rfl

/-- The behaviour that a stack stands for, in the registry where its function lives. -/
theorem exists_behaviour_of_stacked {behaviour : Behaviour} {shields : List Shield}
    {registry : Registry} {f : Function} (h : Stacked behaviour shields registry f) :
    ∃ whole, registry.behaviours[f.id]? = some whole ∧
      ∀ context arguments monitor, (whole context arguments).run.run monitor =
        throughStack behaviour shields context arguments monitor := by
  induction h with
  | bottom known =>
    exact ⟨behaviour, known, fun context arguments monitor =>
      (throughStack_nil behaviour context arguments monitor).symm⟩
  | @layer shields registry f arguments returns bound? monitor left shield _ built ih =>
    obtain ⟨below, known, run⟩ := ih
    obtain ⟨f', least, e, _, rfl⟩ := exists_of_run_make (congrArg Prod.fst built)
    obtain rfl := Value.function.inj e
    refine ⟨(⟨arguments, returns, f, registry.behaviour f, bound?, least⟩ : Shield).call, ?_, ?_⟩
    · simp [toFunction, Registry.makeFunction]
    · intro context arguments monitor
      rw [throughStack_concat, run_call_eq, ← run]
      simp only [Registry.behaviour, known]
      rfl
  | later _ grown ih =>
    obtain ⟨whole, known, run⟩ := ih
    refine ⟨whole, ?_, run⟩
    obtain ⟨rest, parts⟩ := grown
    rw [← Array.getElem?_toList] at known ⊢
    obtain ⟨bound, _⟩ := List.getElem?_eq_some_iff.1 known
    rw [← parts, List.getElem?_append_left bound, known]

/-- A call through a stack is one run of the behaviour at its bottom between the two searches. -/
theorem run_callFunction_of_stacked {behaviour : Behaviour} {shields : List Shield}
    {registry : Registry} {f : Function} (h : Stacked behaviour shields registry f)
    (context : Value) (arguments : List Value) (monitor : Monitor) :
    (callFunction registry f context arguments).run.run monitor =
      throughStack behaviour shields context arguments monitor := by
  obtain ⟨whole, known, run⟩ := exists_behaviour_of_stacked h
  rw [callFunction, Registry.behaviour, known]
  exact run context arguments monitor

theorem throughStack_eq_ok_iff {behaviour : Behaviour} {shields : List Shield} {context : Value}
    {arguments : List Value} {monitor left : Monitor} {answer : Value} :
    throughStack behaviour shields context arguments monitor = (.ok answer, left) ↔
      (∀ shield ∈ shields, shield.refusal? monitor.enforced arguments = none) ∧
      (behaviour (innerContext shields context) arguments).run.run monitor = (.ok answer, left) ∧
      ∀ shield ∈ shields, shield.complaint? left.enforced answer = none := by
  rw [throughStack, ← firstRefusal?_eq_none_iff, ← firstComplaint?_eq_none_iff]
  cases firstRefusal? monitor.enforced arguments shields with
  | some refusal => simp
  | none =>
    dsimp only
    rcases (behaviour (innerContext shields context) arguments).run.run monitor with
      ⟨failure | found, after⟩
    · exact ⟨fun h => absurd (Prod.mk.inj h).1 (by simp),
        fun h => absurd (Prod.mk.inj h.2.1).1 (by simp)⟩
    · constructor
      · intro h
        dsimp only at h
        cases complaint : firstComplaint? after.enforced found shields with
        | some failure => simp [complaint] at h
        | none =>
          rw [complaint] at h
          obtain ⟨e, rfl⟩ := Prod.mk.inj h
          obtain rfl := Except.ok.inj e
          exact ⟨rfl, rfl, complaint⟩
      · rintro ⟨_, h, silent⟩
        obtain ⟨e, rfl⟩ := Prod.mk.inj h
        obtain rfl := Except.ok.inj e
        simp only [silent]

/-- A call of the outermost function gives an answer exactly when every shield admits the number of
arguments, accepts the arguments if enforcement is on, and accepts the answer that one run of the
function at the bottom gives, under the innermost bound context. Otherwise it fails with what the
outermost shield has against the arguments, and then the function does not run; else with the
failure of the function; else with what the innermost shield has against its answer. -/
theorem stack_answers_iff_every_layer_accepts {behaviour : Behaviour} {shields : List Shield}
    {registry : Registry} {f : Function} (stacked : Stacked behaviour shields registry f)
    (context : Value) (arguments : List Value) (monitor : Monitor) :
    let called := (callFunction registry f context arguments).run.run monitor
    let bottom :=
      (behaviour ((shields.findSome? Shield.bound?).getD context) arguments).run.run monitor
    (∀ answer left, called = (.ok answer, left) ↔
      (∀ shield ∈ shields,
        shield.least ≤ arguments.length ∧ arguments.length ≤ shield.most) ∧
      (monitor.enforced = true → ∀ shield ∈ shields, ∀ pair ∈ arguments.zip shield.arguments,
        conforms true pair.1 pair.2 = true) ∧
      bottom = (.ok answer, left) ∧
      ∀ shield ∈ shields,
        if shield.returns.isAbsent then answer.isUndefined = true
        else left.enforced = true → conforms true answer shield.returns = true) ∧
    (∀ inner shield outer failure, shields = inner ++ shield :: outer →
      (∀ other ∈ outer, other.refusal? monitor.enforced arguments = none) →
      shield.refusal? monitor.enforced arguments = some failure →
      called = (.error failure, shield.refused arguments.length monitor)) ∧
    ((∀ shield ∈ shields, shield.refusal? monitor.enforced arguments = none) →
      (∀ failure left, bottom = (.error failure, left) → called = (.error failure, left)) ∧
      ∀ answer left inner shield outer failure, bottom = (.ok answer, left) →
        shields = inner ++ shield :: outer →
        (∀ other ∈ inner, other.complaint? left.enforced answer = none) →
        shield.complaint? left.enforced answer = some failure →
        called = (.error failure, left)) := by
  intro called bottom
  have run : called = throughStack behaviour shields context arguments monitor :=
    run_callFunction_of_stacked stacked context arguments monitor
  have entered (silent : ∀ shield ∈ shields, shield.refusal? monitor.enforced arguments = none) :
      called = match bottom with
        | (.error failure, left) => (.error failure, left)
        | (.ok answer, left) =>
          match firstComplaint? left.enforced answer shields with
          | some failure => (.error failure, left)
          | none => (.ok answer, left) := by
    rw [run, throughStack, firstRefusal?_eq_none_iff.2 silent]
    rfl
  refine ⟨fun answer left => ?_, ?_, fun silent => ⟨?_, ?_⟩⟩
  · rw [run, throughStack_eq_ok_iff]
    simp only [refusal?_eq_none_iff, complaint?_eq_none_iff]
    have arguments_iff (switch : Bool) :
        (∀ shield ∈ shields, (shield.least ≤ arguments.length ∧ arguments.length ≤ shield.most) ∧
          ∀ pair ∈ arguments.zip shield.arguments, conforms switch pair.1 pair.2 = true) ↔
        (∀ shield ∈ shields, shield.least ≤ arguments.length ∧ arguments.length ≤ shield.most) ∧
          (switch = true → ∀ shield ∈ shields, ∀ pair ∈ arguments.zip shield.arguments,
            conforms true pair.1 pair.2 = true) := by
      cases switch with
      | false => simp
      | true => simp only [forall_const, ← forall_and]
    have answer_iff (shield : Shield) :
        (if shield.returns.isAbsent then answer.isUndefined = true
          else conforms left.enforced answer shield.returns = true) ↔
        if shield.returns.isAbsent then answer.isUndefined = true
          else left.enforced = true → conforms true answer shield.returns = true := by
      rw [← conforms_iff_of_on]
    rw [arguments_iff monitor.enforced, and_assoc]
    simp only [answer_iff]
    rfl
  · rintro inner shield outer failure rfl silent h
    rw [run, throughStack, firstRefusal?_of_outermost silent h]
  · intro failure left failed
    rw [entered silent, failed]
  · rintro answer left inner shield outer failure answered rfl accepted h
    rw [entered silent, answered]
    simp only [firstComplaint?_of_innermost accepted h]

/-- Two shields over a function that switches enforcement off and answers its context: the inner one
asks for a string and does not look any more, the outer one binds the context. -/
theorem stack_answers_while_switched_off_inside :
    ∃ shields registry f,
      Stacked (Behaviour.setting false Behaviour.context) shields registry f ∧ shields.length = 2 ∧
      (callFunction registry f .null [.bool false]).run.run .initial =
        (.ok (.bool true), ⟨false, #[.toggled false]⟩) := by
  let base := Registry.initial.makeFunction "f" (Behaviour.setting false Behaviour.context)
  have bottom : Stacked (Behaviour.setting false Behaviour.context) [] base.2 base.1 := .bottom rfl
  have inside := @Stacked.layer _ _ _ _ [.boolean] .string none .initial _ _ bottom rfl
  have stacked := @Stacked.layer _ _ _ _ [.nullable .boolean] .boolean (some (.bool true)) .initial
    _ _ inside rfl
  have answers := (stack_answers_iff_every_layer_accepts stacked .null [.bool false] .initial).1
    (.bool true) ⟨false, #[.toggled false]⟩
  refine ⟨_, _, _, stacked, rfl, answers.2 ⟨?_, ?_, rfl, ?_⟩⟩
  · simp only [List.nil_append, List.singleton_append, List.forall_mem_cons]
    decide
  · simp only [List.nil_append, List.singleton_append, List.forall_mem_cons]
    decide
  · simp only [List.nil_append, List.singleton_append, List.forall_mem_cons]
    decide

end TypeAssertion.Shield
