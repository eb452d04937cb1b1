import TypeAssertion.Behaviour
import TypeAssertion.Shield
import TypeAssertion.Proofs.Check

/-!
What a shield holds against a call: before its function runs, the number of arguments and then the
arguments; after it, the answer. A call runs the function once if there is nothing before, and gives
the answer if there is nothing after.
-/

set_option autoImplicit false

namespace TypeAssertion.Shield

theorem checkArguments_eq_ok_iff {switch : Bool} {arguments : List Value}
    {descriptors : List Descriptor} :
    checkArguments switch arguments descriptors = .ok () ↔
      ∀ pair ∈ arguments.zip descriptors, conforms switch pair.1 pair.2 = true := by
  induction arguments generalizing descriptors with
  | nil => simp [checkArguments]
  | cons argument arguments ih =>
    cases descriptors with
    | nil => simp [checkArguments]
    | cons descriptor descriptors =>
      rw [checkArguments, ensure_eq, List.zip_cons_cons, List.forall_mem_cons, ← ih]
      cases h : conforms switch argument descriptor <;> simp

theorem checkAnswer_eq_ok_iff {switch : Bool} {returns : Descriptor} {answer : Value} :
    checkAnswer switch returns answer = .ok () ↔
      if returns.isAbsent then answer.isUndefined = true else conforms switch answer returns = true := by
  unfold checkAnswer
  split
  · cases answer.isUndefined <;> simp
  · rw [ensure_eq]
    cases conforms switch answer returns <;> simp [liftType]

/-- What a shield holds against the arguments of a call, if anything. -/
def refusal? (switch : Bool) (arguments : List Value) (shield : Shield) : Option Failure :=
  if shield.admits arguments.length then
    match checkArguments switch arguments shield.arguments with
    | .ok () => none
    | .error failure => some (.type failure)
  else some (.arity (.argumentCount shield.least shield.most arguments.length))

/-- What a shield holds against an answer, if anything. -/
def complaint? (switch : Bool) (answer : Value) (shield : Shield) : Option Failure :=
  match checkAnswer switch shield.returns answer with
  | .ok () => none
  | .error failure => some failure

/-- What a refused call leaves: only a wrong number of arguments is reported. -/
def refused (shield : Shield) (count : Nat) (monitor : Monitor) : Monitor :=
  if shield.admits count then monitor
  else ⟨monitor.enforced,
    monitor.events.push (.callRejected shield.function.name count shield.least shield.most)⟩

theorem refusal?_eq_none_iff {switch : Bool} {arguments : List Value} {shield : Shield} :
    shield.refusal? switch arguments = none ↔
      (shield.least ≤ arguments.length ∧ arguments.length ≤ shield.most) ∧
        ∀ pair ∈ arguments.zip shield.arguments, conforms switch pair.1 pair.2 = true := by
  rw [← checkArguments_eq_ok_iff, refusal?, admits]
  cases checkArguments switch arguments shield.arguments with
  | ok _ => simp
  | error failure => split <;> simp

theorem complaint?_eq_none_iff {switch : Bool} {answer : Value} {shield : Shield} :
    shield.complaint? switch answer = none ↔
      if shield.returns.isAbsent then answer.isUndefined = true
      else conforms switch answer shield.returns = true := by
  rw [← checkAnswer_eq_ok_iff, complaint?]
  cases checkAnswer switch shield.returns answer <;> simp

/-- A call in terms of what the shield holds against it. -/
theorem run_call_eq (shield : Shield) (context : Value) (arguments : List Value)
    (monitor : Monitor) :
    (shield.call context arguments).run.run monitor =
      match shield.refusal? monitor.enforced arguments with
      | some failure => (.error failure, shield.refused arguments.length monitor)
      | none =>
        match (shield.behaviour (shield.bound?.getD context) arguments).run.run monitor with
        | (.error failure, left) => (.error failure, left)
        | (.ok answer, left) =>
          match shield.complaint? left.enforced answer with
          | some failure => (.error failure, left)
          | none => (.ok answer, left) := by
  rw [run_call, refusal?, refused]
  by_cases admitted : shield.admits arguments.length = true
  · rw [if_pos admitted, if_pos admitted, if_pos admitted]
    cases checkArguments monitor.enforced arguments shield.arguments with
    | error failure => rfl
    | ok _ =>
      dsimp only
      rcases (shield.behaviour (shield.bound?.getD context) arguments).run.run monitor with
        ⟨failure | answer, left⟩
      · rfl
      · simp only [complaint?]
        cases checkAnswer left.enforced shield.returns answer <;> rfl
  · rw [if_neg admitted, if_neg admitted, if_neg admitted]

/-! ### One call from end to end -/

/-- The first of the arguments that the descriptor in its position does not accept. -/
structure FirstMismatch (pairs : List (Value × Descriptor)) (position : Nat) (argument : Value)
    (descriptor : Descriptor) : Prop where
  here : pairs[position]? = some (argument, descriptor)
  mismatch : descriptor.accepts true argument = false
  before : ∀ pair ∈ pairs.take position, pair.2.accepts true pair.1 = true

theorem exists_firstMismatch {arguments : List Value} {descriptors : List Descriptor}
    {failure : TypeFailure} (h : checkArguments true arguments descriptors = .error failure) :
    ∃ position argument descriptor,
      FirstMismatch (arguments.zip descriptors) position argument descriptor ∧
        failure = .ofMismatch argument descriptor := by
  induction arguments generalizing descriptors with
  | nil => simp [checkArguments] at h
  | cons argument arguments ih =>
    cases descriptors with
    | nil => simp [checkArguments] at h
    | cons descriptor descriptors =>
      rw [checkArguments, ensure_eq, conforms_on] at h
      cases accepted : descriptor.accepts true argument with
      | false =>
        simp only [accepted, Bool.false_eq_true, if_false, Except.error.injEq] at h
        exact ⟨0, argument, descriptor, ⟨rfl, accepted, by simp⟩, h.symm⟩
      | true =>
        simp only [accepted, if_true] at h
        obtain ⟨position, other, expected, first, failure_eq⟩ := ih h
        refine ⟨position + 1, other, expected, ⟨first.here, first.mismatch, ?_⟩, failure_eq⟩
        rw [List.zip_cons_cons, List.take_succ_cons, List.forall_mem_cons]
        exact ⟨accepted, first.before⟩

theorem answered_absent (switch : Bool) (answer : Value) :
    ((checkAnswer switch .absent answer).map fun _ => answer) =
      if answer.isUndefined then .ok .undefined
      else .error (.arity (.unexpectedReturn answer.typeName)) := by
  cases answer <;> rfl

theorem answered_of_ne_absent {returns : Descriptor} (h : returns ≠ .absent) (switch : Bool)
    (answer : Value) :
    ((checkAnswer switch returns answer).map fun _ => answer) =
      if switch = true ∧ returns.accepts true answer = false then
        .error (.type (.ofMismatch answer returns))
      else .ok answer := by
  have present : returns.isAbsent = false := by
    cases returns <;> simp [Descriptor.isAbsent] at h ⊢
  rw [checkAnswer, present, ensure_eq, conforms_eq]
  cases switch with
  | false => rfl
  | true => cases returns.accepts true answer <;> rfl

theorem admits_iff {shield : Shield} {count : Nat} :
    shield.admits count = true ↔ shield.least ≤ count ∧ count ≤ shield.most := by
  simp [admits]

/-- What nothing is held against before the function runs is one run of the function. -/
theorem run_call_of_accepted {shield : Shield} {arguments : List Value} {monitor : Monitor}
    (context : Value) (counted : shield.least ≤ arguments.length ∧ arguments.length ≤ shield.most)
    (accepted : monitor.enforced = true →
      ∀ pair ∈ arguments.zip shield.arguments, pair.2.accepts true pair.1 = true) :
    (shield.call context arguments).run.run monitor =
      match (shield.behaviour (shield.bound?.getD context) arguments).run.run monitor with
      | (.error failure, left) => (.error failure, left)
      | (.ok answer, left) =>
        ((checkAnswer left.enforced shield.returns answer).map fun _ => answer, left) := by
  have checked : checkArguments monitor.enforced arguments shield.arguments = .ok () := by
    rw [checkArguments_eq_ok_iff]
    intro pair inside
    rw [conforms_iff_of_on]
    intro on
    rw [conforms_on]
    exact accepted on pair inside
  rw [run_call, if_pos (admits_iff.2 counted), checked]
  dsimp only
  rcases (shield.behaviour (shield.bound?.getD context) arguments).run.run monitor with
    ⟨failure | answer, left⟩
  · rfl
  · dsimp only
    cases checkAnswer left.enforced shield.returns answer <;> rfl

/-- A call is refused for its number of arguments in every state of the switch, and for the first
argument that is not accepted while the switch is on. Otherwise the function runs once. Its failure
is passed on, and its answer is held against the return descriptor: always if that is absent, and
following the switch as the function left it if not. -/
theorem call_is_checked_before_and_after (shield : Shield) (context : Value)
    (arguments : List Value) (monitor : Monitor) :
    let called := (shield.call context arguments).run.run monitor
    let counted := shield.least ≤ arguments.length ∧ arguments.length ≤ shield.most
    let pairs := arguments.zip shield.arguments
    let ran := (shield.behaviour (shield.bound?.getD context) arguments).run.run monitor
    (¬counted → called =
      (.error (.arity (.argumentCount shield.least shield.most arguments.length)),
        ⟨monitor.enforced, monitor.events.push
          (.callRejected shield.function.name arguments.length shield.least shield.most)⟩)) ∧
    (counted → monitor.enforced = true → (∃ pair ∈ pairs, pair.2.accepts true pair.1 = false) →
      ∃ position argument descriptor, FirstMismatch pairs position argument descriptor ∧
        called = (.error (.type ⟨descriptor, some argument.typeName, none⟩), monitor)) ∧
    (counted → (monitor.enforced = true → ∀ pair ∈ pairs, pair.2.accepts true pair.1 = true) →
      called.2 = ran.2 ∧
      (∀ failure, ran.1 = .error failure → called.1 = .error failure) ∧
      (∀ answer, ran.1 = .ok answer → shield.returns = .absent → called.1 =
        if answer.isUndefined then .ok .undefined
        else .error (.arity (.unexpectedReturn answer.typeName))) ∧
      (∀ answer, ran.1 = .ok answer → shield.returns ≠ .absent → called.1 =
        if ran.2.enforced = true ∧ shield.returns.accepts true answer = false then
          .error (.type ⟨shield.returns, some answer.typeName, none⟩)
        else .ok answer)) := by
  intro called counted pairs ran
  refine ⟨fun uncounted => ?_, ?_, fun count accepted => ?_⟩
  · exact (run_call shield context arguments monitor).trans (if_neg (mt admits_iff.1 uncounted))
  · rintro count on ⟨pair, inside, mismatch⟩
    cases checked : checkArguments true arguments shield.arguments with
    | ok _ =>
      have conforming := checkArguments_eq_ok_iff.1 checked pair inside
      rw [conforms_on, mismatch] at conforming
      simp at conforming
    | error failure =>
      obtain ⟨position, argument, descriptor, first, rfl⟩ := exists_firstMismatch checked
      refine ⟨position, argument, descriptor, first, ?_⟩
      change (shield.call context arguments).run.run monitor = _
      rw [run_call, if_pos (admits_iff.2 count), on, checked]
      rfl
  · have called_eq := run_call_of_accepted context count accepted
    change called = match ran with
      | (.error failure, left) => (.error failure, left)
      | (.ok answer, left) =>
        ((checkAnswer left.enforced shield.returns answer).map fun _ => answer, left) at called_eq
    rcases ran with ⟨failure | answer, left⟩
    · rw [called_eq]
      exact ⟨rfl, fun _ same => same, by simp, by simp⟩
    · rw [called_eq]
      refine ⟨rfl, by simp, ?_, ?_⟩
      · rintro _ ⟨⟩ absent
        rw [absent]
        exact answered_absent left.enforced answer
      · rintro _ ⟨⟩ present
        exact answered_of_ne_absent present left.enforced answer

/-- A function that switches enforcement off: its answer passes, an argument before it does not. -/
theorem call_answers_while_switched_off_inside :
    ∃ shield : Shield, shield.behaviour = Behaviour.setting false Behaviour.context ∧
      (shield.call .null []).run.run .initial =
        (.error (.arity (.argumentCount 1 2 0)), ⟨true, #[.callRejected "f" 0 1 2]⟩) ∧
      (shield.call .null [.bool true, .string "b"]).run.run .initial =
        (.error (.type ⟨.nullable .boolean, some "string", none⟩), .initial) ∧
      (shield.call .null [.bool true]).run.run .initial =
        (.ok .null, ⟨false, #[.toggled false]⟩) := by
  let shield : Shield := ⟨[.boolean, .nullable .boolean], .string, ⟨0, "f"⟩,
    Behaviour.setting false Behaviour.context, none, 1⟩
  refine ⟨shield, rfl, ?_, ?_, ?_⟩
  · exact (call_is_checked_before_and_after shield .null [] .initial).1 (by decide)
  · obtain ⟨position, argument, descriptor, first, called⟩ :=
      (call_is_checked_before_and_after shield .null [.bool true, .string "b"] .initial).2.1
        (by decide) rfl ⟨(.string "b", .nullable .boolean), by simp [shield], rfl⟩
    match position, first.here with
    | 0, here =>
      obtain ⟨rfl, rfl⟩ := Prod.mk.inj (Option.some.inj here)
      exact absurd first.mismatch (by decide)
    | 1, here =>
      obtain ⟨rfl, rfl⟩ := Prod.mk.inj (Option.some.inj here)
      exact called
  · obtain ⟨left, -, -, answered⟩ :=
      (call_is_checked_before_and_after shield .null [.bool true] .initial).2.2 (by decide)
        fun _ => by decide
    exact Prod.ext (answered .null rfl (by simp [shield])) left

end TypeAssertion.Shield
