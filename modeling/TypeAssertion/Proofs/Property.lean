import TypeAssertion.Property
import TypeAssertion.Proofs.Check.Verdict

/-!
Tests for properties. A test first asks whether the property is there, and only then checks its
value; a missing property is told alike whatever type is asked for. The soft and the hard test and
the tests for a kind check in the three ways of a check, so what holds between these holds between
the tests.
-/

set_option autoImplicit false

namespace TypeAssertion

/-- An object or an instance has a property, with a value that is not undefined. -/
inductive Value.Owns : Value → String → Value → Prop
  | property {properties : List (String × Value)} {name : String} {value : Value} :
      properties.lookup name = some value → value ≠ .undefined →
      Owns (.object properties) name value
  | field {cls : Class} {fields : List (String × Value)} {name : String} {value : Value} :
      fields.lookup name = some value → value ≠ .undefined →
      Owns (.instance cls fields) name value

variable {switch : Bool} {object value : Value} {name : String}

/-! ### Presence -/

theorem Value.isUndefined_iff : value.isUndefined = true ↔ value = .undefined := by
  cases value <;> simp [isUndefined]

theorem Value.owns_iff :
    object.Owns name value ↔ object.property? name = some value ∧ value ≠ .undefined := by
  constructor
  · intro owns
    cases owns with
    | property found defined => exact ⟨found, defined⟩
    | field found defined => exact ⟨found, defined⟩
  · rintro ⟨found, defined⟩
    cases object with
    | object properties => exact .property found defined
    | «instance» cls fields => exact .field found defined
    | _ => simp [property?, entries?] at found

theorem Value.Owns.not_undefined (owns : object.Owns name value) : object.isUndefined = false := by
  cases owns <;> rfl

theorem Value.Owns.unique {other : Value} (owns : object.Owns name value)
    (owns' : object.Owns name other) : value = other :=
  Option.some.inj ((owns_iff.1 owns).1.symm.trans (owns_iff.1 owns').1)

theorem presentProperty_of_owns (owns : object.Owns name value) :
    presentProperty object name = .ok value := by
  obtain ⟨found, defined⟩ := Value.owns_iff.1 owns
  rw [presentProperty, owns.not_undefined, found]
  simpa [Value.isUndefined_iff] using defined

/-- Without the property, the cause tells whether there is an object at all. -/
theorem presentProperty_of_missing (missing : ∀ value, ¬object.Owns name value) :
    presentProperty object name =
      .error (if object.isUndefined then .objectUndefined name else .propertyUndefined name) := by
  rw [presentProperty]
  split
  · rfl
  · split
    · next held found =>
      rw [if_pos]
      rw [Value.isUndefined_iff]
      by_contra defined
      exact missing held (Value.owns_iff.2 ⟨found, defined⟩)
    · rfl

/-! ### Tests in each way of a check -/

variable {type? : Option Descriptor} {strictness : Strictness}

theorem testProperty_of_missing (missing : ∀ value, ¬object.Owns name value) :
    testProperty switch object name type? strictness =
      if strictness.isSoft then .ok false
      else .error (.precondition
        (if object.isUndefined then .objectUndefined name else .propertyUndefined name)) := by
  rw [testProperty, presentProperty_of_missing missing]

theorem testProperty_of_owns (owns : object.Owns name value) :
    testProperty switch object name type? strictness =
      match type? with
      | none => .ok true
      | some descriptor => liftType (check switch value descriptor strictness) := by
  cases type? <;> simp only [testProperty, presentProperty_of_owns owns]

theorem check_soft_eq (switch : Bool) (value : Value) (descriptor : Descriptor) :
    check switch value descriptor .soft = .ok (conforms switch value descriptor) := by
  obtain ⟨answer, told⟩ := exists_checkIn_soft_eq_ok .followSwitch switch value descriptor
  rw [conforms, conformsIn, check, told]

/-- While enforcement is on, a strict check is a forced one. -/
theorem check_on_strict_eq (value : Value) (descriptor : Descriptor) :
    check true value descriptor .strict = check true value descriptor .forced := by
  rw [check, check, checkIn_of_reached (.inl rfl), checkIn_of_reached (.inl rfl)]
  rfl

theorem liftType_map {α β : Type} (f : α → β) (checked : Except TypeFailure α) :
    liftType (checked.map f) = (liftType checked).map f := by
  cases checked <;> rfl

theorem liftType_eq_ok_iff {α : Type} {checked : Except TypeFailure α} {a : α} :
    liftType checked = .ok a ↔ checked = .ok a := by
  cases checked <;> simp [liftType]

theorem liftType_eq_error_iff {α : Type} {checked : Except TypeFailure α} {failure : Failure} :
    liftType checked = .error failure ↔
      ∃ cause, failure = .type cause ∧ checked = .error cause := by
  cases checked <;> simp [liftType, eq_comm]

/-! ### Soft and hard tests -/

/-- What the soft and the hard test for a property say. -/
structure PropertyLaw (switch : Bool) (object : Value) (name : String) (type? : Option Descriptor) :
    Prop where
  soft_answers : ∃ answer, hasProperty switch object name type? true = .ok answer
  hard_affirms : hasProperty switch object name type? false ≠ .ok false
  missing : (∀ value, ¬object.Owns name value) →
    hasProperty switch object name type? true = .ok false ∧
    hasProperty switch object name type? false = .error (.precondition
      (if object.isUndefined then .objectUndefined name else .propertyUndefined name))
  untyped value : object.Owns name value → type? = none →
    hasProperty switch object name type? true = .ok true ∧
    hasProperty switch object name type? false = .ok true
  typed value descriptor : object.Owns name value → type? = some descriptor →
    hasProperty switch object name type? true = .ok (conforms switch value descriptor) ∧
    (hasProperty switch object name type? false = .ok true ↔
      ensureForced switch value descriptor = .ok ()) ∧
    ∀ failure, hasProperty switch object name type? false = .error failure ↔
      ∃ cause, failure = .type cause ∧ ensureForced switch value descriptor = .error cause
  soft_of_hard : hasProperty switch object name type? false = .ok true →
    hasProperty switch object name type? true = .ok true
  coincide : switch = true → (hasProperty switch object name type? false = .ok true ↔
    hasProperty switch object name type? true = .ok true)

theorem propertyLaw_of_missing (missing : ∀ value, ¬object.Owns name value) :
    PropertyLaw switch object name type? := by
  have soft : hasProperty switch object name type? true = .ok false :=
    testProperty_of_missing missing
  have hard : hasProperty switch object name type? false = .error (.precondition
      (if object.isUndefined then .objectUndefined name else .propertyUndefined name)) :=
    testProperty_of_missing missing
  constructor
  case soft_answers => exact ⟨_, soft⟩
  case missing => exact fun _ => ⟨soft, hard⟩
  case untyped => exact fun value owns => absurd owns (missing value)
  case typed => exact fun value _ owns => absurd owns (missing value)
  all_goals simp [soft, hard]

theorem propertyLaw_of_untyped (owns : object.Owns name value) :
    PropertyLaw switch object name none := by
  have soft : hasProperty switch object name none true = .ok true := testProperty_of_owns owns
  have hard : hasProperty switch object name none false = .ok true := testProperty_of_owns owns
  constructor
  case missing => exact fun missing => absurd owns (missing value)
  case untyped => exact fun _ _ _ => ⟨soft, hard⟩
  case typed => exact fun _ _ _ typed => absurd typed (by simp)
  all_goals simp [soft, hard]

theorem hasProperty_soft_eq (owns : object.Owns name value) (descriptor : Descriptor) :
    hasProperty switch object name (some descriptor) true =
      .ok (conforms switch value descriptor) := by
  have tested : testProperty switch object name (some descriptor) .soft =
      liftType (check switch value descriptor .soft) := testProperty_of_owns owns
  rwa [check_soft_eq] at tested

theorem hasProperty_hard_eq (owns : object.Owns name value) (descriptor : Descriptor) :
    hasProperty switch object name (some descriptor) false =
      liftType (check switch value descriptor .forced) := testProperty_of_owns owns

theorem propertyLaw_of_typed (owns : object.Owns name value) (descriptor : Descriptor) :
    PropertyLaw switch object name (some descriptor) := by
  have soft : hasProperty switch object name (some descriptor) true =
      .ok (conforms switch value descriptor) := hasProperty_soft_eq owns descriptor
  have hard : hasProperty switch object name (some descriptor) false =
      liftType (check switch value descriptor .forced) := hasProperty_hard_eq owns descriptor
  have affirms : check switch value descriptor .forced ≠ .ok false :=
    checkIn_ne_ok_false (by decide)
  have soft_iff : hasProperty switch object name (some descriptor) true = .ok true ↔
      (switch = true → descriptor.verdict switch value = true) := by
    rw [soft, Except.ok.injEq, conforms, conformsIn_iff, checkIn_eq_ok_true_iff]
    simp [EnforcementMode.resolve]
  have hard_iff : hasProperty switch object name (some descriptor) false = .ok true ↔
      descriptor.verdict switch value = true := by
    rw [hard, liftType_eq_ok_iff, check, checkIn_eq_ok_true_iff]
    simp
  constructor
  case soft_answers => exact ⟨_, soft⟩
  case hard_affirms =>
    rw [hard]
    exact fun negative => affirms (liftType_eq_ok_iff.1 negative)
  case missing => exact fun missing => absurd owns (missing value)
  case untyped => exact fun _ _ untyped => absurd untyped (by simp)
  case typed =>
    rintro other _ owns' ⟨⟩
    obtain rfl := owns.unique owns'
    have tells := tells_map affirms
    refine ⟨soft, ?_, fun failure => ?_⟩
    · rw [hard, liftType_eq_ok_iff]
      exact tells.success.symm
    · rw [hard, liftType_eq_error_iff]
      simp only [← tells.failure, ensureForced]
  case soft_of_hard => exact fun affirmed => soft_iff.2 fun _ => hard_iff.1 affirmed
  case coincide => exact fun on => by rw [soft_iff, hard_iff, imp_iff_right on]

theorem propertyLaw (switch : Bool) (object : Value) (name : String) (type? : Option Descriptor) :
    PropertyLaw switch object name type? := by
  by_cases present : ∃ value, object.Owns name value
  · obtain ⟨value, owns⟩ := present
    cases type? with
    | none => exact propertyLaw_of_untyped owns
    | some descriptor => exact propertyLaw_of_typed owns descriptor
  · exact propertyLaw_of_missing (not_exists.1 present)

/-! ### Tests for a kind -/

/-- The tests for a property of a kind, each with its kind. -/
def kindTests : List (Primitive × (Bool → Value → String → Except Failure Unit)) :=
  [(.string, requireString), (.number, requireNumber), (.object, requireObject),
    (.function, requireFunction)]

theorem requireKind_of_owns (owns : object.Owns name value) (kind : Primitive) :
    requireKind switch object name kind = liftType (ensure switch value (.primitive kind)) := by
  rw [requireKind, testProperty_of_owns owns]
  exact (liftType_map _ _).symm

theorem requireKind_eq_ok_iff {kind : Primitive} :
    requireKind switch object name kind = .ok () ↔
      ∃ value, object.Owns name value ∧ ensure switch value (.primitive kind) = .ok () := by
  by_cases present : ∃ value, object.Owns name value
  · obtain ⟨value, owns⟩ := present
    rw [requireKind_of_owns owns, liftType_eq_ok_iff]
    refine ⟨fun ensured => ⟨value, owns, ensured⟩, ?_⟩
    rintro ⟨other, owns', ensured⟩
    obtain rfl := owns.unique owns'
    exact ensured
  · have missing := not_exists.1 present
    rw [requireKind, testProperty_of_missing missing]
    refine ⟨by simp [Strictness.isSoft, Except.map], ?_⟩
    rintro ⟨value, owns, -⟩
    exact absurd owns (missing value)

/-- While enforcement is on, the test for a kind is the hard test without its answer. -/
theorem requireKind_on_eq (object : Value) (name : String) (kind : Primitive) :
    requireKind true object name kind =
      (hasProperty true object name (some (.primitive kind)) false).map fun _ => () := by
  by_cases present : ∃ value, object.Owns name value
  · obtain ⟨value, owns⟩ := present
    rw [hasProperty_hard_eq owns, requireKind, testProperty_of_owns owns]
    dsimp only
    rw [check_on_strict_eq]
  · have missing := not_exists.1 present
    rw [requireKind, hasProperty, testProperty_of_missing missing, testProperty_of_missing missing]
    rfl

/-- The soft and the hard test agree as far as the law of properties says, for a type of any sort. A
test for a kind succeeds exactly when the property is there and is ensured to be of that kind; it is
the hard test for the kind while enforcement is on, and a test for presence while it is off. -/
theorem property_tests_agree (switch : Bool) (object : Value) (name : String) :
    (∀ type? : Option Descriptor, PropertyLaw switch object name type?) ∧
    ∀ test ∈ kindTests,
      (test.2 switch object name = .ok () ↔
        ∃ value, object.Owns name value ∧ ensure switch value (.primitive test.1) = .ok ()) ∧
      (switch = true → test.2 switch object name =
        (hasProperty switch object name (some (.primitive test.1)) false).map fun _ => ()) ∧
      (switch = false →
        (test.2 switch object name = .ok () ↔ ∃ value, object.Owns name value)) := by
  refine ⟨propertyLaw switch object name, fun test among => ?_⟩
  have kind : test.2 switch object name = requireKind switch object name test.1 := by
    simp only [kindTests, List.mem_cons, List.not_mem_nil, or_false] at among
    rcases among with rfl | rfl | rfl | rfl <;> rfl
  rw [kind]
  refine ⟨requireKind_eq_ok_iff, ?_, ?_⟩
  · rintro rfl
    exact requireKind_on_eq object name test.1
  · rintro rfl
    rw [requireKind_eq_ok_iff]
    simp [ensure_eq_ok_iff]

/-- While enforcement is off, a text in place of a number passes all but the hard test. What is
undefined is missing, even for a descriptor that accepts it. -/
theorem mistyped_age_passes_softly_while_off :
    let person := Value.object [("age", .string "7"), ("title", .undefined)]
    hasProperty false person "age" (some .number) true = .ok true ∧
    hasProperty false person "age" (some .number) false =
      .error (.type ⟨.number, some "string", none⟩) ∧
    requireNumber false person "age" = .ok () ∧
    hasProperty false person "title" (some .absent) true = .ok false ∧
    hasProperty false person "title" (some .absent) false =
      .error (.precondition (.propertyUndefined "title")) := by
  intro person
  have age : person.Owns "age" (.string "7") := .property rfl (by simp)
  have title : ∀ value, ¬person.Owns "title" value := by
    intro value owns
    obtain ⟨found, defined⟩ := Value.owns_iff.1 owns
    exact defined (Option.some.inj found).symm
  obtain ⟨ages, kinds⟩ := property_tests_agree false person "age"
  obtain ⟨titles, -⟩ := property_tests_agree false person "title"
  obtain ⟨soft, -, refused⟩ := (ages (some .number)).typed _ _ age rfl
  obtain ⟨missed, broken⟩ := (titles (some .absent)).missing title
  refine ⟨soft, (refused _).2 ⟨_, rfl, rfl⟩, ?_, missed, broken⟩
  exact ((kinds (.number, requireNumber) (by simp [kindTests])).2.2 rfl).2 ⟨_, age⟩

end TypeAssertion
