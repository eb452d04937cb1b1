import Mathlib.Data.List.Induction
import TypeAssertion.Proofs.Fields
import TypeAssertion.Proofs.Record.Construct

/-!
What building a record from initial values comes to, failures included. The declared fields are
written in ascending order, so the failure is that of the least field whose property is refused.
Nothing else of the values is looked at, and a specification is told by the last descriptor given to
each field, in whatever order the fields were added.
-/

set_option autoImplicit false

namespace TypeAssertion

namespace RecordSpec

/-- A specification that is built field by field; a field that is added again is replaced. -/
def ofSteps (steps : List (String × Descriptor)) : RecordSpec :=
  steps.foldl (fun spec step => spec.insert step.1 step.2) Fields.empty

/-- The descriptor that was given last to a field. -/
def lastGiven? (steps : List (String × Descriptor)) (field : String) : Option Descriptor :=
  steps.reverse.lookup field

theorem get?_ofSteps (steps : List (String × Descriptor)) (field : String) :
    (ofSteps steps).get? field = lastGiven? steps field := by
  induction steps using List.reverseRecOn with
  | nil => rfl
  | append_singleton steps step ih =>
    obtain ⟨name, descriptor⟩ := step
    rw [ofSteps, List.foldl_concat, Fields.get?_insert, lastGiven?, List.reverse_concat,
      lookup_entry]
    rw [ofSteps, lastGiven?] at ih
    rw [ih]

/-- Specifications that give every field the same descriptor in the end are the same. -/
theorem ofSteps_eq_of_lastGiven?_eq {first second : List (String × Descriptor)}
    (same : ∀ field, lastGiven? first field = lastGiven? second field) :
    ofSteps first = ofSteps second := by
  have looked (field : String) :
      (ofSteps first).entries.lookup field = (ofSteps second).entries.lookup field := by
    have given := get?_ofSteps first field
    rw [same, ← get?_ofSteps second] at given
    exact given
  have entries := entries_ext (ofSteps first).ascending (ofSteps second).ascending looked
  cases h : ofSteps first
  cases k : ofSteps second
  simp_all

end RecordSpec

namespace Record

/-- A declared field whose property does not conform to its descriptor. -/
structure Refused (type : RecordType) (values : Value) (field : String) (descriptor : Descriptor)
    (value : Value) : Prop where
  declared : type.spec.get? field = some descriptor
  present : values.property? field = some value
  mismatch : conforms true value descriptor = false

/-- The least field that is refused. -/
structure FirstRefused (type : RecordType) (values : Value) (field : String)
    (descriptor : Descriptor) (value : Value) : Prop
    extends Refused type values field descriptor value where
  least : ∀ other descriptor value, Refused type values other descriptor value → field ≤ other

variable {type : RecordType} {values : Value}

theorem FirstRefused.unique {field other : String} {descriptor descriptor' : Descriptor}
    {value value' : Value} (first : FirstRefused type values field descriptor value)
    (second : FirstRefused type values other descriptor' value') :
    field = other ∧ descriptor = descriptor' ∧ value = value' := by
  have below := first.least _ _ _ second.toRefused
  have above := second.least _ _ _ first.toRefused
  obtain rfl := String.le_antisymm below above
  refine ⟨rfl, ?_, ?_⟩
  · exact Option.some.inj (first.declared.symm.trans second.declared)
  · exact Option.some.inj (first.present.symm.trans second.present)

/-! ### Filling -/

theorem set_of_declared {switch : Bool} {record : Record} {field : String}
    {descriptor : Descriptor} (declared : record.type.spec.get? field = some descriptor)
    (value : Value) :
    record.set switch field value =
      if conforms switch value descriptor then .ok (record.put field value)
      else .error (.type (fieldFailure record.type field (.ofMismatch value descriptor))) := by
  rw [set, declared]
  dsimp only
  rw [ensure_eq]
  cases conforms switch value descriptor <;> rfl

/-- Filling that fails does so at the first field of the list that is refused. -/
theorem exists_refused_of_fill_eq_error {fields : List String} {record : Record}
    {failure : Failure} (declared : ∀ field ∈ fields, field ∈ record.type.spec.names)
    (failed : fill true values fields record = .error failure) :
    ∃ before field after descriptor value, fields = before ++ field :: after ∧
      (∀ other ∈ before, ∀ d v, ¬Refused record.type values other d v) ∧
      Refused record.type values field descriptor value ∧
      failure = .type (fieldFailure record.type field (.ofMismatch value descriptor)) := by
  induction fields generalizing record with
  | nil => cases failed
  | cons field rest ih =>
    obtain ⟨named, declared⟩ := List.forall_mem_cons.1 declared
    obtain ⟨descriptor, found⟩ := Fields.exists_get?_of_mem named
    rw [fill] at failed
    cases present : values.property? field with
    | none =>
      rw [present] at failed
      obtain ⟨before, other, after, d, v, rfl, passed, refused, told⟩ := ih declared failed
      refine ⟨field :: before, other, after, d, v, rfl, ?_, refused, told⟩
      rw [List.forall_mem_cons]
      refine ⟨fun d v here => ?_, passed⟩
      rw [here.present] at present
      cases present
    | some value =>
      rw [present] at failed
      dsimp only at failed
      rw [set_of_declared found] at failed
      cases fits : conforms true value descriptor with
      | false =>
        rw [fits] at failed
        refine ⟨[], field, rest, descriptor, value, rfl, by simp, ⟨found, present, fits⟩, ?_⟩
        exact (Except.error.inj failed).symm
      | true =>
        rw [fits] at failed
        have declared' : ∀ other ∈ rest, other ∈ (record.put field value).type.spec.names :=
          declared
        obtain ⟨before, other, after, d, v, rfl, passed, refused, told⟩ := ih declared' failed
        refine ⟨field :: before, other, after, d, v, rfl, ?_, refused, told⟩
        rw [List.forall_mem_cons]
        refine ⟨fun d v here => ?_, passed⟩
        obtain rfl := Option.some.inj (here.declared.symm.trans found)
        obtain rfl := Option.some.inj (here.present.symm.trans present)
        exact absurd (here.mismatch.symm.trans fits) (by decide)

/-- Filling looks at the properties under the names of the fields only. -/
theorem fill_congr {switch : Bool} {first second : Value} {fields : List String}
    (same : ∀ field ∈ fields, first.property? field = second.property? field) (record : Record) :
    fill switch first fields record = fill switch second fields record := by
  induction fields generalizing record with
  | nil => rfl
  | cons field rest ih =>
    obtain ⟨here, later⟩ := List.forall_mem_cons.1 same
    rw [fill, fill, here]
    cases second.property? field with
    | none => exact ih later record
    | some value =>
      dsimp only
      cases record.set switch field value with
      | error failure => rfl
      | ok written => exact ih later written

/-! ### Building -/

theorem construct_of_object {switch : Bool} (container : values.isObject = true) :
    construct switch type values = fill switch values type.spec.names (blank type) := by
  have passes : conforms switch values .object = true := by
    rw [conforms_object, container, Bool.or_true]
  rw [construct, ensure_eq, passes]
  rfl

theorem construct_of_not_object (scalar : values.isObject = false) :
    construct true type values = .error (.type (.ofMismatch values .object)) := by
  rw [construct, ensure_eq, conforms_object, scalar]
  rfl

theorem construct_off (type : RecordType) (values : Value) :
    construct false type values = fill false values type.spec.names (blank type) := rfl

theorem property?_of_not_object (scalar : values.isObject = false) (field : String) :
    values.property? field = none := by
  have none : values.entries? = none := by
    rw [← Option.not_isSome_iff_eq_none, ← Value.isObject, scalar]
    exact Bool.false_ne_true
  rw [Value.property?, none]
  rfl

theorem exists_firstRefused_of_construct_eq_error {failure : Failure}
    (container : values.isObject = true) (failed : construct true type values = .error failure) :
    ∃ field descriptor value, FirstRefused type values field descriptor value ∧
      failure = .type (fieldFailure type field (.ofMismatch value descriptor)) := by
  have declared : ∀ field ∈ type.spec.names, field ∈ (blank type).type.spec.names :=
    fun _ named => named
  rw [construct_of_object container] at failed
  obtain ⟨before, field, after, descriptor, value, split, passed, refused, told⟩ :=
    exists_refused_of_fill_eq_error declared failed
  have ordered : (before ++ field :: after).Pairwise (· < ·) := by
    rw [← split]
    exact type.spec.ascending
  refine ⟨field, descriptor, value, ⟨refused, fun other d v refused' => ?_⟩, told⟩
  have named : other ∈ before ++ field :: after := by
    rw [← split]
    exact Fields.mem_names_of_get? refused'.declared
  rcases List.mem_append.1 named with earlier | later
  · exact absurd refused' (passed other earlier d v)
  · rcases List.mem_cons.1 later with rfl | later
    · exact String.le_refl _
    · have below : field < other :=
        (List.pairwise_cons.1 (List.pairwise_append.1 ordered).2.1).1 other later
      exact String.not_lt.1 (String.lt_asymm below)

theorem construct_eq_error_iff {failure : Failure} (container : values.isObject = true) :
    construct true type values = .error failure ↔
      ∃ field descriptor value, FirstRefused type values field descriptor value ∧
        failure = .type (fieldFailure type field (.ofMismatch value descriptor)) := by
  constructor
  · exact exists_firstRefused_of_construct_eq_error container
  · rintro ⟨field, descriptor, value, first, rfl⟩
    cases built : construct true type values with
    | ok record =>
      have fits := (exists_construct_eq_ok_iff.1 ⟨record, built⟩).2 _ _ _ first.declared
        first.present
      exact absurd (first.mismatch.symm.trans fits) (by decide)
    | error failure =>
      obtain ⟨other, d, v, first', rfl⟩ := exists_firstRefused_of_construct_eq_error container built
      obtain ⟨rfl, rfl, rfl⟩ := first.unique first'
      rfl

/-- All that building a record of a type from initial values does, while enforcement is on and while
it is off. -/
structure Contract (type : RecordType) (values : Value) : Prop where
  ok_iff : (∃ record, construct true type values = .ok record) ↔
    values.isObject = true ∧ ∀ field descriptor value, type.spec.get? field = some descriptor →
      values.property? field = some value → conforms true value descriptor = true
  reads : ∀ switch record, construct switch type values = .ok record →
    record.type = type ∧ ∀ field, record.get? field =
      (type.spec.get? field).map fun _ => (values.property? field).getD .undefined
  scalar : values.isObject = false →
    construct true type values = .error (.type (.ofMismatch values .object))
  refused : values.isObject = true → ∀ failure, construct true type values = .error failure ↔
    ∃ field descriptor value, FirstRefused type values field descriptor value ∧
      failure = .type (fieldFailure type field (.ofMismatch value descriptor))
  off : ∃ record, construct false type values = .ok record ∧
    (values.isObject = false → ∀ field ∈ type.spec.names, record.get? field = some .undefined)
  -- a value that is no container has no properties, and is only let through without enforcement
  agreeing : ∀ other : Value,
    (∀ field ∈ type.spec.names, values.property? field = other.property? field) →
      construct false type values = construct false type other ∧
      (values.isObject = true → other.isObject = true →
        construct true type values = construct true type other)

theorem contract_construct (type : RecordType) (values : Value) : Contract type values where
  ok_iff := by
    rw [exists_construct_eq_ok_iff, conforms_object, Bool.not_true, Bool.false_or]
  reads switch record built := get?_of_construct built
  scalar := construct_of_not_object
  refused container failure := construct_eq_error_iff container
  off := by
    obtain ⟨record, built⟩ : ∃ record, construct false type values = .ok record :=
      exists_construct_eq_ok_iff.2 ⟨conforms_off _ _, fun _ _ _ _ _ => conforms_off _ _⟩
    refine ⟨record, built, fun scalar field named => ?_⟩
    obtain ⟨descriptor, declared⟩ := Fields.exists_get?_of_mem named
    rw [(get?_of_construct built).2, declared, property?_of_not_object scalar]
    rfl
  agreeing other same := by
    refine ⟨?_, fun container container' => ?_⟩
    · rw [construct_off, construct_off, fill_congr same]
    · rw [construct_of_object container, construct_of_object container', fill_congr same]

/-- A record of a type that was made is built exactly when the initial values are an object or an
instance and each declared field that they have conforms, and then reads what they have; the failure
is that of the least field which does not conform. What the values have besides, a property named
`prototype` too, and the order in which the fields were added to the specification do not matter. -/
theorem construction_is_told_by_declared_fields (registry : Registry) (name : String)
    (spec : RecordSpec) (monitor : Monitor) (values : Value) :
    let made (spec : RecordSpec) := ((RecordType.make registry name spec).run monitor).1.1
    Contract (made spec) values ∧
    (∀ field, (made spec).spec.get? field =
      if field = "prototype" then none else spec.get? field) ∧
    ∀ first second : List (String × Descriptor),
      (∀ field, RecordSpec.lastGiven? first field = RecordSpec.lastGiven? second field) →
      ∀ switch, construct switch (made (.ofSteps first)) values =
        construct switch (made (.ofSteps second)) values := by
  intro made
  refine ⟨contract_construct (made spec) values, ?_, ?_⟩
  · intro field
    change (RecordType.installed spec).get? field = _
    rw [RecordType.installed, Fields.get?_filter, RecordType.reservedField]
    by_cases reserved : field = "prototype" <;> simp [reserved]
  · intro first second same switch
    rw [RecordSpec.ofSteps_eq_of_lastGiven?_eq same]

end Record

end TypeAssertion
