import TypeAssertion.Matcher
import TypeAssertion.Proofs.Record.Attempts
import TypeAssertion.Proofs.Record.Contract

/-!
Records built again from their snapshots. The snapshot of a record is the record as a value, and has
every field of the type, those that were never written as the undefined value. So building from it
checks the unset fields too. What was written under a check still conforms, and only an unset field
can be refused: the one of the least name whose descriptor does not accept the undefined value.
-/

set_option autoImplicit false

namespace TypeAssertion.Record

/-- A field that reads undefined although its descriptor does not accept that. -/
structure Lacking (record : Record) (field : String) (descriptor : Descriptor) : Prop where
  declared : record.type.spec.get? field = some descriptor
  unset : record.get? field = some .undefined
  rejects : descriptor.accepts true .undefined = false

/-- The least field that lacks a value. -/
structure FirstLacking (record : Record) (field : String) (descriptor : Descriptor) : Prop
    extends Lacking record field descriptor where
  least : ∀ other descriptor, Lacking record other descriptor → field ≤ other

variable {type : RecordType} {history : List Write} {record : Record}

/-- A record has a value for just the fields of its type. -/
theorem isSome_get?_eq (record : Record) (field : String) :
    (record.get? field).isSome = (record.type.spec.get? field).isSome := by
  rw [Bool.eq_iff_iff, get?, Fields.isSome_get?_iff, Fields.isSome_get?_iff, record.names_values]

theorem property?_toValue (record : Record) (field : String) :
    record.toValue.property? field = record.get? field := rfl

/-- A record that is built from a snapshot is the record that the snapshot was taken of. -/
theorem eq_of_construct_toValue {switch : Bool} {back : Record} (same : record.type = type)
    (built : construct switch type record.toValue = .ok back) : back = record := by
  obtain ⟨same', reads⟩ := get?_of_construct built
  refine eq_of_get?_eq (same'.trans same.symm) fun field => ?_
  rw [reads, property?_toValue]
  have carried := isSome_get?_eq record field
  rw [same] at carried
  cases held : record.get? field with
  | none =>
    rw [held, Option.isSome_none, eq_comm, Option.isSome_eq_false_iff] at carried
    rw [Option.isNone_iff_eq_none.1 carried]
    rfl
  | some value =>
    rw [held, Option.isSome_some, eq_comm, Option.isSome_iff_exists] at carried
    obtain ⟨descriptor, declared⟩ := carried
    rw [declared]
    rfl

/-- Of a snapshot, building refuses just the fields that lack a value. -/
theorem Explained.refused_toValue_iff (explained : Explained type history record)
    (checked : ∀ write ∈ history, write.enforced = true) {field : String}
    {descriptor : Descriptor} {value : Value} :
    Refused type record.toValue field descriptor value ↔
      Lacking record field descriptor ∧ value = .undefined := by
  constructor
  · rintro ⟨declared, held, mismatch⟩
    rw [property?_toValue] at held
    have unset : value = .undefined := by
      by_contra defined
      have fits := explained.conforms_of_defined checked declared held defined
      exact absurd (mismatch.symm.trans fits) (by decide)
    subst unset
    rw [← explained.type_eq] at declared
    rw [conforms_on] at mismatch
    exact ⟨⟨declared, held, mismatch⟩, rfl⟩
  · rintro ⟨⟨declared, held, rejects⟩, rfl⟩
    rw [explained.type_eq] at declared
    rw [← conforms_on] at rejects
    exact ⟨declared, held, rejects⟩

theorem Explained.firstRefused_toValue_iff (explained : Explained type history record)
    (checked : ∀ write ∈ history, write.enforced = true) {field : String}
    {descriptor : Descriptor} {value : Value} :
    FirstRefused type record.toValue field descriptor value ↔
      FirstLacking record field descriptor ∧ value = .undefined := by
  constructor
  · rintro ⟨refused, least⟩
    obtain ⟨lacking, unset⟩ := (explained.refused_toValue_iff checked).1 refused
    refine ⟨⟨lacking, fun other d lacking' => ?_⟩, unset⟩
    exact least other d .undefined ((explained.refused_toValue_iff checked).2 ⟨lacking', rfl⟩)
  · rintro ⟨⟨lacking, least⟩, unset⟩
    refine ⟨(explained.refused_toValue_iff checked).2 ⟨lacking, unset⟩, fun other d v refused => ?_⟩
    exact least other d ((explained.refused_toValue_iff checked).1 refused).1

/-- A record whose writes were all checked is built again from its snapshot exactly when every field
that reads undefined has a descriptor that accepts the undefined value, which holds of written
fields. The failure is that of the least other field, and names the undefined value. What is built is
the very record, and while enforcement is off it always is. -/
theorem record_is_rebuilt_from_its_snapshot (reached : Reached type history record)
    (checked : ∀ write ∈ history, write.enforced = true) :
    ((∃ back, construct true type record.toValue = .ok back) ↔
      ∀ field descriptor, type.spec.get? field = some descriptor →
        record.get? field = some .undefined → descriptor.accepts true .undefined = true) ∧
    (∀ switch back, construct switch type record.toValue = .ok back → back = record) ∧
    (∀ failure, construct true type record.toValue = .error failure ↔
      ∃ field descriptor, FirstLacking record field descriptor ∧
        failure = .type (fieldFailure type field ⟨descriptor, some "undefined", none⟩)) ∧
    construct false type record.toValue = .ok record ∧
    ((∀ field ∈ type.spec.names, ∃ write ∈ history, write.field = field) →
      construct true type record.toValue = .ok record) := by
  have explained := explained_of_reached reached
  have again (switch : Bool) (back : Record)
      (built : construct switch type record.toValue = .ok back) : back = record :=
    eq_of_construct_toValue explained.type_eq built
  have passes : (∃ back, construct true type record.toValue = .ok back) ↔
      ∀ field descriptor, type.spec.get? field = some descriptor →
        record.get? field = some .undefined → descriptor.accepts true .undefined = true := by
    have container : conforms true record.toValue .object = true := rfl
    rw [exists_construct_eq_ok_iff, and_iff_right container]
    constructor
    · intro fits field descriptor declared unset
      rw [← conforms_on]
      exact fits field descriptor .undefined declared unset
    · intro accepting field descriptor value declared held
      by_cases unset : value = .undefined
      · subst unset
        rw [conforms_on]
        exact accepting field descriptor declared held
      · exact explained.conforms_of_defined checked declared held unset
  refine ⟨passes, again, fun failure => ?_, ?_, fun written => ?_⟩
  · rw [construct_eq_error_iff rfl]
    simp only [explained.firstRefused_toValue_iff checked]
    constructor
    · rintro ⟨field, descriptor, _, ⟨lacking, rfl⟩, rfl⟩
      exact ⟨field, descriptor, lacking, rfl⟩
    · rintro ⟨field, descriptor, lacking, rfl⟩
      exact ⟨field, descriptor, .undefined, ⟨lacking, rfl⟩, rfl⟩
  · obtain ⟨back, built, -⟩ := (contract_construct type record.toValue).off
    rw [built, again false back built]
  · have accepting : ∃ back, construct true type record.toValue = .ok back := by
      refine passes.2 fun field descriptor declared unset => ?_
      rw [← conforms_on]
      exact explained.conforms_of_written checked declared unset
        (written field (Fields.mem_names_of_get? declared))
    obtain ⟨back, built⟩ := accepting
    rw [built, again true back built]

/-- A box without a note is refused for its note, though its extra field is unset as well; with a
note it is built again, negative zero included. -/
theorem box_is_rebuilt_once_it_has_a_note :
    let spec : RecordSpec := ⟨[("extra", .custom 0 "Any" (Matcher.always true)),
      ("note", .nullable .string), ("size", .number)], by decide⟩
    let type := ((RecordType.make .initial "Box" spec).run .initial).1.1
    ∃ bare noted history, Reached type history noted ∧ history.length = 2 ∧
      bare.set true "note" .null = .ok noted ∧
      noted.get? "extra" = some .undefined ∧ noted.get? "size" = some (.number .negativeZero) ∧
      construct true type bare.toValue =
        .error (.type (fieldFailure type "note" ⟨.nullable .string, some "undefined", none⟩)) ∧
      construct false type bare.toValue = .ok bare ∧
      construct true type noted.toValue = .ok noted := by
  intro spec type
  have built := @Reached.built type true (.object [("size", .number .negativeZero)]) _ rfl
  have written := @Reached.accepted _ _ _ _ true "note" .null built rfl
  have bare := record_is_rebuilt_from_its_snapshot built (by decide)
  have noted := record_is_rebuilt_from_its_snapshot written (by decide)
  have declares {field : String} {descriptor : Descriptor}
      (declared : type.spec.get? field = some descriptor) : (field, descriptor) ∈ spec.entries :=
    (lookup_eq_some_iff_mem spec.ascending).1 declared
  simp only [spec, List.mem_cons, Prod.mk.injEq, List.not_mem_nil, or_false] at declares
  refine ⟨_, _, _, written, rfl, rfl, rfl, rfl, ?_, bare.2.2.2.1, ?_⟩
  · refine (bare.2.2.1 _).2 ⟨"note", .nullable .string, ⟨⟨rfl, rfl, rfl⟩, ?_⟩, rfl⟩
    rintro other descriptor ⟨declared, -, rejects⟩
    obtain ⟨rfl, rfl⟩ | ⟨rfl, rfl⟩ | ⟨rfl, rfl⟩ := declares declared
    · exact absurd rejects (by decide)
    · exact String.le_refl _
    · decide
  · have accepting := noted.1.2 fun field descriptor declared unset => by
      obtain ⟨rfl, rfl⟩ | ⟨rfl, rfl⟩ | ⟨rfl, rfl⟩ := declares declared
      · rfl
      · cases unset
      · cases unset
    obtain ⟨back, again⟩ := accepting
    rw [again, noted.2.1 true back again]

end TypeAssertion.Record
