import TypeAssertion.CommandLine
import TypeAssertion.Proofs.Record.Construct
import TypeAssertion.Proofs.Record.Schema
import TypeAssertion.Proofs.Value.RoundTrip

/-!
Building a record from a schema file and a values file. The schema is judged first and on its own,
then the values against the fields it declares. A record that is built is written as the values
restricted to these fields.
-/

set_option autoImplicit false

namespace TypeAssertion

namespace Json

/-- Each declared field that is there has a value of the kind its descriptor accepts. -/
def FitsSchema (values schema : Json) : Prop :=
  ∀ field descriptor document, schema.Declares field descriptor →
    (field, document) ∈ values.members → document.Fits descriptor

/-- True of the names that a schema has as fields. The reserved name is none of them. -/
def hasField (schema : Json) (name : String) : Bool :=
  name != RecordType.reservedField && (schema.members.map Prod.fst).contains name

/-- A document without the members that are no fields of a schema. -/
def restrictedTo (values schema : Json) : Json :=
  .object (values.members.filter fun member => schema.hasField member.1)

/-- Nothing is left unless both documents are objects. -/
theorem restrictedTo_eq_empty {values schema : Json}
    (h : schema.kind? ≠ some .object ∨ values.kind? ≠ some .object) :
    values.restrictedTo schema = .object [] := by
  rw [restrictedTo, object.injEq, List.filter_eq_nil_iff]
  rintro ⟨name, document⟩ inside
  rcases h with h | h
  · cases schema <;> simp [hasField, members, kind?] at h ⊢
  · cases values <;> simp [members, kind?] at h inside

theorem WellFormed.restrictedTo {values : Json} (h : values.WellFormed) (schema : Json) :
    (values.restrictedTo schema).WellFormed :=
  .object (h.ascending_members.sublist (List.filter_sublist.map Prod.fst)) fun _ inside =>
    h.of_mem_members (List.mem_filter.1 inside).1

theorem exists_declares_iff {schema : Json} (h : schema.IsSchema) (field : String) :
    (∃ descriptor, schema.Declares field descriptor) ↔ schema.hasField field = true := by
  rw [hasField, Bool.and_eq_true, bne_iff_ne, List.contains_iff_mem, List.mem_map]
  constructor
  · rintro ⟨descriptor, free, document, inside, -⟩
    exact ⟨free, (field, document), inside, rfl⟩
  · rintro ⟨free, ⟨_, document⟩, inside, rfl⟩
    obtain ⟨descriptor, described⟩ := h _ inside
    exact ⟨descriptor, free, document, inside, described⟩

end Json

/-! ### Records of a schema -/

theorem Value.memberDocuments_ext {first second : List (String × Value)} (hf : Ascending first)
    (hs : Ascending second)
    (h : ∀ name, (first.lookup name).bind document? = (second.lookup name).bind document?) :
    memberDocuments first = memberDocuments second := by
  rw [memberDocuments_eq_filterMap, memberDocuments_eq_filterMap]
  apply entries_ext (ascending_filterMap document? hf) (ascending_filterMap document? hs)
  intro name
  rw [lookup_filterMap document? hf, lookup_filterMap document? hs, h]

/-- The fields of a type are those that a schema declares. -/
def RecordType.FollowsSchema (type : RecordType) (schema : Json) : Prop :=
  ∀ field descriptor, type.spec.get? field = some descriptor ↔ schema.Declares field descriptor

namespace Record

variable {type : RecordType} {schema values : Json}

/-- The values of a type that a schema describes are judged by the schema. -/
theorem exists_constructDocument_eq_ok_iff (switch : Bool) (sound : values.WellFormed)
    (declared : type.FollowsSchema schema) :
    (∃ record, constructDocument switch type values = .ok record) ↔
      (switch = true → values.kind? = some .object ∧ values.FitsSchema schema) := by
  rw [constructDocument, exists_construct_eq_ok_iff,
    RecordSpec.conforms_object_ofDocument_iff sound, imp_and]
  refine and_congr_right fun _ => ?_
  cases switch with
  | false => simp
  | true =>
    simp only [forall_const]
    constructor
    · intro h field descriptor document described inside
      rw [← described.conforms_iff (sound.of_mem_members inside)]
      exact h field descriptor _ ((declared _ _).2 described)
        ((Value.property?_ofDocument_eq_some_iff sound).2 ⟨document, inside, rfl⟩)
    · intro h field descriptor value written present
      obtain ⟨document, inside, rfl⟩ := (Value.property?_ofDocument_eq_some_iff sound).1 present
      have described := (declared _ _).1 written
      rw [described.conforms_iff (sound.of_mem_members inside)]
      exact h field descriptor document described inside

/-- A record is written as the values it was built from, restricted to its fields. -/
theorem document_of_constructDocument {switch : Bool} {record : Record} (sound : values.WellFormed)
    (readable : schema.IsSchema)
    (declared : type.FollowsSchema schema)
    (h : constructDocument switch type values = .ok record) :
    record.document = (values.restrictedTo schema).settled := by
  obtain ⟨-, held⟩ := get?_of_construct h
  change Json.object (Value.memberDocuments record.values.entries) =
    Json.object (Value.memberDocuments (Value.ofMembers _))
  congr 1
  apply Value.memberDocuments_ext record.values.ascending
  · rw [Ascending, Value.names_ofMembers]
    exact (sound.restrictedTo schema).ascending_members
  · intro name
    change (record.get? name).bind Value.document? = _
    rw [held, Value.property?_ofDocument, Value.ofMembers_eq_map,
      lookup_map fun _ => Value.ofDocument, lookup_filter schema.hasField]
    have field_iff := Json.exists_declares_iff readable name
    simp only [← declared name] at field_iff
    cases written : type.spec.get? name with
    | none =>
      have foreign : ¬schema.hasField name = true := by
        rw [← field_iff, written]
        simp
      rw [if_neg foreign]
      rfl
    | some descriptor =>
      rw [if_pos (field_iff.1 ⟨descriptor, written⟩)]
      cases values.members.lookup name <;> rfl

end Record

namespace CommandLine

/-- While enforcement is off, a schema need not be an object. -/
def AcceptsSchema (enforced : Bool) (schema : Json) : Prop :=
  (enforced = true → schema.kind? = some .object) ∧ schema.IsSchema

/-- While enforcement is off, all values are accepted. -/
def AcceptsValues (enforced : Bool) (schema values : Json) : Prop :=
  enforced = true → values.kind? = some .object ∧ values.FitsSchema schema

theorem wellFormed_of_readDocumentFile {files : Files} {path : String} {document : Json}
    (h : readDocumentFile files path = .ok document) : document.WellFormed := by
  unfold readDocumentFile at h
  split at h
  · simp at h
  · split at h
    · simp at h
    · next read =>
      obtain rfl := Except.ok.inj h
      exact Json.wellFormed_of_ofText? read

variable {files : Files} {request : RecordRequest} {schema values : Json}

/-- With both files read, the schema is judged first; making the type leaves the switch alone. -/
theorem run_buildRecord (registry : Registry) (monitor : Monitor)
    (schemaRead : readDocumentFile files request.schema = .ok schema)
    (valuesRead : readDocumentFile files request.values = .ok values) :
    (buildRecord registry files request).run monitor =
      match RecordSpec.ofSchema monitor.enforced (Value.ofDocument schema) with
      | .error failure => (.error (.schema failure), monitor)
      | .ok spec =>
        let made := (RecordType.make registry request.name spec).run monitor
        match Record.constructDocument monitor.enforced made.1.1 values with
        | .error failure => (.error (.values failure), made.2)
        | .ok record => (.ok (record, made.1.2), made.2) := by
  unfold buildRecord
  rw [schemaRead, valuesRead]
  dsimp only
  rw [StateT.run_bind, RecordType.run_ofSchema]
  cases RecordSpec.ofSchema monitor.enforced (Value.ofDocument schema) with
  | error failure => rfl
  | ok spec =>
    dsimp only
    let made := (RecordType.make registry request.name spec).run monitor
    change (match Record.constructDocument monitor.enforced made.1.1 values with
      | .error failure =>
        (pure (.error (.values failure)) : Monitored (Except CommandFailure (Record × Registry)))
      | .ok record => pure (.ok (record, made.1.2))).run made.2 =
      match Record.constructDocument monitor.enforced made.1.1 values with
      | .error failure => (.error (.values failure), made.2)
      | .ok record => (.ok (record, made.1.2), made.2)
    cases Record.constructDocument monitor.enforced made.1.1 values <;> rfl

theorem buildRecord_of_not_acceptsSchema (registry : Registry) {monitor : Monitor}
    (schemaRead : readDocumentFile files request.schema = .ok schema)
    (valuesRead : readDocumentFile files request.values = .ok values)
    (refused : ¬AcceptsSchema monitor.enforced schema) :
    ∃ cause, ((buildRecord registry files request).run monitor).1 = .error (.schema cause) := by
  have sound := wellFormed_of_readDocumentFile schemaRead
  rw [run_buildRecord registry monitor schemaRead valuesRead]
  cases read : RecordSpec.ofSchema monitor.enforced (Value.ofDocument schema) with
  | error failure => exact ⟨failure, rfl⟩
  | ok spec =>
    exact absurd ((RecordSpec.exists_ofSchema_ofDocument_iff sound).1 ⟨spec, read⟩) refused

/-- From an accepted schema comes a type with the declared fields, which judges the values. -/
theorem buildRecord_of_acceptsSchema (registry : Registry) {monitor : Monitor}
    (schemaRead : readDocumentFile files request.schema = .ok schema)
    (valuesRead : readDocumentFile files request.values = .ok values)
    (accepted : AcceptsSchema monitor.enforced schema) :
    ∃ type left, type.name = request.name ∧
      type.FollowsSchema schema ∧
      ((buildRecord registry files request).run monitor).1 =
        match Record.constructDocument monitor.enforced type values with
        | .error failure => .error (.values failure)
        | .ok record => .ok (record, left) := by
  have sound := wellFormed_of_readDocumentFile schemaRead
  obtain ⟨spec, read⟩ := (RecordSpec.exists_ofSchema_ofDocument_iff sound).2 accepted
  let made := (RecordType.make registry request.name spec).run monitor
  refine ⟨made.1.1, made.1.2, rfl, ?_, ?_⟩
  · intro field descriptor
    rw [RecordType.spec_of_run_make]
    exact RecordSpec.get?_installed_of_ofSchema_ofDocument sound read
  · rw [run_buildRecord registry monitor schemaRead valuesRead, read]
    dsimp only
    cases Record.constructDocument monitor.enforced made.1.1 values <;> rfl

theorem buildRecord_of_not_acceptsValues (registry : Registry) {monitor : Monitor}
    (schemaRead : readDocumentFile files request.schema = .ok schema)
    (valuesRead : readDocumentFile files request.values = .ok values)
    (accepted : AcceptsSchema monitor.enforced schema)
    (unfit : ¬AcceptsValues monitor.enforced schema values) :
    ∃ cause, ((buildRecord registry files request).run monitor).1 = .error (.values cause) := by
  have sound := wellFormed_of_readDocumentFile valuesRead
  obtain ⟨type, left, -, declared, built⟩ :=
    buildRecord_of_acceptsSchema registry schemaRead valuesRead accepted
  have judged := Record.exists_constructDocument_eq_ok_iff monitor.enforced sound declared
  cases constructed : Record.constructDocument monitor.enforced type values with
  | error failure =>
    rw [constructed] at built
    exact ⟨failure, built⟩
  | ok record => exact absurd (judged.1 ⟨record, constructed⟩) unfit

theorem buildRecord_of_acceptsValues (registry : Registry) {monitor : Monitor}
    (schemaRead : readDocumentFile files request.schema = .ok schema)
    (valuesRead : readDocumentFile files request.values = .ok values)
    (accepted : AcceptsSchema monitor.enforced schema)
    (fitting : AcceptsValues monitor.enforced schema values) :
    ∃ record left, ((buildRecord registry files request).run monitor).1 = .ok (record, left) ∧
      record.type.name = request.name ∧
      record.document = (values.restrictedTo schema).settled := by
  have sound := wellFormed_of_readDocumentFile valuesRead
  obtain ⟨type, left, name, declared, built⟩ :=
    buildRecord_of_acceptsSchema registry schemaRead valuesRead accepted
  obtain ⟨record, constructed⟩ :=
    (Record.exists_constructDocument_eq_ok_iff monitor.enforced sound declared).2 fitting
  rw [constructed] at built
  obtain ⟨same, -⟩ := Record.get?_of_construct constructed
  refine ⟨record, left, built, ?_, ?_⟩
  · rw [same, name]
  · exact Record.document_of_constructDocument sound accepted.2 declared constructed

/-- With both files read, a record is built when the schema is accepted and then the values. The
record is written as the values restricted to the declared fields, in the form in which documents
come back. A failure is that of the schema if the schema is at fault, whatever the values are. -/
theorem built_record_keeps_declared_fields (registry : Registry) (monitor : Monitor)
    (schemaRead : readDocumentFile files request.schema = .ok schema)
    (valuesRead : readDocumentFile files request.values = .ok values) :
    let built := ((buildRecord registry files request).run monitor).1
    let accepted := AcceptsSchema monitor.enforced schema
    let fitting := AcceptsValues monitor.enforced schema values
    ((∃ made, built = .ok made) ↔ accepted ∧ fitting) ∧
    (∀ record left, built = .ok (record, left) →
      record.type.name = request.name ∧
      (Value.ofDocument (values.restrictedTo schema)).document? = some record.document ∧
      (values.restrictedTo schema).SameShape Numeral.Reread record.document ∧
      (schema.kind? ≠ some .object ∨ values.kind? ≠ some .object → record.document = .object [])) ∧
    (¬accepted → ∃ cause, built = .error (.schema cause) ∧
      (CommandFailure.schema cause).message =
        "invalid record schema: " ++ failureChain cause) ∧
    (accepted → ¬fitting → ∃ cause, built = .error (.values cause) ∧
      (CommandFailure.values cause).message =
        "values do not fit the record schema: " ++ failureChain cause) := by
  intro built accepted fitting
  have sound := wellFormed_of_readDocumentFile valuesRead
  by_cases accepts : accepted
  · by_cases fits : fitting
    · obtain ⟨record, left, ended, name, document⟩ :=
        buildRecord_of_acceptsValues registry schemaRead valuesRead accepts fits
      have settles := Json.settles_of_wellFormed (sound.restrictedTo schema)
      change built = _ at ended
      rw [ended]
      refine ⟨by simp [accepts, fits], ?_, absurd accepts, fun _ => absurd fits⟩
      rintro _ _ ⟨⟩
      rw [document]
      refine ⟨name, settles.back, settles.shape, fun foreign => ?_⟩
      rw [Json.restrictedTo_eq_empty foreign]
      rfl
    · obtain ⟨cause, ended⟩ :=
        buildRecord_of_not_acceptsValues registry schemaRead valuesRead accepts fits
      change built = _ at ended
      rw [ended]
      exact ⟨by simp [fits], by simp, absurd accepts, fun _ _ => ⟨cause, rfl, rfl⟩⟩
  · obtain ⟨cause, ended⟩ :=
      buildRecord_of_not_acceptsSchema registry schemaRead valuesRead accepts
    change built = _ at ended
    rw [ended]
    exact ⟨by simp [accepts], by simp, fun _ => ⟨cause, rfl, rfl⟩, fun h => absurd h accepts⟩

/-- A schema with the reserved field and values with a null under a layer and a foreign field. -/
theorem person_keeps_name_and_age :
    ∃ (files : Files) (schema values : Json) (record : Record) (left : Registry),
      readDocumentFile files "schema" = .ok schema ∧
      readDocumentFile files "values" = .ok values ∧
      ((buildRecord .initial files ⟨"schema", "values", "Person"⟩).run .initial).1 =
        .ok (record, left) ∧
      record.type.name = "Person" ∧
      record.document = .object [("age", .null), ("name", .string "Bob")] := by
  let files : Files := fun path =>
    if path = "schema" then
      some "\x7b\"prototype\": \"object\", \"name\": \"string\", \"age\": \"?number\"\x7d"
    else some "\x7b\"name\": \"Bob\", \"age\": null, \"extra\": true\x7d"
  let schema : Json := .object [("age", .string "?number"), ("name", .string "string"),
    ("prototype", .string "object")]
  let values : Json := .object [("age", .null), ("extra", .bool true), ("name", .string "Bob")]
  let request : RecordRequest := ⟨"schema", "values", "Person"⟩
  have schemaRead : readDocumentFile files request.schema = .ok schema := rfl
  have valuesRead : readDocumentFile files request.values = .ok values := rfl
  have age : Descriptor.parse "?number" = .ok (.nullable .number) := rfl
  have name : Descriptor.parse "string" = .ok .string := rfl
  have accepted : AcceptsSchema true schema := by
    refine ⟨fun _ => rfl, ?_⟩
    change ∀ member ∈ [_, _, _], _
    simp only [List.forall_mem_cons]
    exact ⟨⟨_, _, rfl, age⟩, ⟨_, _, rfl, name⟩, ⟨.object, _, rfl, rfl⟩, by simp⟩
  have fitting : AcceptsValues true schema values := by
    refine fun _ => ⟨rfl, ?_⟩
    rintro field descriptor document ⟨-, _, declared, text, rfl, parsed⟩ inside
    simp only [schema, values, Json.members, List.mem_cons, List.not_mem_nil, Prod.mk.injEq,
      Json.string.injEq, or_false] at declared inside
    rcases inside with ⟨rfl, rfl⟩ | ⟨rfl, rfl⟩ | ⟨rfl, rfl⟩
    · obtain rfl : text = "?number" := by simpa using declared
      obtain rfl := Except.ok.inj (age.symm.trans parsed)
      exact .inl ⟨rfl, rfl⟩
    · simp at declared
    · obtain rfl : text = "string" := by simpa using declared
      obtain rfl := Except.ok.inj (name.symm.trans parsed)
      exact .inr ⟨_, rfl, rfl⟩
  obtain ⟨⟨record, left⟩, built⟩ :=
    (built_record_keeps_declared_fields .initial .initial schemaRead valuesRead).1.2
      ⟨accepted, fitting⟩
  obtain ⟨named, document, -⟩ :=
    (built_record_keeps_declared_fields .initial .initial schemaRead valuesRead).2.1 _ _ built
  refine ⟨files, schema, values, record, left, schemaRead, valuesRead, built, named, ?_⟩
  exact (Option.some.inj document).symm

end CommandLine

end TypeAssertion
