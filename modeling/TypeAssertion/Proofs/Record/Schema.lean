import TypeAssertion.Proofs.Check
import TypeAssertion.Proofs.Fields
import TypeAssertion.Proofs.Descriptor.Described
import TypeAssertion.Proofs.Descriptor.Layers
import TypeAssertion.Proofs.Value.Parts
import TypeAssertion.Record

/-!
Schemas. The entries of a value are read in a row, and the specification that comes of them has
exactly those entries as its fields. A document is a schema when each of its members holds the text
of a descriptor. What is no object has no members, and passes for a schema while enforcement is off.
-/

set_option autoImplicit false

namespace TypeAssertion

/-! ### Entries of a document -/

namespace Value

theorem entries?_ofDocument (document : Json) :
    (ofDocument document).entries?.getD [] = ofMembers document.members := by
  cases document <;> rfl

theorem property?_ofDocument (document : Json) (name : String) :
    (ofDocument document).property? name = (document.members.lookup name).map ofDocument := by
  have found (members : List (String × Json)) :
      (ofMembers members).lookup name = (members.lookup name).map ofDocument := by
    rw [ofMembers_eq_map]
    exact lookup_map (fun _ => ofDocument) name members
  cases document with
  | object members => exact found members
  | _ => rfl

theorem property?_ofDocument_eq_some_iff {document : Json} (sound : document.WellFormed)
    {name : String} {value : Value} :
    (ofDocument document).property? name = some value ↔
      ∃ member, (name, member) ∈ document.members ∧ ofDocument member = value := by
  rw [property?_ofDocument, Option.map_eq_some_iff]
  simp only [lookup_eq_some_iff_mem sound.ascending_members]

end Value

namespace Json

/-- A document describes by the text of a descriptor. -/
def Describes (document : Json) (descriptor : Descriptor) : Prop :=
  ∃ text, document = .string text ∧ Descriptor.parse text = .ok descriptor

/-- Each member holds the text of a descriptor, the reserved one included. -/
def IsSchema (document : Json) : Prop :=
  ∀ member ∈ document.members, ∃ descriptor, member.2.Describes descriptor

/-- The fields that a schema gives to its records. The reserved one is not among them. -/
def Declares (schema : Json) (field : String) (descriptor : Descriptor) : Prop :=
  field ≠ RecordType.reservedField ∧
    ∃ document, (field, document) ∈ schema.members ∧ document.Describes descriptor

end Json

theorem Value.describes_ofDocument_iff {document : Json} {descriptor : Descriptor} :
    (ofDocument document).Describes descriptor ↔ document.Describes descriptor := by
  cases document <;> simp [Describes, ofDocument, text?, Json.Describes]

/-- A declared field is checked by the kind of what it is given. -/
theorem Json.Declares.conforms_iff {schema document : Json} {field : String}
    {descriptor : Descriptor} (declared : schema.Declares field descriptor)
    (sound : document.WellFormed) :
    conforms true (Value.ofDocument document) descriptor = true ↔ document.Fits descriptor := by
  obtain ⟨-, _, -, _, -, parsed⟩ := declared
  rw [conforms_on, Descriptor.accepts_ofDocument_iff (Descriptor.isWritable_of_parse parsed) sound]

/-! ### Specifications -/

namespace RecordSpec

/-- Each entry is read by itself, and keeps its name. -/
theorem readEntries_eq_mapM (entries : List (String × Value)) :
    readEntries entries = entries.mapM fun entry =>
      (Descriptor.ofValue entry.2).map fun descriptor => (entry.1, descriptor) := by
  induction entries with
  | nil => rfl
  | cons entry rest ih =>
    obtain ⟨name, value⟩ := entry
    rw [List.mapM_cons, ← ih]
    cases read : Descriptor.ofValue value with
    | error failure => simp [readEntries, read, bind, Except.bind, Except.map]
    | ok descriptor => simp [readEntries, read, bind, Except.bind, Except.map]

theorem map_ofValue_eq_ok_iff {name : String} {value : Value} {field : String × Descriptor} :
    (Descriptor.ofValue value).map (fun descriptor => (name, descriptor)) = .ok field ↔
      field.1 = name ∧ value.Describes field.2 := by
  obtain ⟨key, descriptor⟩ := field
  rw [← Descriptor.ofValue_eq_ok_iff]
  cases Descriptor.ofValue value <;> simp [Except.map, eq_comm]

section Reading

variable {entries : List (String × Value)} {fields : List (String × Descriptor)}

theorem readEntries_eq_ok_iff :
    readEntries entries = .ok fields ↔
      List.Forall₂ (fun entry field => field.1 = entry.1 ∧ entry.2.Describes field.2) entries
        fields := by
  rw [readEntries_eq_mapM, mapM_eq_ok_iff]
  simp only [map_ofValue_eq_ok_iff]

/-- Reading fails at an entry that holds no descriptor, and only there. -/
theorem exists_readEntries_eq_ok_iff :
    (∃ fields, readEntries entries = .ok fields) ↔
      ∀ entry ∈ entries, ∃ descriptor, entry.2.Describes descriptor := by
  rw [readEntries_eq_mapM, exists_mapM_eq_ok_iff]
  simp [map_ofValue_eq_ok_iff]

theorem names_of_readEntries (h : readEntries entries = .ok fields) :
    fields.map Prod.fst = entries.map Prod.fst := by
  replace h := readEntries_eq_ok_iff.1 h
  induction h with
  | nil => rfl
  | cons head _ ih => simp [head.1, ih]

theorem ascending_of_readEntries (sorted : Ascending entries)
    (h : readEntries entries = .ok fields) : Ascending fields := by
  rw [Ascending, names_of_readEntries h]
  exact sorted

theorem mem_iff_of_readEntries (h : readEntries entries = .ok fields) {name : String}
    {descriptor : Descriptor} :
    (name, descriptor) ∈ fields ↔
      ∃ value, (name, value) ∈ entries ∧ value.Describes descriptor := by
  rw [readEntries_eq_mapM] at h
  rw [mem_iff_of_mapM_eq_ok h]
  simp [map_ofValue_eq_ok_iff]

end Reading

theorem ofSchema_eq (switch : Bool) (schema : Value) :
    ofSchema switch schema =
      if conforms switch schema .object then
        (readEntries (schema.entries?.getD [])).map Fields.ofList
      else .error (.type (.ofMismatch schema .object)) := by
  change (liftType (ensure switch schema .object) >>= fun _ =>
    readEntries (schema.entries?.getD []) >>= fun entries => .ok (Fields.ofList entries)) = _
  rw [ensure_eq]
  cases conforms switch schema .object with
  | false => rfl
  | true => cases readEntries (schema.entries?.getD []) <;> rfl

/-! ### Fields of a specification -/

section Read

variable {switch : Bool} {schema : Value} {spec : RecordSpec}

/-- Whether it is an object or not, what is read are the entries of the schema. -/
theorem exists_readEntries_of_ofSchema (h : ofSchema switch schema = .ok spec) :
    ∃ fields, readEntries (schema.entries?.getD []) = .ok fields ∧ Fields.ofList fields = spec := by
  rw [ofSchema_eq] at h
  split at h
  · cases read : readEntries (schema.entries?.getD []) with
    | error failure => simp [read, Except.map] at h
    | ok fields =>
      rw [read] at h
      exact ⟨fields, rfl, Except.ok.inj h⟩
  · simp at h

theorem names_of_ofSchema (sorted : Ascending (schema.entries?.getD []))
    (h : ofSchema switch schema = .ok spec) :
    spec.names = (schema.entries?.getD []).map Prod.fst := by
  obtain ⟨fields, read, rfl⟩ := exists_readEntries_of_ofSchema h
  rw [Fields.names_ofList (ascending_of_readEntries sorted read), names_of_readEntries read]

theorem get?_of_ofSchema (sorted : Ascending (schema.entries?.getD []))
    (h : ofSchema switch schema = .ok spec) {name : String} {descriptor : Descriptor} :
    spec.get? name = some descriptor ↔
      ∃ value, (name, value) ∈ schema.entries?.getD [] ∧ value.Describes descriptor := by
  obtain ⟨fields, read, rfl⟩ := exists_readEntries_of_ofSchema h
  have ascending := ascending_of_readEntries sorted read
  rw [Fields.get?_ofList ascending, lookup_eq_some_iff_mem ascending, mem_iff_of_readEntries read]

end Read

/-! ### Documents as schemas -/

theorem conforms_object_ofDocument_iff {switch : Bool} {document : Json} (h : document.WellFormed) :
    conforms switch (Value.ofDocument document) .object = true ↔
      (switch = true → document.kind? = some .object) := by
  rw [conforms_iff_of_on, conforms_on, Descriptor.accepts, Primitive.accepts_ofDocument_iff h]

/-- A document gives a specification when it is a schema, and an object if enforcement is on. -/
theorem exists_ofSchema_ofDocument_iff {switch : Bool} {schema : Json} (h : schema.WellFormed) :
    (∃ spec, ofSchema switch (Value.ofDocument schema) = .ok spec) ↔
      (switch = true → schema.kind? = some .object) ∧ schema.IsSchema := by
  have readable : (∃ fields, readEntries (Value.ofMembers schema.members) = .ok fields) ↔
      schema.IsSchema := by
    rw [exists_readEntries_eq_ok_iff, Value.ofMembers_eq_map, List.forall_mem_map, Json.IsSchema]
    simp only [Value.describes_ofDocument_iff]
  rw [ofSchema_eq, Value.entries?_ofDocument, ← conforms_object_ofDocument_iff h, ← readable]
  cases conforms switch (Value.ofDocument schema) .object with
  | false => simp
  | true => cases readEntries (Value.ofMembers schema.members) <;> simp [Except.map]

theorem exists_mem_ofMembers_iff {members : List (String × Json)} {field : String}
    {descriptor : Descriptor} :
    (∃ value, (field, value) ∈ Value.ofMembers members ∧ value.Describes descriptor) ↔
      ∃ document, (field, document) ∈ members ∧ document.Describes descriptor := by
  simp only [Value.ofMembers_eq_map, List.mem_map, Prod.mk.injEq, Prod.exists]
  constructor
  · rintro ⟨value, ⟨name, document, inside, rfl, rfl⟩, described⟩
    exact ⟨document, inside, Value.describes_ofDocument_iff.1 described⟩
  · rintro ⟨document, inside, described⟩
    exact ⟨_, ⟨field, document, inside, rfl, rfl⟩, Value.describes_ofDocument_iff.2 described⟩

/-- Less the reserved field, a specification has the fields that its schema declares. -/
theorem get?_installed_of_ofSchema_ofDocument {switch : Bool} {schema : Json} {spec : RecordSpec}
    (sound : schema.WellFormed) (h : ofSchema switch (Value.ofDocument schema) = .ok spec)
    {field : String} {descriptor : Descriptor} :
    (RecordType.installed spec).get? field = some descriptor ↔
      schema.Declares field descriptor := by
  have sorted : Ascending ((Value.ofDocument schema).entries?.getD []) := by
    rw [Value.entries?_ofDocument, Ascending, Value.names_ofMembers]
    exact sound.ascending_members
  rw [RecordType.installed, Fields.get?_filter, Json.Declares, ← exists_mem_ofMembers_iff,
    ← Value.entries?_ofDocument, ← get?_of_ofSchema sorted h]
  by_cases reserved : field = RecordType.reservedField <;> simp [reserved]

end RecordSpec

end TypeAssertion
