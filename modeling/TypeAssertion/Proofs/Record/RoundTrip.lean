import TypeAssertion.Proofs.Descriptor.Grammar
import TypeAssertion.Proofs.Fields
import TypeAssertion.Proofs.Record.Construct
import TypeAssertion.Proofs.Record.History
import TypeAssertion.Proofs.Value.Canonical

/-!
Records through their documents and back. The document of a record leaves out the fields that were
never written, and shows plain data by an equal value. So what is read back is accepted field by
field, and the record that is built from it reads like the first one.
-/

set_option autoImplicit false

namespace TypeAssertion

theorem Descriptor.hasMatcher_of_isWritable {descriptor : Descriptor}
    (h : descriptor.isWritable = true) : descriptor.hasMatcher = false := by
  induction descriptor with
  | nullable inner ih => exact ih h
  | custom id name test => simp [isWritable] at h
  | _ => rfl

namespace Value

/-- Plain data: null, booleans, finite numbers, strings, and arrays and objects of these. -/
inductive Plain : Value → Prop
  | null : Plain .null
  | bool {truth : Bool} : Plain (.bool truth)
  | number {n : Number} : n.isFinite = true → Plain (.number n)
  | string {text : String} : Plain (.string text)
  | array {items : List Value} : (∀ item ∈ items, Plain item) → Plain (.array items)
  | object {properties : List (String × Value)} : (∀ entry ∈ properties, Plain entry.2) →
      Plain (.object properties)

theorem Plain.isVoid_eq {value : Value} (h : value.Plain) : value.isVoid = false := by
  cases h <;> rfl

/-- A document shows all of plain data but the signs of zeros. -/
theorem Plain.erase_eq {value : Value} (h : value.Plain) : value.erase = value.canonical := by
  induction h with
  | null => rfl
  | bool => rfl
  | string => rfl
  | @number n finite =>
    rw [erase, eraseNumber, if_pos finite]
    rfl
  | @array items plain ih =>
    have same : eraseItems items = canonicalItems items := by
      rw [eraseItems_eq_map, canonicalItems_eq_map]
      apply List.map_congr_left
      intro item inside
      rw [(plain item inside).isVoid_eq, ih item inside]
      rfl
    exact congrArg Value.array same
  | @object properties plain ih =>
    have same : eraseEntries properties = canonicalEntries properties := by
      rw [eraseEntries_eq_filterMap, canonicalEntries_eq_map, ← List.filterMap_eq_map]
      apply List.filterMap_congr
      intro entry inside
      rw [(plain entry inside).isVoid_eq, ih entry inside]
      rfl
    exact congrArg Value.object same

/-- Plain data equals what its document shows of it. -/
theorem Plain.erase_equals {value : Value} (h : value.Plain) :
    value.erase.equals value = true := by
  have reflexive := equals_erase_self value
  rw [h.erase_eq] at reflexive ⊢
  rw [← equals_canonical_right]
  exact reflexive

/-- What a document shows of plain data conforms to the same built-in descriptors. -/
theorem Plain.conforms_erase {value : Value} (h : value.Plain) {descriptor : Descriptor}
    (writable : descriptor.isWritable = true) (switch : Bool) :
    conforms switch value.erase descriptor = conforms switch value descriptor := by
  have plain := Descriptor.hasMatcher_of_isWritable writable
  rw [h.erase_eq, conforms_eq, conforms_eq, Descriptor.accepts_canonical plain]

end Value

namespace Record

/-- The document of a record has the erasure of each field, less the fields that have none. -/
theorem property?_ofDocument_document (record : Record) (field : String) :
    (Value.ofDocument record.document).property? field =
      (record.get? field).bind fun value => if value.isVoid then none else some value.erase := by
  have read : Value.ofMembers (Value.memberDocuments record.values.entries) =
      Value.eraseEntries record.values.entries :=
    Value.ofMembers_memberDocuments fun entry _ => Value.readsAsErasure entry.2
  have shown : (fun entry : String × Value =>
      if entry.2.isVoid then none else some (entry.1, entry.2.erase)) =
      fun entry => (if entry.2.isVoid then none else some entry.2.erase).map
        fun item => (entry.1, item) := by
    funext entry
    cases entry.2.isVoid <;> rfl
  change (Value.ofMembers (Value.memberDocuments record.values.entries)).lookup field = _
  rw [read, Value.eraseEntries_eq_filterMap, shown]
  exact lookup_filterMap (fun value => if value.isVoid then none else some value.erase)
    record.values.ascending field

/-- A record whose fields have built-in descriptors, whose writes were all checked and whose written
fields hold plain data is built again from its document: a record of the same type with an equal
value in every field, and undefined where nothing was written. -/
theorem record_survives_its_document {type : RecordType} {history : List Write} {record : Record}
    (reached : Reached type history record) (checked : ∀ write ∈ history, write.enforced = true)
    (writable : ∀ field descriptor, type.spec.get? field = some descriptor →
      descriptor.isWritable = true)
    (plain : ∀ field value, record.get? field = some value → value = .undefined ∨ value.Plain) :
    ∃ back, constructDocument true type record.document = .ok back ∧ back.type = record.type ∧
      back.values.names = record.values.names ∧
      ∀ field value, record.get? field = some value →
        ∃ again, back.get? field = some again ∧ again.equals value = true ∧
          (value = .undefined → again = .undefined) := by
  have explained := explained_of_reached reached
  have accepted : ∃ back, constructDocument true type record.document = .ok back := by
    refine exists_construct_eq_ok_iff.2 ⟨rfl, ?_⟩
    intro field descriptor shown installed present
    rw [property?_ofDocument_document] at present
    obtain ⟨value, held, kept⟩ := Option.bind_eq_some_iff.1 present
    rcases plain field value held with rfl | data
    · simp [Value.isVoid, Value.isUndefined] at kept
    · rw [data.isVoid_eq] at kept
      obtain rfl := Option.some.inj kept
      have defined : value ≠ .undefined := by
        rintro rfl
        cases data
      rw [data.conforms_erase (writable field descriptor installed)]
      exact explained.conforms_of_defined checked installed held defined
  obtain ⟨back, built⟩ := accepted
  obtain ⟨same, reads⟩ := get?_of_construct built
  refine ⟨back, built, same.trans explained.type_eq.symm, ?_, ?_⟩
  · rw [back.names_values, record.names_values, same, explained.type_eq]
  · intro field value held
    have installed : ∃ descriptor, type.spec.get? field = some descriptor := by
      rw [← Option.isSome_iff_exists, Fields.isSome_get?_iff, ← explained.type_eq,
        ← record.names_values, ← Fields.isSome_get?_iff, ← get?, held]
      rfl
    obtain ⟨descriptor, installed⟩ := installed
    have again := reads field
    rw [installed, Option.map_some, property?_ofDocument_document, held, Option.bind_some] at again
    rcases plain field value held with rfl | data
    · exact ⟨.undefined, again, rfl, fun _ => rfl⟩
    · rw [data.isVoid_eq] at again
      refine ⟨value.erase, again, data.erase_equals, ?_⟩
      rintro rfl
      cases data

/-- A box with nested data, a negative zero that was written later and a note that never was. -/
theorem box_survives_its_document :
    ∃ type history record back, Reached type history record ∧ history.length = 3 ∧
      record.get? "size" = some (.number .negativeZero) ∧
      record.get? "note" = some .undefined ∧
      constructDocument true type record.document = .ok back ∧
      back.get? "note" = some .undefined ∧
      ∃ size, back.get? "size" = some size ∧ size.equals (.number .negativeZero) = true := by
  let spec : RecordSpec :=
    ⟨[("data", .object), ("note", .nullable .string), ("size", .number)], by decide⟩
  let type := ((RecordType.make .initial "Box" spec).run .initial).1.1
  let data : Value := .object [("list", .array [.null, .bool true, .string "a"])]
  have built := @Reached.built type true
    (.object [("data", data), ("size", .number (Number.ofRank false 1))]) _ rfl
  have written := @Reached.accepted _ _ _ _ true "size" (.number .negativeZero) built rfl
  have plain : data.Plain := by
    refine .object (List.forall_mem_singleton.2 (.array ?_))
    simp only [List.forall_mem_cons]
    exact ⟨.null, .bool, .string, by simp⟩
  have writable : ∀ entry ∈ spec.entries, entry.2.isWritable = true := by
    simp [spec, Descriptor.isWritable]
  have values : ∀ entry ∈ [("data", data), ("note", .undefined), ("size", .number .negativeZero)],
      entry.2 = .undefined ∨ entry.2.Plain := by
    rw [List.forall_mem_cons, List.forall_mem_cons, List.forall_mem_singleton]
    exact ⟨.inr plain, .inl rfl, .inr (.number rfl)⟩
  obtain ⟨back, read, -, -, fields⟩ := record_survives_its_document written (by decide)
    (fun field descriptor installed =>
      writable (field, descriptor) ((lookup_eq_some_iff_mem spec.ascending).1 installed))
    fun field value held => values (field, value) ((lookup_eq_some_iff_mem (by decide)).1 held)
  obtain ⟨note, held, -, unset⟩ := fields "note" .undefined rfl
  obtain ⟨size, sized, equal, -⟩ := fields "size" (.number .negativeZero) rfl
  exact ⟨type, _, _, back, written, rfl, rfl, rfl, read, by rw [held, unset rfl], size, sized, equal⟩

end Record

end TypeAssertion
