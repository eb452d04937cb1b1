import TypeAssertion.Proofs.Descriptor.Described
import TypeAssertion.Proofs.Descriptor.Interchange
import TypeAssertion.Proofs.Record.Schema

/-!
Specifications read from schemas. Each entry of a schema is read by itself, so a schema is read when
all of its entries describe, and refused for the least name under which one misdescribes. The switch
decides about a schema without entries of its own only. A specification that is written down with
what is shown of its descriptors reads back.
-/

set_option autoImplicit false

namespace TypeAssertion

namespace RecordSpec

/-! ### Entries in a row -/

theorem map_ofValue_eq_error_iff {name : String} {value : Value} {failure : Failure} :
    (Descriptor.ofValue value).map (fun descriptor => (name, descriptor)) = .error failure ↔
      value.Misdescribes failure := by
  rw [← Descriptor.ofValue_eq_error_iff]
  cases Descriptor.ofValue value <;> simp [Except.map]

/-- The least name under which an entry misdescribes, and how it does. -/
structure FirstMisdescribed (entries : List (String × Value)) (name : String) (failure : Failure) :
    Prop where
  here : ∃ value, (name, value) ∈ entries ∧ value.Misdescribes failure
  before : ∀ entry ∈ entries, entry.1 < name → ∃ descriptor, entry.2.Describes descriptor

/-- Entries that stand in the order of their names are refused for the least one. -/
theorem readEntries_eq_error_iff {entries : List (String × Value)} (sorted : Ascending entries)
    {failure : Failure} :
    readEntries entries = .error failure ↔ ∃ name, FirstMisdescribed entries name failure := by
  have ordered := sorted.pairwise
  rw [readEntries_eq_mapM]
  constructor
  · intro failed
    obtain ⟨before, ⟨name, value⟩, after, rfl, passed, refused⟩ := mapM_eq_error_iff.1 failed
    refine ⟨name, ⟨value, by simp, map_ofValue_eq_error_iff.1 refused⟩, ?_⟩
    intro entry inside below
    rcases List.mem_append.1 inside with earlier | later
    · obtain ⟨field, read⟩ := passed entry earlier
      exact ⟨field.2, (map_ofValue_eq_ok_iff.1 read).2⟩
    · -- From the refused entry on no name is below its own.
      have notBelow : ¬entry.1 < name := by
        rcases List.mem_cons.1 later with rfl | later
        · exact String.lt_irrefl name
        · exact String.lt_asymm
            ((List.pairwise_cons.1 (List.pairwise_append.1 ordered).2.1).1 entry later)
      exact absurd below notBelow
  · rintro ⟨name, ⟨value, inside, misdescribes⟩, before⟩
    obtain ⟨front, back, rfl⟩ := List.append_of_mem inside
    refine mapM_of_refused ?_ (map_ofValue_eq_error_iff.2 misdescribes)
    intro entry earlier
    have below : entry.1 < name :=
      (List.pairwise_append.1 ordered).2.2 entry earlier (name, value) List.mem_cons_self
    obtain ⟨descriptor, describes⟩ := before entry (List.mem_append_left _ earlier) below
    exact ⟨(entry.1, descriptor), map_ofValue_eq_ok_iff.2 ⟨rfl, describes⟩⟩

/-! ### Schemas -/

variable {switch : Bool} {schema : Value} {entries : List (String × Value)}

theorem ofSchema_of_entries (held : schema.entries? = some entries) :
    ofSchema switch schema = (readEntries entries).map Fields.ofList := by
  have passes : conforms switch schema .object = true := by
    rw [conforms_object, Value.isObject, held, Option.isSome_some, Bool.or_true]
  rw [ofSchema_eq, if_pos passes, held, Option.getD_some]

/-- What has no entries of its own is refused, or passes for a schema without fields. -/
theorem ofSchema_of_no_entries (bare : schema.entries? = none) :
    ofSchema switch schema =
      if switch then .error (.type ⟨.object, some schema.typeName, none⟩)
      else .ok Fields.empty := by
  cases switch with
  | false =>
    rw [ofSchema_eq, conforms_off, bare]
    rfl
  | true =>
    have fails : conforms true schema .object = false := by
      rw [conforms_object, Value.isObject, bare, Option.isSome_none, Bool.not_true, Bool.or_false]
    rw [ofSchema_eq, fails]
    rfl

/-- What reading a schema with the given entries comes to. -/
structure ReadBy (switch : Bool) (schema : Value) (entries : List (String × Value)) : Prop where
  ok_iff : (∃ spec, ofSchema switch schema = .ok spec) ↔
    ∀ entry ∈ entries, ∃ descriptor, entry.2.Describes descriptor
  names spec : ofSchema switch schema = .ok spec → spec.names = entries.map Prod.fst
  get?_iff spec : ofSchema switch schema = .ok spec → ∀ name descriptor,
    spec.get? name = some descriptor ↔
      ∃ value, (name, value) ∈ entries ∧ value.Describes descriptor
  error_iff failure : ofSchema switch schema = .error failure ↔
    ∃ name, FirstMisdescribed entries name failure

theorem readBy_of_entries (held : schema.entries? = some entries) (sorted : Ascending entries) :
    ReadBy switch schema entries := by
  have read : ofSchema switch schema = (readEntries entries).map Fields.ofList :=
    ofSchema_of_entries held
  have entries_eq : schema.entries?.getD [] = entries := by rw [held, Option.getD_some]
  rw [← entries_eq] at sorted
  refine ⟨?_, ?_, ?_, ?_⟩
  · rw [← exists_readEntries_eq_ok_iff, read]
    cases readEntries entries <;> simp [Except.map]
  · intro spec h
    rw [names_of_ofSchema sorted h, entries_eq]
  · intro spec h name descriptor
    rw [get?_of_ofSchema sorted h, entries_eq]
  · intro failure
    rw [entries_eq] at sorted
    rw [read, ← readEntries_eq_error_iff sorted]
    cases readEntries entries <;> simp [Except.map]

/-- The object that holds under each field what is shown of its descriptor. -/
def written (spec : RecordSpec) : Value :=
  .object (spec.map fun descriptor => Value.string descriptor.display).entries

theorem ofSchema_written {spec : RecordSpec}
    (shown : ∀ name descriptor, spec.get? name = some descriptor → descriptor.HasText) :
    ofSchema switch spec.written = .ok spec := by
  have read :
      readEntries (spec.map fun d => Value.string d.display).entries = .ok spec.entries := by
    rw [readEntries_eq_ok_iff, Fields.map, List.forall₂_map_left_iff, List.forall₂_same]
    intro entry inside
    have found := (lookup_eq_some_iff_mem spec.ascending).2 inside
    exact ⟨rfl, (shown _ _ found).describes⟩
  rw [ofSchema_of_entries rfl, read]
  exact congrArg Except.ok spec.ofList_entries

/-- A schema with entries of its own, of an object or of an instance, is read exactly when each of
them describes, as the specification of what they describe; otherwise the least name that
misdescribes is the failure, under either setting of the switch. As in every value, the entries
stand in the order of their names. Any other schema is a type failure while enforcement is on, and
has no fields while it is off. What a specification of built-in descriptors is written down as reads
back. -/
theorem specification_is_what_schema_describes (switch : Bool) (schema : Value)
    (sorted : Ascending (schema.entries?.getD [])) :
    (∀ entries, schema.entries? = some entries → ReadBy switch schema entries) ∧
    (schema.entries? = none → ofSchema switch schema =
      if switch then .error (.type ⟨.object, some schema.typeName, none⟩)
      else .ok Fields.empty) ∧
    ∀ spec : RecordSpec,
      (∀ name descriptor, spec.get? name = some descriptor → descriptor.HasText) →
      ∃ read, ofSchema switch spec.written = .ok read ∧ read = spec ∧ read.equals spec = true := by
  refine ⟨?_, ofSchema_of_no_entries, ?_⟩
  · intro entries held
    rw [held] at sorted
    exact readBy_of_entries held sorted
  · intro spec shown
    exact ⟨spec, ofSchema_written shown, rfl, Fields.all₂_self Descriptor.equals_self spec⟩

/-- Instances as schemas, with a plain and a boxed text. With two bad entries the least name of them
is the failure, although enforcement is off; a text that is no schema has no fields then. -/
theorem card_is_read_or_refused :
    let card := Class.root 1 "Card"
    (∃ spec, ofSchema true
        (.instance card [("age", .boxedString "?number"), ("name", .string " STRING")]) = .ok spec ∧
      spec.names = ["age", "name"] ∧ spec.get? "age" = some (.nullable .number)) ∧
    ofSchema false (.instance card
        [("age", .boxedString "?number"), ("name", .bool true), ("zip", .string "integer")]) =
      .error (.type ⟨.string, some "boolean", none⟩) ∧
    ofSchema false (.string "number") = .ok Fields.empty := by
  intro card
  have age : (Value.boxedString "?number").Describes (.nullable .number) := ⟨_, rfl, rfl⟩
  have name : (Value.string " STRING").Describes .string := ⟨_, rfl, rfl⟩
  refine ⟨?_, ?_, ?_⟩
  · have law := (specification_is_what_schema_describes true
      (.instance card [("age", .boxedString "?number"), ("name", .string " STRING")])
      (by decide)).1 _ rfl
    obtain ⟨spec, read⟩ := law.ok_iff.2 (by
      simp only [List.forall_mem_cons]
      exact ⟨⟨_, age⟩, ⟨_, name⟩, by simp⟩)
    refine ⟨spec, read, law.names spec read, ?_⟩
    exact (law.get?_iff spec read "age" _).2 ⟨_, List.mem_cons_self, age⟩
  · have law := (specification_is_what_schema_describes false
      (.instance card
        [("age", .boxedString "?number"), ("name", .bool true), ("zip", .string "integer")])
      (by decide)).1 _ rfl
    refine (law.error_iff _).2 ⟨"name", ⟨.bool true, by simp, .noText rfl⟩, ?_⟩
    simp only [List.forall_mem_cons]
    exact ⟨fun _ => ⟨_, age⟩, fun below => absurd below (by decide),
      fun below => absurd below (by decide), by simp⟩
  · exact (specification_is_what_schema_describes false (.string "number") (by decide)).2.1 rfl

end RecordSpec

end TypeAssertion
