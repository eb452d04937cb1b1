import TypeAssertion.Proofs.Record.Write

/-!
Records over whole runs. A record is reached by building it and then trying writes, each under a
setting of the switch of its own. The writes that were accepted are its history; what a field holds
is told by the last of them to that field, so the invariant speaks of one field at a time.
-/

set_option autoImplicit false

namespace TypeAssertion.Record

/-- An accepted write: the setting of the switch, the field and the value. -/
structure Write where
  enforced : Bool
  field : String
  value : Value

/-- The writes that fill some fields from the properties of a value. -/
def writesFrom (enforced : Bool) (values : Value) (fields : List String) : List Write :=
  fields.filterMap fun field => (values.property? field).map fun value => ⟨enforced, field, value⟩

/-- The last write of a history to a field. -/
def lastWrite? (history : List Write) (field : String) : Option Write :=
  history.reverse.find? fun write => write.field == field

/-- The records that a type reaches, each with the writes that were accepted so far. A refused write
leaves the record and its history as they are. -/
inductive Reached (type : RecordType) : List Write → Record → Prop
  | built {enforced : Bool} {values : Value} {record : Record} :
      construct enforced type values = .ok record →
      Reached type (writesFrom enforced values type.spec.names) record
  | builtFromDocument {enforced : Bool} {document : Json} {record : Record} :
      constructDocument enforced type document = .ok record →
      Reached type (writesFrom enforced (Value.ofDocument document) type.spec.names) record
  | accepted {history : List Write} {record written : Record} {enforced : Bool} {field : String}
      {value : Value} :
      Reached type history record → record.set enforced field value = .ok written →
      Reached type (history ++ [⟨enforced, field, value⟩]) written
  | refused {history : List Write} {record : Record} {enforced : Bool} {field : String}
      {value : Value} {failure : Failure} :
      Reached type history record → record.set enforced field value = .error failure →
      Reached type history record

theorem lastWrite?_concat (history : List Write) (write : Write) (field : String) :
    lastWrite? (history ++ [write]) field =
      if write.field = field then some write else lastWrite? history field := by
  rw [lastWrite?, List.reverse_append, List.reverse_singleton, List.singleton_append,
    List.find?_cons]
  by_cases h : write.field = field
  · simp [h]
  · rw [if_neg h, beq_false_of_ne h]
    rfl

/-- What the history of a field tells of its value: never written, it is undefined; else it is what
was written last, which conformed to the descriptor if it was checked. -/
def Told (history : List Write) (field : String) (descriptor : Descriptor) (value : Value) : Prop :=
  match lastWrite? history field with
  | none => value = .undefined
  | some write => value = write.value ∧
      (write.enforced = true → conforms true value descriptor = true)

/-- The invariant: a record is of its type, and the history tells the value of each field. -/
structure Explained (type : RecordType) (history : List Write) (record : Record) : Prop where
  type_eq : record.type = type
  told : ∀ field descriptor value, type.spec.get? field = some descriptor →
    record.get? field = some value → Told history field descriptor value

theorem explained_blank (type : RecordType) : Explained type [] (blank type) where
  type_eq := rfl
  told := by
    intro field descriptor value installed h
    rw [get?_blank, installed] at h
    exact (Option.some.inj h).symm

/-- An accepted write keeps the invariant: its field is told by it, the others as before. -/
theorem Explained.set {type : RecordType} {history : List Write} {record written : Record}
    {enforced : Bool} {field : String} {value : Value} (h : Explained type history record)
    (accepted : record.set enforced field value = .ok written) :
    Explained type (history ++ [⟨enforced, field, value⟩]) written := by
  obtain ⟨checked, installed, conform, rfl⟩ := set_eq_ok_iff.1 accepted
  rw [h.type_eq] at installed
  refine ⟨h.type_eq, fun name descriptor now named h' => ?_⟩
  rw [get?_put] at h'
  obtain ⟨old, held, e⟩ := Option.map_eq_some_iff.1 h'
  rw [Told, lastWrite?_concat]
  by_cases same : name = field
  · subst same
    rw [if_pos rfl] at e
    obtain rfl := Option.some.inj (installed.symm.trans named)
    simp only [if_pos]
    refine ⟨e.symm, fun on => ?_⟩
    obtain rfl : enforced = true := on
    rw [← e]
    exact conform
  · rw [if_neg same] at e
    simp only [if_neg (Ne.symm same)]
    exact h.told name descriptor now named (e ▸ held)

/-- Filling fields one after the other keeps the invariant. -/
theorem Explained.fill {type : RecordType} {history : List Write} {record filled : Record}
    {enforced : Bool} {values : Value} {fields : List String} (h : Explained type history record)
    (accepted : fill enforced values fields record = .ok filled) :
    Explained type (history ++ writesFrom enforced values fields) filled := by
  induction fields generalizing history record with
  | nil =>
    obtain rfl := Except.ok.inj accepted
    simpa [writesFrom] using h
  | cons field rest ih =>
    rw [Record.fill] at accepted
    cases given : values.property? field with
    | none =>
      rw [given] at accepted
      simpa [writesFrom, given] using ih h accepted
    | some value =>
      rw [given] at accepted
      dsimp only at accepted
      cases step : record.set enforced field value with
      | error failure => simp [step] at accepted
      | ok written =>
        rw [step] at accepted
        simpa [writesFrom, given] using ih (h.set step) accepted

theorem explained_construct {type : RecordType} {enforced : Bool} {values : Value} {record : Record}
    (h : construct enforced type values = .ok record) :
    Explained type (writesFrom enforced values type.spec.names) record := by
  rw [construct] at h
  cases object : ensure enforced values .object with
  | error failure => simp [object] at h
  | ok _ =>
    rw [object] at h
    simpa using (explained_blank type).fill h

theorem explained_of_reached {type : RecordType} {history : List Write} {record : Record}
    (h : Reached type history record) : Explained type history record := by
  induction h with
  | built h => exact explained_construct h
  | builtFromDocument h => exact explained_construct h
  | accepted _ h ih => exact ih.set h
  | refused _ _ ih => exact ih

section Checked

variable {type : RecordType} {history : List Write} {record : Record} {field : String}
  {descriptor : Descriptor} {value : Value}

/-- While all writes are checked, what was written last conforms to the descriptor of its field. -/
theorem Explained.conforms_of_lastWrite? (explained : Explained type history record)
    (checked : ∀ write ∈ history, write.enforced = true)
    (installed : type.spec.get? field = some descriptor) (held : record.get? field = some value)
    {write : Write} (last : lastWrite? history field = some write) :
    conforms true value descriptor = true := by
  have told := explained.told field descriptor value installed held
  rw [Told, last] at told
  have written : write ∈ history := List.mem_reverse.1 (List.mem_of_find?_eq_some last)
  exact told.2 (checked write written)

/-- A defined field of a record whose writes were all checked conforms to its descriptor. -/
theorem Explained.conforms_of_defined (explained : Explained type history record)
    (checked : ∀ write ∈ history, write.enforced = true)
    (installed : type.spec.get? field = some descriptor) (held : record.get? field = some value)
    (defined : value ≠ .undefined) : conforms true value descriptor = true := by
  cases last : lastWrite? history field with
  | none =>
    have told := explained.told field descriptor value installed held
    rw [Told, last] at told
    exact absurd told defined
  | some write => exact explained.conforms_of_lastWrite? checked installed held last

/-- A written field of a record whose writes were all checked conforms to its descriptor, also when
it was written with the undefined value. -/
theorem Explained.conforms_of_written (explained : Explained type history record)
    (checked : ∀ write ∈ history, write.enforced = true)
    (installed : type.spec.get? field = some descriptor) (held : record.get? field = some value)
    (written : ∃ write ∈ history, write.field = field) : conforms true value descriptor = true := by
  obtain ⟨write, member, aimed⟩ := written
  cases last : lastWrite? history field with
  | none =>
    have never := List.find?_eq_none.1 last write (List.mem_reverse.2 member)
    exact absurd aimed (by simpa using never)
  | some write => exact explained.conforms_of_lastWrite? checked installed held last

end Checked

/-- A record has the fields of its specification other than `prototype`, whatever was written to it.
A field that no write was accepted for is undefined. Any other field holds what was written last,
and unless enforcement was off at that write, the value conforms to the descriptor of the field. -/
theorem field_conforms_unless_last_written_unchecked (registry : Registry) (name : String)
    (spec : RecordSpec) (monitor : Monitor) {history : List Write} {record : Record}
    (reached : Reached ((RecordType.make registry name spec).run monitor).1.1 history record) :
    record.values.names = spec.names.filter (· != "prototype") ∧
    (∀ field value, record.get? field = some value →
      ∃ descriptor, spec.get? field = some descriptor ∧
        match lastWrite? history field with
        | none => value = .undefined
        | some write => value = write.value ∧
            (write.enforced = true → conforms true value descriptor = true)) ∧
    ((∀ write ∈ history, write.enforced = true) →
      ∀ field value descriptor, record.get? field = some value →
        spec.get? field = some descriptor → (∃ write ∈ history, write.field = field) →
        conforms true value descriptor = true) := by
  have explained := explained_of_reached reached
  have names : record.values.names = spec.names.filter (· != "prototype") := by
    rw [record.names_values, explained.type_eq, RecordType.spec_of_run_make]
    exact Fields.names_filter spec _
  have told (field : String) (value : Value) (h : record.get? field = some value) :
      ∃ descriptor, spec.get? field = some descriptor ∧ Told history field descriptor value := by
    have member : field ∈ spec.names.filter (· != "prototype") := by
      rw [← names]
      exact (Fields.isSome_get?_iff record.values field).1 (by rw [← get?, h]; rfl)
    obtain ⟨declared, kept⟩ := List.mem_filter.1 member
    obtain ⟨descriptor, named⟩ :=
      Option.isSome_iff_exists.1 ((Fields.isSome_get?_iff spec field).2 declared)
    refine ⟨descriptor, named, explained.told field descriptor value ?_ h⟩
    rw [RecordType.spec_of_run_make]
    exact (Fields.get?_filter spec _ field).trans ((if_pos kept).trans named)
  refine ⟨names, told, fun enforced field value descriptor h named ⟨write, member, e⟩ => ?_⟩
  obtain ⟨found, named', tells⟩ := told field value h
  obtain rfl := Option.some.inj (named'.symm.trans named)
  rw [Told] at tells
  cases last : lastWrite? history field with
  | none =>
    have never := List.find?_eq_none.1 last write (List.mem_reverse.2 member)
    exact absurd e (by simpa using never)
  | some write =>
    rw [last] at tells
    exact tells.2 (enforced write (List.mem_reverse.1 (List.mem_of_find?_eq_some last)))

/-- A box whose size is written checked, then unchecked, then refused. -/
theorem box_holds_what_was_written_unchecked :
    ∃ history record,
      Reached ((RecordType.make .initial "Box"
        ⟨[("prototype", .string), ("size", .boolean)], by decide⟩).run .initial).1.1
        history record ∧
      history.length = 2 ∧ record.values.names = ["size"] ∧
      record.get? "size" = some (.string "large") ∧
      ∃ write, lastWrite? history "size" = some write ∧ write.enforced = false := by
  let spec : RecordSpec := ⟨[("prototype", .string), ("size", .boolean)], by decide⟩
  have built := @Reached.built ((RecordType.make .initial "Box" spec).run .initial).1.1 true
    (.object [("size", .bool true)]) _ rfl
  have unchecked := @Reached.accepted _ _ _ _ false "size" (.string "large") built rfl
  have refused := @Reached.refused _ _ _ true "size" .null _ unchecked rfl
  have holds := field_conforms_unless_last_written_unchecked .initial "Box" spec .initial refused
  exact ⟨_, _, refused, rfl, holds.1.trans rfl, rfl, _,
    (lastWrite?_concat _ _ "size").trans (if_pos rfl), rfl⟩

end TypeAssertion.Record
