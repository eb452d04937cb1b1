import TypeAssertion.Proofs.Fields
import TypeAssertion.Proofs.Record.History

/-!
Runs of writes, accepted and refused, each under a setting of the switch of its own. What comes of a
write depends on the type of the record and on the write alone, and what a field holds in the end is
the last accepted write to it. So refused writes leave no trace, and only the order of the writes to
one field matters.
-/

set_option autoImplicit false

namespace TypeAssertion.Record

/-- Tries a write: what comes of it, and the record after it. A refused write leaves the record. -/
def attempt (record : Record) (write : Write) : Except Failure Unit × Record :=
  match record.set write.enforced write.field write.value with
  | .ok written => (.ok (), written)
  | .error failure => (.error failure, record)

/-- Tries writes one after the other. -/
def attempts : List Write → Record → List (Except Failure Unit) × Record
  | [], record => ([], record)
  | write :: rest, record =>
    let next := attempts rest (record.attempt write).2
    ((record.attempt write).1 :: next.1, next.2)

/-- The failure of a value that does not fit its field: the message of the check, after the names of
the type and the field. -/
def misfit (type : RecordType) (write : Write) (descriptor : Descriptor) : TypeFailure :=
  ⟨descriptor, some write.value.typeName, some (type.name ++ "." ++ write.field ++ ": " ++
    (TypeFailure.ofMismatch write.value descriptor).message)⟩

/-- What comes of a write to any record of a type. -/
def outcome (type : RecordType) (write : Write) : Except Failure Unit :=
  match type.spec.get? write.field with
  | none => .error (.precondition (.unknownField type.name write.field))
  | some descriptor =>
    if write.enforced = true ∧ descriptor.accepts true write.value = false then
      .error (.type (misfit type write descriptor))
    else .ok ()

def accepted (type : RecordType) (write : Write) : Bool := (outcome type write).isOk

/-! ### One write -/

/-- A write comes to its outcome, and is done if that is a success. -/
theorem attempt_eq (record : Record) (write : Write) :
    record.attempt write = (outcome record.type write,
      if accepted record.type write then record.put write.field write.value else record) := by
  rw [attempt, set, accepted, outcome]
  cases record.type.spec.get? write.field with
  | none => rfl
  | some descriptor =>
    simp only [ensure_eq, ← conforms_eq_false_iff]
    cases conforms write.enforced write.value descriptor <;> rfl

@[simp] theorem type_attempt (record : Record) (write : Write) :
    (record.attempt write).2.type = record.type := by
  rw [attempt_eq]
  split <;> rfl

theorem get?_attempt (record : Record) (write : Write) (field : String) :
    (record.attempt write).2.get? field = (record.get? field).map fun before =>
      if accepted record.type write = true ∧ write.field = field then write.value else before := by
  rw [attempt_eq]
  cases accepted record.type write with
  | false => simp
  | true => simp [get?_put, eq_comm]

/-- A failing check gives the failure of the write its message. -/
theorem outcome_of_ensure_eq_error {type : RecordType} {write : Write} {descriptor : Descriptor}
    {failure : TypeFailure} (declared : type.spec.get? write.field = some descriptor)
    (failed : ensure write.enforced write.value descriptor = .error failure) :
    outcome type write = .error (.type (misfit type write descriptor)) ∧
      (misfit type write descriptor).message =
        type.name ++ "." ++ write.field ++ ": " ++ failure.message := by
  rw [ensure_eq] at failed
  simp only [outcome, declared, ← conforms_eq_false_iff]
  cases fits : conforms write.enforced write.value descriptor with
  | true => simp [fits] at failed
  | false =>
    rw [fits] at failed
    obtain rfl := Except.error.inj failed
    exact ⟨rfl, rfl⟩

/-! ### Runs -/

theorem attempts_append (first second : List Write) (record : Record) :
    attempts (first ++ second) record =
      ((attempts first record).1 ++ (attempts second (attempts first record).2).1,
        (attempts second (attempts first record).2).2) := by
  induction first generalizing record with
  | nil => rfl
  | cons write rest ih => simp [attempts, ih]

theorem type_attempts (writes : List Write) (record : Record) :
    (attempts writes record).2.type = record.type := by
  induction writes generalizing record with
  | nil => rfl
  | cons write rest ih => exact (ih _).trans (type_attempt record write)

theorem outcomes_attempts (writes : List Write) (record : Record) :
    (attempts writes record).1 = writes.map (outcome record.type) := by
  induction writes generalizing record with
  | nil => rfl
  | cons write rest ih =>
    rw [attempts, List.map_cons, ih, type_attempt, attempt_eq]

theorem lastWrite?_cons (write : Write) (history : List Write) (field : String) :
    lastWrite? (write :: history) field =
      (lastWrite? history field).or (if write.field = field then some write else none) := by
  rw [lastWrite?, List.reverse_cons, List.find?_append, ← lastWrite?, List.find?_singleton]
  simp

/-- The last write to a field is told by the writes to that field. -/
theorem lastWrite?_filter (history : List Write) (field : String) :
    lastWrite? (history.filter fun write => write.field == field) field =
      lastWrite? history field := by
  rw [lastWrite?, lastWrite?, ← List.filter_reverse, List.find?_filter]
  simp only [and_self, Bool.decide_eq_true]

/-- After a run, a field holds the last accepted write to it, or what it held before. -/
theorem get?_attempts (writes : List Write) (record : Record) (field : String) :
    (attempts writes record).2.get? field = (record.get? field).map fun before =>
      ((lastWrite? (writes.filter (accepted record.type)) field).map Write.value).getD before := by
  induction writes generalizing record with
  | nil => simp [attempts, lastWrite?]
  | cons write rest ih =>
    rw [attempts, ih, type_attempt, get?_attempt, Option.map_map]
    congr 1
    funext before
    cases kept : accepted record.type write with
    | false => simp [kept]
    | true =>
      rw [List.filter_cons_of_pos kept, lastWrite?_cons]
      cases lastWrite? (rest.filter (accepted record.type)) field with
      | some last => rfl
      | none => by_cases same : write.field = field <;> simp [same]

/-- A record is told by its type and by what its fields hold. -/
theorem eq_of_get?_eq {first second : Record} (type : first.type = second.type)
    (held : ∀ field, first.get? field = second.get? field) : first = second := by
  obtain ⟨_, ⟨entries, ascending⟩, _⟩ := first
  obtain ⟨_, ⟨others, ascending'⟩, _⟩ := second
  obtain rfl : entries = others := entries_ext ascending ascending' held
  obtain rfl := type
  rfl

/-- Two runs whose accepted writes to each field end alike leave the same record. -/
theorem attempts_eq_of_lastWrite?_eq {first second : List Write} {record : Record}
    (same : ∀ field, lastWrite? (first.filter (accepted record.type)) field =
      lastWrite? (second.filter (accepted record.type)) field) :
    (attempts first record).2 = (attempts second record).2 := by
  apply eq_of_get?_eq
  · rw [type_attempts, type_attempts]
  · intro field
    rw [get?_attempts, get?_attempts, same]

/-- The writes to a field, in their order. -/
def writesTo (field : String) (writes : List Write) : List Write :=
  writes.filter fun write => write.field == field

/-- The writes of a run to a field, in their order, each with what came of it. -/
def answersTo (field : String) (writes : List Write) (record : Record) :
    List (Write × Except Failure Unit) :=
  (writes.zip (attempts writes record).1).filter fun answered => answered.1.field == field

theorem answersTo_eq (field : String) (writes : List Write) (record : Record) :
    answersTo field writes record =
      (writesTo field writes).map fun write => (write, outcome record.type write) := by
  have paired : writes.zip (writes.map (outcome record.type)) =
      writes.map fun write => (write, outcome record.type write) := by
    simpa using List.zip_map' (f := id) (g := outcome record.type) (l := writes)
  rw [answersTo, writesTo, outcomes_attempts, paired, List.filter_map]
  rfl

theorem lastWrite?_accepted_eq {type : RecordType} {first second : List Write} {field : String}
    (same : writesTo field first = writesTo field second) :
    lastWrite? (first.filter (accepted type)) field =
      lastWrite? (second.filter (accepted type)) field := by
  have told (writes : List Write) : lastWrite? (writes.filter (accepted type)) field =
      lastWrite? ((writesTo field writes).filter (accepted type)) field := by
    rw [← lastWrite?_filter, List.filter_filter, writesTo, List.filter_filter]
    simp only [Bool.and_comm]
  rw [told first, told second, same]

/-- What comes of each write depends on the type, the field, the value and the switch, and a failing
check gives its message, after the names of the type and the field. In the end every field holds the
last accepted write to it, or what it held before. A refused write leaves the record as it was, so
that refused writes may be left out, and writes to different fields may change places. -/
theorem writes_act_field_by_field (record : Record) (writes : List Write) :
    let ran := attempts writes record
    ran.1 = writes.map (outcome record.type) ∧
    (∀ write descriptor failure, record.type.spec.get? write.field = some descriptor →
      ensure write.enforced write.value descriptor = .error failure →
      ∃ told, outcome record.type write = .error (.type told) ∧ told.expected = descriptor ∧
        told.provided = some write.value.typeName ∧
        told.message = record.type.name ++ "." ++ write.field ++ ": " ++ failure.message) ∧
    ran.2.type = record.type ∧
    (∀ field, (record.get? field).isSome = (record.type.spec.get? field).isSome) ∧
    (∀ field, ran.2.get? field = (record.get? field).map fun before =>
      ((lastWrite? (writes.filter (accepted record.type)) field).map Write.value).getD before) ∧
    (∀ before write after failure, writes = before ++ write :: after →
      outcome record.type write = .error failure →
      (attempts (before ++ [write]) record).2 = (attempts before record).2) ∧
    (attempts (writes.filter (accepted record.type)) record).2 = ran.2 ∧
    ∀ others : List Write, (∀ field, writesTo field others = writesTo field writes) →
      (attempts others record).2 = ran.2 ∧
        ∀ field, answersTo field others record = answersTo field writes record := by
  refine ⟨outcomes_attempts writes record, ?_, type_attempts writes record, ?_,
    get?_attempts writes record, ?_, ?_, ?_⟩
  · intro write descriptor failure declared failed
    obtain ⟨told, message⟩ := outcome_of_ensure_eq_error declared failed
    exact ⟨_, told, rfl, rfl, message⟩
  · intro field
    rw [Bool.eq_iff_iff, get?, Fields.isSome_get?_iff, Fields.isSome_get?_iff, record.names_values]
  · intro before write after failure _ refused
    have rejected : accepted record.type write = false := by
      rw [accepted, refused]
      rfl
    rw [attempts_append]
    simp [attempts, attempt_eq, type_attempts, rejected]
  · apply attempts_eq_of_lastWrite?_eq
    intro field
    rw [List.filter_filter]
    simp only [Bool.and_self]
  · intro others same
    refine ⟨attempts_eq_of_lastWrite?_eq fun field => lastWrite?_accepted_eq (same field), ?_⟩
    intro field
    rw [answersTo_eq, answersTo_eq, same]

/-- A refused write and one without a field leave what was written before. -/
theorem box_keeps_accepted_write :
    let type : RecordType := ⟨.extend Class.record 1 "Box", ⟨[("size", .boolean)], by decide⟩⟩
    let good : Write := ⟨true, "size", .bool true⟩
    let bad : Write := ⟨true, "size", .null⟩
    let lost : Write := ⟨false, "color", .null⟩
    let ran := attempts [good, bad, lost] (blank type)
    ran.1 = [.ok (), .error (.type (misfit type bad .boolean)),
      .error (.precondition (.unknownField "Box" "color"))] ∧
    ran.2.get? "size" = some (.bool true) ∧
    (attempts [good, bad] (blank type)).2 = (attempts [good] (blank type)).2 ∧
    (attempts [lost, good, bad] (blank type)).2 = ran.2 := by
  intro type good bad lost ran
  obtain ⟨outcomes, -, -, -, held, refused, -, moved⟩ :=
    writes_act_field_by_field (blank type) [good, bad, lost]
  refine ⟨outcomes, held "size", refused [good] bad [lost] _ rfl rfl, ?_⟩
  refine (moved [lost, good, bad] fun field => ?_).1
  by_cases size : "size" = field
  · subst size
    rfl
  · simp [writesTo, List.filter_cons, good, bad, lost, size]

end TypeAssertion.Record
