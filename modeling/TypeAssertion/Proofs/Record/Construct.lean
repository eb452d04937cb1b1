import TypeAssertion.Proofs.Record.Write

/-!
Building a record from initial values. Every declared field that the values have is written, so the
record is built when each of these conforms, and then it holds just what the values have for its
fields.
-/

set_option autoImplicit false

namespace TypeAssertion.Record

theorem exists_set_eq_ok_iff {switch : Bool} {record : Record} {field : String} {value : Value} :
    (∃ written, record.set switch field value = .ok written) ↔
      ∃ descriptor, record.type.spec.get? field = some descriptor ∧
        conforms switch value descriptor = true := by
  constructor
  · rintro ⟨_, write⟩
    obtain ⟨descriptor, declared, conforming, -⟩ := set_eq_ok_iff.1 write
    exact ⟨descriptor, declared, conforming⟩
  · rintro ⟨descriptor, declared, conforming⟩
    exact ⟨_, set_eq_ok_iff.2 ⟨descriptor, declared, conforming, rfl⟩⟩

/-- Filling succeeds when each of the fields that the values have may be written. -/
theorem exists_fill_eq_ok_iff {switch : Bool} {values : Value} {fields : List String}
    {record : Record} :
    (∃ filled, fill switch values fields record = .ok filled) ↔
      ∀ field ∈ fields, ∀ value, values.property? field = some value →
        ∃ descriptor, record.type.spec.get? field = some descriptor ∧
          conforms switch value descriptor = true := by
  induction fields generalizing record with
  | nil => simp [fill]
  | cons field rest ih =>
    rw [List.forall_mem_cons, fill]
    cases present : values.property? field with
    | none => simp [ih]
    | some value =>
      simp only [Option.some.injEq, forall_eq']
      rw [← exists_set_eq_ok_iff]
      cases write : record.set switch field value with
      | error failure => simp
      | ok written =>
        obtain ⟨-, -, -, rfl⟩ := set_eq_ok_iff.1 write
        simp [ih, put]

/-- A filled record holds what the values have for the fields, and elsewhere what it held before. -/
theorem get?_of_fill {switch : Bool} {values : Value} {fields : List String}
    {record filled : Record} (h : fill switch values fields record = .ok filled) :
    filled.type = record.type ∧ ∀ name, filled.get? name =
      (record.get? name).map fun old =>
        if name ∈ fields then (values.property? name).getD old else old := by
  induction fields generalizing record with
  | nil =>
    obtain rfl := Except.ok.inj h
    simp
  | cons field rest ih =>
    rw [fill] at h
    cases present : values.property? field with
    | none =>
      rw [present] at h
      obtain ⟨type, held⟩ := ih h
      refine ⟨type, fun name => ?_⟩
      rw [held]
      by_cases same : name = field
      · simp [same, present]
      · simp [same]
    | some value =>
      rw [present] at h
      dsimp only at h
      split at h
      · next written write =>
        obtain ⟨-, -, -, rfl⟩ := set_eq_ok_iff.1 write
        obtain ⟨type, held⟩ := ih h
        refine ⟨type, fun name => ?_⟩
        rw [held, get?_put, Option.map_map]
        by_cases same : name = field
        · simp [same, present, Function.comp_def]
        · simp [same, Function.comp_def]
      · simp at h

theorem exists_construct_eq_ok_iff {switch : Bool} {type : RecordType} {values : Value} :
    (∃ record, construct switch type values = .ok record) ↔
      conforms switch values .object = true ∧
        ∀ field descriptor value, type.spec.get? field = some descriptor →
          values.property? field = some value → conforms switch value descriptor = true := by
  rw [construct, ensure_eq]
  cases conforms switch values .object with
  | false => simp
  | true =>
    simp only [if_true, exists_fill_eq_ok_iff, true_and, blank]
    constructor
    · intro h field descriptor value declared present
      have named : field ∈ type.spec.names := Fields.mem_names_of_get? declared
      obtain ⟨found, declared', conforming⟩ := h field named value present
      obtain rfl := Option.some.inj (declared.symm.trans declared')
      exact conforming
    · intro h field named value present
      obtain ⟨descriptor, declared⟩ := Fields.exists_get?_of_mem named
      exact ⟨descriptor, declared, h field descriptor value declared present⟩

/-- A record that is built holds what the initial values have for its fields, and nothing else. -/
theorem get?_of_construct {switch : Bool} {type : RecordType} {values : Value} {record : Record}
    (h : construct switch type values = .ok record) :
    record.type = type ∧ ∀ name, record.get? name =
      (type.spec.get? name).map fun _ => (values.property? name).getD .undefined := by
  rw [construct] at h
  split at h
  · simp at h
  · obtain ⟨same, held⟩ := get?_of_fill h
    refine ⟨same, fun name => ?_⟩
    rw [held, get?_blank, Option.map_map]
    cases declared : type.spec.get? name with
    | none => rfl
    | some descriptor =>
      have named : name ∈ type.spec.names := Fields.mem_names_of_get? declared
      simp [named]

end TypeAssertion.Record
