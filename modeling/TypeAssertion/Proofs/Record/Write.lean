import TypeAssertion.Record
import TypeAssertion.Proofs.Check

/-!
One write of a field: when it is accepted, and what the record holds afterwards. A record that is
built goes through one write for each declared field that the initial values have.
-/

set_option autoImplicit false

namespace TypeAssertion

/-- A record type that is made has the fields of its specification without the reserved one. -/
theorem RecordType.spec_of_run_make (registry : Registry) (name : String) (spec : RecordSpec)
    (monitor : Monitor) : ((make registry name spec).run monitor).1.1.spec = installed spec := rfl

theorem RecordType.run_ofSchema (registry : Registry) (name : String) (schema : Value)
    (monitor : Monitor) :
    (ofSchema registry name schema).run.run monitor =
      match RecordSpec.ofSchema monitor.enforced schema with
      | .error failure => (.error failure, monitor)
      | .ok spec =>
        (.ok ((make registry name spec).run monitor).1, ((make registry name spec).run monitor).2) := by
  change (match RecordSpec.ofSchema monitor.enforced schema with
    | .error failure => (throw failure : Action (RecordType × Registry))
    | .ok spec => (make registry name spec : Monitored (RecordType × Registry))).run.run monitor = _
  cases RecordSpec.ofSchema monitor.enforced schema <;> rfl

theorem RecordType.behaviours_of_run_ofSchema {registry : Registry} {name : String}
    {schema : Value} {monitor : Monitor} {made : RecordType × Registry}
    (h : ((ofSchema registry name schema).run.run monitor).1 = .ok made) :
    made.2.behaviours = registry.behaviours := by
  rw [run_ofSchema] at h
  cases read : RecordSpec.ofSchema monitor.enforced schema with
  | error failure => simp [read] at h
  | ok spec =>
    rw [read] at h
    obtain rfl := Except.ok.inj h
    rfl

namespace Record

theorem get?_put (record : Record) (field name : String) (value : Value) :
    (record.put field value).get? name =
      (record.get? name).map fun old => if name = field then value else old :=
  Fields.get?_set record.values name field value

theorem get?_blank (type : RecordType) (name : String) :
    (blank type).get? name = (type.spec.get? name).map fun _ => .undefined :=
  Fields.get?_map type.spec _ name

/-- A write is accepted when the type has the field and the value conforms to its descriptor. -/
theorem set_eq_ok_iff {switch : Bool} {record written : Record} {field : String} {value : Value} :
    record.set switch field value = .ok written ↔
      ∃ descriptor, record.type.spec.get? field = some descriptor ∧
        conforms switch value descriptor = true ∧ record.put field value = written := by
  rw [set]
  cases record.type.spec.get? field with
  | none => simp
  | some descriptor =>
    dsimp only
    rw [ensure_eq]
    cases h : conforms switch value descriptor <;> simp [h]

end Record

end TypeAssertion
