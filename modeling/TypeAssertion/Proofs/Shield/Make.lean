import TypeAssertion.Shield
import TypeAssertion.Proofs.Check

/-!
Building shields. A shield that was built is around a function, and calls what that does.
-/

set_option autoImplicit false

namespace TypeAssertion.Shield

variable {registry : Registry} {returns : Descriptor} {function : Value} {bound? : Option Value}
  {shield : Shield}

theorem run_make (registry : Registry) (arguments : List Descriptor) (returns : Descriptor)
    (function : Value) (bound? : Option Value) (monitor : Monitor) :
    (make registry arguments returns function bound?).run.run monitor =
      match assemble monitor.enforced registry arguments returns function bound? with
      | .error failure => (.error failure, monitor)
      | .ok shield => (.ok shield, ⟨monitor.enforced, monitor.events.push shield.built⟩) := by
  change (match assemble monitor.enforced registry arguments returns function bound? with
    | .error failure => (throw failure : Action Shield)
    | .ok shield => do
      (report shield.built : Monitored Unit)
      return shield).run.run monitor = _
  cases assemble monitor.enforced registry arguments returns function bound? <;> rfl

theorem run_ofValues (registry : Registry) (arguments returns function : Value)
    (bound? : Option Value) (monitor : Monitor) :
    (ofValues registry arguments returns function bound?).run.run monitor =
      match readContract monitor.enforced arguments returns with
      | .error failure => (.error failure, monitor)
      | .ok (arguments, returns) =>
        (make registry arguments returns function bound?).run.run monitor := by
  change (match readContract monitor.enforced arguments returns with
    | .error failure => (throw failure : Action Shield)
    | .ok (arguments, returns) => make registry arguments returns function bound?).run.run
      monitor = _
  cases readContract monitor.enforced arguments returns <;> rfl

theorem exists_of_assemble_eq_ok {switch : Bool} {arguments : List Descriptor}
    (h : assemble switch registry arguments returns function bound? = .ok shield) :
    ∃ f least, function = .function f ∧ requiredCount arguments = .ok least ∧
      shield = ⟨arguments, returns, f, registry.behaviour f, bound?, least⟩ := by
  unfold assemble at h
  cases checked : ensure switch function .function with
  | error failure => simp [checked, liftType, bind, Except.bind] at h
  | ok _ =>
    rw [checked] at h
    cases function with
    | function f =>
      cases required : requiredCount arguments with
      | error failure => simp [liftType, Value.function?, required, bind, Except.bind] at h
      | ok least =>
        simp only [liftType, Value.function?, required] at h
        exact ⟨f, least, rfl, rfl, (Except.ok.inj h).symm⟩
    | _ => simp [liftType, Value.function?, bind, Except.bind] at h

/-- A shield that was built is around a function, and holds what it was built with. -/
theorem exists_of_run_make {arguments : List Descriptor} {monitor : Monitor}
    (h : ((make registry arguments returns function bound?).run.run monitor).1 = .ok shield) :
    ∃ f least, function = .function f ∧ requiredCount arguments = .ok least ∧
      shield = ⟨arguments, returns, f, registry.behaviour f, bound?, least⟩ := by
  rw [run_make] at h
  cases assembled : assemble monitor.enforced registry arguments returns function bound? with
  | error failure => simp [assembled] at h
  | ok made =>
    rw [assembled] at h
    obtain rfl := Except.ok.inj h
    exact exists_of_assemble_eq_ok assembled

theorem behaviour_of_run_make {arguments : List Descriptor} {monitor : Monitor}
    (h : ((make registry arguments returns function bound?).run.run monitor).1 = .ok shield) :
    shield.behaviour = registry.behaviour shield.function := by
  obtain ⟨f, least, _, _, rfl⟩ := exists_of_run_make h
  rfl

theorem behaviour_of_run_ofValues {arguments returns : Value} {monitor : Monitor}
    (h : ((ofValues registry arguments returns function bound?).run.run monitor).1 = .ok shield) :
    shield.behaviour = registry.behaviour shield.function := by
  rw [run_ofValues] at h
  cases read : readContract monitor.enforced arguments returns with
  | error failure => simp [read] at h
  | ok contract =>
    rw [read] at h
    exact behaviour_of_run_make h

end TypeAssertion.Shield
