import TypeAssertion.Proofs.Descriptor.Described
import TypeAssertion.Proofs.Shield.Make

/-!
Shields from values. The values for the arguments and the one for the answer are read in a row,
before the function is looked at; once they are read, the shield is the one that is built from the
descriptors. The switch decides about a value in place of the arguments that is no array, and leaves
what is read in a row alone.
-/

set_option autoImplicit false

namespace TypeAssertion.Shield

theorem readDescriptors_eq_mapM (values : List Value) :
    readDescriptors values = values.mapM Descriptor.ofValue := by
  induction values with
  | nil => rfl
  | cons value rest ih =>
    rw [List.mapM_cons, ← ih]
    rfl

variable {switch : Bool} {arguments returns : Value}

/-- What is no array is refused while enforcement is on, whatever the other values are. -/
theorem readContract_of_not_array (other : arguments.isArray = false) :
    readContract true arguments returns =
      .error (.type ⟨.array, some arguments.typeName, none⟩) := by
  rw [readContract, ensure_eq, conforms_array, other]
  rfl

/-- The values for the arguments and the one for the answer are read in a row. -/
theorem readContract_of_readable (readable : switch = false ∨ arguments.isArray = true) :
    readContract switch arguments returns =
      ((arguments.items?.getD []).mapM Descriptor.ofValue >>= fun descriptors =>
        Descriptor.ofValue returns >>= fun answer => .ok (descriptors, answer)) := by
  have passes : conforms switch arguments .array = true := by
    rw [conforms_array]
    rcases readable with off | array
    · rw [off]
      rfl
    · rw [array, Bool.or_true]
  rw [readContract, ensure_eq, if_pos passes, ← readDescriptors_eq_mapM]
  rfl

theorem readContract_eq_ok_iff {descriptors : List Descriptor} {answer : Descriptor}
    (readable : switch = false ∨ arguments.isArray = true) :
    readContract switch arguments returns = .ok (descriptors, answer) ↔
      List.Forall₂ Value.Describes (arguments.items?.getD []) descriptors ∧
        returns.Describes answer := by
  rw [readContract_of_readable readable, ← Descriptor.mapM_ofValue_eq_ok_iff,
    ← Descriptor.ofValue_eq_ok_iff]
  cases (arguments.items?.getD []).mapM Descriptor.ofValue with
  | error failure => simp [bind, Except.bind]
  | ok read => cases Descriptor.ofValue returns <;> simp [bind, Except.bind]

/-- The value for the answer is the last one that can be refused. -/
theorem readContract_eq_error_iff {failure : Failure}
    (readable : switch = false ∨ arguments.isArray = true) :
    readContract switch arguments returns = .error failure ↔
      Value.FirstMisdescribes (arguments.items?.getD [] ++ [returns]) failure := by
  rw [← Descriptor.mapM_ofValue_eq_error_iff, readContract_of_readable readable, List.mapM_append,
    List.mapM_cons, List.mapM_nil]
  cases (arguments.items?.getD []).mapM Descriptor.ofValue with
  | error first => simp [bind, Except.bind]
  | ok read => cases Descriptor.ofValue returns <;> simp [bind, Except.bind, pure, Except.pure]

/-! ### Building from values -/

variable {registry : Registry} {function : Value} {bound? : Option Value} {monitor : Monitor}

theorem run_ofValues_of_ok {descriptors : List Descriptor} {answer : Descriptor}
    (read : readContract monitor.enforced arguments returns = .ok (descriptors, answer)) :
    (ofValues registry arguments returns function bound?).run.run monitor =
      (make registry descriptors answer function bound?).run.run monitor := by
  rw [run_ofValues, read]

theorem run_ofValues_of_error {failure : Failure}
    (refused : readContract monitor.enforced arguments returns = .error failure) :
    (ofValues registry arguments returns function bound?).run.run monitor =
      (.error failure, monitor) := by
  rw [run_ofValues, refused]

/-- The texts that are shown of descriptors stand for them. -/
theorem ofValues_shown {descriptors : List Descriptor} {answer : Descriptor}
    (shown : ∀ descriptor ∈ descriptors, descriptor.HasText) (answered : answer.HasText) :
    ofValues registry (.array (descriptors.map fun d => .string d.display))
        (.string answer.display) function bound? =
      make registry descriptors answer function bound? := by
  have described : List.Forall₂ Value.Describes
      (descriptors.map fun d => Value.string d.display) descriptors := by
    rw [List.forall₂_map_left_iff, List.forall₂_same]
    exact fun descriptor inside => (shown descriptor inside).describes
  funext monitor
  exact run_ofValues_of_ok ((readContract_eq_ok_iff (.inr rfl)).2 ⟨described, answered.describes⟩)

/-- Values that describe give the shield that is built from what they describe, or the failure of
that building. The first value that describes nothing, the one for the answer last, is the failure
otherwise, under either setting of the switch and whatever is in place of the function. Arguments
that are no array are a type failure while enforcement is on, and none at all while it is off. What
is shown of built-in descriptors can be used in place of them. -/
theorem shield_from_values_is_shield_from_descriptors (registry : Registry)
    (arguments returns function : Value) (bound? : Option Value) (monitor : Monitor) :
    let given := (ofValues registry arguments returns function bound?).run.run monitor
    let row := arguments.items?.getD []
    (monitor.enforced = true → arguments.isArray = false →
      given = (.error (.type ⟨.array, some arguments.typeName, none⟩), monitor)) ∧
    (monitor.enforced = false → arguments.isArray = false → row = []) ∧
    (monitor.enforced = false ∨ arguments.isArray = true →
      (∀ descriptors answer, List.Forall₂ Value.Describes row descriptors →
        returns.Describes answer →
        given = (make registry descriptors answer function bound?).run.run monitor) ∧
      (∀ failure, Value.FirstMisdescribes (row ++ [returns]) failure →
        given = (.error failure, monitor)) ∧
      ((∃ descriptors answer, List.Forall₂ Value.Describes row descriptors ∧
          returns.Describes answer) ∨
        ∃ failure, Value.FirstMisdescribes (row ++ [returns]) failure)) ∧
    ∀ descriptors answer, (∀ descriptor ∈ descriptors, descriptor.HasText) → answer.HasText →
      ∀ {α : Type} (use : Shield → Action α),
        (ofValues registry (.array (descriptors.map fun d => .string d.display))
            (.string answer.display) function bound? >>= use) =
          (make registry descriptors answer function bound? >>= use) := by
  intro given row
  refine ⟨?_, ?_, ?_, ?_⟩
  · intro on other
    apply run_ofValues_of_error
    rw [on]
    exact readContract_of_not_array other
  · intro _ other
    have none : arguments.items? = none := by
      rwa [Value.isArray, Option.isSome_eq_false_iff, Option.isNone_iff_eq_none] at other
    change arguments.items?.getD [] = []
    rw [none]
    rfl
  · intro readable
    refine ⟨?_, ?_, ?_⟩
    · intro descriptors answer described returned
      exact run_ofValues_of_ok ((readContract_eq_ok_iff readable).2 ⟨described, returned⟩)
    · intro failure first
      exact run_ofValues_of_error ((readContract_eq_error_iff readable).2 first)
    · cases read : readContract monitor.enforced arguments returns with
      | ok contract => exact .inl ⟨_, _, (readContract_eq_ok_iff readable).1 read⟩
      | error failure => exact .inr ⟨failure, (readContract_eq_error_iff readable).1 read⟩
  · intro descriptors answer shown answered α use
    rw [ofValues_shown shown answered]

/-- Plain and boxed texts of descriptors; while enforcement is off, a value that is no text before a
bad text and in front of what is no function; an object in place of the arguments; and what is shown
of a descriptor, to be called at once. -/
theorem texts_make_a_shield_or_are_refused :
    let f := Value.function ⟨0, "f"⟩
    (ofValues .initial (.array [.string "boolean", .boxedString " ?STRING"]) (.string "nothing") f
        none).run.run .initial =
      (make .initial [.boolean, .nullable .string] .absent f none).run.run .initial ∧
    (ofValues .initial (.array [.string "boolean", .null, .string "integer"]) .null .undefined
        none).run.run ⟨false, #[]⟩ =
      (.error (.type ⟨.string, some "null", none⟩), ⟨false, #[]⟩) ∧
    (ofValues .initial (.object []) .null .null (some .null)).run.run .initial =
      (.error (.type ⟨.array, some "object", none⟩), .initial) ∧
    (ofValues .initial (.array [.string "Nullable<Number>"]) (.string "Nothing") f none >>=
        fun shield => shield.call .undefined []) =
      (make .initial [.nullable .number] .absent f none >>=
        fun shield => shield.call .undefined []) := by
  intro f
  refine ⟨?_, ?_, ?_, ?_⟩
  · obtain ⟨-, -, law, -⟩ := shield_from_values_is_shield_from_descriptors .initial
      (.array [.string "boolean", .boxedString " ?STRING"]) (.string "nothing") f none .initial
    refine (law (.inr rfl)).1 _ _ ?_ ⟨_, rfl, rfl⟩
    exact .cons ⟨_, rfl, rfl⟩ (.cons ⟨_, rfl, rfl⟩ .nil)
  · obtain ⟨-, -, law, -⟩ := shield_from_values_is_shield_from_descriptors .initial
      (.array [.string "boolean", .null, .string "integer"]) .null .undefined none ⟨false, #[]⟩
    refine (law (.inl rfl)).2.1 _ ⟨[.string "boolean"], .null, _, rfl, ?_, .noText rfl⟩
    exact List.forall_mem_singleton.2 ⟨.boolean, _, rfl, rfl⟩
  · exact (shield_from_values_is_shield_from_descriptors .initial (.object []) .null .null
      (some .null) .initial).1 rfl rfl
  · obtain ⟨-, -, -, shown⟩ := shield_from_values_is_shield_from_descriptors .initial .null .null f
      none .initial
    have number : Descriptor.HasText (.nullable .number) :=
      ⟨.number, by simp [Descriptor.supported, Primitive.all], 1, by decide, rfl⟩
    have absent : Descriptor.HasText .absent :=
      ⟨.absent, by simp [Descriptor.supported], 0, by decide, rfl⟩
    exact shown [.nullable .number] .absent (List.forall_mem_singleton.2 number) absent _

end TypeAssertion.Shield
