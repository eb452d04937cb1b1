import TypeAssertion.Proofs.Descriptor.Layers
import TypeAssertion.Proofs.Session.Question

/-!
The law of a check. A descriptor is its core under some nullable layers, and its verdict can be told
without going through them one by one: null passes under a layer, all else is left to the core. Mode
and switch decide whether a check that is not forced looks at the verdict at all, and the strictness
decides how it is told.
-/

set_option autoImplicit false

namespace TypeAssertion

namespace Descriptor

/-- How many nullable layers a descriptor has. -/
def layers : Descriptor → Nat
  | nullable inner => inner.layers + 1
  | _ => 0

/-- A descriptor read flat: null passes under a layer, and the core decides all else. -/
def verdict (switch : Bool) (value : Value) (descriptor : Descriptor) : Bool :=
  value.isNull && decide (0 < descriptor.layers) || descriptor.core.accepts switch value

theorem underLayers_core (descriptor : Descriptor) :
    descriptor.core.underLayers descriptor.layers = descriptor := by
  induction descriptor with
  | nullable inner ih => exact congrArg nullable ih
  | _ => rfl

theorem layers_core (descriptor : Descriptor) : descriptor.core.layers = 0 := by
  induction descriptor with
  | nullable inner ih => exact ih
  | _ => rfl

theorem isNullable_eq (descriptor : Descriptor) :
    descriptor.isNullable = decide (0 < descriptor.layers) := by
  cases descriptor <;> simp [isNullable, layers]

theorem accepts_eq_verdict (switch : Bool) (value : Value) (descriptor : Descriptor) :
    descriptor.accepts switch value = descriptor.verdict switch value := by
  rw [accepts_eq, isNullable_eq, verdict]

/-- A second layer lets nothing in that the first one does not. -/
theorem verdict_nullable_nullable (switch : Bool) (value : Value) (descriptor : Descriptor) :
    (nullable (nullable descriptor)).verdict switch value =
      (nullable descriptor).verdict switch value := by
  simp [verdict, layers, core]

end Descriptor

variable {mode : EnforcementMode} {switch : Bool} {value : Value} {descriptor : Descriptor}
  {strictness : Strictness}

theorem checkIn_of_skipped (off : mode.resolve switch = false) (unforced : strictness ≠ .forced) :
    checkIn mode switch value descriptor strictness = .ok true := by
  rw [checkIn, if_pos]
  simp [off, unforced]

/-- A check that is not skipped tells the verdict. -/
theorem checkIn_of_reached (reached : mode.resolve switch = true ∨ strictness = .forced) :
    checkIn mode switch value descriptor strictness =
      if descriptor.verdict switch value then .ok true
      else if strictness = .soft then .ok false
      else .error (.ofMismatch value descriptor) := by
  have seen : ¬(strictness ≠ .forced && !mode.resolve switch) = true := by
    rcases reached with on | rfl
    · simp [on]
    · simp
  have soft : (strictness.isSoft = true) = (strictness = .soft) := by
    cases strictness <;> simp [Strictness.isSoft]
  rw [checkIn, if_neg seen, Descriptor.accepts_eq_verdict]
  simp only [soft]

/-- A check succeeds when it is skipped or its verdict is positive. -/
theorem checkIn_eq_ok_true_iff :
    checkIn mode switch value descriptor strictness = .ok true ↔
      (mode.resolve switch = true ∨ strictness = .forced →
        descriptor.verdict switch value = true) := by
  by_cases reached : mode.resolve switch = true ∨ strictness = .forced
  · rw [checkIn_of_reached reached]
    cases descriptor.verdict switch value with
    | true => simp
    | false =>
      simp only [reached, Bool.false_eq_true, if_false, iff_false, not_true, imp_false]
      split <;> simp
  · obtain ⟨off, unforced⟩ := not_or.1 reached
    rw [checkIn_of_skipped (Bool.eq_false_of_not_eq_true off) unforced]
    simp [reached]

/-- A check without an answer tells the same as one with an answer: it succeeds where that is true,
and fails with the same failure. -/
structure Tells (plain : Except TypeFailure Unit) (answered : Except TypeFailure Bool) : Prop where
  success : plain = .ok () ↔ answered = .ok true
  failure (failure : TypeFailure) : plain = .error failure ↔ answered = .error failure

/-- The law of the checks of a value against a descriptor, in a mode and under a switch. -/
structure ChecksByVerdict (mode : EnforcementMode) (switch : Bool) (value : Value)
    (descriptor : Descriptor) : Prop where
  flat : descriptor.core.underLayers descriptor.layers = descriptor ∧ descriptor.core.layers = 0
  skipped (strictness : Strictness) : mode.resolve switch = false → strictness ≠ .forced →
    checkIn mode switch value descriptor strictness = .ok true
  soft : mode.resolve switch = true →
    checkIn mode switch value descriptor .soft = .ok (descriptor.verdict switch value)
  hard (strictness : Strictness) : strictness ≠ .soft →
    mode.resolve switch = true ∨ strictness = .forced →
    ∃ failure : TypeFailure,
      checkIn mode switch value descriptor strictness =
        (if descriptor.verdict switch value then .ok true else .error failure) ∧
      failure.expected = descriptor ∧ failure.provided = some value.typeName ∧
      failure.message = "invalid type: " ++ value.typeName ++ ", expected " ++ descriptor.display
  soft_answers : ∃ answer, checkIn mode switch value descriptor .soft = .ok answer
  hard_affirms (strictness : Strictness) : strictness ≠ .soft →
    checkIn mode switch value descriptor strictness ≠ .ok false
  strict_iff_soft : checkIn mode switch value descriptor .strict = .ok true ↔
    checkIn mode switch value descriptor .soft = .ok true
  strict_of_forced (other : EnforcementMode) :
    checkIn mode switch value descriptor .forced = .ok true →
    checkIn other switch value descriptor .strict = .ok true
  second_layer (strictness : Strictness) :
    checkIn mode switch value (.nullable (.nullable descriptor)) strictness = .ok true ↔
      checkIn mode switch value (.nullable descriptor) strictness = .ok true
  ensured_in : Tells (ensureIn mode switch value descriptor)
    (checkIn mode switch value descriptor .strict)
  conforms_in : conformsIn mode switch value descriptor = true ↔
    checkIn mode switch value descriptor .soft = .ok true
  checked (strictness : Strictness) : check switch value descriptor strictness =
    checkIn .followSwitch switch value descriptor strictness
  ensured : Tells (ensure switch value descriptor) (check switch value descriptor .strict)
  ensured_forced : Tells (ensureForced switch value descriptor)
    (check switch value descriptor .forced)
  conforming : conforms switch value descriptor = true ↔
    check switch value descriptor .soft = .ok true
  blind (other : EnforcementMode) (setting : Bool) (strictness : Strictness) : descriptor.Blind →
    strictness = .forced ∨ other.resolve setting = mode.resolve switch →
    checkIn other setting value descriptor strictness =
      checkIn mode switch value descriptor strictness

/-! ### The parts of the law -/

theorem exists_checkIn_soft_eq_ok (mode : EnforcementMode) (switch : Bool) (value : Value)
    (descriptor : Descriptor) :
    ∃ answer, checkIn mode switch value descriptor .soft = .ok answer := by
  by_cases on : mode.resolve switch = true
  · refine ⟨descriptor.verdict switch value, ?_⟩
    rw [checkIn_of_reached (.inl on)]
    cases descriptor.verdict switch value <;> rfl
  · exact ⟨true, checkIn_of_skipped (Bool.eq_false_of_not_eq_true on) (by decide)⟩

theorem checkIn_ne_ok_false (hard : strictness ≠ .soft) :
    checkIn mode switch value descriptor strictness ≠ .ok false := by
  by_cases reached : mode.resolve switch = true ∨ strictness = .forced
  · rw [checkIn_of_reached reached, if_neg hard]
    split <;> simp
  · obtain ⟨off, unforced⟩ := not_or.1 reached
    rw [checkIn_of_skipped (Bool.eq_false_of_not_eq_true off) unforced]
    simp

/-- A check that is never negative says all it has to say without its answer. -/
theorem tells_map {answered : Except TypeFailure Bool} (affirms : answered ≠ .ok false) :
    Tells (answered.map fun _ => ()) answered := by
  cases answered with
  | error failure => exact ⟨by simp [Except.map], fun _ => by simp [Except.map]⟩
  | ok answer =>
    cases answer with
    | false => exact absurd rfl affirms
    | true => exact ⟨by simp [Except.map], fun _ => by simp [Except.map]⟩

theorem conformsIn_iff : conformsIn mode switch value descriptor = true ↔
    checkIn mode switch value descriptor .soft = .ok true := by
  obtain ⟨answer, told⟩ := exists_checkIn_soft_eq_ok mode switch value descriptor
  simp [conformsIn, told]

theorem Descriptor.Blind.verdict_eq (blind : descriptor.Blind) (setting : Bool) :
    descriptor.verdict setting value = descriptor.verdict switch value := by
  rw [← Descriptor.accepts_eq_verdict, ← Descriptor.accepts_eq_verdict]
  cases setting <;> cases switch <;> simp [blind value]

/-- Mode and switch matter to a check only in whether it is skipped, if the descriptor does not look
at the switch. -/
theorem checkIn_of_blind (blind : descriptor.Blind) {other : EnforcementMode} {setting : Bool}
    (alike : strictness = .forced ∨ other.resolve setting = mode.resolve switch) :
    checkIn other setting value descriptor strictness =
      checkIn mode switch value descriptor strictness := by
  by_cases reached : mode.resolve switch = true ∨ strictness = .forced
  · have reached' : other.resolve setting = true ∨ strictness = .forced := by
      rcases alike with forced | same
      · exact .inr forced
      · rwa [same]
    rw [checkIn_of_reached reached, checkIn_of_reached reached', blind.verdict_eq]
  · obtain ⟨off, unforced⟩ := not_or.1 reached
    have same := alike.resolve_left unforced
    have off := Bool.eq_false_of_not_eq_true off
    rw [checkIn_of_skipped off unforced, checkIn_of_skipped (same.trans off) unforced]

/-- A check that is neither enforced nor forced passes; any other tells the flat verdict, softly by
an answer and hard by a failure that names the whole descriptor and the type of the value. All other
ways to check agree with it. -/
theorem check_follows_flat_verdict (mode : EnforcementMode) (switch : Bool) (value : Value)
    (descriptor : Descriptor) : ChecksByVerdict mode switch value descriptor where
  flat := ⟨descriptor.underLayers_core, descriptor.layers_core⟩
  skipped _ := checkIn_of_skipped
  soft on := by
    rw [checkIn_of_reached (.inl on)]
    cases descriptor.verdict switch value <;> rfl
  hard strictness hard reached := by
    refine ⟨.ofMismatch value descriptor, ?_, rfl, rfl, rfl⟩
    rw [checkIn_of_reached reached, if_neg hard]
  soft_answers := exists_checkIn_soft_eq_ok mode switch value descriptor
  hard_affirms _ := checkIn_ne_ok_false
  strict_iff_soft := by
    rw [checkIn_eq_ok_true_iff, checkIn_eq_ok_true_iff]
    simp
  strict_of_forced other forced := by
    rw [checkIn_eq_ok_true_iff] at forced ⊢
    exact fun _ => forced (.inr rfl)
  second_layer strictness := by
    rw [checkIn_eq_ok_true_iff, checkIn_eq_ok_true_iff, Descriptor.verdict_nullable_nullable]
  ensured_in := tells_map (checkIn_ne_ok_false (by decide))
  conforms_in := conformsIn_iff
  checked _ := rfl
  ensured := tells_map (checkIn_ne_ok_false (by decide))
  ensured_forced := tells_map (checkIn_ne_ok_false (by decide))
  conforming := conformsIn_iff
  blind _ _ _ blind alike := checkIn_of_blind blind alike

/-- While enforcement is off, a forced check finds the mismatch under two layers, and a strict one
passes. -/
theorem forced_check_looks_under_layers_while_off :
    (∃ failure : TypeFailure,
      checkIn .followSwitch false (.bool true) (.nullable (.nullable .string)) .forced =
        .error failure ∧
      failure.message = "invalid type: boolean, expected Nullable<Nullable<String>>") ∧
    checkIn .followSwitch false (.bool true) (.nullable (.nullable .string)) .strict = .ok true := by
  have law := check_follows_flat_verdict .followSwitch false (.bool true)
    (.nullable (.nullable .string))
  obtain ⟨failure, told, -, -, message⟩ := law.hard .forced (by decide) (.inr rfl)
  exact ⟨⟨failure, told, message⟩, law.skipped .strict rfl (by decide)⟩

end TypeAssertion
