import TypeAssertion.Property
import TypeAssertion.Record.Spec
import TypeAssertion.Proofs.Check

/-!
Questions to the engine: what is answered from the values at hand and the switch alone. Beside each
question stand the inspections that it takes while the switch is on. When all of them pass and no
descriptor in them looks at the switch, the answer is the same while the switch is off.
-/

set_option autoImplicit false

namespace TypeAssertion

/-- True of a descriptor that decides alike under both settings of the switch. -/
def Descriptor.Blind (descriptor : Descriptor) : Prop :=
  ∀ value, descriptor.accepts true value = descriptor.accepts false value

namespace Session

/-- A value that the engine holds against a descriptor. -/
structure Inspection where
  value : Value
  descriptor : Descriptor

/-- True when no mismatch is found. -/
def Inspection.Passes (inspection : Inspection) : Prop :=
  conforms true inspection.value inspection.descriptor = true

/-- True of an inspection that passes under either setting of the switch. -/
structure Inspection.Indifferent (inspection : Inspection) : Prop where
  blind : inspection.descriptor.Blind
  passes : inspection.Passes

/-- What is asked, by the type of its answer. -/
inductive Question : Type → Type 1
  | check (mode : EnforcementMode) (value : Value) (descriptor : Descriptor)
      (strictness : Strictness) : Question (Except TypeFailure Bool)
  | ensure (mode : EnforcementMode) (value : Value) (descriptor : Descriptor) :
      Question (Except TypeFailure Unit)
  | ensureForced (value : Value) (descriptor : Descriptor) : Question (Except TypeFailure Unit)
  | conforms (mode : EnforcementMode) (value : Value) (descriptor : Descriptor) : Question Bool
  | isIn (needle haystack : Value) : Question (Except TypeFailure Bool)
  | isNotIn (needle haystack : Value) : Question (Except TypeFailure Bool)
  | hasProperty (object : Value) (name : String) (type? : Option Descriptor) (soft : Bool) :
      Question (Except Failure Bool)
  | requireKind (object : Value) (name : String) (kind : Primitive) :
      Question (Except Failure Unit)
  | readDescriptor (value : Value) : Question (Except Failure Descriptor)
  | readSpec (schema : Value) : Question (Except Failure RecordSpec)

/-- The inspection of a check in a mode, unless the mode skips it even while the switch is on. -/
def inspectedIn (mode : EnforcementMode) (value : Value) (descriptor : Descriptor)
    (strictness : Strictness) : List Inspection :=
  if strictness ≠ .forced && !mode.resolve true then [] else [⟨value, descriptor⟩]

/-- The inspection of a property: it is there only with the property and with a type. -/
def inspectedProperty (object : Value) (name : String) (type? : Option Descriptor) :
    List Inspection :=
  match presentProperty object name, type? with
  | .ok value, some descriptor => [⟨value, descriptor⟩]
  | _, _ => []

namespace Question

/-- The answer to a question while the switch is as given. -/
def answer (switch : Bool) : {α : Type} → Question α → α
  | _, check mode value descriptor strictness => checkIn mode switch value descriptor strictness
  | _, ensure mode value descriptor => ensureIn mode switch value descriptor
  | _, ensureForced value descriptor => TypeAssertion.ensureForced switch value descriptor
  | _, conforms mode value descriptor => conformsIn mode switch value descriptor
  | _, isIn needle haystack => TypeAssertion.isIn switch needle haystack
  | _, isNotIn needle haystack => TypeAssertion.isNotIn switch needle haystack
  | _, hasProperty object name type? soft =>
    TypeAssertion.hasProperty switch object name type? soft
  | _, requireKind object name kind => TypeAssertion.requireKind switch object name kind
  | _, readDescriptor value => Descriptor.ofValue value
  | _, readSpec schema => RecordSpec.ofSchema switch schema

/-- What is inspected for the answer while the switch is on. -/
def inspections : {α : Type} → Question α → List Inspection
  | _, check mode value descriptor strictness => inspectedIn mode value descriptor strictness
  | _, ensure mode value descriptor => inspectedIn mode value descriptor .strict
  | _, ensureForced value descriptor => inspectedIn .followSwitch value descriptor .forced
  | _, conforms mode value descriptor => inspectedIn mode value descriptor .soft
  | _, isIn _ haystack => [⟨haystack, .array⟩]
  | _, isNotIn _ haystack => [⟨haystack, .array⟩]
  | _, hasProperty object name type? _ => inspectedProperty object name type?
  | _, requireKind object name kind => inspectedProperty object name (some (.primitive kind))
  | _, readDescriptor _ => []
  | _, readSpec schema => [⟨schema, .object⟩]

end Question

/-- An inspection that passes stops no strict check, under either setting. -/
theorem Inspection.Passes.ensure_eq {value : Value} {descriptor : Descriptor}
    (passes : (⟨value, descriptor⟩ : Inspection).Passes) (switch : Bool) :
    ensure switch value descriptor = .ok () :=
  ensure_eq_ok_iff.2 (conforms_iff_of_on.2 fun _ => passes)

/-- While the switch is on, a check finds a mismatch exactly when its inspection does. -/
theorem checkIn_on_eq_ok_true_iff {mode : EnforcementMode} {value : Value} {descriptor : Descriptor}
    {strictness : Strictness} :
    checkIn mode true value descriptor strictness = .ok true ↔
      ∀ inspection ∈ inspectedIn mode value descriptor strictness, inspection.Passes := by
  unfold checkIn inspectedIn
  by_cases skipped : (strictness ≠ .forced && !mode.resolve true) = true
  · rw [if_pos skipped, if_pos skipped]
    exact ⟨fun _ => List.forall_mem_nil _, fun _ => rfl⟩
  · rw [if_neg skipped, if_neg skipped, List.forall_mem_singleton, Inspection.Passes, conforms_on]
    cases descriptor.accepts true value with
    | true => simp
    | false => cases strictness.isSoft <;> simp

theorem checkIn_of_indifferent {mode : EnforcementMode} {value : Value} {descriptor : Descriptor}
    {strictness : Strictness}
    (h : ∀ inspection ∈ inspectedIn mode value descriptor strictness, inspection.Indifferent)
    (switch : Bool) : checkIn mode switch value descriptor strictness = .ok true := by
  cases switch with
  | true => exact checkIn_on_eq_ok_true_iff.2 fun inspection member => (h inspection member).passes
  | false =>
    unfold checkIn
    by_cases skipped : (strictness ≠ .forced && !mode.resolve false) = true
    · rw [if_pos skipped]
    · -- What is not skipped while the switch is off is inspected while it is on.
      have inspected : inspectedIn mode value descriptor strictness = [⟨value, descriptor⟩] := by
        refine if_neg fun on => skipped ?_
        cases mode <;> simp_all [EnforcementMode.resolve]
      obtain ⟨blind, passes⟩ := h _ (inspected ▸ List.mem_singleton_self _)
      have accepted : descriptor.accepts false value = true := by
        rw [← blind value, ← conforms_on]
        exact passes
      rw [if_neg skipped, if_pos accepted]

theorem testProperty_of_indifferent {object : Value} {name : String} {type? : Option Descriptor}
    {strictness : Strictness}
    (h : ∀ inspection ∈ inspectedProperty object name type?, inspection.Indifferent)
    (switch : Bool) :
    testProperty switch object name type? strictness =
      match presentProperty object name with
      | .error cause => if strictness.isSoft then .ok false else .error (.precondition cause)
      | .ok _ => .ok true := by
  unfold testProperty
  unfold inspectedProperty at h
  cases found : presentProperty object name with
  | error cause => rfl
  | ok value =>
    cases type? with
    | none => rfl
    | some descriptor =>
      simp only [found] at h
      have inspected : inspectedIn .followSwitch value descriptor strictness =
          [⟨value, descriptor⟩] := by
        simp [inspectedIn, EnforcementMode.resolve]
      have passed := checkIn_of_indifferent (inspected ▸ h) switch
      dsimp only
      rw [check, passed]
      rfl

/-- A question is answered alike under both settings if what it inspects passes under both. -/
theorem Question.answer_of_indifferent {α : Type} (question : Question α)
    (h : ∀ inspection ∈ question.inspections, inspection.Indifferent) (switch : Bool) :
    question.answer switch = question.answer true := by
  cases question with
  | check mode value descriptor strictness =>
    exact (checkIn_of_indifferent h switch).trans (checkIn_of_indifferent h true).symm
  | ensure mode value descriptor =>
    simp only [answer, ensureIn, checkIn_of_indifferent h]
  | ensureForced value descriptor =>
    simp only [answer, TypeAssertion.ensureForced, TypeAssertion.check, checkIn_of_indifferent h]
  | conforms mode value descriptor =>
    simp only [answer, conformsIn, checkIn_of_indifferent h]
  | isIn needle haystack =>
    have passes := (h _ (List.mem_singleton_self _)).passes
    simp only [answer, TypeAssertion.isIn, passes.ensure_eq]
  | isNotIn needle haystack =>
    have passes := (h _ (List.mem_singleton_self _)).passes
    simp only [answer, TypeAssertion.isNotIn, TypeAssertion.isIn, passes.ensure_eq]
  | hasProperty object name type? soft =>
    simp only [answer, TypeAssertion.hasProperty, testProperty_of_indifferent h]
  | requireKind object name kind =>
    simp only [answer, TypeAssertion.requireKind, testProperty_of_indifferent h]
  | readDescriptor value => rfl
  | readSpec schema =>
    have passes := (h _ (List.mem_singleton_self _)).passes
    simp only [answer, RecordSpec.ofSchema, passes.ensure_eq]

end Session

end TypeAssertion
