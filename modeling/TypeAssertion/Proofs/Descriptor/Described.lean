import Mathlib.Data.List.Forall2
import TypeAssertion.Proofs.Descriptor.Display

/-!
Values that describe: strings, plain or boxed, that hold the text of a descriptor. Any other value
misdescribes in one way only, so reading a value always ends, with one descriptor or with one
failure. Values that are read one after the other fail as the first of them that misdescribes. What
is shown of a built-in descriptor describes it, unless it has too many layers.
-/

set_option autoImplicit false

namespace TypeAssertion

namespace Value

/-- A value describes by the text of a descriptor. -/
def Describes (value : Value) (descriptor : Descriptor) : Prop :=
  ∃ text, value.text? = some text ∧ Descriptor.parse text = .ok descriptor

/-- How a value fails to describe: it is no string, or its text is that of no descriptor. -/
inductive Misdescribes : Value → Failure → Prop
  | noText {value : Value} :
      value.text? = none → Misdescribes value (.type ⟨.string, some value.typeName, none⟩)
  | badText {value : Value} {text : String} {cause : Precondition} :
      value.text? = some text → Descriptor.parse text = .error (.precondition cause) →
      Misdescribes value (.precondition cause)

end Value

/-! ### One value -/

namespace Descriptor

theorem exists_cause_of_parse_eq_error {text : String} {failure : Failure}
    (h : parse text = .error failure) : ∃ cause, failure = .precondition cause := by
  unfold parse at h
  split at h
  · simp at h
  · next cause _ => exact ⟨.descriptorText cause, (Except.error.inj h).symm⟩

theorem ofValue_eq_ok_iff {value : Value} {descriptor : Descriptor} :
    ofValue value = .ok descriptor ↔ value.Describes descriptor := by
  unfold ofValue Value.Describes
  cases value.text? <;> simp

theorem ofValue_eq_error_iff {value : Value} {failure : Failure} :
    ofValue value = .error failure ↔ value.Misdescribes failure := by
  constructor
  · intro failed
    unfold ofValue at failed
    cases held : value.text? with
    | none =>
      rw [held] at failed
      obtain rfl := Except.error.inj failed
      exact .noText held
    | some text =>
      rw [held] at failed
      obtain ⟨cause, rfl⟩ := exists_cause_of_parse_eq_error failed
      exact .badText held failed
  · intro misdescribes
    cases misdescribes with
    | noText held => rw [ofValue, held]; rfl
    | badText held refused => rw [ofValue, held]; exact refused

end Descriptor

/-! ### Values in a row -/

section Reading

variable {α β ε : Type} {read : α → Except ε β} {items : List α}

/-- Items are read in a row when each of them is read. -/
theorem mapM_eq_ok_iff {results : List β} :
    items.mapM read = .ok results ↔
      List.Forall₂ (fun item result => read item = .ok result) items results := by
  induction items generalizing results with
  | nil => simp [pure, Except.pure, eq_comm]
  | cons item rest ih =>
    rw [List.mapM_cons, List.forall₂_cons_left_iff]
    simp only [← ih]
    cases read item with
    | error failure => simp [bind, Except.bind]
    | ok result =>
      cases rest.mapM read with
      | error failure => simp [bind, Except.bind]
      | ok others => simp [bind, Except.bind, pure, Except.pure, eq_comm]

theorem exists_mapM_eq_ok_iff :
    (∃ results, items.mapM read = .ok results) ↔
      ∀ item ∈ items, ∃ result, read item = .ok result := by
  induction items with
  | nil => simp [pure, Except.pure]
  | cons item rest ih =>
    rw [List.mapM_cons, List.forall_mem_cons, ← ih]
    cases read item with
    | error failure => simp [bind, Except.bind]
    | ok result => cases rest.mapM read <;> simp [bind, Except.bind, pure, Except.pure]

/-- The results are those of the items. -/
theorem mem_iff_of_mapM_eq_ok {results : List β} (h : items.mapM read = .ok results) {result : β} :
    result ∈ results ↔ ∃ item ∈ items, read item = .ok result := by
  replace h := mapM_eq_ok_iff.1 h
  induction h with
  | nil => simp
  | cons head _ ih => simp [ih, head, eq_comm]

/-- What comes after an item that is not read is not looked at. -/
theorem mapM_of_refused {before after : List α} {item : α} {failure : ε}
    (passed : ∀ earlier ∈ before, ∃ result, read earlier = .ok result)
    (refused : read item = .error failure) :
    (before ++ item :: after).mapM read = .error failure := by
  induction before with
  | nil =>
    rw [List.nil_append, List.mapM_cons, refused]
    rfl
  | cons earlier before ih =>
    obtain ⟨⟨result, head⟩, passed⟩ := List.forall_mem_cons.1 passed
    rw [List.cons_append, List.mapM_cons, head, ih passed]
    rfl

/-- Items are not read in a row when one of them is not; then the first such item tells why. -/
theorem mapM_eq_error_iff {failure : ε} :
    items.mapM read = .error failure ↔
      ∃ before item after, items = before ++ item :: after ∧
        (∀ earlier ∈ before, ∃ result, read earlier = .ok result) ∧ read item = .error failure := by
  constructor
  · intro failed
    induction items with
    | nil => simp [pure, Except.pure] at failed
    | cons item rest ih =>
      rw [List.mapM_cons] at failed
      cases head : read item with
      | error first =>
        rw [head] at failed
        obtain rfl := Except.error.inj failed
        exact ⟨[], item, rest, rfl, by simp, head⟩
      | ok result =>
        have later : rest.mapM read = .error failure := by
          cases tail : rest.mapM read with
          | error first => simpa [head, tail, bind, Except.bind] using failed
          | ok others => simp [head, tail, bind, Except.bind, pure, Except.pure] at failed
        obtain ⟨before, other, after, rfl, passed, refused⟩ := ih later
        refine ⟨item :: before, other, after, rfl, ?_, refused⟩
        exact List.forall_mem_cons.2 ⟨⟨result, head⟩, passed⟩
  · rintro ⟨before, item, after, rfl, passed, refused⟩
    exact mapM_of_refused passed refused

end Reading

/-- The first value of a row that describes nothing, told by how it misdescribes. -/
def Value.FirstMisdescribes (values : List Value) (failure : Failure) : Prop :=
  ∃ before value after, values = before ++ value :: after ∧
    (∀ earlier ∈ before, ∃ descriptor, earlier.Describes descriptor) ∧ value.Misdescribes failure

theorem Descriptor.mapM_ofValue_eq_ok_iff {values : List Value} {descriptors : List Descriptor} :
    values.mapM ofValue = .ok descriptors ↔
      List.Forall₂ Value.Describes values descriptors := by
  rw [mapM_eq_ok_iff]
  simp only [ofValue_eq_ok_iff]

theorem Descriptor.mapM_ofValue_eq_error_iff {values : List Value} {failure : Failure} :
    values.mapM ofValue = .error failure ↔ Value.FirstMisdescribes values failure := by
  rw [mapM_eq_error_iff, Value.FirstMisdescribes]
  simp only [ofValue_eq_ok_iff, ofValue_eq_error_iff]

/-! ### Shown descriptors -/

namespace Descriptor

/-- True of the descriptors that a text can be given for: built-in ones under at most sixteen
layers. -/
def HasText (descriptor : Descriptor) : Prop :=
  ∃ base ∈ supported, ∃ layers ≤ 16, descriptor = base.underLayers layers

/-- A string that shows a descriptor describes it. -/
theorem HasText.describes {descriptor : Descriptor} (h : descriptor.HasText) :
    (Value.string descriptor.display).Describes descriptor := by
  obtain ⟨base, builtIn, layers, few, rfl⟩ := h
  refine ⟨_, rfl, ?_⟩
  rw [parse_of_respelt builtIn (respelt_display builtIn layers), if_pos few]

end Descriptor

end TypeAssertion
