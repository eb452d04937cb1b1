import Mathlib.Data.List.Forall2
import TypeAssertion.Value.Document
import TypeAssertion.Value.Equality

/-!
Nested values by their parts. What holds of a value when it holds of its items, properties and
fields holds of every value, and the functions that go through nested lists are the usual ones on
lists: equality compares position by position, the conversions map and filter.
-/

set_option autoImplicit false

namespace TypeAssertion.Value

/-- Induction on values with the parts of a container at hand. -/
theorem induction {holds : Value → Prop} (undefined : holds .undefined) (null : holds .null)
    (bool : ∀ truth, holds (.bool truth)) (number : ∀ n, holds (.number n))
    (string : ∀ text, holds (.string text)) (boxedString : ∀ text, holds (.boxedString text))
    (boxedNumber : ∀ n, holds (.boxedNumber n))
    (array : ∀ items, (∀ item ∈ items, holds item) → holds (.array items))
    (object : ∀ properties : List (String × Value),
      (∀ entry ∈ properties, holds entry.2) → holds (.object properties))
    (function : ∀ f, holds (.function f))
    (record : ∀ cls (fields : List (String × Value)),
      (∀ entry ∈ fields, holds entry.2) → holds (.instance cls fields)) :
    ∀ value, holds value
  | .undefined => undefined
  | .null => null
  | .bool truth => bool truth
  | .number n => number n
  | .string text => string text
  | .boxedString text => boxedString text
  | .boxedNumber n => boxedNumber n
  | .array items => array items fun item member =>
      have _smaller := List.sizeOf_lt_of_mem member
      induction undefined null bool number string boxedString boxedNumber array object function
        record item
  | .object properties => object properties fun (name, item) member =>
      have _smaller := List.sizeOf_lt_of_mem member
      induction undefined null bool number string boxedString boxedNumber array object function
        record item
  | .function f => function f
  | .instance cls fields => record cls fields fun (name, item) member =>
      have _smaller := List.sizeOf_lt_of_mem member
      induction undefined null bool number string boxedString boxedNumber array object function
        record item
termination_by value => sizeOf value
decreasing_by
  all_goals
    simp only [Prod.mk.sizeOf_spec, Value.array.sizeOf_spec, Value.object.sizeOf_spec,
      Value.instance.sizeOf_spec] at *
    omega

/-! ### Equality -/

theorem equalItems_iff {xs ys : List Value} :
    equalItems xs ys = true ↔ List.Forall₂ (fun x y => x.equals y = true) xs ys := by
  induction xs generalizing ys with
  | nil => cases ys <;> simp [equalItems]
  | cons x xs ih => cases ys <;> simp [equalItems, ih]

theorem equalEntries_iff {xs ys : List (String × Value)} :
    equalEntries xs ys = true ↔
      List.Forall₂ (fun x y => x.1 = y.1 ∧ x.2.equals y.2 = true) xs ys := by
  induction xs generalizing ys with
  | nil => cases ys <;> simp [equalEntries]
  | cons x xs ih => cases ys <;> simp [equalEntries, ih]

theorem equalItems_comm {xs ys : List Value}
    (h : ∀ x ∈ xs, ∀ y, x.equals y = y.equals x) : equalItems xs ys = equalItems ys xs := by
  induction xs generalizing ys with
  | nil => cases ys <;> rfl
  | cons x xs ih =>
    obtain ⟨here, later⟩ := List.forall_mem_cons.1 h
    cases ys with
    | nil => rfl
    | cons y ys => rw [equalItems, equalItems, here, ih later]

theorem equalEntries_comm {xs ys : List (String × Value)}
    (h : ∀ x ∈ xs, ∀ y, x.2.equals y = y.equals x.2) :
    equalEntries xs ys = equalEntries ys xs := by
  induction xs generalizing ys with
  | nil => cases ys <;> rfl
  | cons x xs ih =>
    obtain ⟨here, later⟩ := List.forall_mem_cons.1 h
    cases ys with
    | nil => rfl
    | cons y ys => rw [equalEntries, equalEntries, here, ih later, BEq.comm]

theorem equals_comm (a b : Value) : a.equals b = b.equals a := by
  induction a using Value.induction generalizing b with
  | undefined => cases b <;> rfl
  | null => cases b <;> rfl
  | bool truth => cases b <;> simp [equals, BEq.comm]
  | number n => cases b <;> simp [equals, Number.equals_comm n]
  | string text => cases b <;> simp [equals, BEq.comm]
  | boxedString text => cases b <;> simp [equals, BEq.comm]
  | boxedNumber n => cases b <;> simp [equals, Number.equals_comm n]
  | array items ih => cases b <;> simp [equals, equalItems_comm ih]
  | object properties ih => cases b <;> simp [equals, equalEntries_comm ih]
  | function f => cases b <;> simp [equals, BEq.comm]
  | record cls fields ih =>
    cases b <;> simp [equals, equalEntries_comm ih, Class.same, BEq.comm]

/-! ### Conversions -/

theorem itemDocuments_eq_map (items : List Value) :
    itemDocuments items = items.map fun item => item.document?.getD .null := by
  induction items with
  | nil => rfl
  | cons item rest ih => rw [itemDocuments, ih, List.map_cons]

theorem memberDocuments_eq_filterMap (entries : List (String × Value)) :
    memberDocuments entries =
      entries.filterMap fun entry => entry.2.document?.map fun document => (entry.1, document) := by
  induction entries with
  | nil => rfl
  | cons entry rest ih =>
    obtain ⟨name, item⟩ := entry
    rw [memberDocuments, List.filterMap_cons, ih]
    cases item.document? <;> rfl

theorem ofItems_eq_map (items : List Json) : ofItems items = items.map ofDocument := by
  induction items with
  | nil => rfl
  | cons item rest ih => rw [ofItems, ih, List.map_cons]

theorem ofMembers_eq_map (members : List (String × Json)) :
    ofMembers members = members.map fun member => (member.1, ofDocument member.2) := by
  induction members with
  | nil => rfl
  | cons member rest ih => rw [ofMembers, ih, List.map_cons]

theorem names_ofMembers (members : List (String × Json)) :
    (ofMembers members).map Prod.fst = members.map Prod.fst := by
  rw [ofMembers_eq_map, List.map_map]
  rfl

end TypeAssertion.Value
