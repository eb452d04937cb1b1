import TypeAssertion.Check
import TypeAssertion.Proofs.Value.Parts

/-!
Equality of values as a relation. It is symmetric and transitive, and what is not a number makes its
only hole: a value equals itself exactly when no such datum is inside, however deep. Membership in
an array is equality with an item, so a value with such a datum is in no array.
-/

set_option autoImplicit false

namespace TypeAssertion.Value

/-- A value with a datum inside, at some depth, that is not a number. -/
inductive HoldsNaN : Value → Prop
  | number {n : Number} : n.isNaN = true → HoldsNaN (.number n)
  | boxedNumber {n : Number} : n.isNaN = true → HoldsNaN (.boxedNumber n)
  | item {items : List Value} {item : Value} : item ∈ items → HoldsNaN item →
      HoldsNaN (.array items)
  | property {properties : List (String × Value)} {entry : String × Value} :
      entry ∈ properties → HoldsNaN entry.2 → HoldsNaN (.object properties)
  | field {cls : Class} {fields : List (String × Value)} {entry : String × Value} :
      entry ∈ fields → HoldsNaN entry.2 → HoldsNaN (.instance cls fields)

theorem holdsNaN_number_iff {n : Number} : HoldsNaN (.number n) ↔ n.isNaN = true :=
  ⟨fun | .number isNaN => isNaN, .number⟩

theorem holdsNaN_boxedNumber_iff {n : Number} : HoldsNaN (.boxedNumber n) ↔ n.isNaN = true :=
  ⟨fun | .boxedNumber isNaN => isNaN, .boxedNumber⟩

theorem holdsNaN_array_iff {items : List Value} :
    HoldsNaN (.array items) ↔ ∃ item ∈ items, item.HoldsNaN :=
  ⟨fun | .item inside holds => ⟨_, inside, holds⟩, fun ⟨_, inside, holds⟩ => .item inside holds⟩

theorem holdsNaN_object_iff {properties : List (String × Value)} :
    HoldsNaN (.object properties) ↔ ∃ entry ∈ properties, entry.2.HoldsNaN :=
  ⟨fun | .property inside holds => ⟨_, inside, holds⟩,
    fun ⟨_, inside, holds⟩ => .property inside holds⟩

theorem holdsNaN_instance_iff {cls : Class} {fields : List (String × Value)} :
    HoldsNaN (.instance cls fields) ↔ ∃ entry ∈ fields, entry.2.HoldsNaN :=
  ⟨fun | .field inside holds => ⟨_, inside, holds⟩, fun ⟨_, inside, holds⟩ => .field inside holds⟩

/-! ### Transitivity -/

/-- A relation that can be chained at the parts of the first list can be chained on lists. -/
theorem forall₂_trans {α : Type} {related : α → α → Prop} {xs ys zs : List α}
    (chained : ∀ x ∈ xs, ∀ y z, related x y → related y z → related x z)
    (first : List.Forall₂ related xs ys) (second : List.Forall₂ related ys zs) :
    List.Forall₂ related xs zs := by
  induction first generalizing zs with
  | nil =>
    cases second
    exact .nil
  | @cons x y xs ys here _ ih =>
    obtain ⟨atHead, atTail⟩ := List.forall_mem_cons.1 chained
    cases second with
    | @cons _ z _ zs here' later' => exact .cons (atHead y z here here') (ih atTail later')

theorem equalItems_trans {xs ys zs : List Value}
    (chained : ∀ x ∈ xs, ∀ y z : Value, x.equals y = true → y.equals z = true → x.equals z = true)
    (first : equalItems xs ys = true) (second : equalItems ys zs = true) :
    equalItems xs zs = true :=
  equalItems_iff.2 (forall₂_trans chained (equalItems_iff.1 first) (equalItems_iff.1 second))

theorem equalEntries_trans {xs ys zs : List (String × Value)}
    (chained : ∀ x ∈ xs, ∀ y z : Value,
      x.2.equals y = true → y.equals z = true → x.2.equals z = true)
    (first : equalEntries xs ys = true) (second : equalEntries ys zs = true) :
    equalEntries xs zs = true := by
  refine equalEntries_iff.2
    (forall₂_trans ?_ (equalEntries_iff.1 first) (equalEntries_iff.1 second))
  rintro x inside y z ⟨name, equal⟩ ⟨name', equal'⟩
  exact ⟨name.trans name', chained x inside y.2 z.2 equal equal'⟩

theorem equals_trans {a b c : Value} (first : a.equals b = true) (second : b.equals c = true) :
    a.equals c = true := by
  induction a using Value.induction generalizing b c with
  | number n =>
    cases b <;> cases c <;> simp only [equals, reduceCtorEq] at first second ⊢
    exact Number.equals_trans first second
  | boxedNumber n =>
    cases b <;> cases c <;> simp only [equals, reduceCtorEq] at first second ⊢
    exact Number.equals_trans first second
  | array items ih =>
    cases b <;> cases c <;> simp only [equals, reduceCtorEq] at first second ⊢
    exact equalItems_trans (fun x inside y z => ih x inside) first second
  | object properties ih =>
    cases b <;> cases c <;> simp only [equals, reduceCtorEq] at first second ⊢
    exact equalEntries_trans (fun x inside y z => ih x inside) first second
  | record cls fields ih =>
    cases b <;> cases c <;> simp only [equals, reduceCtorEq, Bool.and_eq_true] at first second ⊢
    refine ⟨?_, equalEntries_trans (fun x inside y z => ih x inside) first.2 second.2⟩
    simp only [Class.same, beq_iff_eq] at first second ⊢
    exact first.1.trans second.1
  | _ =>
    cases b <;> cases c <;> simp_all [equals]

/-! ### Equality with itself -/

theorem equalItems_self_iff {items : List Value} :
    equalItems items items = true ↔ ∀ item ∈ items, item.equals item = true := by
  rw [equalItems_iff, List.forall₂_same]

theorem equalEntries_self_iff {entries : List (String × Value)} :
    equalEntries entries entries = true ↔ ∀ entry ∈ entries, entry.2.equals entry.2 = true := by
  rw [equalEntries_iff, List.forall₂_same]
  simp

/-- A number is equal to itself unless it is none. -/
theorem number_equals_self_iff (n : Number) : n.equals n = true ↔ ¬n.isNaN = true := by
  rw [Number.equals_self, Bool.not_eq_true', Bool.not_eq_true]

/-- All parts are equal to themselves when none of them holds what is not a number. -/
theorem parts_equal_self_iff {α : Type} {part : α → Value} {whole : List α}
    (ih : ∀ x ∈ whole, (part x).equals (part x) = true ↔ ¬(part x).HoldsNaN) :
    (∀ x ∈ whole, (part x).equals (part x) = true) ↔ ¬∃ x ∈ whole, (part x).HoldsNaN := by
  rw [not_exists]
  constructor
  · rintro equal x ⟨inside, holds⟩
    exact (ih x inside).1 (equal x inside) holds
  · intro none x inside
    exact (ih x inside).2 fun holds => none x ⟨inside, holds⟩

theorem equals_self_iff (value : Value) : value.equals value = true ↔ ¬value.HoldsNaN := by
  induction value using Value.induction with
  | number n => rw [equals, holdsNaN_number_iff, number_equals_self_iff]
  | boxedNumber n => rw [equals, holdsNaN_boxedNumber_iff, number_equals_self_iff]
  | array items ih => rw [equals, equalItems_self_iff, holdsNaN_array_iff, parts_equal_self_iff ih]
  | object properties ih =>
    rw [equals, equalEntries_self_iff, holdsNaN_object_iff, parts_equal_self_iff ih]
  | record cls fields ih =>
    have same : cls.same cls = true := beq_self_eq_true cls.id
    rw [equals, same, Bool.true_and, equalEntries_self_iff, holdsNaN_instance_iff,
      parts_equal_self_iff ih]
  | _ =>
    refine iff_of_true (by simp [equals]) ?_
    intro holds
    cases holds

/-- What equals anything holds nothing that is not a number. -/
theorem not_holdsNaN_of_equals {a b : Value} (equal : a.equals b = true) : ¬b.HoldsNaN := by
  have back : b.equals a = true := (equals_comm b a).trans equal
  exact (equals_self_iff b).1 (equals_trans back equal)

/-! ### Membership -/

/-- Membership in an array is never refused: it is whether some item equals the needle. -/
theorem isIn_array (switch : Bool) (needle : Value) (items : List Value) :
    isIn switch needle (.array items) = .ok (items.any fun item => item.equals needle) := by
  unfold isIn
  have passes : ensure switch (.array items) .array = .ok () := by
    cases switch <;> rfl
  rw [passes]
  rfl

/-- Equality is symmetric and transitive, and a value equals itself exactly when it holds nothing,
at any depth, that is not a number. So a needle is in an array exactly when an item equals it, which
a needle that holds no such datum does itself, and any other needle is in no array. -/
theorem equality_is_partial_equivalence :
    (∀ a b : Value, a.equals b = true → b.equals a = true) ∧
    (∀ a b c : Value, a.equals b = true → b.equals c = true → a.equals c = true) ∧
    (∀ a : Value, a.equals a = true ↔ ¬a.HoldsNaN) ∧
    (∀ (switch : Bool) (needle : Value) (items : List Value),
      (∃ found, isIn switch needle (.array items) = .ok found) ∧
      (isIn switch needle (.array items) = .ok true ↔ ∃ item ∈ items, item.equals needle = true) ∧
      (¬needle.HoldsNaN → needle ∈ items → isIn switch needle (.array items) = .ok true) ∧
      (needle.HoldsNaN → isIn switch needle (.array items) = .ok false)) ∧
    ∀ (switch : Bool) (needle haystack : Value),
      isNotIn switch needle haystack = (isIn switch needle haystack).map (!·) := by
  have found_iff (switch : Bool) (needle : Value) (items : List Value) :
      isIn switch needle (.array items) = .ok true ↔
        ∃ item ∈ items, item.equals needle = true := by
    rw [isIn_array, Except.ok.injEq, List.any_eq_true]
  refine ⟨fun a b equal => (equals_comm b a).trans equal, fun a b c => equals_trans,
    equals_self_iff, fun switch needle items => ⟨⟨_, isIn_array switch needle items⟩,
      found_iff switch needle items, ?_, ?_⟩, fun _ _ _ => rfl⟩
  · intro whole inside
    exact (found_iff switch needle items).2 ⟨needle, inside, (equals_self_iff needle).2 whole⟩
  · intro holds
    rw [isIn_array, Except.ok.injEq, List.any_eq_false]
    exact fun item _ equal => not_holdsNaN_of_equals equal holds

end TypeAssertion.Value
