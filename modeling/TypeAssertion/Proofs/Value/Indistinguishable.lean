import TypeAssertion.Proofs.Registry
import TypeAssertion.Proofs.Value.Canonical

/-!
Equal values cannot be told apart. Among the values of one run, a function or a class is told by its
number, so equal values have the same canonical form and whatever does not look at the signs of
zeros is the same for both: names, documents, predicates, membership and checks. Only the test of a
custom descriptor may look further.
-/

set_option autoImplicit false

namespace TypeAssertion

namespace Value

/-- A value whose functions and classes, at any depth, were made in a run of the registry. -/
inductive MadeOf (handles : Handles) : Value → Prop
  | undefined : MadeOf handles .undefined
  | null : MadeOf handles .null
  | bool {truth : Bool} : MadeOf handles (.bool truth)
  | number {n : Number} : MadeOf handles (.number n)
  | string {text : String} : MadeOf handles (.string text)
  | boxedString {text : String} : MadeOf handles (.boxedString text)
  | boxedNumber {n : Number} : MadeOf handles (.boxedNumber n)
  | array {items : List Value} : (∀ item ∈ items, MadeOf handles item) →
      MadeOf handles (.array items)
  | object {properties : List (String × Value)} :
      (∀ entry ∈ properties, MadeOf handles entry.2) → MadeOf handles (.object properties)
  | function {f : Function} : f ∈ handles.functions → MadeOf handles (.function f)
  | record {cls : Class} {fields : List (String × Value)} : cls ∈ handles.classes →
      (∀ entry ∈ fields, MadeOf handles entry.2) → MadeOf handles (.instance cls fields)

/-- All that can be seen of two values, apart from the tests of custom descriptors, is the same. -/
structure Indistinguishable (a b : Value) : Prop where
  typeName : a.typeName = b.typeName
  document : a.document? = b.document?
  display : a.display = b.display
  property (name : String) :
    Option.Rel (fun x y => x.equals y = true) (a.property? name) (b.property? name)
  isEmpty : a.isEmpty = b.isEmpty
  isBoolean : a.isBoolean = b.isBoolean
  isNumber : a.isNumber = b.isNumber
  isString : a.isString = b.isString
  isPositive : a.isPositive = b.isPositive
  isArray : a.isArray = b.isArray
  isObject : a.isObject = b.isObject
  isFunction : a.isFunction = b.isFunction
  isInRange (least? most? : Option Number) : a.isInRange least? most? = b.isInRange least? most?
  needle (switch : Bool) (haystack : Value) :
    isIn switch a haystack = isIn switch b haystack ∧
      isNotIn switch a haystack = isNotIn switch b haystack
  haystack (switch : Bool) (needle : Value) :
    isIn switch needle a = isIn switch needle b ∧ isNotIn switch needle a = isNotIn switch needle b
  check (descriptor : Descriptor) (mode : EnforcementMode) (switch : Bool)
    (strictness : Strictness) : descriptor.hasMatcher = false →
    checkIn mode switch a descriptor strictness = checkIn mode switch b descriptor strictness

/-! ### One canonical form -/

variable {registry : Registry} {handles : Handles}

theorem canonicalItems_eq {xs ys : List Value}
    (equal : List.Forall₂ (fun x y => x.equals y = true) xs ys)
    (each : ∀ x ∈ xs, ∀ y ∈ ys, x.equals y = true → x.canonical = y.canonical) :
    canonicalItems xs = canonicalItems ys := by
  induction equal with
  | nil => rfl
  | @cons x y xs ys here _ ih =>
    have first := each x List.mem_cons_self y List.mem_cons_self here
    have rest := ih fun x inside y inside' =>
      each x (List.mem_cons_of_mem _ inside) y (List.mem_cons_of_mem _ inside')
    rw [canonicalItems, canonicalItems, first, rest]

theorem canonicalEntries_eq {xs ys : List (String × Value)}
    (equal : List.Forall₂ (fun x y => x.1 = y.1 ∧ x.2.equals y.2 = true) xs ys)
    (each : ∀ x ∈ xs, ∀ y ∈ ys, x.2.equals y.2 = true → x.2.canonical = y.2.canonical) :
    canonicalEntries xs = canonicalEntries ys := by
  induction equal with
  | nil => rfl
  | @cons x y xs ys here _ ih =>
    obtain ⟨name, item⟩ := x
    obtain ⟨name', other⟩ := y
    obtain ⟨rfl, equal⟩ := here
    have first := each _ List.mem_cons_self _ List.mem_cons_self equal
    have rest := ih fun x inside y inside' =>
      each x (List.mem_cons_of_mem _ inside) y (List.mem_cons_of_mem _ inside')
    dsimp only at first
    rw [canonicalEntries, canonicalEntries, first, rest]

/-- Equal values of one run have one canonical form. -/
theorem canonical_eq_of_equals (reached : registry.Reached handles) {a b : Value}
    (ha : a.MadeOf handles) (hb : b.MadeOf handles) (equal : a.equals b = true) :
    a.canonical = b.canonical := by
  induction a using Value.induction generalizing b with
  | number n =>
    cases b with
    | number m => exact congrArg number (Number.canonical_eq_of_equals equal)
    | _ => simp [equals] at equal
  | boxedNumber n =>
    cases b with
    | boxedNumber m => exact congrArg boxedNumber (Number.canonical_eq_of_equals equal)
    | _ => simp [equals] at equal
  | array items ih =>
    cases b with
    | array others =>
      cases ha with | array made =>
      cases hb with | array made' =>
      have same := canonicalItems_eq (equalItems_iff.1 equal) fun x inside y inside' =>
        ih x inside (made x inside) (made' y inside')
      exact congrArg array same
    | _ => simp [equals] at equal
  | object properties ih =>
    cases b with
    | object others =>
      cases ha with | object made =>
      cases hb with | object made' =>
      have same := canonicalEntries_eq (equalEntries_iff.1 equal) fun x inside y inside' =>
        ih x inside (made x inside) (made' y inside')
      exact congrArg object same
    | _ => simp [equals] at equal
  | record cls fields ih =>
    cases b with
    | «instance» cls' others =>
      cases ha with | record known made =>
      cases hb with | record known' made' =>
      rw [equals, Bool.and_eq_true] at equal
      obtain ⟨numbered, equal⟩ := equal
      obtain rfl := reached.class_eq known known' (beq_iff_eq.1 numbered)
      have same := canonicalEntries_eq (equalEntries_iff.1 equal) fun x inside y inside' =>
        ih x inside (made x inside) (made' y inside')
      exact congrArg (Value.instance cls) same
    | _ => simp [equals] at equal
  | function f =>
    cases b with
    | function g =>
      cases ha with | function known =>
      cases hb with | function known' =>
      have same := reached.function_eq known known' (beq_iff_eq.1 equal)
      rw [same]
    | _ => simp [equals] at equal
  | bool truth =>
    cases b with
    | bool other => exact congrArg bool (beq_iff_eq.1 equal)
    | _ => simp [equals] at equal
  | string text =>
    cases b with
    | string other => exact congrArg string (beq_iff_eq.1 equal)
    | _ => simp [equals] at equal
  | boxedString text =>
    cases b with
    | boxedString other => exact congrArg boxedString (beq_iff_eq.1 equal)
    | _ => simp [equals] at equal
  | undefined =>
    cases b with
    | undefined => rfl
    | _ => simp [equals] at equal
  | null =>
    cases b with
    | null => rfl
    | _ => simp [equals] at equal

/-! ### What can be seen -/

theorem lookup_of_equalEntries {xs ys : List (String × Value)} (name : String)
    (equal : List.Forall₂ (fun x y => x.1 = y.1 ∧ x.2.equals y.2 = true) xs ys) :
    Option.Rel (fun x y => x.equals y = true) (xs.lookup name) (ys.lookup name) := by
  induction equal with
  | nil => exact .none
  | @cons x y xs ys here _ ih =>
    obtain ⟨key, item⟩ := x
    obtain ⟨key', other⟩ := y
    obtain ⟨rfl, equal⟩ := here
    rw [lookup_entry, lookup_entry]
    by_cases same : name = key
    · rw [if_pos same, if_pos same]
      exact .some equal
    · rw [if_neg same, if_neg same]
      exact ih

theorem property?_of_equals {a b : Value} (equal : a.equals b = true) (name : String) :
    Option.Rel (fun x y => x.equals y = true) (a.property? name) (b.property? name) := by
  cases a with
  | object properties =>
    cases b with
    | object others => exact lookup_of_equalEntries name (equalEntries_iff.1 equal)
    | _ => simp [equals] at equal
  | «instance» cls fields =>
    cases b with
    | «instance» cls' others =>
      rw [equals, Bool.and_eq_true] at equal
      exact lookup_of_equalEntries name (equalEntries_iff.1 equal.2)
    | _ => simp [equals] at equal
  | _ =>
    cases b with
    | object others => simp [equals] at equal
    | «instance» cls' others => simp [equals] at equal
    | _ => exact .none

theorem isIn_needle_canonical (switch : Bool) (needle haystack : Value) :
    isIn switch needle.canonical haystack = isIn switch needle haystack := by
  unfold isIn
  simp only [equals_canonical_right]

theorem isIn_haystack_canonical (switch : Bool) (needle haystack : Value) :
    isIn switch needle haystack.canonical = isIn switch needle haystack := by
  have checked : ensure switch haystack.canonical .array = ensure switch haystack .array :=
    congrArg (Except.map fun _ => ()) (checkIn_canonical rfl .followSwitch switch haystack .strict)
  have found (items : List Value) :
      (items.map canonical).any (fun item => item.equals needle) =
        items.any fun item => item.equals needle := by
    rw [List.any_map]
    simp only [Function.comp_def, equals_canonical]
  unfold isIn
  rw [checked, items?_canonical]
  cases haystack.items? with
  | none => rfl
  | some items => rw [Option.map_some, Option.getD_some, Option.getD_some, found]

/-- Values that were made in one run and are equal have one type name, document and text, equal
properties, the same membership in every array and the same members, and fulfil the same predicates;
and every check without a custom descriptor has the same result for both, failures included. -/
theorem equal_values_are_indistinguishable (reached : registry.Reached handles) {a b : Value}
    (ha : a.MadeOf handles) (hb : b.MadeOf handles) (equal : a.equals b = true) :
    a.Indistinguishable b := by
  have same := canonical_eq_of_equals reached ha hb equal
  have shared {α : Type} (observe : Value → α)
      (blind : ∀ value, observe value.canonical = observe value) : observe a = observe b := by
    rw [← blind a, same, blind b]
  have sought (switch : Bool) (haystack : Value) := shared (isIn switch · haystack)
    fun needle => isIn_needle_canonical switch needle haystack
  have searched (switch : Bool) (needle : Value) := shared (isIn switch needle ·)
    fun haystack => isIn_haystack_canonical switch needle haystack
  exact {
    typeName := shared typeName typeName_canonical
    document := shared document? document?_canonical
    display := shared display display_canonical
    property := property?_of_equals equal
    isEmpty := shared Value.isEmpty isEmpty_canonical
    isBoolean := shared Value.isBoolean isBoolean_canonical
    isNumber := shared Value.isNumber isNumber_canonical
    isString := shared Value.isString isString_canonical
    isPositive := shared Value.isPositive isPositive_canonical
    isArray := shared Value.isArray isArray_canonical
    isObject := shared Value.isObject isObject_canonical
    isFunction := shared Value.isFunction isFunction_canonical
    isInRange := fun least? most? => shared (Value.isInRange · least? most?)
      fun value => isInRange_canonical value least? most?
    needle := fun switch haystack =>
      ⟨sought switch haystack, congrArg (Except.map (!·)) (sought switch haystack)⟩
    haystack := fun switch needle =>
      ⟨searched switch needle, congrArg (Except.map (!·)) (searched switch needle)⟩
    check := fun descriptor mode switch strictness plain =>
      shared (checkIn mode switch · descriptor strictness)
        fun value => checkIn_canonical plain mode switch value strictness }

/-- Two instances of a class of their run, with zeros of different signs inside. -/
theorem points_with_either_zero_are_indistinguishable :
    ∃ a b : Value, a ≠ b ∧ a.equals b = true ∧ a.Indistinguishable b := by
  let registry := ((Registry.initial.makeFunction "act" fun _ _ => pure .undefined).2.makeClass
    "Point" (some Class.record)).2
  let point : Class := .extend Class.record 1 "Point"
  let handles : Handles := ⟨[⟨0, "act"⟩], [], [point, Class.record]⟩
  have reached : registry.Reached handles :=
    (Registry.Reached.start.madeFunction "act" fun _ _ => pure .undefined).madeClass "Point"
      (some Class.record) fun parent extended => by
        obtain rfl := Option.mem_some.1 extended
        exact List.mem_singleton_self _
  let value (zero : Number) : Value :=
    .instance point [("act", .function ⟨0, "act"⟩), ("at", .array [.number zero, .null])]
  have made (zero : Number) : (value zero).MadeOf handles := by
    refine .record (by simp [handles]) ?_
    simp only [List.forall_mem_cons]
    refine ⟨.function (by simp [handles]), .array ?_, by simp⟩
    simp only [List.forall_mem_cons]
    exact ⟨.number, .null, by simp⟩
  have equal : (value .zero).equals (value .negativeZero) = true := by
    decide
  have different : value .zero ≠ value .negativeZero := by
    intro same
    have zeros : Number.zero = Number.negativeZero := by simpa [value] using same
    exact absurd zeros (by decide)
  exact ⟨value .zero, value .negativeZero, different, equal,
    equal_values_are_indistinguishable reached (made .zero) (made .negativeZero) equal⟩

end Value

end TypeAssertion
