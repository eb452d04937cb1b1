import TypeAssertion.Check
import TypeAssertion.Proofs.Value.Erasure

/-!
Values with one zero. Equal values need not be the same: a zero may have either sign at any depth.
The canonical form of a value makes every zero positive. Whatever is asked of a value has the same
answer of its canonical form, so values with one canonical form cannot be told apart.
-/

set_option autoImplicit false

namespace TypeAssertion

namespace Number

/-- A number with one zero for both. -/
def canonical (x : Number) : Number := if x.isZero then zero else x

theorem key_eq_zero_iff {x : Number} : x.key = 0 ↔ x.isZero = true := by
  unfold key isZero
  rw [decide_eq_true_eq]
  split <;> omega

theorem eq_of_key_eq {x y : Number} (h : x.key = y.key) (nonzero : x.key ≠ 0) : x = y := by
  obtain ⟨s, r⟩ := x
  obtain ⟨t, q⟩ := y
  unfold key at h nonzero
  have ranks : r.val = q.val := by
    cases s <;> cases t <;> simp at h nonzero <;> omega
  have signs : s = t := by
    cases s <;> cases t <;> simp at h nonzero ⊢ <;> omega
  rw [signs, Fin.ext ranks]

theorem canonical_eq_of_equals {x y : Number} (h : x.equals y = true) :
    x.canonical = y.canonical := by
  have keys : x.key = y.key := by
    rw [equals, Bool.and_eq_true, decide_eq_true_eq] at h
    exact h.2
  unfold canonical
  by_cases zeroed : x.key = 0
  · have both : x.isZero = true ∧ y.isZero = true :=
      ⟨key_eq_zero_iff.1 zeroed, key_eq_zero_iff.1 (keys ▸ zeroed)⟩
    rw [if_pos both.1, if_pos both.2]
  · rw [eq_of_key_eq keys zeroed]

@[simp] theorem key_canonical (x : Number) : x.canonical.key = x.key := by
  unfold canonical
  split
  · next zeroed => exact (key_eq_zero_iff.2 zeroed).symm
  · rfl

@[simp] theorem isNaN_canonical (x : Number) : x.canonical.isNaN = x.isNaN := by
  unfold canonical
  split
  · next zeroed =>
    rw [isZero, decide_eq_true_eq] at zeroed
    simp [isNaN, zeroed, zero, ofRank]
  · rfl

@[simp] theorem isFinite_canonical (x : Number) : x.canonical.isFinite = x.isFinite := by
  unfold canonical
  split
  · next zeroed =>
    rw [isZero, decide_eq_true_eq] at zeroed
    simp [isFinite, zeroed, zero, ofRank]
  · rfl

theorem equals_canonical (x y : Number) : x.canonical.equals y = x.equals y := by
  simp only [equals, isNaN_canonical, key_canonical]

@[simp] theorem isBelow_canonical (x bound : Number) :
    x.canonical.isBelow bound = x.isBelow bound := by
  simp only [isBelow, isNaN_canonical, key_canonical]

@[simp] theorem canonical_isBelow (bound x : Number) :
    bound.isBelow x.canonical = bound.isBelow x := by
  simp only [isBelow, isNaN_canonical, key_canonical]

@[simp] theorem toInteger?_canonical (x : Number) : x.canonical.toInteger? = x.toInteger? := by
  unfold canonical
  split
  · next zeroed =>
    rw [Value.toInteger?_of_isZero zeroed]
    exact Value.toInteger?_of_isZero rfl
  · rfl

end Number

namespace Value

mutual

/-- A value with every zero in it made positive. -/
def canonical : Value → Value
  | number n => number n.canonical
  | boxedNumber n => boxedNumber n.canonical
  | array items => array (canonicalItems items)
  | object properties => object (canonicalEntries properties)
  | .instance cls fields => .instance cls (canonicalEntries fields)
  | value => value

def canonicalItems : List Value → List Value
  | [] => []
  | item :: rest => item.canonical :: canonicalItems rest

def canonicalEntries : List (String × Value) → List (String × Value)
  | [] => []
  | (name, item) :: rest => (name, item.canonical) :: canonicalEntries rest

end

theorem canonicalItems_eq_map (items : List Value) :
    canonicalItems items = items.map canonical := by
  induction items with
  | nil => rfl
  | cons item rest ih => rw [canonicalItems, ih, List.map_cons]

theorem canonicalEntries_eq_map (entries : List (String × Value)) :
    canonicalEntries entries = entries.map fun entry => (entry.1, entry.2.canonical) := by
  induction entries with
  | nil => rfl
  | cons entry rest ih => rw [canonicalEntries, ih, List.map_cons]

/-! ### Parts and predicates -/

@[simp] theorem typeName_canonical (value : Value) : value.canonical.typeName = value.typeName := by
  cases value <;> rfl

@[simp] theorem isUndefined_canonical (value : Value) :
    value.canonical.isUndefined = value.isUndefined := by
  cases value <;> rfl

@[simp] theorem isNull_canonical (value : Value) : value.canonical.isNull = value.isNull := by
  cases value <;> rfl

@[simp] theorem text?_canonical (value : Value) : value.canonical.text? = value.text? := by
  cases value <;> rfl

@[simp] theorem number?_canonical (value : Value) :
    value.canonical.number? = value.number?.map Number.canonical := by
  cases value <;> rfl

@[simp] theorem items?_canonical (value : Value) :
    value.canonical.items? = value.items?.map (List.map canonical) := by
  cases value with
  | array items => exact congrArg some (canonicalItems_eq_map items)
  | _ => rfl

@[simp] theorem entries?_canonical (value : Value) :
    value.canonical.entries? =
      value.entries?.map (List.map fun entry => (entry.1, entry.2.canonical)) := by
  cases value with
  | object properties => exact congrArg some (canonicalEntries_eq_map properties)
  | «instance» cls fields => exact congrArg some (canonicalEntries_eq_map fields)
  | _ => rfl

@[simp] theorem function?_canonical (value : Value) :
    value.canonical.function? = value.function? := by
  cases value <;> rfl

@[simp] theorem class?_canonical (value : Value) : value.canonical.class? = value.class? := by
  cases value <;> rfl

@[simp] theorem isEmpty_canonical (value : Value) : value.canonical.isEmpty = value.isEmpty := by
  cases value <;> rfl

@[simp] theorem isBoolean_canonical (value : Value) :
    value.canonical.isBoolean = value.isBoolean := by
  cases value <;> rfl

@[simp] theorem isNumber_canonical (value : Value) :
    value.canonical.isNumber = value.isNumber := by
  unfold isNumber
  rw [number?_canonical]
  cases value.number? <;> simp

@[simp] theorem isString_canonical (value : Value) :
    value.canonical.isString = value.isString := by
  simp [isString]

@[simp] theorem isInRange_canonical (value : Value) (least? most? : Option Number) :
    value.canonical.isInRange least? most? = value.isInRange least? most? := by
  unfold isInRange
  rw [number?_canonical]
  cases value.number? <;> simp

@[simp] theorem isPositive_canonical (value : Value) :
    value.canonical.isPositive = value.isPositive := by
  simp [isPositive]

@[simp] theorem isArray_canonical (value : Value) : value.canonical.isArray = value.isArray := by
  simp [isArray]

@[simp] theorem isObject_canonical (value : Value) : value.canonical.isObject = value.isObject := by
  simp [isObject]

@[simp] theorem isFunction_canonical (value : Value) :
    value.canonical.isFunction = value.isFunction := by
  simp [isFunction]

/-! ### Documents -/

theorem numberDocument_canonical (n : Number) : numberDocument n.canonical = numberDocument n := by
  unfold numberDocument
  rw [Number.toInteger?_canonical, Number.isFinite_canonical]
  cases whole : n.toInteger? with
  | some i => rfl
  | none =>
    have nonzero : ¬n.isZero = true := fun zeroed => by
      rw [toInteger?_of_isZero zeroed] at whole
      simp at whole
    rw [Number.canonical, if_neg nonzero]

theorem memberDocuments_canonicalEntries {entries : List (String × Value)}
    (h : ∀ entry ∈ entries, entry.2.canonical.document? = entry.2.document?) :
    memberDocuments (canonicalEntries entries) = memberDocuments entries := by
  rw [memberDocuments_eq_filterMap, memberDocuments_eq_filterMap, canonicalEntries_eq_map,
    List.filterMap_map]
  apply List.filterMap_congr
  intro entry inside
  rw [Function.comp_apply, h entry inside]

/-- No document shows the sign of a zero. -/
@[simp] theorem document?_canonical (value : Value) :
    value.canonical.document? = value.document? := by
  induction value using Value.induction with
  | number n => exact congrArg some (numberDocument_canonical n)
  | boxedNumber n => exact congrArg some (numberDocument_canonical n)
  | array items ih =>
    have same : itemDocuments (canonicalItems items) = itemDocuments items := by
      rw [itemDocuments_eq_map, itemDocuments_eq_map, canonicalItems_eq_map, List.map_map]
      apply List.map_congr_left
      intro item inside
      rw [Function.comp_apply, ih item inside]
    exact congrArg (fun documents => some (Json.array documents)) same
  | object properties ih =>
    exact congrArg (fun members => some (Json.object members)) (memberDocuments_canonicalEntries ih)
  | record cls fields ih =>
    exact congrArg (fun members => some (Json.object members)) (memberDocuments_canonicalEntries ih)
  | _ => rfl

@[simp] theorem display_canonical (value : Value) : value.canonical.display = value.display := by
  have shown := document?_canonical value
  cases value with
  | number n => exact congrArg Json.compact (numberDocument_canonical n)
  | boxedNumber n => exact congrArg Json.compact (numberDocument_canonical n)
  | array items => exact congrArg Json.compact (Option.some.inj shown)
  | object properties => exact congrArg Json.compact (Option.some.inj shown)
  | «instance» cls fields =>
    exact congrArg (fun document => cls.name ++ " " ++ document.compact) (Option.some.inj shown)
  | _ => rfl

/-! ### Equality -/

theorem equalItems_canonicalItems {xs ys : List Value}
    (h : ∀ x ∈ xs, ∀ y, x.canonical.equals y = x.equals y) :
    equalItems (canonicalItems xs) ys = equalItems xs ys := by
  induction xs generalizing ys with
  | nil => rfl
  | cons x xs ih =>
    obtain ⟨here, later⟩ := List.forall_mem_cons.1 h
    cases ys with
    | nil => rfl
    | cons y ys => rw [canonicalItems, equalItems, equalItems, here, ih later]

theorem equalEntries_canonicalEntries {xs ys : List (String × Value)}
    (h : ∀ x ∈ xs, ∀ y, x.2.canonical.equals y = x.2.equals y) :
    equalEntries (canonicalEntries xs) ys = equalEntries xs ys := by
  induction xs generalizing ys with
  | nil => rfl
  | cons x xs ih =>
    obtain ⟨here, later⟩ := List.forall_mem_cons.1 h
    cases ys with
    | nil => rfl
    | cons y ys => rw [canonicalEntries, equalEntries, equalEntries, here, ih later]

/-- Equality is blind to the signs of zeros on its left side. -/
theorem equals_canonical (value other : Value) :
    value.canonical.equals other = value.equals other := by
  induction value using Value.induction generalizing other with
  | number n =>
    cases other with
    | number m => exact Number.equals_canonical n m
    | _ => rfl
  | boxedNumber n =>
    cases other with
    | boxedNumber m => exact Number.equals_canonical n m
    | _ => rfl
  | array items ih =>
    cases other with
    | array others => exact equalItems_canonicalItems ih
    | _ => rfl
  | object properties ih =>
    cases other with
    | object others => exact equalEntries_canonicalEntries ih
    | _ => rfl
  | record cls fields ih =>
    cases other with
    | «instance» cls' others =>
      exact congrArg (cls.same cls' && ·) (equalEntries_canonicalEntries ih)
    | _ => rfl
  | _ => rfl

/-- Equality is blind to the signs of zeros on its right side too. -/
theorem equals_canonical_right (value other : Value) :
    other.equals value.canonical = other.equals value := by
  rw [equals_comm, equals_canonical, equals_comm]

end Value

/-! ### Checks -/

theorem Primitive.accepts_canonical (kind : Primitive) (value : Value) :
    kind.accepts value.canonical = kind.accepts value := by
  cases kind <;> simp [Primitive.accepts]

namespace Descriptor

/-- True of a descriptor that has a membership test of its own under its layers. -/
def hasMatcher : Descriptor → Bool
  | custom _ _ _ => true
  | nullable inner => inner.hasMatcher
  | _ => false

/-- Only the test of a custom descriptor may look at the sign of a zero. -/
theorem accepts_canonical {descriptor : Descriptor} (plain : descriptor.hasMatcher = false)
    (switch : Bool) (value : Value) :
    descriptor.accepts switch value.canonical = descriptor.accepts switch value := by
  induction descriptor with
  | primitive kind => exact kind.accepts_canonical value
  | absent => exact Value.isUndefined_canonical value
  | nullable inner ih => rw [accepts, accepts, Value.isNull_canonical, ih plain]
  | custom id name test => simp [hasMatcher] at plain
  | instanceOf cls => rw [accepts, accepts, isInstance, isInstance, Value.class?_canonical]

end Descriptor

/-- A check without a custom descriptor has one result for a value and its canonical form, and the
failure names the same type. -/
theorem checkIn_canonical {descriptor : Descriptor} (plain : descriptor.hasMatcher = false)
    (mode : EnforcementMode) (switch : Bool) (value : Value) (strictness : Strictness) :
    checkIn mode switch value.canonical descriptor strictness =
      checkIn mode switch value descriptor strictness := by
  unfold checkIn TypeFailure.ofMismatch
  rw [Descriptor.accepts_canonical plain, Value.typeName_canonical]

end TypeAssertion
