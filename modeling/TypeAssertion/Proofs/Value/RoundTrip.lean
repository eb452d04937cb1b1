import TypeAssertion.Proofs.Json.WellFormed
import TypeAssertion.Proofs.Value.Parts

/-!
Documents through the value model and back. Only numerals change: a large integer becomes the number
nearest to it, and a whole number below the exact limit becomes an integer. What is read back is
equal to what was read at first.
-/

set_option autoImplicit false

namespace TypeAssertion

/-- How a numeral comes back from the value model. -/
inductive Numeral.Reread : Numeral → Numeral → Prop
  | exact {i : Int} : i.natAbs < Number.exactLimit → Reread (.integer i) (.integer i)
  | rounded {i : Int} {x : Number} : Number.exactLimit ≤ i.natAbs → x.isFinite = true →
      (∀ y : Number, y.isFinite = true → |x.toRat - i| ≤ |y.toRat - i|) →
      Reread (.integer i) (.double x)
  | whole {x : Number} {i : Int} : x.toRat = i → i.natAbs < Number.exactLimit →
      Reread (.double x) (.integer i)
  | kept {x : Number} : (∀ i : Int, x.toRat = i → Number.exactLimit ≤ i.natAbs) →
      Reread (.double x) (.double x)

namespace Json

/-- Documents that differ in their numerals alone, and there as related. -/
inductive SameShape (related : Numeral → Numeral → Prop) : Json → Json → Prop
  | null : SameShape related .null .null
  | bool {truth : Bool} : SameShape related (.bool truth) (.bool truth)
  | number {m n : Numeral} : related m n → SameShape related (.number m) (.number n)
  | string {text : String} : SameShape related (.string text) (.string text)
  | array {xs ys : List Json} : List.Forall₂ (SameShape related) xs ys →
      SameShape related (.array xs) (.array ys)
  | object {xs ys : List (String × Json)} : xs.map Prod.fst = ys.map Prod.fst →
      List.Forall₂ (SameShape related) (xs.map Prod.snd) (ys.map Prod.snd) →
      SameShape related (.object xs) (.object ys)

/-- A document after a trip through the value model. -/
def settled (document : Json) : Json := (Value.ofDocument document).document?.getD .null

end Json

/-- A sound numeral has a document again. It is read as an equal number. -/
theorem Numeral.exists_reread {numeral : Numeral} (h : numeral.WellFormed) :
    ∃ back : Numeral, Value.numberDocument numeral.toNumber = .number back ∧
      back.toNumber.equals numeral.toNumber = true ∧ numeral.Reread back := by
  have finite := Numeral.isFinite_toNumber h
  rw [Value.numberDocument]
  cases whole : numeral.toNumber.toInteger? with
  | some i =>
    obtain ⟨-, value, small⟩ := Number.toInteger?_eq_some_iff.1 whole
    refine ⟨.integer i, rfl, ?_, ?_⟩
    · have exact : (Number.ofInt i).isFinite = true :=
        Number.isFinite_ofInt (m := 53) (by decide) small.le
      have same : (Number.ofInt i).toRat = numeral.toNumber.toRat :=
        (Number.toRat_ofInt small).trans value.symm
      exact (Number.equals_iff_toRat_eq exact finite).2 same
    · cases numeral with
      | integer j =>
        have below : j.natAbs < Number.exactLimit := by
          by_contra large
          have := Number.exactLimit_le_of_toRat_ofInt (Nat.le_of_not_lt large) value
          omega
        obtain rfl : j = i := by exact_mod_cast (Number.toRat_ofInt below).symm.trans value
        exact .exact small
      | double x => exact .whole value small
  | none =>
    have large (i : Int) (value : numeral.toNumber.toRat = i) : Number.exactLimit ≤ i.natAbs := by
      by_contra small
      rw [Number.toInteger?_eq_some_iff.2 ⟨finite, value, Nat.lt_of_not_le small⟩] at whole
      simp at whole
    refine ⟨.double numeral.toNumber, by rw [finite]; rfl, ?_, ?_⟩
    · exact Number.equals_self_of_isFinite finite
    · cases numeral with
      | integer i =>
        refine .rounded ?_ finite fun y _ => Number.abs_toRat_ofInt_sub_le finite y
        by_contra small
        exact small (large i (Number.toRat_ofInt (Nat.lt_of_not_le small)))
      | double x => exact .kept large

namespace Json

/-- A document comes back with its shape, as an equal value. -/
structure Settles (document : Json) : Prop where
  back : (Value.ofDocument document).document? = some document.settled
  equal : (Value.ofDocument document.settled).equals (Value.ofDocument document) = true
  shape : document.SameShape Numeral.Reread document.settled

theorem settled_array (items : List Json) :
    settled (.array items) = .array (items.map settled) := by
  change Json.array (Value.itemDocuments (Value.ofItems items)) = _
  rw [Value.itemDocuments_eq_map, Value.ofItems_eq_map, List.map_map]
  rfl

theorem settled_object {members : List (String × Json)} (h : ∀ member ∈ members, member.2.Settles) :
    settled (.object members) =
      .object (members.map fun member => (member.1, member.2.settled)) := by
  change Json.object (Value.memberDocuments (Value.ofMembers members)) = _
  rw [Value.memberDocuments_eq_filterMap, Value.ofMembers_eq_map, List.filterMap_map,
    ← List.filterMap_eq_map]
  congr 1
  apply List.filterMap_congr
  intro member inside
  simp [(h member inside).back]

theorem Settles.array {items : List Json} (h : ∀ item ∈ items, item.Settles) :
    Settles (.array items) where
  back := rfl
  equal := by
    rw [settled_array]
    change Value.equalItems (Value.ofItems (items.map settled)) (Value.ofItems items) = true
    rw [Value.equalItems_iff, Value.ofItems_eq_map, Value.ofItems_eq_map, List.map_map,
      List.forall₂_map_left_iff, List.forall₂_map_right_iff, List.forall₂_same]
    exact fun item inside => (h item inside).equal
  shape := by
    rw [settled_array]
    refine .array ?_
    rw [List.forall₂_map_right_iff, List.forall₂_same]
    exact fun item inside => (h item inside).shape

theorem Settles.object {members : List (String × Json)}
    (h : ∀ member ∈ members, member.2.Settles) : Settles (.object members) where
  back := rfl
  equal := by
    rw [settled_object h]
    change Value.equalEntries (Value.ofMembers (members.map _)) (Value.ofMembers members) = true
    rw [Value.equalEntries_iff, Value.ofMembers_eq_map, Value.ofMembers_eq_map, List.map_map,
      List.forall₂_map_left_iff, List.forall₂_map_right_iff, List.forall₂_same]
    exact fun member inside => ⟨rfl, (h member inside).equal⟩
  shape := by
    rw [settled_object h]
    refine .object (by simp) ?_
    rw [List.map_map, List.forall₂_map_left_iff, List.forall₂_map_right_iff, List.forall₂_same]
    exact fun member inside => (h member inside).shape

theorem settles_of_wellFormed {document : Json} (h : document.WellFormed) : document.Settles := by
  induction h with
  | null => exact ⟨rfl, rfl, .null⟩
  | bool => exact ⟨rfl, beq_self_eq_true _, .bool⟩
  | string => exact ⟨rfl, beq_self_eq_true _, .string⟩
  | @number numeral sound =>
    obtain ⟨back, document, equal, reread⟩ := Numeral.exists_reread sound
    have settled_eq : settled (.number numeral) = .number back := document
    refine ⟨rfl, ?_, ?_⟩
    · rw [settled_eq]
      exact equal
    · rw [settled_eq]
      exact .number reread
  | array _ ih => exact .array ih
  | object _ _ ih => exact .object ih

end Json

namespace Value

/-- A well-formed document always comes back from the value model: as an equal value, with the same
shape, keys and leaves, and with numerals that differ in their form alone. -/
theorem document_survives_the_value_model {document : Json} (h : document.WellFormed) :
    ∃ back, (ofDocument document).document? = some back ∧
      (ofDocument back).equals (ofDocument document) = true ∧
      document.SameShape Numeral.Reread back :=
  have settles := Json.settles_of_wellFormed h
  ⟨document.settled, settles.back, settles.equal, settles.shape⟩

/-- A large integer, a whole number, a negative zero and a fraction in one array. -/
theorem numerals_survive_the_value_model :
    ∃ document back, document.WellFormed ∧ (ofDocument document).document? = some back ∧
      document.SameShape Numeral.Reread back ∧
      document = .object [("n", .array [.number (.integer 9007199254740993),
        .number (.double (.ofInt 3)), .number (.double .negativeZero),
        .number (.double (.ofRatio false 1 2))])] ∧
      back = .object [("n", .array [.number (.double (.ofInt 9007199254740992)),
        .number (.integer 3), .number (.integer 0), .number (.double (.ofRatio false 1 2))])] := by
  let document : Json := .object [("n", .array [.number (.integer 9007199254740993),
    .number (.double (.ofInt 3)), .number (.double .negativeZero),
    .number (.double (.ofRatio false 1 2))])]
  have sound : document.WellFormed := by
    refine .object (by decide) (List.forall_mem_singleton.2 (.array ?_))
    simp only [List.forall_mem_cons]
    exact ⟨.number (by decide +kernel), .number (by decide +kernel), .number (by decide +kernel),
      .number (by decide +kernel), by simp⟩
  obtain ⟨back, known, -, shape⟩ := document_survives_the_value_model sound
  refine ⟨document, back, sound, known, shape, rfl, ?_⟩
  have large : (Number.ofInt 9007199254740993).toInteger? = none := by decide +kernel
  have rounded : Number.ofInt 9007199254740993 = .ofInt 9007199254740992 := by decide +kernel
  have finite : (Number.ofInt 9007199254740992).isFinite = true := by decide +kernel
  have three : (Number.ofInt 3).toInteger? = some 3 := by decide +kernel
  have zero : Number.negativeZero.toInteger? = some 0 := by decide +kernel
  have half : (Number.ofRatio false 1 2).toInteger? = none := by decide +kernel
  have small : (Number.ofRatio false 1 2).isFinite = true := by decide +kernel
  refine Option.some.inj (known.symm.trans ?_)
  rw [rounded] at large
  simp [document, ofDocument, ofMembers, ofItems, document?, memberDocuments, itemDocuments,
    numberDocument, Numeral.toNumber, rounded, large, finite, three, zero, half, small]

end Value

end TypeAssertion
