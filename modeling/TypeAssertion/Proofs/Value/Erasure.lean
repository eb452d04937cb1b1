import TypeAssertion.Value.Predicates
import TypeAssertion.Proofs.Number.Integer
import TypeAssertion.Proofs.Value.Parts

/-!
What the document of a value keeps of it. The erasure of a value is what remains when the document
is read back: boxes are open, instances are objects, what has no document is gone. A value and its
erasure have one document, so a second conversion changes nothing.
-/

set_option autoImplicit false

namespace TypeAssertion.Value

/-- True of the values that have no document: the undefined one and functions. -/
def isVoid (value : Value) : Bool := value.isUndefined || value.isFunction

/-- A finite number keeps its value, with one zero for both; any other becomes null. -/
def eraseNumber (n : Number) : Value :=
  if n.isFinite then number (if n.isZero then Number.zero else n) else null

mutual

/-- What a document keeps of a value. -/
def erase : Value → Value
  | number n => eraseNumber n
  | boxedNumber n => eraseNumber n
  | boxedString text => string text
  | array items => array (eraseItems items)
  | object properties => object (eraseEntries properties)
  | .instance _ fields => object (eraseEntries fields)
  | value => value

/-- Items that have no document become null, so an array keeps its length. -/
def eraseItems : List Value → List Value
  | [] => []
  | item :: rest => (if item.isVoid then null else item.erase) :: eraseItems rest

/-- Entries that have no document vanish; all others keep their names. -/
def eraseEntries : List (String × Value) → List (String × Value)
  | [] => []
  | (name, item) :: rest =>
    if item.isVoid then eraseEntries rest else (name, item.erase) :: eraseEntries rest

end

theorem eraseItems_eq_map (items : List Value) :
    eraseItems items = items.map fun item => if item.isVoid then null else item.erase := by
  induction items with
  | nil => rfl
  | cons item rest ih => rw [eraseItems, ih, List.map_cons]

theorem eraseEntries_eq_filterMap (entries : List (String × Value)) :
    eraseEntries entries =
      entries.filterMap fun entry =>
        if entry.2.isVoid then none else some (entry.1, entry.2.erase) := by
  induction entries with
  | nil => rfl
  | cons entry rest ih =>
    obtain ⟨name, item⟩ := entry
    rw [eraseEntries, List.filterMap_cons, ih]
    cases item.isVoid <;> rfl

/-! ### Numbers -/

theorem toInteger?_of_isZero {n : Number} (h : n.isZero = true) : n.toInteger? = some 0 := by
  rw [Number.toInteger?_eq_some_iff]
  refine ⟨?_, Number.isZero_iff_toRat_eq_zero.1 h, by decide⟩
  rw [Number.isZero, decide_eq_true_eq] at h
  rw [Number.isFinite, decide_eq_true_eq, h]
  decide

theorem ofDocument_numberDocument (n : Number) : ofDocument (numberDocument n) = eraseNumber n := by
  unfold numberDocument eraseNumber
  cases whole : n.toInteger? with
  | some i =>
    obtain ⟨finite, -, -⟩ := Number.toInteger?_eq_some_iff.1 whole
    rw [finite, ← Number.ofInt_of_toInteger? whole]
    rfl
  | none =>
    have nonzero : n.isZero = false := by
      by_contra zeroed
      rw [toInteger?_of_isZero (by simpa using zeroed)] at whole
      simp at whole
    cases n.isFinite with
    | false => rfl
    | true =>
      rw [nonzero]
      rfl

theorem document?_eraseNumber (n : Number) :
    (eraseNumber n).document? = some (numberDocument n) := by
  unfold eraseNumber
  cases finite : n.isFinite with
  | false =>
    have fractional : n.toInteger? = none := by
      by_contra whole
      obtain ⟨i, whole⟩ := Option.ne_none_iff_exists'.1 whole
      rw [(Number.toInteger?_eq_some_iff.1 whole).1] at finite
      simp at finite
    rw [numberDocument, fractional, finite]
    rfl
  | true =>
    cases zeroed : n.isZero with
    | false => rfl
    | true =>
      rw [numberDocument, toInteger?_of_isZero zeroed]
      have zero : Number.zero.toInteger? = some 0 := toInteger?_of_isZero rfl
      simp only [if_true, document?, numberDocument, zero]

/-! ### Documents -/

/-- A value has no document, or has one that reads as its erasure. -/
def ReadsAsErasure (value : Value) : Prop :=
  value.document?.map ofDocument = if value.isVoid then none else some value.erase

theorem ReadsAsErasure.item {value : Value} (h : ReadsAsErasure value) :
    ofDocument (value.document?.getD .null) = if value.isVoid then null else value.erase := by
  unfold ReadsAsErasure at h
  cases document : value.document? with
  | none =>
    rw [document] at h
    split at h
    · next void =>
      rw [if_pos void]
      rfl
    · simp at h
  | some j =>
    rw [document] at h
    split at h
    · simp at h
    · next solid =>
      rw [if_neg solid]
      exact Option.some.inj h

theorem ReadsAsErasure.entry {value : Value} (h : ReadsAsErasure value) (name : String) :
    ((value.document?.map fun document => (name, document)).map fun member =>
        (member.1, ofDocument member.2)) =
      if value.isVoid then none else some (name, value.erase) := by
  unfold ReadsAsErasure at h
  rw [Option.map_map]
  change (value.document?.map fun document => (name, ofDocument document)) = _
  rw [← Function.comp_def (fun read => (name, read)) ofDocument, ← Option.map_map, h]
  split <;> rfl

theorem ofMembers_memberDocuments {entries : List (String × Value)}
    (h : ∀ entry ∈ entries, ReadsAsErasure entry.2) :
    ofMembers (memberDocuments entries) = eraseEntries entries := by
  rw [ofMembers_eq_map, memberDocuments_eq_filterMap, eraseEntries_eq_filterMap, List.map_filterMap]
  apply List.filterMap_congr
  intro entry member
  exact (h entry member).entry entry.1

/-- Every value reads as its erasure from its document, unless it is void. -/
theorem readsAsErasure (value : Value) : ReadsAsErasure value := by
  induction value using Value.induction with
  | number n => exact congrArg some (ofDocument_numberDocument n)
  | boxedNumber n => exact congrArg some (ofDocument_numberDocument n)
  | array items ih =>
    change some (array (ofItems (itemDocuments items))) = some (array (eraseItems items))
    rw [ofItems_eq_map, itemDocuments_eq_map, eraseItems_eq_map, List.map_map]
    congr 2
    exact List.map_congr_left fun item member => (ih item member).item
  | object properties ih =>
    exact congrArg (fun entries => some (object entries)) (ofMembers_memberDocuments ih)
  | record cls fields ih =>
    exact congrArg (fun entries => some (object entries)) (ofMembers_memberDocuments ih)
  | _ => rfl

theorem document?_eq_none_iff {value : Value} :
    value.document? = none ↔ value.isUndefined = true ∨ value.isFunction = true := by
  cases value <;> simp [document?, isUndefined, isFunction, function?]

theorem document?_eq_none_of_isVoid {value : Value} (h : value.isVoid = true) :
    value.document? = none := by
  rw [document?_eq_none_iff]
  simpa [isVoid] using h

theorem memberDocuments_eraseEntries {entries : List (String × Value)}
    (h : ∀ entry ∈ entries, entry.2.erase.document? = entry.2.document?) :
    memberDocuments (eraseEntries entries) = memberDocuments entries := by
  rw [memberDocuments_eq_filterMap, memberDocuments_eq_filterMap, eraseEntries_eq_filterMap,
    List.filterMap_filterMap]
  apply List.filterMap_congr
  intro entry member
  split
  · next void =>
    rw [document?_eq_none_of_isVoid void]
    rfl
  · rw [Option.bind_some, h entry member]

/-- The erasure keeps all that a document shows. -/
theorem document?_erase (value : Value) : value.erase.document? = value.document? := by
  induction value using Value.induction with
  | number n => exact document?_eraseNumber n
  | boxedNumber n => exact document?_eraseNumber n
  | array items ih =>
    change some (Json.array (itemDocuments (eraseItems items))) =
      some (.array (itemDocuments items))
    rw [itemDocuments_eq_map, itemDocuments_eq_map, eraseItems_eq_map, List.map_map]
    congr 2
    apply List.map_congr_left
    intro item member
    rw [Function.comp_apply]
    split
    · next void =>
      rw [document?_eq_none_of_isVoid void]
      rfl
    · rw [ih item member]
  | object properties ih =>
    exact congrArg (fun members => some (Json.object members)) (memberDocuments_eraseEntries ih)
  | record cls fields ih =>
    exact congrArg (fun members => some (Json.object members)) (memberDocuments_eraseEntries ih)
  | _ => rfl

/-! ### Equality with itself -/

theorem equals_eraseNumber_self (n : Number) : (eraseNumber n).equals (eraseNumber n) = true := by
  unfold eraseNumber
  split
  · next finite =>
    split
    · rfl
    · exact Number.equals_self_of_isFinite finite
  · rfl

theorem equalEntries_eraseEntries_self {entries : List (String × Value)}
    (h : ∀ entry ∈ entries, entry.2.erase.equals entry.2.erase = true) :
    equalEntries (eraseEntries entries) (eraseEntries entries) = true := by
  rw [equalEntries_iff, List.forall₂_same, eraseEntries_eq_filterMap]
  intro erased member
  obtain ⟨entry, original, kept⟩ := List.mem_filterMap.1 member
  split at kept
  · simp at kept
  · obtain rfl := Option.some.inj kept
    exact ⟨rfl, h entry original⟩

/-- An erasure holds nothing that differs from itself. -/
theorem equals_erase_self (value : Value) : value.erase.equals value.erase = true := by
  induction value using Value.induction with
  | number n => exact equals_eraseNumber_self n
  | boxedNumber n => exact equals_eraseNumber_self n
  | array items ih =>
    change equalItems (eraseItems items) (eraseItems items) = true
    rw [equalItems_iff, List.forall₂_same, eraseItems_eq_map]
    intro erased member
    obtain ⟨item, original, rfl⟩ := List.mem_map.1 member
    split
    · rfl
    · exact ih item original
  | object properties ih => exact equalEntries_eraseEntries_self ih
  | record cls fields ih => exact equalEntries_eraseEntries_self ih
  | _ => simp [erase, equals]

/-- A value has a document unless it is undefined or a function. The document reads as the erasure
of the value, and converting what was read gives the same document again. -/
theorem document_reads_as_erasure (value : Value) :
    (value.document? = none ↔ value.isUndefined = true ∨ value.isFunction = true) ∧
    ∀ document, value.document? = some document →
      ofDocument document = value.erase ∧
      (ofDocument document).equals value.erase = true ∧
      (ofDocument document).document? = some document := by
  refine ⟨document?_eq_none_iff, fun document h => ?_⟩
  have reads : ofDocument document = value.erase := by
    have whole := readsAsErasure value
    rw [ReadsAsErasure, h] at whole
    split at whole
    · simp at whole
    · exact Option.some.inj whole
  refine ⟨reads, ?_, ?_⟩
  · rw [reads]
    exact equals_erase_self value
  · rw [reads, document?_erase, h]

/-- A record with a function and an array of what has no document or more than one form. -/
theorem record_reads_as_its_plain_fields :
    ∃ document,
      (Value.instance Class.record [("act", function ⟨0, "act"⟩), ("items", array [undefined,
        number .notANumber, boxedNumber .negativeZero, boxedString "b"])]).document? =
          some document ∧
      ofDocument document =
        object [("items", array [null, null, number .zero, string "b"])] ∧
      (ofDocument document).document? = some document := by
  let value : Value := .instance Class.record [("act", function ⟨0, "act"⟩), ("items", array
    [undefined, number .notANumber, boxedNumber .negativeZero, boxedString "b"])]
  obtain ⟨document, known⟩ : ∃ document, value.document? = some document := ⟨_, rfl⟩
  obtain ⟨reads, -, stable⟩ := (document_reads_as_erasure value).2 document known
  exact ⟨document, known, reads, stable⟩

end TypeAssertion.Value
