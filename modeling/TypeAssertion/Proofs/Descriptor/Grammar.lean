import TypeAssertion.Check
import TypeAssertion.Proofs.Text.Trim

/-!
The grammar of descriptor texts, and the reader against it. The reader takes layers off from both
ends of a trimmed text, so each rule of the grammar is related to one step of `peel?`; the number of
layers and the base name then follow by induction on the derivation. Where blanks stand is the only
freedom that a text leaves to its derivations, so a derivation is named by its shape alone.
-/

set_option autoImplicit false

namespace TypeAssertion.Descriptor

open Text (Blanks isBlank trim trimBack lower)

/-- The names that can stand under the layers of a text. -/
inductive BaseName where
  | string
  | boolean
  | bool
  | number
  | array
  | object
  | function
  | nothing
  | undefined

namespace BaseName

/-- All names. -/
def all : List BaseName :=
  [string, boolean, bool, number, array, object, function, nothing, undefined]

/-- How a name is written in small letters. -/
def spelling : BaseName → String
  | string => "string"
  | boolean => "boolean"
  | bool => "bool"
  | number => "number"
  | array => "array"
  | object => "object"
  | function => "function"
  | nothing => "nothing"
  | undefined => "undefined"

/-- The descriptor that a name stands for. -/
def meaning : BaseName → Descriptor
  | string => .primitive .string
  | boolean => .primitive .boolean
  | bool => .primitive .boolean
  | number => .primitive .number
  | array => .primitive .array
  | object => .primitive .object
  | function => .primitive .function
  | nothing => .absent
  | undefined => .absent

end BaseName

/-- How a text is put together: a name under layers, each with a mark in front or in brackets. -/
inductive Shape where
  | base (name : BaseName)
  | marked (inner : Shape)
  | bracketed (inner : Shape)

namespace Shape

/-- The number of layers. -/
def layers : Shape → Nat
  | base _ => 0
  | marked inner => inner.layers + 1
  | bracketed inner => inner.layers + 1

/-- The name under all layers. -/
def name : Shape → BaseName
  | base name => name
  | marked inner => inner.name
  | bracketed inner => inner.name

/-- The descriptor of a shape: each layer makes it nullable once more. -/
def meaning : Shape → Descriptor
  | base name => name.meaning
  | marked inner => .nullable inner.meaning
  | bracketed inner => .nullable inner.meaning

end Shape

/-- The texts that have a shape. Blanks may surround any part; the letters of a name and of the
opening bracket may be capital ones. -/
inductive Derives : List Char → Shape → Prop
  | base {before written after : List Char} {name : BaseName} :
      Blanks before → Blanks after → lower written = name.spelling.toList →
      Derives (before ++ written ++ after) (.base name)
  | marked {before inner after : List Char} {shape : Shape} :
      Blanks before → Blanks after → Derives inner shape →
      Derives (before ++ '?' :: inner ++ after) (.marked shape)
  | bracketed {before opening inner after : List Char} {shape : Shape} :
      Blanks before → Blanks after → lower opening = "nullable<".toList → Derives inner shape →
      Derives (before ++ (opening ++ inner ++ ['>']) ++ after) (.bracketed shape)

/-- True of the descriptors that a text can give: built-in ones under any number of layers. -/
def isWritable : Descriptor → Bool
  | primitive _ => true
  | absent => true
  | nullable inner => inner.isWritable
  | custom _ _ _ => false
  | instanceOf _ => false

theorem isWritable_meaning (shape : Shape) : shape.meaning.isWritable = true := by
  induction shape with
  | base name => cases name <;> rfl
  | marked inner ih => exact ih
  | bracketed inner ih => exact ih

theorem meaning_eq_underLayers (shape : Shape) :
    shape.meaning = shape.name.meaning.underLayers shape.layers := by
  induction shape with
  | base name => rfl
  | marked inner ih => exact congrArg Descriptor.nullable ih
  | bracketed inner ih => exact congrArg Descriptor.nullable ih

/-! ### One layer -/

private theorem head?_lower (text : List Char) :
    (lower text).head? = text.head?.map Char.toLower := by simp [lower]

private theorem getLast?_lower (text : List Char) :
    (lower text).getLast? = text.getLast?.map Char.toLower := by simp [lower]

private theorem toLower_of_isBlank {c : Char} (h : isBlank c = true) : c.toLower = c := by
  unfold Char.toLower
  split
  · next capital =>
    have least : 65 ≤ c.toNat := capital.1
    have most : c.toNat ≤ 90 := capital.2
    simp only [isBlank, Bool.or_eq_true, Bool.and_eq_true, decide_eq_true_eq, beq_iff_eq] at h
    omega
  · rfl

/-- A text whose small letters hold no blank is left as it is by trimming. -/
private theorem trim_eq_self {text : List Char} (h : ∀ c ∈ lower text, isBlank c = false) :
    trim text = text := by
  obtain ⟨before, after, hb, ha, parts⟩ := Text.exists_trim_surrounded text
  have visible : ∀ c ∈ text, isBlank c = false := by
    intro c hc
    by_contra blank
    have same := toLower_of_isBlank (by simpa using blank)
    exact blank (same ▸ h c.toLower (List.mem_map_of_mem hc))
  have no_before : before = [] := by
    refine List.eq_nil_iff_forall_not_mem.2 fun c hc => ?_
    have := visible c (by rw [parts]; simp [hc])
    simp [hb c hc] at this
  have no_after : after = [] := by
    refine List.eq_nil_iff_forall_not_mem.2 fun c hc => ?_
    have := visible c (by rw [parts]; simp [hc])
    simp [ha c hc] at this
  rw [no_before, no_after] at parts
  simpa using parts.symm

theorem trim_name {written : List Char} {name : BaseName}
    (h : lower written = name.spelling.toList) : trim written = written := by
  apply trim_eq_self
  rw [h]
  have visible : name.spelling.toList.all (fun c => !isBlank c) = true := by
    cases name <;> rfl
  simpa using visible

theorem peel?_name {written : List Char} {name : BaseName}
    (h : lower written = name.spelling.toList) : peel? written = none := by
  have no_mark : written.head? ≠ some '?' := by
    intro mark
    have head := head?_lower written
    rw [h, mark] at head
    cases name <;> exact absurd head (by decide)
  have no_bracket : isWrapped written = false := by
    rw [isWrapped, Bool.and_assoc, Bool.and_eq_false_iff]
    left
    rw [beq_eq_false_iff_ne]
    intro bracket
    have last := getLast?_lower written
    rw [h, bracket] at last
    cases name <;> exact absurd last (by decide)
  cases written with
  | nil => rfl
  | cons c rest =>
    unfold peel?
    split
    · next e => exact absurd (by rw [e]; rfl) no_mark
    · rw [no_bracket]; rfl

/-- A mark is taken off together with the blanks after it. -/
theorem peel?_trim_marked (text : List Char) : peel? (trim ('?' :: text)) = some (trim text) := by
  rw [Text.trim_cons (by decide), peel?, Text.trim_trimBack]

private theorem length_opening {opening : List Char} (h : lower opening = "nullable<".toList) :
    opening.length = nullableOpening.length := by
  have length := congrArg List.length h
  simpa [lower, nullableOpening] using length

private theorem trim_bracketed {opening : List Char} (h : lower opening = "nullable<".toList)
    (text : List Char) : trim (opening ++ text ++ ['>']) = opening ++ text ++ ['>'] := by
  cases opening with
  | nil => exact absurd h (by decide)
  | cons c rest =>
    have visible : isBlank c = false := by
      by_contra blank
      have same := toLower_of_isBlank (by simpa using blank)
      have head : c.toLower = 'n' := by
        have := congrArg List.head? h
        simpa [lower] using this
      rw [same] at head
      exact blank (by rw [head]; decide)
    exact Text.trim_bounded visible (by decide) (rest ++ text)

/-- A pair of brackets is taken off together with the blanks inside it. -/
theorem peel?_trim_bracketed {opening : List Char} (h : lower opening = "nullable<".toList)
    (text : List Char) : peel? (trim (opening ++ text ++ ['>'])) = some (trim text) := by
  have length := length_opening h
  have wrapped : isWrapped (opening ++ text ++ ['>']) = true := by
    have first : (opening ++ text ++ ['>']).take nullableOpening.length = opening := by
      rw [List.append_assoc, ← length, List.take_left]
    rw [isWrapped, first, h]
    simp [← length]
    decide
  have inside : ((opening ++ text ++ ['>']).drop nullableOpening.length).dropLast = text := by
    rw [List.append_assoc, ← length, List.drop_left, List.dropLast_concat]
  rw [trim_bracketed h]
  unfold peel?
  split
  · next rest e =>
    cases opening with
    | nil => exact absurd h (by decide)
    | cons c tail =>
      have head := congrArg List.head? h
      have mark : c = '?' := by simpa using congrArg List.head? e
      rw [mark] at head
      exact absurd head (by simp [lower])
  · rw [wrapped, inside]; rfl

/-- A wrapped text is its opening bracket, in letters of any case, what it holds, and the closing
bracket. -/
theorem bracketed_of_isWrapped {text : List Char} (wrapped : isWrapped text = true) :
    text = text.take nullableOpening.length ++ (text.drop nullableOpening.length).dropLast ++ ['>'] ∧
      lower (text.take nullableOpening.length) = "nullable<".toList := by
  rw [isWrapped, Bool.and_eq_true, Bool.and_eq_true, beq_iff_eq, beq_iff_eq,
    decide_eq_true_eq] at wrapped
  obtain ⟨⟨last, long⟩, first⟩ := wrapped
  refine ⟨?_, first⟩
  have drop_last : (text.drop nullableOpening.length).getLast? = some '>' := by
    rw [List.getLast?_drop, if_neg (by omega), last]
  have bracket : (text.drop nullableOpening.length).dropLast ++ ['>'] =
      text.drop nullableOpening.length :=
    List.dropLast_append_getLast? '>' (by simp [drop_last])
  rw [List.append_assoc, bracket, List.take_append_drop]

/-- Only a mark and a pair of brackets are ever taken off. -/
theorem eq_of_peel? {text inner : List Char} (h : peel? text = some inner) :
    (∃ rest, text = '?' :: rest ∧ inner = trim rest) ∨
      ∃ opening rest, text = opening ++ rest ++ ['>'] ∧
        lower opening = "nullable<".toList ∧ inner = trim rest := by
  unfold peel? at h
  split at h
  · next rest => exact .inl ⟨rest, rfl, (Option.some.inj h).symm⟩
  · split at h
    · next wrapped =>
      obtain ⟨parts, first⟩ := bracketed_of_isWrapped wrapped
      exact .inr ⟨_, _, parts, first, (Option.some.inj h).symm⟩
    · exact absurd h (by simp)

/-- What one step of the reader finds in a text of a shape: the name itself, or what the outermost
layer holds. -/
private def Found (text : List Char) : Shape → Prop
  | .base name => peel? (trim text) = none ∧ lower (trim text) = name.spelling.toList
  | .marked inner => ∃ rest, Derives rest inner ∧ peel? (trim text) = some (trim rest)
  | .bracketed inner => ∃ rest, Derives rest inner ∧ peel? (trim text) = some (trim rest)

private theorem found_of_derives {text : List Char} {shape : Shape} (h : Derives text shape) :
    Found text shape := by
  cases h with
  | base hb ha hw =>
    rw [Found, Text.trim_surrounded hb ha, trim_name hw]
    exact ⟨peel?_name hw, hw⟩
  | @marked before inner after shape hb ha hi =>
    refine ⟨inner, hi, ?_⟩
    rw [Text.trim_surrounded hb ha, peel?_trim_marked]
  | @bracketed before opening inner after shape hb ha ho hi =>
    refine ⟨inner, hi, ?_⟩
    rw [Text.trim_surrounded hb ha, peel?_trim_bracketed ho]

/-! ### All layers -/

/-- One layer more is read when one deeper call is allowed. -/
private theorem peelLayers?_step {text inner written : List Char} {layers : Nat}
    (taken : peel? text = some inner)
    (deeper : ∀ most, peelLayers? most inner =
      if layers ≤ most then some (layers, written) else none) (most : Nat) :
    peelLayers? most text = if layers + 1 ≤ most then some (layers + 1, written) else none := by
  cases most with
  | zero => simp [peelLayers?, taken]
  | succ most =>
    rw [peelLayers?, taken]
    simp only [deeper, Nat.add_le_add_iff_right]
    split <;> rfl

/-- The reader finds the layers and the name of a text that has a shape, if it may go so deep. -/
theorem peelLayers?_of_derives {text : List Char} {shape : Shape} (h : Derives text shape) :
    ∃ written, lower written = shape.name.spelling.toList ∧
      ∀ most, peelLayers? most (trim text) =
        if shape.layers ≤ most then some (shape.layers, written) else none := by
  induction shape generalizing text with
  | base name =>
    obtain ⟨bare, hw⟩ := found_of_derives h
    refine ⟨trim text, hw, fun most => ?_⟩
    cases most <;> simp [peelLayers?, bare, Shape.layers]
  | marked inner ih =>
    obtain ⟨rest, hi, taken⟩ := found_of_derives h
    obtain ⟨written, hw, deeper⟩ := ih hi
    exact ⟨written, hw, peelLayers?_step taken deeper⟩
  | bracketed inner ih =>
    obtain ⟨rest, hi, taken⟩ := found_of_derives h
    obtain ⟨written, hw, deeper⟩ := ih hi
    exact ⟨written, hw, peelLayers?_step taken deeper⟩

theorem Derives.surrounded {text before after : List Char} {shape : Shape} (h : Derives text shape)
    (hb : Blanks before) (ha : Blanks after) : Derives (before ++ text ++ after) shape := by
  have join {first second : List Char} (h₁ : Blanks first) (h₂ : Blanks second) :
      Blanks (first ++ second) := fun c hc => (List.mem_append.1 hc).elim (h₁ c) (h₂ c)
  cases h with
  | @base before' written after' name hb' ha' hw =>
    simpa using Derives.base (join hb hb') (join ha' ha) hw
  | @marked before' inner after' shape hb' ha' hi =>
    simpa using Derives.marked (join hb hb') (join ha' ha) hi
  | @bracketed before' opening inner after' shape hb' ha' ho hi =>
    simpa using Derives.bracketed (join hb hb') (join ha' ha) ho hi

theorem Derives.of_trim {text : List Char} {shape : Shape} (h : Derives (trim text) shape) :
    Derives text shape := by
  obtain ⟨before, after, hb, ha, parts⟩ := Text.exists_trim_surrounded text
  rw [parts]
  exact h.surrounded hb ha

private theorem derives_name {text : List Char} {name : BaseName}
    (h : lower (trim text) = name.spelling.toList) : Derives text (.base name) :=
  Derives.of_trim (by simpa using Derives.base Text.blanks_nil Text.blanks_nil h)

/-- What the reader takes apart has a shape, if a name is left. -/
theorem derives_of_peelLayers? {most layers : Nat} {text base : List Char} {name : BaseName}
    (h : peelLayers? most (trim text) = some (layers, base))
    (hn : lower base = name.spelling.toList) :
    ∃ shape, Derives text shape ∧ shape.layers = layers ∧ shape.name = name := by
  induction most generalizing text layers with
  | zero =>
    rw [peelLayers?] at h
    split at h
    · exact absurd h (by simp)
    · obtain ⟨rfl, rfl⟩ := Prod.mk.inj (Option.some.inj h)
      exact ⟨.base name, derives_name hn, rfl, rfl⟩
  | succ most ih =>
    rw [peelLayers?] at h
    cases taken : peel? (trim text) with
    | none =>
      rw [taken] at h
      obtain ⟨rfl, rfl⟩ := Prod.mk.inj (Option.some.inj h)
      exact ⟨.base name, derives_name hn, rfl, rfl⟩
    | some inner =>
      rw [taken] at h
      obtain ⟨⟨layers', base'⟩, deeper, e⟩ := Option.map_eq_some_iff.1 h
      obtain ⟨rfl, rfl⟩ := Prod.mk.inj e
      rcases eq_of_peel? taken with ⟨rest, whole, rfl⟩ | ⟨opening, rest, whole, ho, rfl⟩
      · obtain ⟨shape, derives, count, named⟩ := ih deeper
        refine ⟨.marked shape, Derives.of_trim ?_, congrArg (· + 1) count, named⟩
        simpa [whole] using Derives.marked Text.blanks_nil Text.blanks_nil derives
      · obtain ⟨shape, derives, count, named⟩ := ih deeper
        refine ⟨.bracketed shape, Derives.of_trim ?_, congrArg (· + 1) count, named⟩
        simpa [whole] using Derives.bracketed Text.blanks_nil Text.blanks_nil ho derives

/-! ### Unambiguity -/

/-- Of the two ways to write a layer, the first character of the trimmed text tells which it is. -/
private theorem head?_trim_marked {text : List Char} {shape : Shape}
    (h : Derives text (.marked shape)) : (trim text).head? = some '?' := by
  cases h with
  | marked hb ha hi =>
    rw [Text.trim_surrounded hb ha, Text.trim_cons (by decide), List.head?_cons]

private theorem head?_trim_bracketed {text : List Char} {shape : Shape}
    (h : Derives text (.bracketed shape)) : (trim text).head? ≠ some '?' := by
  cases h with
  | @bracketed before opening inner after shape hb ha ho hi =>
    rw [Text.trim_surrounded hb ha, trim_bracketed ho]
    intro mark
    have head := head?_lower opening
    cases opening with
    | nil => exact absurd ho (by decide)
    | cons c rest =>
      rw [ho, show c = '?' by simpa using mark, List.head?_cons] at head
      exact absurd head (by decide)

private theorem spelling_injective {first second : BaseName}
    (h : first.spelling.toList = second.spelling.toList) : first = second := by
  cases first <;> cases second <;> first | rfl | exact absurd h (by decide)

/-- Texts that differ only in the blanks around them have no two shapes. -/
theorem shape_unique {first second : List Char} {a b : Shape} (ha : Derives first a)
    (hb : Derives second b) (h : trim first = trim second) : a = b := by
  induction a generalizing first second b with
  | base name =>
    obtain ⟨bare, spelled⟩ := found_of_derives ha
    rw [h] at bare spelled
    have found := found_of_derives hb
    cases b with
    | base other => exact congrArg Shape.base (spelling_injective (spelled.symm.trans found.2))
    | marked inner => obtain ⟨_, _, taken⟩ := found; exact absurd (bare.symm.trans taken) (by simp)
    | bracketed inner => obtain ⟨_, _, taken⟩ := found; exact absurd (bare.symm.trans taken) (by simp)
  | marked inner ih =>
    obtain ⟨rest, hi, taken⟩ := found_of_derives ha
    rw [h] at taken
    have found := found_of_derives hb
    cases b with
    | base other => exact absurd (found.1.symm.trans taken) (by simp)
    | marked inner' =>
      obtain ⟨rest', hi', taken'⟩ := found
      exact congrArg Shape.marked (ih hi hi' (Option.some.inj (taken.symm.trans taken')))
    | bracketed inner' => exact absurd (h ▸ head?_trim_marked ha) (head?_trim_bracketed hb)
  | bracketed inner ih =>
    obtain ⟨rest, hi, taken⟩ := found_of_derives ha
    rw [h] at taken
    have found := found_of_derives hb
    cases b with
    | base other => exact absurd (found.1.symm.trans taken) (by simp)
    | marked inner' => exact absurd (h.symm ▸ head?_trim_marked hb) (head?_trim_bracketed ha)
    | bracketed inner' =>
      obtain ⟨rest', hi', taken'⟩ := found
      exact congrArg Shape.bracketed (ih hi hi' (Option.some.inj (taken.symm.trans taken')))

/-! ### The reader -/

private theorem lookup_spelling (name : BaseName) :
    baseNames.lookup name.spelling = some name.meaning := by
  cases name <;> simp [baseNames, BaseName.spelling, BaseName.meaning, lookup_entry]

private theorem exists_name_of_lookup {text : String} {d : Descriptor}
    (h : baseNames.lookup text = some d) :
    ∃ name : BaseName, name.spelling = text ∧ name.meaning = d := by
  obtain ⟨front, back, parts, _⟩ := List.lookup_eq_some_iff.1 h
  have member : (text, d) ∈ BaseName.all.map fun name => (name.spelling, name.meaning) := by
    change (text, d) ∈ baseNames
    simp [parts]
  obtain ⟨name, _, e⟩ := List.mem_map.1 member
  exact ⟨name, (Prod.mk.inj e).1, (Prod.mk.inj e).2⟩

/-- A text of a shape reads as the meaning of the shape, unless it has too many layers. -/
theorem ofText_of_derives {text : String} {shape : Shape} (h : Derives text.toList shape) :
    ofText text = if shape.layers ≤ layerLimit then .ok shape.meaning else .error .tooManyLayers := by
  obtain ⟨written, hw, read⟩ := peelLayers?_of_derives h
  rw [ofText, read layerLimit]
  by_cases few : shape.layers ≤ layerLimit
  · simp only [if_pos few, hw, String.ofList_toList, lookup_spelling]
    rw [meaning_eq_underLayers]
  · simp only [if_neg few]

/-- What a text reads as is the meaning of a shape of it with few enough layers. -/
theorem derives_of_ofText {text : String} {d : Descriptor} (h : ofText text = .ok d) :
    ∃ shape, Derives text.toList shape ∧ shape.layers ≤ layerLimit ∧ shape.meaning = d := by
  unfold ofText at h
  split at h
  · exact absurd h (by simp)
  · next layers base read =>
    split at h
    · exact absurd h (by simp)
    · next descriptor found =>
      obtain ⟨name, spelled, meant⟩ := exists_name_of_lookup found
      have hn : lower base = name.spelling.toList := by rw [spelled, String.toList_ofList]
      obtain ⟨shape, derives, count, named⟩ := derives_of_peelLayers? read hn
      obtain ⟨written, _, reread⟩ := peelLayers?_of_derives derives
      refine ⟨shape, derives, ?_, ?_⟩
      · by_contra deep
        rw [reread layerLimit, if_neg deep] at read
        exact absurd read (by simp)
      · rw [meaning_eq_underLayers, named, count, meant]
        exact Except.ok.inj h

theorem parse_eq_ok_iff {text : String} {d : Descriptor} :
    parse text = .ok d ↔ ofText text = .ok d := by
  unfold parse
  split <;> simp_all

/-- A text is read as a descriptor exactly when the grammar gives it a shape with at most sixteen
layers, and then as the meaning of that shape, which is the only one of the text and never custom.
Every other text breaks a precondition. -/
theorem parse_accepts_exactly_grammar (text : String) :
    (∀ d, parse text = .ok d ↔
      ∃ shape, Derives text.toList shape ∧ shape.layers ≤ 16 ∧ shape.meaning = d) ∧
    (∀ a b, Derives text.toList a → Derives text.toList b → a = b) ∧
    (∀ d, parse text = .ok d → d.isWritable = true) ∧
    ((¬∃ shape, Derives text.toList shape ∧ shape.layers ≤ 16) →
      ∃ cause, parse text = .error (.precondition cause)) := by
  have read (d : Descriptor) : parse text = .ok d ↔
      ∃ shape, Derives text.toList shape ∧ shape.layers ≤ 16 ∧ shape.meaning = d := by
    rw [parse_eq_ok_iff]
    constructor
    · exact derives_of_ofText
    · rintro ⟨shape, derives, few, rfl⟩
      exact (ofText_of_derives derives).trans (if_pos few)
  refine ⟨read, fun a b ha hb => shape_unique ha hb rfl, ?_, ?_⟩
  · intro d h
    obtain ⟨shape, _, _, rfl⟩ := (read d).1 h
    exact isWritable_meaning shape
  · intro none
    cases h : parse text with
    | ok d =>
      obtain ⟨shape, derives, few, _⟩ := (read d).1 h
      exact absurd ⟨shape, derives, few⟩ none
    | error failure =>
      unfold parse at h
      split at h
      · exact absurd h (by simp)
      · next cause _ => exact ⟨.descriptorText cause, by rw [← Except.error.inj h]⟩

example : parse "? Nullable<BOOL\u2003>" = .ok (.nullable (.nullable .boolean)) := rfl

example : parse "nullable <bool>" =
    .error (.precondition (.descriptorText (.unknownName "nullable <bool>"))) := rfl

end TypeAssertion.Descriptor
