import TypeAssertion.Proofs.Descriptor.Grammar

/-!
The layers of any text, also of one that is no descriptor. Peeling takes characters away, so without
a limit it ends too, at the innermost text. What a text reads as is settled by the number of its
layers and its innermost text: too many layers are refused before the innermost text is looked at.
A mark and a pair of brackets both add one layer to a text, so they cannot be told apart.
-/

set_option autoImplicit false

namespace TypeAssertion.Descriptor

open Text (trim)

/-! ### Peeling without a limit -/

theorem length_lt_of_peel? {text inner : List Char} (taken : peel? text = some inner) :
    inner.length < text.length := by
  rcases eq_of_peel? taken with ⟨rest, rfl, rfl⟩ | ⟨opening, rest, rfl, -, rfl⟩
  · have shorter := Text.length_trim_le rest
    rw [List.length_cons]
    omega
  · have shorter := Text.length_trim_le rest
    rw [List.length_append, List.length_append, List.length_singleton]
    omega

/-- All layers of a text: how many there are, and the text under them. -/
def peelAll (text : List Char) : Nat × List Char :=
  match taken : peel? text with
  | some inner => ((peelAll inner).1 + 1, (peelAll inner).2)
  | none => (0, text)
termination_by text.length
decreasing_by all_goals exact length_lt_of_peel? taken

theorem peelAll_of_bare {text : List Char} (bare : peel? text = none) :
    peelAll text = (0, text) := by
  rw [peelAll]
  split
  · next taken => exact absurd (bare.symm.trans taken) (by simp)
  · rfl

theorem peelAll_of_layer {text inner : List Char} (taken : peel? text = some inner) :
    peelAll text = ((peelAll inner).1 + 1, (peelAll inner).2) := by
  rw [peelAll]
  split
  · next other taken' =>
    obtain rfl := Option.some.inj (taken.symm.trans taken')
    rfl
  · next bare => exact absurd (bare.symm.trans taken) (by simp)

/-- Peeling with a limit finds the same layers, or gives up when there are more. -/
theorem peelLayers?_eq (most : Nat) (text : List Char) :
    peelLayers? most text =
      if (peelAll text).1 ≤ most then some (peelAll text) else none := by
  induction most generalizing text with
  | zero =>
    cases taken : peel? text with
    | none => simp [peelLayers?, taken, peelAll_of_bare taken]
    | some inner => simp [peelLayers?, taken, peelAll_of_layer taken]
  | succ most ih =>
    rw [peelLayers?]
    cases taken : peel? text with
    | none => simp [peelAll_of_bare taken]
    | some inner =>
      rw [peelAll_of_layer taken]
      simp only [ih, Nat.add_le_add_iff_right]
      split <;> rfl

/-! ### What a text reads as -/

/-- The number of layers of a text. -/
def layerCount (text : String) : Nat := (peelAll (trim text.toList)).1

/-- The text under all layers, without the blanks around it. -/
def innermost (text : String) : String := String.ofList (peelAll (trim text.toList)).2

/-- The built-in descriptor with a name, whatever the case of its letters. -/
def named? (name : String) : Option Descriptor :=
  baseNames.lookup (String.ofList (Text.lower name.toList))

abbrev tooManyLayers : Failure := .precondition (.descriptorText .tooManyLayers)

abbrev unknownName (name : String) : Failure := .precondition (.descriptorText (.unknownName name))

/-- A text reads as what its innermost text names, under its layers, if these are few enough. -/
theorem parse_eq (text : String) :
    parse text =
      if layerCount text ≤ layerLimit then
        match named? (innermost text) with
        | some descriptor => .ok (descriptor.underLayers (layerCount text))
        | none => .error (unknownName (innermost text))
      else .error tooManyLayers := by
  unfold parse ofText
  rw [peelLayers?_eq]
  unfold named? innermost layerCount
  rw [String.toList_ofList]
  by_cases few : (peelAll (trim text.toList)).1 ≤ layerLimit
  · rw [if_pos few, if_pos few]
    dsimp only
    cases baseNames.lookup (String.ofList (Text.lower (peelAll (trim text.toList)).2)) <;> rfl
  · rw [if_neg few, if_neg few]

theorem parse_eq_tooManyLayers_iff {text : String} :
    parse text = .error tooManyLayers ↔ layerLimit < layerCount text := by
  rw [parse_eq]
  by_cases few : layerCount text ≤ layerLimit
  · rw [if_pos few]
    cases named? (innermost text) <;> simp [few]
  · rw [if_neg few]
    simp only [true_iff]
    omega

/-! ### One layer more -/

/-- Two texts with one innermost text, the second under one layer more. -/
structure OneLayerMore (text layered : String) : Prop where
  layerCount : layerCount layered = Descriptor.layerCount text + 1
  innermost : innermost layered = Descriptor.innermost text

theorem oneLayerMore_of_peel? {text layered : String}
    (taken : peel? (trim layered.toList) = some (trim text.toList)) :
    OneLayerMore text layered := by
  have peeled := peelAll_of_layer taken
  constructor
  · rw [layerCount, layerCount, peeled]
  · rw [innermost, innermost, peeled]

theorem oneLayerMore_marked (text : String) : OneLayerMore text ("?" ++ text) := by
  have written : ("?" ++ text).toList = '?' :: text.toList := by
    rw [String.toList_append]
    rfl
  apply oneLayerMore_of_peel?
  rw [written, peel?_trim_marked]

theorem oneLayerMore_bracketed (text : String) :
    OneLayerMore text ("nullable<" ++ text ++ ">") := by
  have written : ("nullable<" ++ text ++ ">").toList =
      "nullable<".toList ++ text.toList ++ ['>'] := by
    rw [String.toList_append, String.toList_append]
    rfl
  apply oneLayerMore_of_peel?
  rw [written, peel?_trim_bracketed rfl]

/-- One layer more makes the descriptor nullable once more and keeps an unknown name, as long as
the limit allows it. -/
theorem OneLayerMore.parse_eq {text layered : String} (more : OneLayerMore text layered) :
    parse layered =
      if Descriptor.layerCount text < layerLimit then (parse text).map nullable
      else .error tooManyLayers := by
  rw [Descriptor.parse_eq layered, Descriptor.parse_eq text, more.layerCount, more.innermost]
  by_cases few : Descriptor.layerCount text < layerLimit
  · rw [if_pos few, if_pos (show Descriptor.layerCount text + 1 ≤ layerLimit by omega),
      if_pos (show Descriptor.layerCount text ≤ layerLimit by omega)]
    cases named? (Descriptor.innermost text) <;> rfl
  · rw [if_neg few, if_neg (show ¬Descriptor.layerCount text + 1 ≤ layerLimit by omega)]

/-- A mark before a text and brackets around it have one result, descriptor or failure, whatever the
text is. With fewer than sixteen layers before, a descriptor becomes nullable once more and an
unknown innermost text stays the failure; in all other cases the layers are too many. -/
theorem nullable_spellings_are_one_operation (text : String) :
    parse ("?" ++ text) = parse ("nullable<" ++ text ++ ">") ∧
    (∀ d, parse text = .ok d → layerCount text < 16 → parse ("?" ++ text) = .ok (.nullable d)) ∧
    (∀ name, parse text = .error (unknownName name) → layerCount text < 16 →
      name = innermost text ∧ parse ("?" ++ text) = .error (unknownName name)) ∧
    (layerCount text = 16 ∨ parse text = .error tooManyLayers →
      parse ("?" ++ text) = .error tooManyLayers) ∧
    (layerCount text ≤ 16 ∧ ((∃ d, parse text = .ok d) ∨
        parse text = .error (unknownName (innermost text))) ∨
      16 < layerCount text ∧ parse text = .error tooManyLayers) := by
  have marked := (oneLayerMore_marked text).parse_eq
  have bracketed := (oneLayerMore_bracketed text).parse_eq
  refine ⟨marked.trans bracketed.symm, ?_, ?_, ?_, ?_⟩
  · intro d read (few : layerCount text < layerLimit)
    rw [marked, if_pos few, read]
    rfl
  · intro name unknown (few : layerCount text < layerLimit)
    refine ⟨?_, ?_⟩
    · rw [parse_eq, if_pos (Nat.le_of_lt few)] at unknown
      cases found : named? (innermost text) with
      | some d => simp [found] at unknown
      | none => simpa [found, eq_comm] using unknown
    · rw [marked, if_pos few, unknown]
      rfl
  · intro deep
    have full : ¬layerCount text < layerLimit := by
      rcases deep with sixteen | refused
      · rw [sixteen]
        decide
      · have beyond := parse_eq_tooManyLayers_iff.1 refused
        omega
    rw [marked, if_neg full]
  · by_cases few : layerCount text ≤ layerLimit
    · refine .inl ⟨few, ?_⟩
      rw [parse_eq, if_pos few]
      cases named? (innermost text) with
      | some d => exact .inl ⟨_, rfl⟩
      | none => exact .inr rfl
    · have beyond : layerLimit < layerCount text := by omega
      exact .inr ⟨beyond, parse_eq_tooManyLayers_iff.2 beyond⟩

end TypeAssertion.Descriptor
