import TypeAssertion.Proofs.Descriptor.Grammar

/-!
What is shown of a descriptor reads back. A built-in descriptor under layers is shown with brackets
around each layer. The same text may be written with other capitals, with blanks between its parts
and with marks for brackets. Each such text has a shape with the same layers over the same name, so
the law of the reader settles what it reads as, and two descriptors that are shown alike are one.
-/

set_option autoImplicit false

namespace TypeAssertion.Descriptor

open Text (Blanks lower)

/-- How a layer is shown around what it holds. -/
def shownLayer (inner : List Char) : List Char := "Nullable<".toList ++ inner ++ ['>']

/-- A shown text, and one that differs from it only in the case of letters, in blanks around the
name, around what a layer holds and around the layer, and in layers with a mark for brackets. -/
inductive Respelt : List Char → List Char → Prop
  | name {shown before written after : List Char} :
      (∀ c ∈ shown, c.isAlpha = true) → lower written = lower shown →
      Blanks before → Blanks after →
      Respelt shown (before ++ written ++ after)
  | bracketed {shown before opening inner after : List Char} :
      lower opening = lower "Nullable<".toList → Respelt shown inner →
      Blanks before → Blanks after →
      Respelt (shownLayer shown) (before ++ (opening ++ inner ++ ['>']) ++ after)
  | marked {shown before inner after : List Char} :
      Respelt shown inner → Blanks before → Blanks after →
      Respelt (shownLayer shown) (before ++ '?' :: inner ++ after)

/-! ### Shown texts -/

/-- A built-in descriptor is shown as a name that stands for it. -/
theorem exists_name_of_mem_supported {base : Descriptor} (builtIn : base ∈ supported) :
    ∃ name : BaseName, name.meaning = base ∧
      lower base.display.toList = name.spelling.toList ∧
      ∀ c ∈ base.display.toList, c.isAlpha = true := by
  simp only [supported, Primitive.all, List.map_cons, List.map_nil, List.cons_append,
    List.nil_append, List.mem_cons, List.not_mem_nil, or_false] at builtIn
  rcases builtIn with rfl | rfl | rfl | rfl | rfl | rfl | rfl
  · exact ⟨.string, rfl, rfl, List.all_eq_true.1 rfl⟩
  · exact ⟨.boolean, rfl, rfl, List.all_eq_true.1 rfl⟩
  · exact ⟨.number, rfl, rfl, List.all_eq_true.1 rfl⟩
  · exact ⟨.array, rfl, rfl, List.all_eq_true.1 rfl⟩
  · exact ⟨.object, rfl, rfl, List.all_eq_true.1 rfl⟩
  · exact ⟨.function, rfl, rfl, List.all_eq_true.1 rfl⟩
  · exact ⟨.nothing, rfl, rfl, List.all_eq_true.1 rfl⟩

theorem toList_display_nullable (inner : Descriptor) :
    (nullable inner).display.toList = shownLayer inner.display.toList := by
  have closing : ">".toList = ['>'] := rfl
  unfold shownLayer
  rw [display, String.toList_append, String.toList_append, closing]

/-- What is shown of a built-in descriptor under layers is one of its spellings. -/
theorem respelt_display {base : Descriptor} (builtIn : base ∈ supported) (layers : Nat) :
    Respelt (base.underLayers layers).display.toList (base.underLayers layers).display.toList := by
  induction layers with
  | zero =>
    obtain ⟨_, _, _, letters⟩ := exists_name_of_mem_supported builtIn
    have bare := Respelt.name letters rfl Text.blanks_nil Text.blanks_nil
    rwa [List.nil_append, List.append_nil] at bare
  | succ layers ih =>
    have bracketed := Respelt.bracketed rfl ih Text.blanks_nil Text.blanks_nil
    rw [List.nil_append, List.append_nil] at bracketed
    rw [underLayers, toList_display_nullable]
    exact bracketed

/-! ### Shapes of spellings -/

private theorem not_isAlpha_shownLayer (inner : List Char) :
    ¬∀ c ∈ shownLayer inner, c.isAlpha = true := by
  intro letters
  have bracket := letters '>' (List.mem_append_right _ (List.mem_singleton_self _))
  exact absurd bracket (by decide)

/-- A spelling of a name has the shape of the name. -/
theorem Respelt.derives_name {shown text : List Char} {name : BaseName} (h : Respelt shown text)
    (letters : ∀ c ∈ shown, c.isAlpha = true) (spelled : lower shown = name.spelling.toList) :
    Derives text (.base name) := by
  cases h with
  | name _ same hb ha => exact .base hb ha (same.trans spelled)
  | bracketed _ _ _ _ => exact absurd letters (not_isAlpha_shownLayer _)
  | marked _ _ _ => exact absurd letters (not_isAlpha_shownLayer _)

/-- A spelling of a layer has a layer around a spelling of what is in the layer. -/
theorem Respelt.exists_derives_layer {shown text : List Char}
    (h : Respelt (shownLayer shown) text) :
    ∃ inner, Respelt shown inner ∧ ∀ shape, Derives inner shape →
      ∃ outer, Derives text outer ∧ outer.layers = shape.layers + 1 ∧ outer.name = shape.name := by
  generalize whole : shownLayer shown = layer at h
  cases h with
  | name letters _ _ _ =>
    rw [← whole] at letters
    exact absurd letters (not_isAlpha_shownLayer shown)
  | bracketed spelled held hb ha =>
    obtain rfl := List.append_cancel_left (List.append_cancel_right whole)
    refine ⟨_, held, fun shape derives => ⟨.bracketed shape, ?_, rfl, rfl⟩⟩
    exact .bracketed hb ha spelled derives
  | marked held hb ha =>
    obtain rfl := List.append_cancel_left (List.append_cancel_right whole)
    refine ⟨_, held, fun shape derives => ⟨.marked shape, ?_, rfl, rfl⟩⟩
    exact .marked hb ha derives

/-- Every spelling of what is shown has a shape with the layers and the meaning of the descriptor.
The induction is on the layers, from the inside out. -/
theorem exists_derives_of_respelt {base : Descriptor} (builtIn : base ∈ supported) {layers : Nat}
    {text : List Char} (h : Respelt (base.underLayers layers).display.toList text) :
    ∃ shape, Derives text shape ∧ shape.layers = layers ∧ shape.name.meaning = base := by
  induction layers generalizing text with
  | zero =>
    obtain ⟨name, meant, spelled, letters⟩ := exists_name_of_mem_supported builtIn
    exact ⟨.base name, h.derives_name letters spelled, rfl, meant⟩
  | succ layers ih =>
    rw [underLayers, toList_display_nullable] at h
    obtain ⟨inner, held, around⟩ := h.exists_derives_layer
    obtain ⟨shape, derives, count, meant⟩ := ih held
    obtain ⟨outer, derives, more, named⟩ := around shape derives
    exact ⟨outer, derives, by rw [more, count], by rw [named, meant]⟩

/-! ### Reading back -/

/-- A spelling reads as the descriptor that is shown, unless that has too many layers. -/
theorem parse_of_respelt {base : Descriptor} (builtIn : base ∈ supported) {layers : Nat}
    {text : String} (h : Respelt (base.underLayers layers).display.toList text.toList) :
    parse text =
      if layers ≤ 16 then .ok (base.underLayers layers)
      else .error (.precondition (.descriptorText .tooManyLayers)) := by
  obtain ⟨shape, derives, count, meant⟩ := exists_derives_of_respelt builtIn h
  have read := ofText_of_derives derives
  rw [meaning_eq_underLayers, meant, count] at read
  unfold parse
  rw [read]
  by_cases few : layers ≤ 16
  · simp [layerLimit, few]
  · simp [layerLimit, few]

/-- Descriptors that are shown alike have the same layers over the same base, for a text has no two
shapes. -/
theorem eq_of_display_eq {first second : Descriptor} (hf : first ∈ supported)
    (hs : second ∈ supported) {few many : Nat}
    (same : (first.underLayers few).display = (second.underLayers many).display) :
    first = second ∧ few = many := by
  have shown := respelt_display hs many
  obtain ⟨a, derives_a, count_a, meant_a⟩ := exists_derives_of_respelt hf (same ▸ shown)
  obtain ⟨b, derives_b, count_b, meant_b⟩ := exists_derives_of_respelt hs shown
  obtain rfl := shape_unique derives_a derives_b (by rw [same])
  exact ⟨meant_a.symm.trans meant_b, count_a.symm.trans count_b⟩

/-- What is shown of a built-in descriptor under some layers reads back as that descriptor, however
it is respelt and whether a text or a string holds it, as long as there are at most sixteen layers;
with more of them a precondition breaks. Nothing else built in is shown alike. -/
theorem shown_descriptor_reads_back {base : Descriptor} (builtIn : base ∈ supported)
    (layers : Nat) :
    let descriptor := base.underLayers layers
    Respelt descriptor.display.toList descriptor.display.toList ∧
    (∀ text : String, Respelt descriptor.display.toList text.toList →
      ∀ read ∈ [parse text, ofValue (.string text), ofValue (.boxedString text)],
        (layers ≤ 16 → read = .ok descriptor) ∧
        (16 < layers → read = .error (.precondition (.descriptorText .tooManyLayers)))) ∧
    ∀ other ∈ supported, ∀ count,
      (other.underLayers count).display = descriptor.display → other = base ∧ count = layers := by
  intro descriptor
  refine ⟨respelt_display builtIn layers, ?_, ?_⟩
  · intro text respelt read among
    have parsed := parse_of_respelt builtIn respelt
    -- A string is read by its text, plain or boxed.
    have same : read = parse text := by simpa [ofValue, Value.text?] using among
    rw [same, parsed]
    constructor
    · intro few
      rw [if_pos few]
    · intro many
      rw [if_neg (by omega)]
  · intro other builtIn' count same
    exact eq_of_display_eq builtIn' builtIn same

/-- Three layers, of which two have marks, in mixed letters and with blanks between the parts; and
one layer too many, as it is shown. -/
theorem mixed_spelling_of_number_reads_back :
    number ∈ supported ∧
    Respelt (number.underLayers 3).display.toList " ?nULLABLE< ? NuMBER\u2003> ".toList ∧
    parse " ?nULLABLE< ? NuMBER\u2003> " = .ok (.nullable (.nullable (.nullable .number))) ∧
    parse (number.underLayers 17).display =
      .error (.precondition (.descriptorText .tooManyLayers)) := by
  have builtIn : number ∈ supported := by simp [supported, Primitive.all]
  have space : Blanks [' '] := List.all_eq_true.1 rfl
  have wide : Blanks ['\u2003'] := List.all_eq_true.1 rfl
  have letters : ∀ c ∈ number.display.toList, c.isAlpha = true := List.all_eq_true.1 rfl
  have name := @Respelt.name number.display.toList _ ['N', 'u', 'M', 'B', 'E', 'R'] _
    letters rfl space wide
  have inside := Respelt.marked name space Text.blanks_nil
  have bracketed := @Respelt.bracketed _ _ ['n', 'U', 'L', 'L', 'A', 'B', 'L', 'E', '<'] _ _ rfl
    inside Text.blanks_nil space
  have respelt : Respelt (number.underLayers 3).display.toList
      " ?nULLABLE< ? NuMBER\u2003> ".toList := by
    rw [underLayers, underLayers, underLayers, toList_display_nullable, toList_display_nullable,
      toList_display_nullable]
    exact Respelt.marked bracketed space Text.blanks_nil
  obtain ⟨-, few, -⟩ := shown_descriptor_reads_back builtIn 3
  obtain ⟨shown, many, -⟩ := shown_descriptor_reads_back builtIn 17
  refine ⟨builtIn, respelt, ?_, ?_⟩
  · exact (few _ respelt (parse _) (by simp)).1 (by decide)
  · exact (many _ shown (parse _) (by simp)).2 (by decide)

end TypeAssertion.Descriptor
