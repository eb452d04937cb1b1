import TypeAssertion.Proofs.Descriptor.Peeling
import TypeAssertion.Proofs.Text.Cut

/-!
Layers taken off by byte offsets. Of the two cuts that a layer in brackets takes, that of the opening
bracket may be declined, and that of what the brackets hold stops the loop where it cannot be made.
It always can: the opening bracket ends where a character does, and the closing one is a single byte.
So the cuts find the layers that the characters show, each turn goes on with a shorter text, and the
limit on the layers bounds the turns.
-/

set_option autoImplicit false

namespace TypeAssertion.Descriptor

open Text (Cut lower trim)

/-! ### One turn -/

/-- The size of the opening bracket in bytes. -/
def openingSize : Nat := (String.ofList nullableOpening).utf8ByteSize

/-- The cut of the opening bracket of a layer. -/
def openingCut (text : String) : Cut := ⟨text, 0, openingSize⟩

/-- The cut of what the brackets of a layer hold. -/
def insideCut (text : String) : Cut := ⟨text, openingSize, text.utf8ByteSize - 1⟩

/-- True of a text that stands in the brackets of a nullable layer, told by its bytes. A text that
has no character border after the opening bracket is in none. -/
def isBracketed (text : String) : Bool :=
  text.toList.getLast? == some '>' && decide (openingSize < text.utf8ByteSize) &&
    (openingCut text).part?.any fun opening => lower opening.toList == nullableOpening

/-- One turn of the loop: the text under the outermost layer, if there is one. It is stopped by a cut
that cannot be made. -/
def takeLayer (text : String) : Except Cut (Option String) :=
  match text.toList with
  | '?' :: rest => .ok (some (String.ofList (trim rest)))
  | _ =>
    if isBracketed text then
      match (insideCut text).part? with
      | some inside => .ok (some (String.ofList (trim inside.toList)))
      | none => .error (insideCut text)
    else .ok none

/-- The opening bracket takes the same bytes in letters of any case. -/
theorem size_of_lower_eq_opening {opening : List Char} (letters : lower opening = nullableOpening) :
    (String.ofList opening).utf8ByteSize = openingSize := by
  rw [← Text.utf8ByteSize_lower, letters, openingSize]

/-- A text in brackets is its opening bracket, what it holds, and the closing bracket. -/
structure Brackets (text opening inside : String) : Prop where
  eq_append : text = opening ++ inside ++ ">"
  letters : lower opening.toList = nullableOpening
  size : opening.utf8ByteSize = openingSize

theorem brackets_of_isWrapped {text : String} (wrapped : isWrapped text.toList = true) :
    Brackets text (String.ofList (text.toList.take nullableOpening.length))
      (String.ofList ((text.toList.drop nullableOpening.length).dropLast)) := by
  obtain ⟨parts, letters⟩ := bracketed_of_isWrapped wrapped
  refine ⟨?_, ?_, size_of_lower_eq_opening letters⟩
  · rw [← String.ofList_append]
    change text = _ ++ String.ofList ['>']
    rw [← String.ofList_append, ← parts, String.ofList_toList]
  · rw [String.toList_ofList]
    exact letters

theorem Brackets.part?_openingCut {text opening inside : String}
    (brackets : Brackets text opening inside) : (openingCut text).part? = some opening := by
  have cut : openingCut text = ⟨"" ++ opening ++ (inside ++ ">"), "".utf8ByteSize,
      ("" ++ opening).utf8ByteSize⟩ := by
    rw [openingCut, brackets.eq_append, ← brackets.size, String.empty_append, String.append_assoc]
    rfl
  rw [cut, Cut.part?_of_append]

/-- The closing bracket is one byte, so the part before its last byte ends where a character does,
whatever stands before the bracket. -/
theorem Brackets.insideCut_eq {text opening inside : String}
    (brackets : Brackets text opening inside) :
    insideCut text =
      ⟨opening ++ inside ++ ">", opening.utf8ByteSize, (opening ++ inside).utf8ByteSize⟩ := by
  have closing : text.utf8ByteSize - 1 = (opening ++ inside).utf8ByteSize := by
    rw [brackets.eq_append, String.utf8ByteSize_append (s := opening ++ inside)]
    exact Nat.add_sub_cancel _ 1
  rw [insideCut, closing, brackets.size, ← brackets.eq_append]

theorem isWrapped_of_isBracketed {text : String} (bracketed : isBracketed text = true) :
    isWrapped text.toList = true := by
  rw [isBracketed, Bool.and_eq_true, Bool.and_eq_true, decide_eq_true_eq, Option.any_eq_true]
    at bracketed
  obtain ⟨⟨last, long⟩, opening, taken, letters⟩ := bracketed
  rw [beq_iff_eq] at letters
  obtain ⟨front, back, parts, start, stop⟩ := Cut.exists_append_of_part? taken
  obtain rfl : front = "" := String.utf8ByteSize_eq_zero_iff.1 start
  rw [String.empty_append] at parts stop
  obtain rfl : text = opening ++ back := parts
  -- nine bytes are nine characters here, and the byte after them is not the end of the text
  have length : opening.toList.length = nullableOpening.length := by
    rw [← letters, lower, List.length_map]
  have more : back.toList ≠ [] := by
    intro none
    have empty : back = "" := String.toList_eq_nil_iff.1 none
    rw [empty, String.append_empty] at long
    exact absurd stop (Nat.ne_of_gt long)
  have first : (opening ++ back).toList.take nullableOpening.length = opening.toList := by
    rw [String.toList_append, ← length, List.take_left]
  rw [isWrapped, last, first, letters, String.toList_append, List.length_append, length]
  simpa using List.length_pos_of_ne_nil more

theorem isBracketed_of_isWrapped {text : String} (wrapped : isWrapped text.toList = true) :
    isBracketed text = true := by
  have brackets := brackets_of_isWrapped wrapped
  have long : openingSize < text.utf8ByteSize := by
    rw [brackets.eq_append, String.utf8ByteSize_append, String.utf8ByteSize_append, brackets.size]
    exact Nat.lt_of_le_of_lt (Nat.le_add_right _ _) (Nat.lt_add_one _)
  rw [isWrapped, Bool.and_eq_true, Bool.and_eq_true] at wrapped
  rw [isBracketed, wrapped.1.1, decide_eq_true long, brackets.part?_openingCut]
  exact beq_iff_eq.2 brackets.letters

/-- Bytes and characters tell the same texts in brackets. -/
theorem isBracketed_eq (text : String) : isBracketed text = isWrapped text.toList :=
  Bool.eq_iff_iff.2 ⟨isWrapped_of_isBracketed, isBracketed_of_isWrapped⟩

/-- A letter of two bytes covers the end of the opening bracket. -/
example : isBracketed "nullableé>" = false := by decide

/-- What the brackets of a layer hold can be cut out. -/
theorem part?_insideCut {text : String} (bracketed : isBracketed text = true) :
    (insideCut text).part? =
      some (String.ofList ((text.toList.drop nullableOpening.length).dropLast)) := by
  have brackets := brackets_of_isWrapped (isWrapped_of_isBracketed bracketed)
  rw [brackets.insideCut_eq, Cut.part?_of_append]

theorem peel?_of_unmarked {text : List Char} (unmarked : ∀ rest, text = '?' :: rest → False) :
    peel? text = if isWrapped text then
      some (trim ((text.drop nullableOpening.length).dropLast)) else none := by
  unfold peel?
  split
  · next rest => exact absurd rfl (unmarked rest)
  · rfl

/-- A turn is never stopped, and takes off the layer that the characters of the text show. -/
theorem takeLayer_eq (text : String) :
    takeLayer text = .ok ((peel? text.toList).map String.ofList) := by
  unfold takeLayer
  split
  · next rest marked =>
    rw [marked]
    rfl
  · next unmarked =>
    rw [peel?_of_unmarked unmarked, ← isBracketed_eq]
    cases bracketed : isBracketed text with
    | false => rfl
    | true =>
      rw [part?_insideCut bracketed]
      simp only [if_true, String.toList_ofList, Option.map_some]

example : takeLayer "Nullable< é>" = .ok (some "é") := rfl

theorem peel?_of_takeLayer_none {text : String} (taken : takeLayer text = .ok none) :
    peel? text.toList = none := by
  rw [takeLayer_eq] at taken
  exact Option.map_eq_none_iff.1 (Except.ok.inj taken)

theorem peel?_of_takeLayer {text inner : String} (taken : takeLayer text = .ok (some inner)) :
    peel? text.toList = some inner.toList := by
  rw [takeLayer_eq] at taken
  obtain ⟨rest, peeled, rfl⟩ := Option.map_eq_some_iff.1 (Except.ok.inj taken)
  rw [peeled, String.toList_ofList]

/-- A layer that is taken off leaves fewer bytes. -/
theorem size_lt_of_takeLayer {text inner : String} (taken : takeLayer text = .ok (some inner)) :
    inner.utf8ByteSize < text.utf8ByteSize := by
  rw [← String.ofList_toList (s := text), ← String.ofList_toList (s := inner)]
  rcases eq_of_peel? (peel?_of_takeLayer taken) with
    ⟨rest, marked, trimmed⟩ | ⟨opening, rest, bracketed, -, trimmed⟩
  · have shorter := Text.utf8ByteSize_trim_le rest
    rw [marked, trimmed, Text.utf8ByteSize_ofList_cons]
    have mark : '?'.utf8Size = 1 := rfl
    omega
  · have shorter := Text.utf8ByteSize_trim_le rest
    rw [bracketed, trimmed, String.ofList_append, String.ofList_append, String.utf8ByteSize_append,
      String.utf8ByteSize_append]
    have bracket : (String.ofList ['>']).utf8ByteSize = 1 := rfl
    omega

/-! ### The loop -/

/-- A run of the loop: the texts that its turns look at, in their order, and what it ends with. That is
the number of layers and the text under them, nothing when there are too many layers, or the cut that
stopped it. -/
structure Run where
  visited : List String
  found : Except Cut (Option (Nat × String))

/-- Runs the loop on a text that some layers have been taken off already. -/
def turns (layers : Nat) (text : String) : Run :=
  match taken : takeLayer text with
  | .error cut => ⟨[text], .error cut⟩
  | .ok none => ⟨[text], .ok (some (layers, text))⟩
  | .ok (some inner) =>
    if layerLimit < layers + 1 then ⟨[text], .ok none⟩
    else ⟨text :: (turns (layers + 1) inner).visited, (turns (layers + 1) inner).found⟩
termination_by text.utf8ByteSize
decreasing_by all_goals exact size_lt_of_takeLayer taken

/-- What a run comes to: it has a turn for each layer up to the limit and one more, each on a shorter
text, is not stopped, and finds all layers or that there are too many. -/
structure Completed (layers : Nat) (text : String) (run : Run) : Prop where
  head : run.visited.head? = some text
  shortening : run.visited.IsChain fun text inner => inner.utf8ByteSize < text.utf8ByteSize
  length : run.visited.length = min (peelAll text.toList).1 (layerLimit - layers) + 1
  found : run.found = .ok (if layers + (peelAll text.toList).1 ≤ layerLimit then
    some (layers + (peelAll text.toList).1, String.ofList (peelAll text.toList).2) else none)

theorem completed_turns (layers : Nat) (text : String) (few : layers ≤ layerLimit) :
    Completed layers text (turns layers text) := by
  fun_induction turns layers text with
  | case1 layers text cut taken =>
    rw [takeLayer_eq] at taken
    cases taken
  | case2 layers text taken =>
    have bare := peelAll_of_bare (peel?_of_takeLayer_none taken)
    exact ⟨rfl, .singleton _, by simp [bare], by simp [bare, few]⟩
  | case3 layers text inner taken deep =>
    have layer := peelAll_of_layer (peel?_of_takeLayer taken)
    refine ⟨rfl, .singleton _, ?_, ?_⟩
    · rw [layer, List.length_singleton]
      omega
    · rw [layer, if_neg (by simp only; omega)]
  | case4 layers text inner taken room ih =>
    have layer := peelAll_of_layer (peel?_of_takeLayer taken)
    obtain ⟨head, shortening, length, found⟩ := ih (by omega)
    refine ⟨rfl, ?_, ?_, ?_⟩
    · obtain ⟨later, split⟩ := List.head?_eq_some_iff.1 head
      rw [split] at shortening ⊢
      exact .cons_cons (size_lt_of_takeLayer taken) shortening
    · rw [layer, List.length_cons, length]
      simp only
      omega
    · rw [layer, found]
      simp only [Nat.add_assoc, Nat.add_comm 1]

/-- What a turn does with any text. Each part that is cut out lies in the text, between borders of
characters, and without a border after the ninth byte no brackets are seen. The turn is not stopped,
and a layer that it takes off leaves fewer bytes. -/
structure Safe (text : String) : Prop where
  opening : ∀ part, (⟨text, 0, 9⟩ : Cut).part? = some part → (⟨text, 0, 9⟩ : Cut).Placed
  straddled : ¬(⟨9⟩ : String.Pos.Raw).IsValid text → isBracketed text = false
  inside : isBracketed text = true →
    9 < text.utf8ByteSize ∧ (⟨text, 9, text.utf8ByteSize - 1⟩ : Cut).Placed
  taken : ∃ inner?, takeLayer text = .ok inner? ∧ inner? = (peel? text.toList).map String.ofList ∧
    ∀ inner, inner? = some inner → inner.utf8ByteSize < text.utf8ByteSize

theorem safe (text : String) : Safe text where
  opening part taken := Cut.placed_of_part? taken
  straddled covered := by
    by_contra bracketed
    rw [Bool.not_eq_false, isBracketed_eq] at bracketed
    have taken := (brackets_of_isWrapped bracketed).part?_openingCut
    exact covered (Cut.placed_of_part? taken).ends
  inside bracketed := by
    refine ⟨?_, Cut.placed_of_part? (part?_insideCut bracketed)⟩
    rw [isBracketed, Bool.and_eq_true, Bool.and_eq_true, decide_eq_true_eq] at bracketed
    exact bracketed.1.2
  taken := ⟨_, takeLayer_eq text, rfl, fun inner peeled =>
    size_lt_of_takeLayer ((takeLayer_eq text).trans (congrArg Except.ok peeled))⟩

/-- What is read from what the loop finds. -/
def reading : Option (Nat × String) → Except Failure Descriptor
  | none => .error tooManyLayers
  | some (layers, base) =>
    match named? base with
    | some descriptor => .ok (descriptor.underLayers layers)
    | none => .error (unknownName base)

theorem parse_eq_reading (text : String) :
    parse text = reading (if layerCount text ≤ layerLimit then
      some (layerCount text, innermost text) else none) := by
  rw [parse_eq]
  by_cases few : layerCount text ≤ layerLimit
  · rw [if_pos few, if_pos few]
    rfl
  · rw [if_neg few, if_neg few]
    rfl

/-- The loop that reads a descriptor is never stopped by a cut. What it cuts out of any text lies in
the text, between borders of characters; each turn that takes a layer off goes on with a shorter
text; there is one turn more than there are layers, and at most seventeen; and the descriptor is read
from what the loop finds. -/
theorem layers_are_cut_between_characters (text : String) :
    (∀ rest : String, Safe rest) ∧
    let run := turns 0 (String.ofList (trim text.toList))
    run.visited.head? = some (String.ofList (trim text.toList)) ∧
    run.visited.IsChain (fun rest inner => inner.utf8ByteSize < rest.utf8ByteSize) ∧
    run.visited.length = min (layerCount text) 16 + 1 ∧ run.visited.length ≤ 17 ∧
    ∃ found, run.found = .ok found ∧ parse text = reading found := by
  refine ⟨safe, ?_⟩
  obtain ⟨head, shortening, length, found⟩ :=
    completed_turns 0 (String.ofList (trim text.toList)) (Nat.zero_le layerLimit)
  rw [String.toList_ofList] at length found
  rw [Nat.zero_add] at found
  refine ⟨head, shortening, length, ?_, _, found, parse_eq_reading text⟩
  rw [length]
  exact Nat.succ_le_succ (Nat.min_le_right _ _)

end TypeAssertion.Descriptor
