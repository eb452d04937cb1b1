import Mathlib.Data.List.DropRight
import TypeAssertion.Text.Blank

/-!
What trimming does to a text that is put together from parts: blanks around it are lost, and a
visible character stops the trimming on its side.
-/

set_option autoImplicit false

namespace TypeAssertion.Text

/-- A run of blank characters, possibly empty. -/
def Blanks (text : List Char) : Prop := ∀ c ∈ text, isBlank c = true

theorem blanks_nil : Blanks [] := by simp [Blanks]

theorem trimBack_append_blanks (text : List Char) {after : List Char} (h : Blanks after) :
    trimBack (text ++ after) = trimBack text := by
  have reversed : ∀ c ∈ after.reverse, isBlank c = true := fun c hc => h c (List.mem_reverse.1 hc)
  rw [trimBack, trimFront, List.reverse_append, List.dropWhile_append_of_pos reversed]
  rfl

theorem trimBack_append_visible (text : List Char) {c : Char} (h : isBlank c = false) :
    trimBack (text ++ [c]) = text ++ [c] :=
  List.rdropWhile_concat_neg isBlank text c (by simp [h])

/-- A visible character stops the trimming from the back, whatever stands after it. -/
theorem trimBack_cons {c : Char} (h : isBlank c = false) (text : List Char) :
    trimBack (c :: text) = c :: trimBack text := by
  induction text using List.reverseRecOn with
  | nil => exact trimBack_append_visible [] h
  | append_singleton text d ih =>
    by_cases hd : isBlank d = true
    · have single : Blanks [d] := by simpa [Blanks] using hd
      rw [← List.cons_append, trimBack_append_blanks _ single, ih, trimBack_append_blanks _ single]
    · rw [← List.cons_append, trimBack_append_visible _ (by simpa using hd),
        trimBack_append_visible _ (by simpa using hd), List.cons_append]

theorem trim_cons {c : Char} (h : isBlank c = false) (text : List Char) :
    trim (c :: text) = c :: trimBack text := by
  rw [trim, trimFront, List.dropWhile_cons_of_neg (by simp [h]), trimBack_cons h]

theorem trim_append_blanks (text : List Char) {after : List Char} (h : Blanks after) :
    trim (text ++ after) = trim text := by
  unfold trim trimFront
  by_cases visible : ∀ c ∈ text, isBlank c = true
  · rw [List.dropWhile_append_of_pos visible, List.dropWhile_eq_nil_iff.2 visible,
      List.dropWhile_eq_nil_iff.2 h]
  · have stops : (List.dropWhile isBlank text).isEmpty = false := by
      simpa [List.isEmpty_iff, List.dropWhile_eq_nil_iff] using visible
    rw [List.dropWhile_append, stops]
    exact trimBack_append_blanks _ h

/-- The blanks around a text do not count. -/
theorem trim_surrounded {before after : List Char} (hb : Blanks before) (ha : Blanks after)
    (text : List Char) : trim (before ++ text ++ after) = trim text := by
  rw [trim_append_blanks _ ha, trim, trimFront, List.dropWhile_append_of_pos hb]
  rfl

/-- A text is what trimming leaves of it, with blanks around. -/
theorem exists_trim_surrounded (text : List Char) :
    ∃ before after, Blanks before ∧ Blanks after ∧ text = before ++ trim text ++ after := by
  refine ⟨text.takeWhile isBlank, (trimFront text).rtakeWhile isBlank, ?_, ?_, ?_⟩
  · exact fun c hc => List.mem_takeWhile_imp hc
  · exact fun c hc => List.mem_rtakeWhile_imp hc
  · have back : trim text ++ (trimFront text).rtakeWhile isBlank = trimFront text :=
      List.rdropWhile_append_rtakeWhile
    rw [List.append_assoc, back, trimFront, List.takeWhile_append_dropWhile]

theorem trim_trimBack (text : List Char) : trim (trimBack text) = trim text := by
  have back : trimBack text ++ text.rtakeWhile isBlank = text :=
    List.rdropWhile_append_rtakeWhile
  conv_rhs => rw [← back, trim_append_blanks _ fun c hc => List.mem_rtakeWhile_imp hc]

/-- A text with visible characters at both ends is left as it is. -/
theorem trim_bounded {c d : Char} (hc : isBlank c = false) (hd : isBlank d = false)
    (text : List Char) : trim (c :: (text ++ [d])) = c :: (text ++ [d]) := by
  rw [trim_cons hc, trimBack_append_visible _ hd]

end TypeAssertion.Text
