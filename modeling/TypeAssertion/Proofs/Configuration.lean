import TypeAssertion.Configuration

/-!
The setting for a whole run, source by source. The flag goes before everything. Then the text of the
environment decides if its word stands for a setting, whatever a configuration says, and any other
text is as good as none.
-/

set_option autoImplicit false

namespace TypeAssertion.Configuration

/-- The word in a text of the environment, without the blanks around it and in small letters. -/
def settingWord (text : String) : String := String.ofList (Text.lower (Text.trim text.toList))

/-- What the three sources settle on. -/
structure SettledBy (configuration? : Option Configuration) (setting? : Option String)
    (turnedOff enforced : Bool) : Prop where
  flag : turnedOff = true → enforced = false
  off : turnedOff = false → ∀ text ∈ setting?,
    settingWord text ∈ ["0", "false", "off", "no"] → enforced = false
  on : turnedOff = false → ∀ text ∈ setting?,
    settingWord text ∈ ["1", "true", "on", "yes"] → enforced = true
  fallback : turnedOff = false →
    (∀ text ∈ setting?, settingWord text ∉ ["0", "false", "off", "no"] ∧
      settingWord text ∉ ["1", "true", "on", "yes"]) →
    enforced = (configuration?.map Configuration.enforce).getD true

theorem settingOfText?_eq (text : String) :
    settingOfText? text =
      if settingWord text ∈ offWords then some false
      else if settingWord text ∈ onWords then some true
      else none := by
  simp only [settingOfText?, List.contains_iff_mem]
  rfl

theorem settingOfText?_of_off {text : String} (off : settingWord text ∈ offWords) :
    settingOfText? text = some false := by
  rw [settingOfText?_eq, if_pos off]

/-- No word stands for both settings. -/
theorem settingOfText?_of_on {text : String} (on : settingWord text ∈ onWords) :
    settingOfText? text = some true := by
  have apart : ∀ word ∈ onWords, word ∉ offWords := by decide
  rw [settingOfText?_eq, if_neg (apart _ on), if_pos on]

theorem settingOfText?_of_neither {text : String} (off : settingWord text ∉ offWords)
    (on : settingWord text ∉ onWords) : settingOfText? text = none := by
  rw [settingOfText?_eq, if_neg off, if_neg on]

theorem getD_standard (configuration? : Option Configuration) :
    (configuration?.getD standard).enforce =
      (configuration?.map Configuration.enforce).getD true := by
  cases configuration? <;> rfl

/-- The setting of a run, and the report of a text that stands for none. -/
theorem run_resolve (configuration? : Option Configuration) (setting? : Option String)
    (turnedOff : Bool) (monitor : Monitor) :
    (resolve configuration? setting? turnedOff).run monitor =
      if turnedOff then (false, monitor)
      else
        match setting? with
        | none => ((configuration?.getD standard).enforce, monitor)
        | some text =>
          match settingOfText? text with
          | some enabled => (enabled, monitor)
          | none => ((configuration?.getD standard).enforce,
              ((report (.settingIgnored text)).run monitor).2) := by
  cases turnedOff with
  | true => rfl
  | false =>
    cases setting? with
    | none => rfl
    | some text =>
      simp only [resolve]
      cases settingOfText? text <;> rfl

/-- Resolving gives what the sources settle on, whatever the switch is. -/
theorem settledBy_resolve (configuration? : Option Configuration) (setting? : Option String)
    (turnedOff : Bool) (monitor : Monitor) :
    SettledBy configuration? setting? turnedOff
      ((resolve configuration? setting? turnedOff).run monitor).1 where
  flag := by
    rintro rfl
    rw [run_resolve, if_pos rfl]
  off := by
    rintro rfl text rfl word
    have read : settingOfText? text = some false := settingOfText?_of_off word
    rw [run_resolve, if_neg Bool.false_ne_true]
    simp only [read]
  on := by
    rintro rfl text rfl word
    have read : settingOfText? text = some true := settingOfText?_of_on word
    rw [run_resolve, if_neg Bool.false_ne_true]
    simp only [read]
  fallback := by
    rintro rfl foreign
    rw [run_resolve, if_neg Bool.false_ne_true, ← getD_standard]
    cases setting? with
    | none => rfl
    | some text =>
      obtain ⟨off, on⟩ := foreign text rfl
      have read : settingOfText? text = none := settingOfText?_of_neither off on
      simp only [read]

end TypeAssertion.Configuration
