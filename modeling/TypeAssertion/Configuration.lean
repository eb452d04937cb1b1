import TypeAssertion.Configuration.Document
import TypeAssertion.Enforcement
import TypeAssertion.Yaml.Layout

/-!
The setting of the switch for a whole run, from three sources, each going before the one before it:
a configuration document, the environment, and the flag that turns enforcement off. Without any of
them enforcement is on.
-/

set_option autoImplicit false

namespace TypeAssertion

/-- The content of a configuration document. -/
structure Configuration where
  enforce : Bool
  deriving DecidableEq

namespace Configuration

def standard : Configuration := ⟨true⟩

/-- The configuration that a text holds. A text of blanks alone says nothing. -/
def ofText? (text : String) : Option Configuration :=
  if (Text.trim text.toList).isEmpty then some standard
  else ((Yaml.tokens? text).bind readStream?).map fun found => ⟨found.getD standard.enforce⟩

def offWords : List String := ["0", "false", "off", "no"]

def onWords : List String := ["1", "true", "on", "yes"]

/-- The setting that a text of the environment stands for. Blanks around it and case do not
matter. -/
def settingOfText? (text : String) : Option Bool :=
  let word := String.ofList (Text.lower (Text.trim text.toList))
  if offWords.contains word then some false
  else if onWords.contains word then some true
  else none

/-- The setting of the three sources. A text of the environment that stands for none is reported and
ignored. -/
def resolve (configuration? : Option Configuration) (setting? : Option String)
    (turnedOff : Bool) : Monitored Bool := do
  let fallback := (configuration?.getD standard).enforce
  if turnedOff then return false
  match setting? with
  | none => return fallback
  | some text =>
    match settingOfText? text with
    | some enabled => return enabled
    | none =>
      report (.settingIgnored text)
      return fallback

end Configuration

end TypeAssertion
