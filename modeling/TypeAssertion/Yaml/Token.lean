/-!
The tokens of a YAML stream. Collections in block form have no brackets in the text: the start and
the end that indentation gives them are tokens all the same.
-/

set_option autoImplicit false

namespace TypeAssertion.Yaml

/-- How a scalar is written. -/
inductive ScalarStyle where
  | plain
  | quoted
  | literal
  | folded
  deriving DecidableEq

/-- A tag as it is written: the handle that stands for the first part of its name, and the other
part. Without a handle the other part is the whole name. -/
structure Tag where
  handle : List Char
  ending : List Char
  deriving DecidableEq

/-- A token of a stream. -/
inductive Token where
  | version (major minor : Nat)
  | handle (name expansion : List Char)
  | documentStart
  | documentEnd
  | blockSequence
  | blockMapping
  | blockEnd
  | flowSequence
  | flowSequenceEnd
  | flowMapping
  | flowMappingEnd
  | blockEntry
  | flowEntry
  | key
  | value
  | reference
  | anchor
  | tag (tag : Tag)
  | scalar (style : ScalarStyle) (text : List Char)
  deriving DecidableEq

end TypeAssertion.Yaml
