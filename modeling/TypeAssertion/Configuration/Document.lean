import TypeAssertion.Yaml.Token

/-!
What a YAML document says as a configuration. It is a mapping with at most the key `enforce`, whose
value is a boolean; an empty document stands for the empty mapping. The key may be written in any
style. The value is a plain word, or a literal one that the tag of booleans marks; another tag of a
plain word says nothing. Nothing that refers, nests or lists has a place in such a document, and a
stream has one document only.
-/

set_option autoImplicit false

namespace TypeAssertion.Configuration

open Yaml (Token Tag ScalarStyle)

abbrev Handles := List (List Char × List Char)

/-- What stands for the first part of the names of the language's own tags. -/
def languageTags : List Char := "tag:yaml.org,2002:".toList

def booleanTag : List Char := languageTags ++ "bool".toList

def standardHandles : Handles := [(['!'], ['!']), (['!', '!'], languageTags)]

/-- The name of a tag, if its handle is known. A declared handle goes before a standard one. -/
def tagName? (handles : Handles) (tag : Tag) : Option (List Char) :=
  if tag.handle.isEmpty then some tag.ending
  else (handles.lookup tag.handle).map (· ++ tag.ending)

def booleanWords : List (List Char × Bool) :=
  [("true", true), ("True", true), ("TRUE", true), ("false", false), ("False", false),
    ("FALSE", false)].map fun (word, truth) => (word.toList, truth)

/-- What stands before a node: the name of its tag, and whether anything does. -/
structure Marks where
  tagName? : Option (List Char)
  isMarked : Bool

/-- Reads the tag and the anchor before a node, which come in any order. -/
def readMarks? (handles : Handles) : List Token → Option (Marks × List Token)
  | .anchor :: .tag tag :: rest => (tagName? handles tag).map (⟨some ·, true⟩, rest)
  | .tag tag :: .anchor :: rest => (tagName? handles tag).map (⟨some ·, true⟩, rest)
  | .tag tag :: rest => (tagName? handles tag).map (⟨some ·, true⟩, rest)
  | .anchor :: rest => some (⟨none, true⟩, rest)
  | tokens => some (⟨none, false⟩, tokens)

def readKey? (handles : Handles) (tokens : List Token) : Option (List Token) := do
  let (_, rest) ← readMarks? handles tokens
  match rest with
  | .scalar _ text :: rest => if text == "enforce".toList then some rest else none
  | _ => none

def readBoolean? (handles : Handles) (tokens : List Token) : Option (Bool × List Token) := do
  let (marks, rest) ← readMarks? handles tokens
  match rest with
  | .scalar style text :: rest =>
    if style == .plain || (style == .literal && marks.tagName? == some booleanTag) then
      (booleanWords.lookup text).map (·, rest)
    else none
  | _ => none

def readEntry? (handles : Handles) (tokens : List Token) : Option (Bool × List Token) := do
  let rest ← readKey? handles tokens
  match rest with
  | .value :: rest => readBoolean? handles rest
  | _ => none

/-- Reads a mapping or, if anything marks it, an empty node. -/
def readContent? (handles : Handles) (tokens : List Token) :
    Option (Option Bool × List Token) := do
  let (marks, rest) ← readMarks? handles tokens
  match rest with
  | .blockMapping :: .key :: rest =>
    match ← readEntry? handles rest with
    | (truth, .blockEnd :: rest) => some (some truth, rest)
    | _ => none
  | .flowMapping :: .flowMappingEnd :: rest => some (none, rest)
  | .flowMapping :: .key :: rest =>
    match ← readEntry? handles rest with
    | (truth, .flowMappingEnd :: rest) => some (some truth, rest)
    | (truth, .flowEntry :: .flowMappingEnd :: rest) => some (some truth, rest)
    | _ => none
  | rest => if marks.isMarked then some (none, rest) else none

/-- Reads the directives at the head of a document: at most one version, which is 1.1 or 1.2, and
each handle once. -/
def readDirectives? (hasVersion : Bool) (declared : Handles) :
    List Token → Option (Handles × List Token)
  | .version major minor :: rest =>
    if !hasVersion && major == 1 && (minor == 1 || minor == 2) then
      readDirectives? true declared rest
    else none
  | .handle name expansion :: rest =>
    if (declared.lookup name).isSome then none
    else readDirectives? hasVersion (declared ++ [(name, expansion)]) rest
  | rest => some (declared ++ standardHandles, rest)

def isEnded (tokens : List Token) : Bool := tokens.all (· == .documentEnd)

def readLast? (handles : Handles) (tokens : List Token) : Option (Option Bool) := do
  let (found, rest) ← readContent? handles tokens
  if isEnded rest then some found else none

/-- What a stream says about the key: nothing, or its boolean. No answer means that the stream is
refused. A document with directives has a start marker. -/
def readStream? (tokens : List Token) : Option (Option Bool) := do
  let (handles, rest) ← readDirectives? false [] tokens
  match rest with
  | .documentStart :: rest => if isEnded rest then some none else readLast? handles rest
  | rest =>
    if tokens.isEmpty then some none
    else if rest.length < tokens.length then none
    else readLast? handles rest

end TypeAssertion.Configuration
