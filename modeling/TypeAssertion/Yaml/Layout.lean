import TypeAssertion.Yaml.Scalar.Block
import TypeAssertion.Yaml.Scalar.Flow
import TypeAssertion.Yaml.Tag
import TypeAssertion.Yaml.Token

/-!
The tokens of a YAML stream. Two of them are known late or not at all from the text. A key without
a question mark is one only when its colon comes, on the same line and soon enough; until then its
place among the tokens is remembered. A collection in block form starts where a key or an entry is
indented more than the collection around it, and ends before what is indented less.
-/

set_option autoImplicit false

namespace TypeAssertion.Yaml

/-- What may turn out to be a key: where it starts, how many tokens are before it, and whether the
indentation leaves it nothing else to be. -/
structure PossibleKey where
  start : Cell
  before : Nat
  required : Bool

/-- True when a key can no longer end at a cell: it is on a later line or too far away. -/
def PossibleKey.isPast (key : PossibleKey) (cell : Cell) : Bool :=
  key.start.line < cell.line || key.start.index + 1024 < cell.index

/-- The tokens read so far, latest first, and what the layout of the rest depends on: the columns of
the open block collections, innermost first; the possible key, and those of the levels around the
open flow collections; whether a key may start here. -/
structure Layout where
  tokens : List Token
  count : Nat
  columns : List Nat
  key? : Option PossibleKey
  outerKeys : List (Option PossibleKey)
  keyAllowed : Bool

namespace Layout

def initial : Layout := ⟨[], 0, [], none, [], true⟩

def inFlow (layout : Layout) : Bool := !layout.outerKeys.isEmpty

def push (layout : Layout) (token : Token) : Layout :=
  { layout with tokens := token :: layout.tokens, count := layout.count + 1 }

/-- The layout with a token that has a number of tokens before it. -/
def insert (layout : Layout) (before : Nat) (token : Token) : Layout :=
  let later := layout.count - before
  { layout with
    tokens := layout.tokens.take later ++ token :: layout.tokens.drop later
    count := layout.count + 1 }

/-- At the end, inserting is pushing. -/
theorem insert_count (layout : Layout) (token : Token) :
    layout.insert layout.count token = layout.push token := by
  simp [insert, push]

def allowKey (layout : Layout) (allowed : Bool) : Layout := { layout with keyAllowed := allowed }

/-- The layout without its possible key. One that is required cannot be given up. -/
def dropKey? (layout : Layout) : Option Layout :=
  if layout.key?.any (·.required) then none else some { layout with key? := none }

/-- The layout without its possible key, if that can no longer end at a cell. The keys of the levels
around wait until their level is back. -/
def expireKey? (layout : Layout) (cell : Cell) : Option Layout :=
  if layout.key?.any (·.isPast cell) then layout.dropKey? else some layout

/-- The layout with a possible key that starts at a cell, if a key may start there. -/
def noteKey? (layout : Layout) (cell : Cell) : Option Layout :=
  if layout.keyAllowed then do
    let layout' ← layout.dropKey?
    let required := !layout.inFlow && layout.columns.head? == some cell.column
    some { layout' with key? := some ⟨cell, layout.count, required⟩ }
  else some layout

/-- The layout after the ends of the innermost block collections, as long as their columns fulfil a
condition. Indentation does not matter within a flow collection. -/
def closeWhile (layout : Layout) (closes : Nat → Bool) : Layout :=
  if layout.inFlow then layout
  else
    let layout' := (layout.columns.takeWhile closes).foldl (fun l _ => l.push .blockEnd) layout
    { layout' with columns := layout.columns.dropWhile closes }

def closeAll (layout : Layout) : Layout := layout.closeWhile fun _ => true

/-- The layout with a block collection at a column, if it is indented more than the one around it.
Its start has a number of tokens before it. -/
def openAt (layout : Layout) (column before : Nat) (token : Token) : Layout :=
  if layout.inFlow || layout.columns.head?.any (column ≤ ·) then layout
  else { layout.insert before token with columns := column :: layout.columns }

def pushHead? (layout : Layout) (token : Token) : Option Layout :=
  layout.closeAll.dropKey?.map fun layout => (layout.push token).allowKey false

def startFlow? (layout : Layout) (cell : Cell) (token : Token) : Option Layout :=
  (layout.noteKey? cell).map fun layout =>
    { layout.push token with
      key? := none
      outerKeys := layout.key? :: layout.outerKeys
      keyAllowed := true }

def endFlow? (layout : Layout) (token : Token) : Option Layout := do
  let layout ← layout.dropKey?
  match layout.outerKeys with
  | [] => none
  | key? :: outerKeys =>
    some { layout.push token with key? := key?, outerKeys := outerKeys, keyAllowed := false }

/-- The layout after the comma between the entries of a flow collection. -/
def pushFlowEntry? (layout : Layout) : Option Layout :=
  layout.dropKey?.map fun layout => (layout.push .flowEntry).allowKey true

/-- The layout after the hyphen before an entry of a block sequence. -/
def pushBlockEntry? (layout : Layout) (column : Nat) : Option Layout :=
  if layout.inFlow || layout.keyAllowed then
    (layout.openAt column layout.count .blockSequence).dropKey?.map fun layout =>
      (layout.push .blockEntry).allowKey true
  else none

def pushKey? (layout : Layout) (column : Nat) : Option Layout :=
  if layout.inFlow || layout.keyAllowed then
    (layout.openAt column layout.count .blockMapping).dropKey?.map fun layout =>
      (layout.push .key).allowKey !layout.inFlow
  else none

/-- The layout after the colon before a value. The possible key now is one. -/
def pushValue? (layout : Layout) (column : Nat) : Option Layout :=
  match layout.key? with
  | some key =>
    let layout := (layout.insert key.before .key).openAt key.start.column key.before .blockMapping
    some { layout.push .value with key? := none, keyAllowed := false }
  | none =>
    if layout.inFlow || layout.keyAllowed then
      let layout := layout.openAt column layout.count .blockMapping
      some ((layout.push .value).allowKey !layout.inFlow)
    else none

/-- The layout after a token that may start a key and is read in one piece. -/
def pushInLine? (layout : Layout) (cell : Cell) (token : Token) : Option Layout :=
  (layout.noteKey? cell).map fun layout => (layout.push token).allowKey false

/-- The layout after a plain scalar. A key may start on the line after it. -/
def pushPlain? (layout : Layout) (cell : Cell) (scalar : PlainScalar) : Option Layout :=
  (layout.pushInLine? cell (.scalar .plain scalar.text)).map (·.allowKey scalar.crossesLine)

def pushBlockScalar? (layout : Layout) (style : ScalarStyle) (text : List Char) : Option Layout :=
  layout.dropKey?.map fun layout => (layout.push (.scalar style text)).allowKey true

end Layout

/-- The text from the next token on, and whether a key may start there. A byte order mark may start
a line. A tab does not stand before what may be a key in block form. -/
def skipToToken (inFlow keyAllowed inComment : Bool) : List Cell → Bool × List Cell
  | [] => (keyAllowed, [])
  | c :: rest =>
    if isBreak c.char then skipToToken inFlow (keyAllowed || !inFlow) false rest
    else if inComment then skipToToken inFlow keyAllowed true rest
    else if c.char == '\ufeff' && c.column == 0 then skipToToken inFlow keyAllowed false rest
    else if c.char == ' ' || (c.char == '\t' && (inFlow || !keyAllowed)) then
      skipToToken inFlow keyAllowed false rest
    else if c.char == '#' then skipToToken inFlow keyAllowed true rest
    else (keyAllowed, c :: rest)

/-- The characters that do not start a plain scalar, apart from blanks and breaks. -/
def indicators : List Char :=
  ['-', '?', ':', ',', '[', ']', '\x7b', '\x7d', '#', '&', '*', '!', '|', '>', '\'', '"', '%', '@',
    '`']

/-- True when a plain scalar may start with a character. Three of the indicators may be the first
character of a word. -/
def startsPlain (inFlow : Bool) (c : Char) (rest : List Cell) : Bool :=
  !(isSpace c || indicators.contains c) || (c == '-' && !nextIn [' ', '\t'] rest) ||
    (!inFlow && (c == '?' || c == ':') && !endsWord rest)

def readToken? (layout : Layout) (c : Cell) (rest : List Cell) : Option (Layout × List Cell) :=
  let inFlow := layout.inFlow
  let here := c :: rest
  if c.column == 0 && c.char == '%' then do
    let (token, rest) ← readDirective? rest
    (layout.pushHead? token).map (·, rest)
  else if atMarker '-' here then (layout.pushHead? .documentStart).map (·, rest.drop 2)
  else if atMarker '.' here then (layout.pushHead? .documentEnd).map (·, rest.drop 2)
  else if c.char == '[' then (layout.startFlow? c .flowSequence).map (·, rest)
  else if c.char == '\x7b' then (layout.startFlow? c .flowMapping).map (·, rest)
  else if c.char == ']' then (layout.endFlow? .flowSequenceEnd).map (·, rest)
  else if c.char == '\x7d' then (layout.endFlow? .flowMappingEnd).map (·, rest)
  else if c.char == ',' then layout.pushFlowEntry?.map (·, rest)
  else if c.char == '-' && endsWord rest then (layout.pushBlockEntry? c.column).map (·, rest)
  else if c.char == '?' && (inFlow || endsWord rest) then
    (layout.pushKey? c.column).map (·, rest)
  else if c.char == ':' && (inFlow || endsWord rest) then
    (layout.pushValue? c.column).map (·, rest)
  else if c.char == '*' then do
    let rest ← readAnchor? rest
    (layout.pushInLine? c .reference).map (·, rest)
  else if c.char == '&' then do
    let rest ← readAnchor? rest
    (layout.pushInLine? c .anchor).map (·, rest)
  else if c.char == '!' then do
    let (tag, rest) ← readTag? inFlow rest
    (layout.pushInLine? c (.tag tag)).map (·, rest)
  else if (c.char == '|' || c.char == '>') && !inFlow then do
    let folds := c.char == '>'
    let (text, rest) ← readBlockScalar? folds layout.columns.head? rest
    (layout.pushBlockScalar? (if folds then .folded else .literal) text).map (·, rest)
  else if c.char == '\'' then do
    let (text, rest) ← readSingle? [] [] rest
    (layout.pushInLine? c (.scalar .quoted text)).map (·, rest)
  else if c.char == '"' then do
    let (text, rest) ← readDouble? [] [] false rest
    (layout.pushInLine? c (.scalar .quoted text)).map (·, rest)
  else if startsPlain inFlow c.char rest then do
    let scalar ← readPlain? (layout.columns.head?.elim 0 (· + 1)) inFlow [] [] here
    (layout.pushPlain? c scalar).map (·, scalar.rest)
  else none

/-- Reads the tokens of a text after those of a layout. Every token has a character of its own, so a
fuel of the length of the text is enough. -/
def readTokens? : Nat → Layout → List Cell → Option (List Token)
  | fuel, layout, text =>
    match skipToToken layout.inFlow layout.keyAllowed false text with
    | (_, []) => layout.closeAll.dropKey?.map fun layout => layout.tokens.reverse
    | (keyAllowed, c :: rest) =>
      match fuel with
      | 0 => none
      | fuel + 1 =>
        match (layout.allowKey keyAllowed).expireKey? c with
        | none => none
        | some layout =>
          match readToken? (layout.closeWhile (c.column < ·)) c rest with
          | none => none
          | some (layout, rest) => readTokens? fuel layout rest

/-- The tokens of a stream. No answer means that the text has none. -/
def tokens? (text : String) : Option (List Token) :=
  (cells? text).bind fun cells => readTokens? cells.length .initial cells

end TypeAssertion.Yaml
