import TypeAssertion.Text.Digit
import TypeAssertion.Yaml.Cell

/-!
Reading plain and quoted scalars. Both may go over several lines. The space between two of their
words, a *gap*, is kept when it is within a line; over a line break it is folded. Texts and gaps are
gathered latest character first.
-/

set_option autoImplicit false

namespace TypeAssertion.Yaml

/-- What a gap stands for. One line feed is a space, and of several the first one is dropped. -/
def foldGap (gap : List Char) : List Char :=
  match gap.filter isBreak with
  | [] => gap
  | ['\n'] => [' ']
  | '\n' :: more => more
  | breaks => breaks

/-- A gap within a line is kept. -/
theorem foldGap_of_no_break {gap : List Char} (h : ∀ c ∈ gap, isBreak c = false) :
    foldGap gap = gap := by
  have empty : gap.filter isBreak = [] := by
    simpa using h
  simp [foldGap, empty]

/-- A text and the folded gap after it, both latest character first. -/
def joinGap (text gap : List Char) : List Char := (foldGap gap.reverse).reverse ++ text

/-- A plain scalar that is read. -/
structure PlainScalar where
  text : List Char
  crossesLine : Bool
  rest : List Cell

/-- True of the indicators that flow collections have between their parts. -/
def isFlowMark (c : Char) : Bool := [',', '[', ']', '\x7b', '\x7d'].contains c

/-- Reads a plain scalar on. In block form it ends before a line that is indented less than the
given column. A comment, a document marker, a colon at the end of a word, and in flow form an
indicator end it as well. -/
def readPlain? (column : Nat) (inFlow : Bool) (text gap : List Char) :
    List Cell → Option PlainScalar
  | [] => some ⟨text.reverse, gap.any isBreak, []⟩
  | c :: rest =>
    if isSpace c.char then
      if c.char == '\t' && c.column < column && gap.any isBreak then none
      else readPlain? column inFlow text (c.char :: gap) rest
    else if !gap.isEmpty &&
        ((!inFlow && c.column < column) || atAnyMarker (c :: rest) || c.char == '#') then
      some ⟨text.reverse, gap.any isBreak, c :: rest⟩
    else if inFlow && c.char == ':' && nextIn [',', '?', '[', ']', '\x7b', '\x7d'] rest then none
    else if (c.char == ':' && endsWord rest) || (inFlow && isFlowMark c.char) then
      some ⟨text.reverse, gap.any isBreak, c :: rest⟩
    else readPlain? column inFlow (c.char :: joinGap text gap) [] rest

/-- The escapes of one character: what follows the backslash, and what is meant. -/
def shortEscapes : List (Char × Char) :=
  [('0', '\x00'), ('a', '\x07'), ('b', '\x08'), ('t', '\t'), ('\t', '\t'), ('n', '\n'),
    ('v', '\x0b'), ('f', '\x0c'), ('r', '\r'), ('e', '\x1b'), (' ', ' '), ('"', '"'), ('/', '/'),
    ('\\', '\\'), ('N', '\u0085'), ('_', '\u00a0'), ('L', '\u2028'), ('P', '\u2029')]

/-- The escapes of a code: what follows the backslash, and the number of hexadecimal digits. -/
def codeEscapes : List (Char × Nat) := [('x', 2), ('u', 4), ('U', 8)]

def codedChar? (size : Nat) (text : List Cell) : Option Char := do
  let digits := charsOf (text.take size)
  let code ← digits.foldlM (fun n c => (Text.hexValue? c).map (n * 16 + ·)) 0
  if digits.length == size && Nat.isValidChar code then some (Char.ofNat code) else none

/-- Reads a single-quoted scalar on. A quote in it is written twice. -/
def readSingle? (text gap : List Char) : Reader (List Char)
  | [] => none
  | c :: rest =>
    if isSpace c.char then readSingle? text (c.char :: gap) rest
    else if atAnyMarker (c :: rest) then none
    else if c.char == '\'' then
      match rest with
      | d :: more =>
        if d.char == '\'' then readSingle? ('\'' :: joinGap text gap) [] more
        else some ((joinGap text gap).reverse, d :: more)
      | [] => some ((joinGap text gap).reverse, [])
    else readSingle? (c.char :: joinGap text gap) [] rest

/-- Reads a double-quoted scalar on. A backslash before a line break takes the break and the blanks
after it out of the text: of the gap that starts there, only further breaks count. -/
def readDouble? (text gap : List Char) (escaped : Bool) : Reader (List Char)
  | [] => none
  | c :: rest =>
    if isSpace c.char then readDouble? text (c.char :: gap) escaped rest
    else if atAnyMarker (c :: rest) then none
    else
      let text := if escaped then gap.filter isBreak ++ text else joinGap text gap
      if c.char == '"' then some (text.reverse, rest)
      else if c.char == '\\' then
        match rest with
        | [] => none
        | d :: rest =>
          if isBreak d.char then readDouble? text [] true rest
          else
            match shortEscapes.lookup d.char, codeEscapes.lookup d.char with
            | some meant, _ => readDouble? (meant :: text) [] false rest
            | none, some size =>
              match codedChar? size rest with
              | some meant => readDouble? (meant :: text) [] false (rest.drop size)
              | none => none
            | none, none => none
      else readDouble? (c.char :: text) [] false rest
  termination_by text => text.length

end TypeAssertion.Yaml
