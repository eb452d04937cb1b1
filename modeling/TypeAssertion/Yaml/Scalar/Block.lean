import TypeAssertion.Yaml.Cell

/-!
Reading literal and folded scalars. Their header may tell the indentation and what becomes of the
line breaks at the end; without an indentation the deepest blank line or the first line with content
sets it.
-/

set_option autoImplicit false

namespace TypeAssertion.Yaml

/-- What becomes of the line breaks at the end: they are taken away, one is kept, all are kept. -/
inductive Chomping where
  | strip
  | clip
  | keep
  deriving DecidableEq

/-- The header of a block scalar. -/
structure BlockHeader where
  chomping : Chomping
  indentation? : Option Nat

def chompingNext? : List Cell → Option Chomping
  | [] => none
  | c :: _ => if c.char == '-' then some .strip else if c.char == '+' then some .keep else none

def indentationNext? : List Cell → Option Nat
  | [] => none
  | c :: _ => if c.char.isDigit then some (c.char.toNat - 48) else none

/-- Reads a header to the end of its line. Its two parts stand in any order, and the indentation is
not zero. -/
def readBlockHeader? : Reader BlockHeader := fun text => do
  let early? := chompingNext? text
  let text := if early?.isSome then text.drop 1 else text
  let indentation? := indentationNext? text
  let text := if indentation?.isSome then text.drop 1 else text
  let late? := if early?.isNone && indentation?.isSome then chompingNext? text else none
  let text := if late?.isSome then text.drop 1 else text
  let rest ← finishLine? text
  if indentation? == some 0 then none
  else some (⟨(early?.or late?).getD .clip, indentation?⟩, rest)

/-- The column of the first content, or of the deepest blank line before it. A tab does not
indent. -/
def deepestColumn? (deepest : Nat) : List Cell → Option Nat
  | [] => some deepest
  | c :: rest =>
    if c.char == ' ' then deepestColumn? (max deepest (c.column + 1)) rest
    else if c.char == '\t' then none
    else if isBreak c.char then deepestColumn? deepest rest
    else some (max deepest c.column)

/-- The lines of a block scalar as far as they are read, latest character first: the text, the break
after its last line, and the breaks of the blank lines since then. -/
structure BlockLines where
  text : List Char
  last : List Char
  blank : List Char
  startedBlank : Bool

/-- The text with the breaks before a further line. Folding makes one line feed between two lines
that do not start with a blank a space, or nothing when blank lines follow it. -/
def BlockLines.joined (folds : Bool) (lines : BlockLines) (startsBlank : Bool) : List Char :=
  if folds && lines.last == ['\n'] && !lines.startedBlank && !startsBlank then
    (if lines.blank.isEmpty then [' '] else lines.blank) ++ lines.text
  else lines.blank ++ lines.last ++ lines.text

def BlockLines.chomped (chomping : Chomping) (lines : BlockLines) : List Char :=
  match chomping with
  | .strip => lines.text.reverse
  | .clip => (lines.last ++ lines.text).reverse
  | .keep => (lines.blank ++ lines.last ++ lines.text).reverse

/-- Reads the lines whose content starts at a column, from within a line or from the indentation of
the next one. -/
def readBlockLines? (column : Nat) (folds inLine : Bool) (lines : BlockLines) : Reader BlockLines
  | [] => some (lines, [])
  | c :: rest =>
    if inLine then
      if isBreak c.char then
        readBlockLines? column folds false { lines with last := [c.char], blank := [] } rest
      else readBlockLines? column folds true { lines with text := c.char :: lines.text } rest
    else if c.char == ' ' && c.column < column then readBlockLines? column folds false lines rest
    else if c.char == '\t' && c.column < column then none
    else if isBreak c.char then
      readBlockLines? column folds false { lines with blank := c.char :: lines.blank } rest
    else if c.column == column then
      let startsBlank := isBlank c.char
      let text := c.char :: lines.joined folds startsBlank
      readBlockLines? column folds true ⟨text, [], [], startsBlank⟩ rest
    else some (lines, c :: rest)

/-- Reads a block scalar, its indicator being read, within a block collection at a column if there is
one. An indentation that is told counts from that column; else the content stands deeper than it, and
never at the start of a line. -/
def readBlockScalar? (folds : Bool) (parent? : Option Nat) : Reader (List Char) := fun text => do
  let (header, rest) ← readBlockHeader? text
  let column ←
    match header.indentation? with
    | some indentation => some (parent?.getD 0 + indentation)
    | none => (deepestColumn? 0 rest).map (max (parent?.elim 1 (· + 1)))
  let (lines, rest) ← readBlockLines? column folds false ⟨[], [], [], false⟩ rest
  some (lines.chomped header.chomping, rest)

end TypeAssertion.Yaml
