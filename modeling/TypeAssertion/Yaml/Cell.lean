/-!
The text of a YAML stream as characters with their places. Layout has meaning in YAML: columns open
and close collections, and a key has to end near where it starts. So each character carries its line,
its column and its index, and readers take a list of such cells and give back what they leave of it.
-/

set_option autoImplicit false

namespace TypeAssertion.Yaml

/-- A character and where it stands. Lines, columns and indices count from zero. -/
structure Cell where
  char : Char
  line : Nat
  column : Nat
  index : Nat

/-- A reader takes a piece of the text and leaves the rest, or refuses the text. -/
abbrev Reader (α : Type) := List Cell → Option (α × List Cell)

def isAllowed (c : Char) : Bool :=
  let n := c.toNat
  n == 9 || n == 10 || n == 13 || (0x20 ≤ n && n ≤ 0x7e) || n == 0x85 ||
    (0xa0 ≤ n && n ≤ 0xfffd) || 0x10000 ≤ n

/-- The text with the breaks of several systems written as a line feed. The line separator and the
paragraph separator stay as they are. -/
def unifyBreaks : List Char → List Char
  | '\r' :: '\n' :: rest => '\n' :: unifyBreaks rest
  | c :: rest => (if c == '\r' || c == '\u0085' then '\n' else c) :: unifyBreaks rest
  | [] => []

def isBreak (c : Char) : Bool := c == '\n' || c == '\u2028' || c == '\u2029'

def isBlank (c : Char) : Bool := c == ' ' || c == '\t'

def isSpace (c : Char) : Bool := isBlank c || isBreak c

/-- True of the letters and digits of ASCII, the underscore and the hyphen. -/
def isWordChar (c : Char) : Bool := c.isAlphanum || c == '_' || c == '-'

def placeFrom (line column index : Nat) : List Char → List Cell
  | [] => []
  | c :: rest =>
    ⟨c, line, column, index⟩ ::
      if isBreak c then placeFrom (line + 1) 0 (index + 1) rest
      else placeFrom line (column + 1) (index + 1) rest

/-- The cells of a text, if it holds only characters that it may hold. -/
def cells? (text : String) : Option (List Cell) :=
  if text.toList.all isAllowed then some (placeFrom 0 0 0 (unifyBreaks text.toList)) else none

def charsOf (cells : List Cell) : List Char := cells.map (·.char)

/-- Placing changes no character. -/
theorem charsOf_placeFrom (line column index : Nat) (text : List Char) :
    charsOf (placeFrom line column index text) = text := by
  induction text generalizing line column index with
  | nil => rfl
  | cons c rest ih =>
    simp only [charsOf] at ih
    simp only [placeFrom, charsOf, List.map_cons]
    split <;> rw [ih]

def nextIs (c : Char) : List Cell → Bool
  | [] => false
  | cell :: _ => cell.char == c

def nextIn (chars : List Char) : List Cell → Bool
  | [] => false
  | cell :: _ => chars.contains cell.char

/-- True at a blank, at a line break and at the end of the text. -/
def endsWord : List Cell → Bool
  | [] => true
  | cell :: _ => isSpace cell.char

def skipBlanks (text : List Cell) : List Cell := text.dropWhile fun cell => isBlank cell.char

def skipLine (text : List Cell) : List Cell := text.dropWhile fun cell => !isBreak cell.char

/-- The text after the line, on which nothing but a comment may be left. -/
def finishLine? (text : List Cell) : Option (List Cell) :=
  let blank := skipBlanks text
  match if nextIs '#' blank then skipLine blank else blank with
  | [] => some []
  | cell :: rest => if isBreak cell.char then some rest else none

/-- The letters, digits, underscores and hyphens that are next, and the text after them. -/
def readWord (text : List Cell) : List Char × List Cell :=
  let inWord (cell : Cell) := isWordChar cell.char
  (charsOf (text.takeWhile inWord), text.dropWhile inWord)

/-- True where a line starts with a document marker, which is a character written three times. -/
def atMarker (mark : Char) : List Cell → Bool
  | a :: b :: c :: rest =>
    a.column == 0 && a.char == mark && b.char == mark && c.char == mark && endsWord rest
  | _ => false

/-- True where a line starts with the marker of a start or of an end. -/
def atAnyMarker (text : List Cell) : Bool := atMarker '-' text || atMarker '.' text

end TypeAssertion.Yaml
