import TypeAssertion.Text.Digit
import TypeAssertion.Yaml.Cell
import TypeAssertion.Yaml.Token

/-!
Reading the names that a stream gives: anchors, tags, and the directives at its head. The name of a
tag is a URI. A character that does not fit in there is written as its UTF-8 octets, each after a
percent sign; in the name that is read such an octet stands as the character of its number.
-/

set_option autoImplicit false

namespace TypeAssertion.Yaml

/-- Reads an anchor or the name of a reference, whose mark is already read. -/
def readAnchor? (text : List Cell) : Option (List Cell) :=
  let (word, rest) := readWord text
  if word.isEmpty then none
  else if endsWord rest || nextIn ['?', ':', ',', ']', '\x7d', '%', '@', '`'] rest then some rest
  else none

/-- The number of octets after the first octet of a character. -/
def trailingOctets? (octet : Nat) : Option Nat :=
  if octet < 0x80 then some 0
  else if 0xc0 ≤ octet && octet < 0xe0 then some 1
  else if 0xe0 ≤ octet && octet < 0xf0 then some 2
  else if 0xf0 ≤ octet && octet < 0xf8 then some 3
  else none

def isTrailingOctet (octet : Nat) : Bool := 0x80 ≤ octet && octet < 0xc0

def octet? (high low : Cell) : Option Nat := do
  let high ← Text.hexValue? high.char
  let low ← Text.hexValue? low.char
  some (high * 16 + low)

/-- The characters of a URI, escapes apart. Commas and brackets belong to it only where something
else ends it. -/
def isUriChar (bracketed : Bool) (c : Char) : Bool :=
  isWordChar c ||
    [';', '/', '?', ':', '@', '&', '=', '+', '$', '.', '!', '~', '*', '\'', '(', ')'].contains c ||
    (bracketed && [',', '[', ']'].contains c)

/-- Reads a URI on: what is read of it, latest first, and how many octets its last character still
needs. -/
def readUriAfter (bracketed : Bool) (name : List Char) (missing : Nat) : Reader (List Char)
  | [] => if missing == 0 then some (name.reverse, []) else none
  | c :: rest =>
    if c.char == '%' then
      match rest with
      | high :: low :: rest =>
        match octet? high low with
        | none => none
        | some octet =>
          if missing == 0 then
            match trailingOctets? octet with
            | none => none
            | some more => readUriAfter bracketed (Char.ofNat octet :: name) more rest
          else if isTrailingOctet octet then
            readUriAfter bracketed (Char.ofNat octet :: name) (missing - 1) rest
          else none
      | _ => none
    else if missing != 0 then none
    else if isUriChar bracketed c.char then readUriAfter bracketed (c.char :: name) 0 rest
    else some (name.reverse, c :: rest)

/-- The part of a name that counts: a null octet ends it. -/
def effective (name : List Char) : List Char := name.takeWhile (· != '\x00')

def readUri? (bracketed : Bool) : Reader (List Char) := fun text => do
  let (name, rest) ← readUriAfter bracketed [] 0 text
  if name.isEmpty then none else some (effective name, rest)

/-- Reads a tag in angle brackets, the opening one being read. -/
def readVerbatimTag? : Reader Tag := fun text => do
  let (name, rest) ← readUri? true text
  if nextIs '>' rest then some (⟨[], name⟩, rest.drop 1) else none

/-- Reads a tag whose exclamation mark is already read. A second mark ends its handle; without one
the handle is the mark alone. The mark without anything else is a name of its own. -/
def readShortTag? : Reader Tag := fun text => do
  let (word, rest) := readWord text
  if nextIs '!' rest then
    let (ending, rest) ← readUri? false (rest.drop 1)
    some (⟨'!' :: word ++ ['!'], ending⟩, rest)
  else
    let (name, rest) ← readUriAfter false word.reverse 0 rest
    let ending := effective name
    some (if ending.isEmpty then ⟨[], ['!']⟩ else ⟨['!'], ending⟩, rest)

/-- Reads a tag, its exclamation mark being read. A blank or a break follows it, or a comma within
a flow collection. -/
def readTag? (inFlow : Bool) : Reader Tag := fun text => do
  let (tag, rest) ←
    if nextIs '<' text then readVerbatimTag? (text.drop 1) else readShortTag? text
  if endsWord rest || (inFlow && nextIs ',' rest) then some (tag, rest) else none

/-- Reads a number of a version. It has at most nine digits. -/
def readVersionNumber? : Reader Nat := fun text =>
  let isDigit (cell : Cell) := cell.char.isDigit
  let digits := charsOf (text.takeWhile isDigit)
  if digits.isEmpty || 9 < digits.length then none
  else some (digits.foldl (fun n c => n * 10 + (c.toNat - 48)) 0, text.dropWhile isDigit)

def readVersion? : Reader Token := fun text => do
  let (major, rest) ← readVersionNumber? (skipBlanks text)
  if nextIs '.' rest then
    let (minor, rest) ← readVersionNumber? (rest.drop 1)
    some (.version major minor, rest)
  else none

/-- Reads a handle as it is declared. A handle with letters ends with an exclamation mark. -/
def readHandle? : Reader (List Char) := fun text =>
  if nextIs '!' text then
    let (word, rest) := readWord (text.drop 1)
    if nextIs '!' rest then some ('!' :: word ++ ['!'], rest.drop 1)
    else if word.isEmpty then some (['!'], rest)
    else none
  else none

/-- Reads the declaration of a handle: its name and what it stands for. -/
def readHandleDeclaration? : Reader Token := fun text => do
  let (name, rest) ← readHandle? (skipBlanks text)
  if nextIn [' ', '\t'] rest then
    let (expansion, rest) ← readUri? true (skipBlanks rest)
    if endsWord rest then some (.handle name expansion, rest) else none
  else none

/-- Reads a directive to the end of its line, its percent sign being read. -/
def readDirective? : Reader Token := fun text => do
  let (name, rest) := readWord text
  let (token, rest) ←
    if !endsWord rest then none
    else if name == ['Y', 'A', 'M', 'L'] then readVersion? rest
    else if name == ['T', 'A', 'G'] then readHandleDeclaration? rest
    else none
  let rest ← finishLine? rest
  some (token, rest)

end TypeAssertion.Yaml
