import TypeAssertion.Json
import TypeAssertion.Text.Digit

/-!
Reading a JSON document from its text. The grammar is strict: four blanks, no sign `+`, no leading
zero, no control inside a string, no lone surrogate, nothing after the document. Fewer than 128
arrays and objects may be nested. Each reader takes the text at its start and gives what it read
with the text that is left, or nothing when the text does not fit.

A numeral with a fraction or an exponent is read by scaling: its leading digits, as many as 64 bits
hold, become a number that is then multiplied or divided by a power of ten.
-/

set_option autoImplicit false

namespace TypeAssertion.Json

/-- A reader of a piece of text: the piece and the text after it. -/
abbrev Reader (α : Type) := List Char → Option (α × List Char)

def isSpace (c : Char) : Bool := c == ' ' || c == '\t' || c == '\n' || c == '\r'

def skipSpaces (text : List Char) : List Char := text.dropWhile isSpace

def readFourHex : Reader Nat
  | a :: b :: c :: d :: rest => do
    let a ← Text.hexValue? a
    let b ← Text.hexValue? b
    let c ← Text.hexValue? c
    let d ← Text.hexValue? d
    some (((a * 16 + b) * 16 + c) * 16 + d, rest)
  | _ => none

/-- The character of a `\u` escape, whose `\u` is already read. A leading surrogate has to be
followed by the escape of a trailing one. -/
def readUnicodeEscape : Reader Char := fun text => do
  let (code, rest) ← readFourHex text
  if 0xdc00 ≤ code && code ≤ 0xdfff then none
  else if 0xd800 ≤ code && code ≤ 0xdbff then
    match rest with
    | '\\' :: 'u' :: rest => do
      let (trailing, rest) ← readFourHex rest
      if 0xdc00 ≤ trailing && trailing ≤ 0xdfff then
        some (Char.ofNat (0x10000 + (code - 0xd800) * 0x400 + (trailing - 0xdc00)), rest)
      else none
    | _ => none
  else some (Char.ofNat code, rest)

/-- The character of an escape, whose backslash is already read. -/
def readEscape : Reader Char
  | '"' :: rest => some ('"', rest)
  | '\\' :: rest => some ('\\', rest)
  | '/' :: rest => some ('/', rest)
  | 'b' :: rest => some ('\x08', rest)
  | 'f' :: rest => some ('\x0c', rest)
  | 'n' :: rest => some ('\n', rest)
  | 'r' :: rest => some ('\r', rest)
  | 't' :: rest => some ('\t', rest)
  | 'u' :: rest => readUnicodeEscape rest
  | _ => none

/-- The characters of a string up to its closing quote, the opening one being read. The fuel bounds
the number of characters. -/
def readStringBody : Nat → Reader (List Char)
  | 0, _ => none
  | fuel + 1, text =>
    match text with
    | [] => none
    | '"' :: rest => some ([], rest)
    | '\\' :: rest => do
      let (c, rest) ← readEscape rest
      let (more, rest) ← readStringBody fuel rest
      some (c :: more, rest)
    | c :: rest =>
      if c.toNat < 32 then none
      else do
        let (more, rest) ← readStringBody fuel rest
        some (c :: more, rest)

/-- A string, its opening quote being read. -/
def readString : Reader String := fun text => do
  let (body, rest) ← readStringBody (text.length + 1) text
  some (String.ofList body, rest)

/-! ### Numerals -/

def isDigit (c : Char) : Bool := '0' ≤ c && c ≤ '9'

def digitValue (c : Char) : Nat := c.toNat - 48

def takeDigits (text : List Char) : List Char × List Char :=
  (text.takeWhile isDigit, text.dropWhile isDigit)

def greatestWord : Nat := 18446744073709551615

/-- Appends digits to an integer while 64 bits hold it; the rest of the digits is given back. -/
def appendDigits (value : Nat) : List Char → Nat × List Char
  | [] => (value, [])
  | c :: rest =>
    let longer := value * 10 + digitValue c
    if longer ≤ greatestWord then appendDigits longer rest else (value, c :: rest)

/-- The greatest exponent that scales in one step. -/
def greatestStep : Nat := 308

/-- Divides by ten to the `exponent` in steps of at most 308. -/
def scaleDown (x : Number) (exponent : Nat) : Number :=
  if greatestStep < exponent then
    if x.isZero then x
    else scaleDown (x.div (Number.powerOfTen greatestStep)) (exponent - greatestStep)
  else x.div (Number.powerOfTen exponent)
termination_by exponent
decreasing_by unfold greatestStep at *; omega

/-- The number `significand * 10 ^ exponent`; nothing when it is beyond the finite numbers. -/
def scaled? (significand : Nat) (exponent : Int) : Option Number :=
  let x := Number.ofNat significand
  if exponent < 0 then some (scaleDown x exponent.natAbs)
  else if x.isZero then some x
  else if (greatestStep : Int) < exponent then none
  else
    let y := x.mul (Number.powerOfTen exponent.natAbs)
    if y.isFinite then some y else none

/-- The largest exponent that is read by its value. -/
def greatestExponent : Nat := 2147483647

def digitsValue (digits : List Char) : Nat := digits.foldl (fun n c => n * 10 + digitValue c) 0

/-- The exponent part of a numeral, if it has one: its sign and its value. -/
def readExponent : Reader (Option (Bool × Nat))
  | 'e' :: rest | 'E' :: rest =>
    let (negative, rest) := match rest with
      | '+' :: rest => (false, rest)
      | '-' :: rest => (true, rest)
      | rest => (false, rest)
    match takeDigits rest with
    | ([], _) => none
    | (digits, rest) => some (some (negative, digitsValue digits), rest)
  | text => some (none, text)

/-- The fraction part of a numeral, if it has one: its digits. -/
def readFraction : Reader (Option (List Char))
  | '.' :: rest =>
    match takeDigits rest with
    | ([], _) => none
    | (digits, rest) => some (some digits, rest)
  | text => some (none, text)

/-- The number of a numeral with a fraction, an exponent, or more digits than 64 bits hold. Digits
of the whole part that do not fit raise the exponent, those of the fraction are dropped. -/
def doubleOf? (whole fraction : List Char) (exponent : Option (Bool × Nat)) : Option Number :=
  let (leading, dropped) := appendDigits 0 whole
  let (significand, ignored) := appendDigits leading fraction
  let shift : Int := dropped.length - (fraction.length - ignored.length : Nat)
  match exponent with
  | none => scaled? significand shift
  | some (negative, size) =>
    if greatestExponent < size then
      if significand ≠ 0 && !negative then none else some Number.zero
    else scaled? significand (shift + if negative then -(size : Int) else size)

/-- The numeral of an integer text of either sign; one beyond 64 bits becomes a double, and so does
negative zero. -/
def integerOf? (negative : Bool) (whole : List Char) : Option Numeral :=
  let (value, dropped) := appendDigits 0 whole
  if !dropped.isEmpty then
    (doubleOf? whole [] none).map fun x => .double { x with negative := negative }
  else if negative then
    if 0 < value && value ≤ 9223372036854775808 then some (.integer (-(value : Int)))
    else some (.double { Number.ofNat value with negative := true })
  else some (.integer value)

def readNumeral : Reader Numeral := fun text => do
  let (negative, text) := match text with
    | '-' :: rest => (true, rest)
    | rest => (false, rest)
  let (whole, rest) := takeDigits text
  if whole.isEmpty || (1 < whole.length && whole.head? == some '0') then none
  else
    let (fraction, rest) ← readFraction rest
    let (exponent, rest) ← readExponent rest
    match fraction, exponent with
    | none, none => (integerOf? negative whole).map fun numeral => (numeral, rest)
    | _, _ =>
      (doubleOf? whole (fraction.getD []) exponent).map fun x =>
        (.double { x with negative := negative }, rest)

/-! ### Documents -/

/-- Items up to a closing character, a comma between two; the first item is already read. The fuel
bounds the number of items. -/
def readMore {α : Type} (item : Reader α) (close : Char) : Nat → Reader (List α)
  | 0, _ => none
  | fuel + 1, text =>
    match skipSpaces text with
    | [] => none
    | c :: rest =>
      if c = close then some ([], rest)
      else if c = ',' then do
        let (x, rest) ← item (skipSpaces rest)
        let (more, rest) ← readMore item close fuel rest
        some (x :: more, rest)
      else none

def readSequence {α : Type} (item : Reader α) (close : Char) : Reader (List α) := fun text =>
  match skipSpaces text with
  | [] => none
  | c :: rest =>
    if c = close then some ([], rest)
    else do
      let (x, rest) ← item (c :: rest)
      let (more, rest) ← readMore item close (rest.length + 1) rest
      some (x :: more, rest)

/-- A member of an object: its key, a colon, and an item. -/
def readMember {α : Type} (item : Reader α) : Reader (String × α)
  | '"' :: rest => do
    let (key, rest) ← readString rest
    match skipSpaces rest with
    | ':' :: rest => do
      let (x, rest) ← item (skipSpaces rest)
      some ((key, x), rest)
    | _ => none
  | _ => none

/-- A document that starts at once, with fewer than `depth` arrays and objects nested. -/
def readDocument : Nat → Reader Json
  | depth, text =>
    match text with
    | 'n' :: 'u' :: 'l' :: 'l' :: rest => some (.null, rest)
    | 't' :: 'r' :: 'u' :: 'e' :: rest => some (.bool true, rest)
    | 'f' :: 'a' :: 'l' :: 's' :: 'e' :: rest => some (.bool false, rest)
    | '"' :: rest => (readString rest).map fun (text, rest) => (.string text, rest)
    | '[' :: rest =>
      match depth with
      | 0 | 1 => none
      | depth + 2 =>
        (readSequence (readDocument (depth + 1)) ']' rest).map fun (items, rest) =>
          (.array items, rest)
    | '\x7b' :: rest =>
      match depth with
      | 0 | 1 => none
      | depth + 2 =>
        (readSequence (readMember (readDocument (depth + 1))) '\x7d' rest).map
          fun (members, rest) => (.object (sortEntries members), rest)
    | text => (readNumeral text).map fun (numeral, rest) => (.number numeral, rest)

/-- One more than the deepest nesting of arrays and objects that is read. -/
def depthLimit : Nat := 128

def ofText? (text : String) : Option Json :=
  match readDocument depthLimit (skipSpaces text.toList) with
  | some (document, rest) => if (skipSpaces rest).isEmpty then some document else none
  | none => none

end TypeAssertion.Json
