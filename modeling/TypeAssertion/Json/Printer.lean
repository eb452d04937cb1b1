import TypeAssertion.Json
import TypeAssertion.Number.Shortest

/-!
The written forms of a JSON document: compact, on one line, and spread over lines with an indent of
two blanks. Only what the format demands is escaped. A number that is not kept as an integer is
written by its shortest digits: positional from 0.00001 up to below ten to the 16, with an exponent
outside.
-/

set_option autoImplicit false

namespace TypeAssertion.Json

def fourHexDigits (n : Nat) : List Char :=
  let digits := Nat.toDigits 16 n
  List.replicate (4 - digits.length) '0' ++ digits

def escapedChar (c : Char) : List Char :=
  if c = '"' then ['\\', '"']
  else if c = '\\' then ['\\', '\\']
  else if c.toNat = 8 then ['\\', 'b']
  else if c.toNat = 12 then ['\\', 'f']
  else if c = '\n' then ['\\', 'n']
  else if c = '\r' then ['\\', 'r']
  else if c = '\t' then ['\\', 't']
  else if c.toNat < 32 then ['\\', 'u'] ++ fourHexDigits c.toNat
  else [c]

def stringText (text : String) : String :=
  String.ofList (['"'] ++ text.toList.flatMap escapedChar ++ ['"'])

/-- The smallest decimal exponent written positionally. -/
def leastPositional : Int := -5

/-- The largest decimal exponent written positionally. -/
def greatestPositional : Int := 15

/-- Digits with a point after the first `whole` of them, zeros filling both sides of the point. -/
def positionalText (digits : List Char) (whole : Int) : List Char :=
  if whole ≤ 0 then ['0', '.'] ++ List.replicate whole.natAbs '0' ++ digits
  else
    let front := digits.take whole.toNat
    let back := digits.drop whole.toNat
    front ++ List.replicate (whole.toNat - front.length) '0' ++ ['.'] ++
      (if back.isEmpty then ['0'] else back)

/-- Digits with a point after the first one and an exponent, whose sign is always written. -/
def exponentText (digits : List Char) (exponent : Int) : List Char :=
  let front := digits.take 1
  let back := digits.drop 1
  let sign := if exponent < 0 then '-' else '+'
  front ++ (if back.isEmpty then [] else '.' :: back) ++ ['e', sign] ++
    Nat.toDigits 10 exponent.natAbs

def doubleText (x : Number) : String :=
  let sign := if x.negative then ['-'] else []
  let magnitude :=
    if x.isZero then ['0', '.', '0']
    else
      let decimal := x.shortest
      if leastPositional ≤ decimal.exponent && decimal.exponent ≤ greatestPositional then
        positionalText decimal.digits (decimal.exponent + 1)
      else exponentText decimal.digits decimal.exponent
  String.ofList (sign ++ magnitude)

def numeralText : Numeral → String
  | .integer value => toString value
  | .double value => doubleText value

mutual

def compact : Json → String
  | .null => "null"
  | .bool value => if value then "true" else "false"
  | .number value => numeralText value
  | .string text => stringText text
  | .array items => "[" ++ compactItems items ++ "]"
  | .object members => "\x7b" ++ compactMembers members ++ "\x7d"

def compactItems : List Json → String
  | [] => ""
  | [item] => compact item
  | item :: rest => compact item ++ "," ++ compactItems rest

def compactMembers : List (String × Json) → String
  | [] => ""
  | [(key, item)] => stringText key ++ ":" ++ compact item
  | (key, item) :: rest => stringText key ++ ":" ++ compact item ++ "," ++ compactMembers rest

end

def lineStart (depth : Nat) : String := "\n" ++ String.ofList (List.replicate (2 * depth) ' ')

mutual

/-- A document over several lines, its own lines starting at a depth of indentation. -/
def indented (depth : Nat) : Json → String
  | .array [] => "[]"
  | .object [] => "\x7b\x7d"
  | .array items => "[" ++ indentedItems (depth + 1) items ++ lineStart depth ++ "]"
  | .object members => "\x7b" ++ indentedMembers (depth + 1) members ++ lineStart depth ++ "\x7d"
  | leaf => compact leaf

def indentedItems (depth : Nat) : List Json → String
  | [] => ""
  | [item] => lineStart depth ++ indented depth item
  | item :: rest => lineStart depth ++ indented depth item ++ "," ++ indentedItems depth rest

def indentedMembers (depth : Nat) : List (String × Json) → String
  | [] => ""
  | [(key, item)] => lineStart depth ++ stringText key ++ ": " ++ indented depth item
  | (key, item) :: rest =>
    lineStart depth ++ stringText key ++ ": " ++ indented depth item ++ "," ++
      indentedMembers depth rest

end

def pretty (document : Json) : String := indented 0 document

end TypeAssertion.Json
