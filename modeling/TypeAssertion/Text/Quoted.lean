import TypeAssertion.Text.Coded

/-!
Quoted text: a text between double quotes, as it stands in messages. A double quote and a
backslash follow a backslash, four controls have letters, and other characters that cannot be seen
alone are written by their code.
-/

set_option autoImplicit false

namespace TypeAssertion.Text

def codeDigits (c : Char) : List Char := Nat.toDigits 16 c.toNat

def quotedChar (c : Char) : List Char :=
  if c = '"' || c = '\\' then ['\\', c]
  else if c = '\t' then ['\\', 't']
  else if c = '\r' then ['\\', 'r']
  else if c = '\n' then ['\\', 'n']
  else if c = '\x00' then ['\\', '0']
  else if isCoded c then ['\\', 'u', '\x7b'] ++ codeDigits c ++ ['\x7d']
  else [c]

def quoted (text : String) : String :=
  String.ofList (['"'] ++ text.toList.flatMap quotedChar ++ ['"'])

end TypeAssertion.Text
