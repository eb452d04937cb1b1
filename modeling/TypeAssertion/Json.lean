import TypeAssertion.Fields
import TypeAssertion.Number.Rounding

/-!
JSON documents. A numeral is kept as an integer when its text is one that fits 64 bits, with or
without a sign, and as a finite number otherwise. The members of an object stand in ascending
order of their keys.
-/

set_option autoImplicit false

namespace TypeAssertion

/-- The two forms of a number in a document. -/
inductive Numeral where
  | integer (value : Int)
  | double (value : Number)
  deriving DecidableEq

/-- The number that a numeral stands for; an integer is rounded to the nearest one. -/
def Numeral.toNumber : Numeral → Number
  | .integer value => Number.ofInt value
  | .double value => value

def Numeral.fitsInteger (value : Int) : Bool :=
  decide (-9223372036854775808 ≤ value) && decide (value < 18446744073709551616)

/-- A numeral holds an integer of 64 bits or a finite number. -/
def Numeral.WellFormed : Numeral → Prop
  | .integer value => fitsInteger value = true
  | .double value => value.isFinite = true

/-- A JSON document. -/
inductive Json where
  | null
  | bool (value : Bool)
  | number (value : Numeral)
  | string (text : String)
  | array (items : List Json)
  | object (members : List (String × Json))

instance : Inhabited Json := ⟨.null⟩

end TypeAssertion
