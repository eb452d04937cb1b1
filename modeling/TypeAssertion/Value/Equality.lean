import TypeAssertion.Value

/-!
Equality of values. Data are equal part by part, functions when they are the same function,
instances when they have the same class and equal fields. What is not a number differs from
everything, itself included.
-/

set_option autoImplicit false

namespace TypeAssertion.Value

mutual

def equals : Value → Value → Bool
  | undefined, undefined => true
  | null, null => true
  | bool a, bool b => a == b
  | number x, number y => x.equals y
  | string s, string t => s == t
  | boxedString s, boxedString t => s == t
  | boxedNumber x, boxedNumber y => x.equals y
  | array xs, array ys => equalItems xs ys
  | object xs, object ys => equalEntries xs ys
  | function f, function g => f.id == g.id
  | .instance c xs, .instance d ys => c.same d && equalEntries xs ys
  | _, _ => false

def equalItems : List Value → List Value → Bool
  | [], [] => true
  | x :: xs, y :: ys => equals x y && equalItems xs ys
  | _, _ => false

/-- True when two lists have equal names and values in every position. -/
def equalEntries : List (String × Value) → List (String × Value) → Bool
  | [], [] => true
  | (k, x) :: xs, (l, y) :: ys => k == l && equals x y && equalEntries xs ys
  | _, _ => false

end

end TypeAssertion.Value
