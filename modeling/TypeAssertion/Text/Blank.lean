/-!
Blank characters, and text without the blanks around it. Blank are the 25 characters with the
Unicode property White_Space. Case is folded for the letters of ASCII only: every other character,
however alike it looks, stays as it is.
-/

set_option autoImplicit false

namespace TypeAssertion.Text

/-- True of the characters with the Unicode property White_Space. -/
def isBlank (c : Char) : Bool :=
  let n := c.toNat
  (9 ≤ n && n ≤ 13) || n == 32 || n == 0x85 || n == 0xa0 || n == 0x1680 ||
    (0x2000 ≤ n && n ≤ 0x200a) || n == 0x2028 || n == 0x2029 || n == 0x202f || n == 0x205f ||
    n == 0x3000

def trimFront (text : List Char) : List Char := text.dropWhile isBlank

def trimBack (text : List Char) : List Char := (trimFront text.reverse).reverse

def trim (text : List Char) : List Char := trimBack (trimFront text)

/-- The characters with the capital letters of ASCII made small. -/
def lower (text : List Char) : List Char := text.map Char.toLower

theorem length_trimFront_le (text : List Char) : (trimFront text).length ≤ text.length :=
  (List.dropWhile_sublist isBlank).length_le

theorem length_trim_le (text : List Char) : (trim text).length ≤ text.length := by
  unfold trim trimBack
  rw [List.length_reverse]
  refine Nat.le_trans (length_trimFront_le _) ?_
  rw [List.length_reverse]
  exact length_trimFront_le text

end TypeAssertion.Text
