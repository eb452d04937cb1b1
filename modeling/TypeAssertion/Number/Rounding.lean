import TypeAssertion.Number

/-!
Rounding of exact quotients to the nearest number, a tie going to the even rank, and the
arithmetic that follows from it: an operation is the exact result, rounded once.
-/

set_option autoImplicit false

namespace TypeAssertion.Number

/-- The integer nearest to `numerator / denominator`; a tie goes to the even one. -/
def nearest (numerator denominator : Nat) : Nat :=
  let quotient := numerator / denominator
  let remainder := numerator % denominator
  if 2 * remainder < denominator then quotient
  else if denominator < 2 * remainder then quotient + 1
  else quotient + quotient % 2

/-- The largest `e` with `2 ^ e ≤ numerator / denominator`, for positive arguments. -/
def binaryExponent (numerator denominator : Nat) : Int :=
  let guess : Int := (numerator.log2 : Int) - denominator.log2
  let reached : Bool :=
    if guess < 0 then decide (denominator ≤ numerator * Nat.pow 2 guess.natAbs)
    else decide (denominator * Nat.pow 2 guess.natAbs ≤ numerator)
  if reached then guess else guess - 1

/-- The rank of the magnitude nearest to `numerator / denominator`. -/
def rankOfRatio (numerator denominator : Nat) : Nat :=
  if numerator = 0 then 0
  else
    let unit := max (binaryExponent numerator denominator - 52) (-1074)
    let steps :=
      if unit < 0 then nearest (numerator * Nat.pow 2 unit.natAbs) denominator
      else nearest numerator (denominator * Nat.pow 2 unit.natAbs)
    (unit + 1074).toNat * binade + steps

/-- The number nearest to a signed quotient; beyond the finite range it is infinite. -/
def ofRatio (negative : Bool) (numerator denominator : Nat) : Number :=
  ofRank negative (rankOfRatio numerator denominator)

def ofNat (n : Nat) : Number := ofRatio false n 1

/-- The number nearest to an integer. -/
def ofInt (i : Int) : Number := ofRatio (decide (i < 0)) i.natAbs 1

/-- The product of two finite numbers, rounded once. -/
def mul (x y : Number) : Number :=
  ofRatio (x.negative != y.negative) (x.ratio.1 * y.ratio.1) (x.ratio.2 * y.ratio.2)

/-- The quotient of two finite numbers, rounded once; the divisor is not zero. -/
def div (x y : Number) : Number :=
  ofRatio (x.negative != y.negative) (x.ratio.1 * y.ratio.2) (x.ratio.2 * y.ratio.1)

/-- Twice a number; what is not finite stays as it is. -/
def double (x : Number) : Number := if x.isFinite then mul (ofNat 2) x else x

/-- The number nearest to a power of ten. -/
def powerOfTen (k : Nat) : Number := ofNat (Nat.pow 10 k)

end TypeAssertion.Number
