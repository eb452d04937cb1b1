import TypeAssertion.Number

/-!
The shortest decimal that reads back as a given number. A magnitude is the nearest number to
every real in an interval around it, ends included when its significand is even. For each digit
count the two neighbours of the magnitude on that decimal grid are tried; the first grid with a
hit wins, of two hits the nearer, and a tie goes to the even neighbour.
-/

set_option autoImplicit false

namespace TypeAssertion.Number

/-- A positive decimal `d.ddd * 10 ^ exponent`, its digits leading first. -/
structure Decimal where
  digits : List Char
  exponent : Int

/-- How many decimal digits a natural number has; zero has none. -/
def decimalLength (n : Nat) : Nat := if n = 0 then 0 else (Nat.toDigits 10 n).length

/-- The largest `e` with `10 ^ e ≤ numerator / denominator`, for positive arguments. -/
def decimalExponent (numerator denominator : Nat) : Int :=
  if denominator ≤ numerator then (decimalLength (numerator / denominator) : Int) - 1
  else -(decimalLength ((denominator - 1) / numerator) : Int)

/-- The reals that round to a magnitude, over a common denominator. -/
structure Interval where
  low : Nat
  value : Nat
  high : Nat
  denominator : Nat
  closed : Bool

/-- The interval of reals whose nearest magnitude is that of a positive finite number. Below a
power of two the gap is half as wide as above it. -/
def roundingInterval (x : Number) : Interval :=
  let value := 4 * x.significand
  let narrow := decide (binade < x.rank.val) && x.rank.val % binade == 0
  let low := if narrow then value - 1 else value - 2
  let closed := x.significand % 2 == 0
  if x.exponent < 0 then ⟨low, value, value + 2, 4 * Nat.pow 2 x.exponent.natAbs, closed⟩
  else
    let scale := Nat.pow 2 x.exponent.natAbs
    ⟨low * scale, value * scale, (value + 2) * scale, 4, closed⟩

/-- True when `count * 10 ^ grid` lies in the interval. -/
def Interval.holds (i : Interval) (count : Nat) (grid : Int) : Bool :=
  let up := if grid < 0 then 1 else Nat.pow 10 grid.natAbs
  let down := if grid < 0 then Nat.pow 10 grid.natAbs else 1
  let point := count * up * i.denominator
  if i.closed then decide (i.low * down ≤ point) && decide (point ≤ i.high * down)
  else decide (i.low * down < point) && decide (point < i.high * down)

/-- The multiple of `10 ^ grid` in the interval that is nearest to its value, if one is. -/
def Interval.onGrid? (i : Interval) (grid : Int) : Option Nat :=
  let numerator := if grid < 0 then i.value * Nat.pow 10 grid.natAbs else i.value
  let denominator := if grid < 0 then i.denominator else i.denominator * Nat.pow 10 grid.natAbs
  let below := numerator / denominator
  let rest := 2 * (numerator % denominator)
  match i.holds below grid, i.holds (below + 1) grid with
  | true, true =>
    if rest < denominator then some below
    else if denominator < rest then some (below + 1)
    else some (below + below % 2)
  | true, false => some below
  | false, true => some (below + 1)
  | false, false => none

/-- The shortest decimal that reads back as the magnitude of a positive finite number. -/
def shortest (x : Number) : Decimal :=
  let interval := x.roundingInterval
  let leading := decimalExponent interval.value interval.denominator
  let found := (List.range 17).findSome? fun (n : Nat) =>
    (interval.onGrid? (leading - n)).map fun count => (count, leading - n)
  let (count, grid) := found.getD (0, 0)
  let digits := Nat.toDigits 10 count
  let kept := (digits.reverse.dropWhile (· == '0')).reverse
  ⟨kept, grid + digits.length - 1⟩

end TypeAssertion.Number
