/-!
Numbers are binary64 data, held as a sign and a rank. The rank counts the magnitudes upwards
from zero: 0 is zero, each step is the next larger finite magnitude, `infinityRank` is infinity,
and every rank above it is not a number. In this form the order of numbers is the order of
integers, and a rank is also the 63 low bits of the interchange format.
-/

set_option autoImplicit false

namespace TypeAssertion

/-- A binary64 datum: its sign and the rank of its magnitude. -/
structure Number where
  negative : Bool
  rank : Fin 9223372036854775808
  deriving DecidableEq

namespace Number

/-- How many ranks lie between one power of two and the next: 2 to the 52. -/
def binade : Nat := 4503599627370496

/-- The rank of infinity; larger ranks are not numbers. -/
def infinityRank : Nat := 2047 * binade

/-- The number with a given sign and rank; a rank that is too large becomes infinity. -/
def ofRank (negative : Bool) (rank : Nat) : Number :=
  ⟨negative, ⟨min rank infinityRank, by unfold infinityRank binade; omega⟩⟩

def zero : Number := ofRank false 0

def negativeZero : Number := ofRank true 0

/-- The datum that stands for "not a number". -/
def notANumber : Number := ⟨false, ⟨infinityRank + 2251799813685248, by decide⟩⟩

def negate (x : Number) : Number := { x with negative := !x.negative }

/-- True of the data that are not numbers. -/
def isNaN (x : Number) : Bool := decide (infinityRank < x.rank.val)

def isInfinite (x : Number) : Bool := decide (x.rank.val = infinityRank)

/-- True of zero and of every number with a finite magnitude. -/
def isFinite (x : Number) : Bool := decide (x.rank.val < infinityRank)

def isZero (x : Number) : Bool := decide (x.rank.val = 0)

/-- The signed rank. Both zeros have key 0, and larger numbers have larger keys. -/
def key (x : Number) : Int := if x.negative then -(x.rank.val : Int) else x.rank.val

/-- Numeric equality: the zeros are equal, and what is not a number equals nothing. -/
def equals (x y : Number) : Bool := !x.isNaN && !y.isNaN && decide (x.key = y.key)

/-- Numeric order; nothing is below or above what is not a number. -/
def isBelow (x y : Number) : Bool := !x.isNaN && !y.isNaN && decide (x.key < y.key)

/-- The number with the given 64 bits of the interchange format. -/
def ofBits (bits : Nat) : Number :=
  ⟨decide (bits / 9223372036854775808 % 2 = 1), Fin.ofNat _ bits⟩

def bits (x : Number) : Nat :=
  (if x.negative then 9223372036854775808 else 0) + x.rank.val

/-- The integer `significand` of a finite magnitude `significand * 2 ^ exponent`. -/
def significand (x : Number) : Nat :=
  if x.rank.val < binade then x.rank.val else binade + x.rank.val % binade

/-- The `exponent` of a finite magnitude `significand * 2 ^ exponent`. -/
def exponent (x : Number) : Int :=
  if x.rank.val < binade then -1074 else (x.rank.val / binade : Nat) - 1075

/-- The magnitude of a finite number as a quotient of natural numbers. -/
def ratio (x : Number) : Nat × Nat :=
  if x.exponent < 0 then (x.significand, Nat.pow 2 x.exponent.natAbs)
  else (x.significand * Nat.pow 2 x.exponent.natAbs, 1)

/-- The magnitude of a finite number when it is a whole number. -/
def wholeMagnitude? (x : Number) : Option Nat :=
  if x.isFinite && x.ratio.1 % x.ratio.2 == 0 then some (x.ratio.1 / x.ratio.2) else none

/-- The integers of smaller magnitude than this are all exact: 2 to the 53. -/
def exactLimit : Nat := 9007199254740992

/-- The integer a number stands for, when it is whole and below the exact limit. -/
def toInteger? (x : Number) : Option Int :=
  match x.wholeMagnitude? with
  | some n => if n < exactLimit then some (if x.negative then -(n : Int) else n) else none
  | none => none

/-- True of the finite numbers that are twice a whole number. -/
def isEven (x : Number) : Bool :=
  match x.wholeMagnitude? with
  | some n => n % 2 == 0
  | none => false

theorem equals_comm (x y : Number) : x.equals y = y.equals x := by
  unfold equals
  rw [Bool.and_comm (!x.isNaN) (!y.isNaN)]
  congr 1
  exact decide_eq_decide.2 eq_comm

theorem equals_trans {x y z : Number} (h : x.equals y = true) (k : y.equals z = true) :
    x.equals z = true := by
  simp only [equals, Bool.and_eq_true, decide_eq_true_eq] at *
  exact ⟨⟨h.1.1, k.1.2⟩, h.2.trans k.2⟩

theorem equals_self (x : Number) : x.equals x = !x.isNaN := by
  simp [equals]

theorem ofBits_bits (x : Number) : ofBits x.bits = x := by
  obtain ⟨s, r, h⟩ := x
  cases s
  · simp [ofBits, bits, Fin.ofNat]
    omega
  · simp [ofBits, bits, Fin.ofNat]
    omega

end Number

end TypeAssertion
