import Mathlib.Algebra.Order.Field.Basic
import Mathlib.Data.Rat.Cast.Order
import Mathlib.Tactic.Positivity
import Mathlib.Tactic.FieldSimp
import Mathlib.Tactic.Ring
import Mathlib.Tactic.Linarith
import TypeAssertion.Number

/-!
What a number stands for. A finite number is a signed whole multiple of the smallest positive
magnitude, and that multiple grows strictly with the rank. So finite numbers are told apart by their
rational values, except for the two zeros, and numeric equality is equality of values.
-/

set_option autoImplicit false

namespace TypeAssertion.Number

/-- The value of a finite number. -/
def toRat (x : Number) : ℚ :=
  if x.negative then -((x.ratio.1 : ℚ) / x.ratio.2) else (x.ratio.1 : ℚ) / x.ratio.2

/-- How often one can be halved before it falls below the smallest positive magnitude. -/
def halvings : Nat := 1074

/-- How many of the smallest positive magnitude make one. -/
def unitsPerOne : Nat := 2 ^ halvings

/-- The magnitude of a rank, in units of the smallest positive one. -/
def units (rank : Nat) : Nat :=
  if rank < binade then rank else (binade + rank % binade) * 2 ^ (rank / binade - 1)

theorem binade_eq : binade = 2 ^ 52 := rfl

/-- Ranks count steps. From one power of two to the next all steps are of one size. -/
theorem units_step {k s : Nat} (low : binade ≤ s ∨ k = 0) (high : s ≤ 2 * binade) :
    units (k * binade + s) = s * 2 ^ k := by
  rcases Nat.lt_or_ge s binade with below | above
  · obtain rfl : k = 0 := low.resolve_left (by omega)
    rw [Nat.zero_mul, Nat.zero_add, units, if_pos below, Nat.pow_zero, Nat.mul_one]
  · rw [units, if_neg (by omega)]
    rcases Nat.lt_or_ge s (2 * binade) with inside | top
    · have quotient : (k * binade + s) / binade = k + 1 := by
        unfold binade at *
        omega
      have remainder : (k * binade + s) % binade = s - binade := by
        unfold binade at *
        omega
      rw [quotient, remainder, Nat.add_sub_cancel, Nat.add_sub_cancel' above]
    · obtain rfl : s = 2 * binade := by omega
      have quotient : (k * binade + 2 * binade) / binade = k + 2 := by
        unfold binade
        omega
      have remainder : (k * binade + 2 * binade) % binade = 0 := by
        unfold binade
        omega
      rw [quotient, remainder, Nat.add_zero, show k + 2 - 1 = k + 1 from rfl, Nat.pow_succ]
      ring

theorem exists_step (rank : Nat) :
    ∃ k s, rank = k * binade + s ∧ (binade ≤ s ∨ k = 0) ∧ s < 2 * binade := by
  rcases Nat.lt_or_ge rank binade with below | above
  · exact ⟨0, rank, by omega, .inr rfl, by omega⟩
  · refine ⟨rank / binade - 1, binade + rank % binade, ?_, .inl (by omega), ?_⟩
    · unfold binade at *
      omega
    · unfold binade
      omega

theorem units_lt_units_succ (rank : Nat) : units rank < units (rank + 1) := by
  obtain ⟨k, s, rfl, low, high⟩ := exists_step rank
  rw [Nat.add_assoc, units_step low (by omega), units_step (by omega) (by omega)]
  exact Nat.mul_lt_mul_of_pos_right (Nat.lt_succ_self s) (by positivity)

theorem units_strictMono : StrictMono units := strictMono_nat_of_lt_succ units_lt_units_succ

@[simp] theorem units_zero : units 0 = 0 := rfl

theorem ratio_pos (x : Number) : 0 < x.ratio.2 := by
  unfold ratio
  split
  · exact Nat.two_pow_pos _
  · exact Nat.one_pos

theorem unitsPerOne_pos : 0 < unitsPerOne := Nat.two_pow_pos halvings

theorem unitsPerOne_eq {a b : Nat} (h : a + b = halvings) : unitsPerOne = 2 ^ a * 2 ^ b := by
  rw [unitsPerOne, ← h, Nat.pow_add]

theorem two_pow_eq_mul_unitsPerOne {a b : Nat} (h : a = b + halvings) :
    2 ^ a = 2 ^ b * unitsPerOne := by
  rw [h, Nat.pow_add, unitsPerOne]

/-- The quotient that a number gives for its magnitude is its multiple of the smallest one. -/
theorem ratio_mul_unitsPerOne (x : Number) :
    x.ratio.1 * unitsPerOne = units x.rank.val * x.ratio.2 := by
  obtain ⟨negative, rank, bound⟩ := x
  simp only [ratio, exponent, significand, units, Nat.pow_eq]
  by_cases below : rank < binade
  · simp only [below, if_true]
    rw [if_pos (by omega), unitsPerOne_eq (a := (-1074 : Int).natAbs) (b := 0) rfl, Nat.pow_zero,
      Nat.mul_one]
  · have above : binade ≤ rank := Nat.le_of_not_lt below
    simp only [below, if_false]
    split
    · next small =>
      rw [unitsPerOne_eq (a := rank / binade - 1)
        (b := (((rank / binade : Nat) : Int) - 1075).natAbs) (by unfold binade halvings at *; omega)]
      ring
    · next large =>
      rw [two_pow_eq_mul_unitsPerOne (a := rank / binade - 1)
        (b := (((rank / binade : Nat) : Int) - 1075).natAbs) (by unfold halvings; omega)]
      ring

theorem ratio_eq_units (x : Number) :
    (x.ratio.1 : ℚ) / x.ratio.2 = (units x.rank.val : ℚ) / unitsPerOne := by
  have one : (unitsPerOne : ℚ) ≠ 0 := by exact_mod_cast unitsPerOne_pos.ne'
  have two : (x.ratio.2 : ℚ) ≠ 0 := by exact_mod_cast x.ratio_pos.ne'
  rw [div_eq_div_iff two one]
  exact_mod_cast x.ratio_mul_unitsPerOne

/-- The signed multiple of the smallest magnitude: the value over a fixed denominator. -/
def signedUnits (x : Number) : Int :=
  if x.negative then -(units x.rank.val : Int) else units x.rank.val

theorem toRat_eq (x : Number) : x.toRat = (x.signedUnits : ℚ) / unitsPerOne := by
  rw [toRat, ratio_eq_units, signedUnits]
  split
  · rw [Int.cast_neg, Int.cast_natCast, neg_div]
  · rw [Int.cast_natCast]

theorem toRat_inj {x y : Number} : x.toRat = y.toRat ↔ x.signedUnits = y.signedUnits := by
  have one : (unitsPerOne : ℚ) ≠ 0 := by exact_mod_cast unitsPerOne_pos.ne'
  rw [toRat_eq, toRat_eq, div_left_inj' one]
  exact Int.cast_inj

theorem signedUnits_inj {x y : Number} : x.signedUnits = y.signedUnits ↔ x.key = y.key := by
  have zero_iff (rank : Nat) : units rank = 0 ↔ rank = 0 :=
    ⟨fun h => units_strictMono.injective (h.trans units_zero.symm), fun h => h ▸ units_zero⟩
  have units_iff : units x.rank.val = units y.rank.val ↔ x.rank.val = y.rank.val :=
    units_strictMono.injective.eq_iff
  have zx := zero_iff x.rank.val
  have zy := zero_iff y.rank.val
  unfold signedUnits key
  split <;> split <;> omega

theorem isNaN_of_isFinite {x : Number} (h : x.isFinite = true) : x.isNaN = false := by
  rw [isFinite, decide_eq_true_eq] at h
  rw [isNaN, decide_eq_false_iff_not]
  omega

theorem equals_self_of_isFinite {x : Number} (h : x.isFinite = true) : x.equals x = true := by
  rw [equals_self, isNaN_of_isFinite h]
  rfl

/-- Numeric equality of finite numbers is equality of their values. -/
theorem equals_iff_toRat_eq {x y : Number} (hx : x.isFinite = true) (hy : y.isFinite = true) :
    x.equals y = true ↔ x.toRat = y.toRat := by
  rw [toRat_inj, signedUnits_inj, equals, isNaN_of_isFinite hx, isNaN_of_isFinite hy]
  simp

end TypeAssertion.Number
