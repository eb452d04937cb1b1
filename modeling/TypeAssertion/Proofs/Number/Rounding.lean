import Mathlib.Algebra.Order.Field.Power
import TypeAssertion.Number.Rounding
import TypeAssertion.Proofs.Number.Magnitude

/-!
Rounding finds a nearest number. A quotient of natural numbers is compared with the multiples of the
smallest magnitude that ranks stand for, both over one denominator, so all of this is arithmetic of
integers. From it follow that rounding is monotone and that a magnitude is its own rounding.
-/

set_option autoImplicit false

namespace TypeAssertion.Number

/-! ### The nearest integer -/

theorem nearest_bounds (a : Nat) {d : Nat} (hd : 0 < d) :
    2 * (nearest a d * d) ≤ 2 * a + d ∧ 2 * a ≤ 2 * (nearest a d * d) + d := by
  have parts : a / d * d + a % d = a := Nat.div_add_mod' a d
  have small : a % d < d := Nat.mod_lt a hd
  have next : (a / d + 1) * d = a / d * d + d := Nat.succ_mul _ _
  unfold nearest
  dsimp only
  split
  · omega
  · split
    · omega
    · rcases Nat.mod_two_eq_zero_or_one (a / d) with even | odd
      · rw [even, Nat.add_zero]
        omega
      · rw [odd]
        omega

theorem nearest_mul_right (a d : Nat) {c : Nat} (hc : 0 < c) :
    nearest (a * c) (d * c) = nearest a d := by
  have below_iff (x y : Nat) : 2 * (x * c) < y * c ↔ 2 * x < y := by
    rw [← Nat.mul_assoc]
    exact Nat.mul_lt_mul_right hc
  have above_iff (x y : Nat) : y * c < 2 * (x * c) ↔ y < 2 * x := by
    rw [← Nat.mul_assoc]
    exact Nat.mul_lt_mul_right hc
  unfold nearest
  simp only [Nat.mul_div_mul_right a d hc, Nat.mul_mod_mul_right, below_iff, above_iff]

theorem le_nearest {m a d : Nat} (hd : 0 < d) (h : m * d ≤ a) : m ≤ nearest a d := by
  by_contra less
  have step : (nearest a d + 1) * d ≤ m * d := Nat.mul_le_mul_right d (by omega)
  have bound := (nearest_bounds a hd).2
  rw [Nat.succ_mul] at step
  omega

theorem nearest_le {m a d : Nat} (hd : 0 < d) (h : a ≤ m * d) : nearest a d ≤ m := by
  by_contra more
  have step : (m + 1) * d ≤ nearest a d * d := Nat.mul_le_mul_right d (by omega)
  have bound := (nearest_bounds a hd).1
  rw [Nat.succ_mul] at step
  omega

theorem natAbs_sub_le_of_le {x y a : Nat} (hxy : x ≤ y) (hya : y ≤ a) :
    ((y : Int) - a).natAbs ≤ ((x : Int) - a).natAbs := by
  omega

theorem lt_natAbs_sub_of_lt {x y a : Nat} (h : a ≤ x ∧ x < y ∨ y < x ∧ x ≤ a) :
    ((x : Int) - a).natAbs < ((y : Int) - a).natAbs := by
  omega

/-- No multiple of the denominator is nearer than the chosen one. -/
theorem natAbs_nearest_mul_sub_le (a z : Nat) {d : Nat} (hd : 0 < d) :
    (((nearest a d * d : Nat) : Int) - a).natAbs ≤ (((z * d : Nat) : Int) - a).natAbs := by
  have bounds := nearest_bounds a hd
  rcases Nat.lt_trichotomy z (nearest a d) with below | same | above
  · have step : (z + 1) * d ≤ nearest a d * d := Nat.mul_le_mul_right d below
    rw [Nat.succ_mul] at step
    omega
  · rw [same]
  · have step : (nearest a d + 1) * d ≤ z * d := Nat.mul_le_mul_right d above
    rw [Nat.succ_mul] at step
    omega

/-! ### The grid of a quotient -/

section Grid

variable {n d : Nat}

theorem reached_iff (n d : Nat) (guess : Int) :
    (if guess < 0 then decide (d ≤ n * Nat.pow 2 guess.natAbs)
      else decide (d * Nat.pow 2 guess.natAbs ≤ n)) = true ↔ (2 : ℚ) ^ guess * d ≤ n := by
  split
  · next small =>
    obtain ⟨m, rfl⟩ := Int.exists_eq_neg_ofNat (Int.le_of_lt small)
    rw [decide_eq_true_eq, Int.natAbs_neg, Int.natAbs_natCast, zpow_neg, zpow_natCast,
      inv_mul_le_iff₀ (by positivity), mul_comm, Nat.pow_eq]
    exact_mod_cast Iff.rfl
  · next large =>
    obtain ⟨m, rfl⟩ := Int.eq_ofNat_of_zero_le (Int.not_lt.1 large)
    rw [decide_eq_true_eq, Int.natAbs_natCast, zpow_natCast, mul_comm, Nat.pow_eq]
    exact_mod_cast Iff.rfl

/-- The binary exponent is that of the largest power of two up to the quotient. -/
theorem binaryExponent_bounds (hn : 0 < n) (hd : 0 < d) :
    (2 : ℚ) ^ binaryExponent n d * d ≤ n ∧ (n : ℚ) < 2 ^ (binaryExponent n d + 1) * d := by
  have two : (2 : ℚ) ≠ 0 := two_ne_zero
  have d_pos : (0 : ℚ) < d := by exact_mod_cast hd
  have n_low : (2 : ℚ) ^ (n.log2 : Int) ≤ n := by exact_mod_cast Nat.log2_self_le hn.ne'
  have n_high : (n : ℚ) < 2 ^ ((n.log2 : Int) + 1) := by exact_mod_cast Nat.lt_log2_self
  have d_low : (2 : ℚ) ^ (d.log2 : Int) ≤ d := by exact_mod_cast Nat.log2_self_le hd.ne'
  have d_high : (d : ℚ) < 2 ^ ((d.log2 : Int) + 1) := by exact_mod_cast Nat.lt_log2_self
  have guess_high : (n : ℚ) < 2 ^ ((n.log2 : Int) - d.log2 + 1) * d := by
    calc (n : ℚ) < 2 ^ ((n.log2 : Int) + 1) := n_high
      _ = 2 ^ ((n.log2 : Int) - d.log2 + 1) * 2 ^ (d.log2 : Int) := by
        rw [← zpow_add₀ two]
        congr 1
        ring
      _ ≤ 2 ^ ((n.log2 : Int) - d.log2 + 1) * d := by gcongr
  have guess_low : (2 : ℚ) ^ ((n.log2 : Int) - d.log2 - 1) * d ≤ n := by
    calc (2 : ℚ) ^ ((n.log2 : Int) - d.log2 - 1) * d
        ≤ 2 ^ ((n.log2 : Int) - d.log2 - 1) * 2 ^ ((d.log2 : Int) + 1) := by gcongr
      _ = 2 ^ (n.log2 : Int) := by
        rw [← zpow_add₀ two]
        congr 1
        ring
      _ ≤ n := n_low
  unfold binaryExponent
  dsimp only
  by_cases reached : (2 : ℚ) ^ ((n.log2 : Int) - d.log2) * d ≤ n
  · rw [if_pos ((reached_iff n d _).2 reached)]
    exact ⟨reached, guess_high⟩
  · rw [if_neg (mt (reached_iff n d _).1 reached), Int.sub_add_cancel]
    exact ⟨guess_low, lt_of_not_ge reached⟩

theorem unitsPerOne_eq_zpow : (unitsPerOne : ℚ) = 2 ^ (halvings : Int) := by
  rw [unitsPerOne, zpow_natCast]
  exact_mod_cast rfl

theorem binade_eq_zpow : (binade : ℚ) = 2 ^ (52 : Int) := by norm_num [binade]

/-- Below the next power of two, a quotient is less than two binades of steps. -/
theorem lt_two_mul_binade {e : Int} {k : Nat} (high : (n : ℚ) < 2 ^ (e + 1) * d)
    (step : e + halvings ≤ 52 + (k : Int)) : n * unitsPerOne < 2 * binade * (d * 2 ^ k) := by
  have two : (2 : ℚ) ≠ 0 := two_ne_zero
  have scaled : (n : ℚ) * unitsPerOne < 2 * binade * (d * 2 ^ (k : Int)) := by
    calc (n : ℚ) * unitsPerOne < 2 ^ (e + 1) * d * unitsPerOne :=
          mul_lt_mul_of_pos_right high (by exact_mod_cast unitsPerOne_pos)
      _ = 2 ^ (e + 1 + halvings) * d := by
          rw [unitsPerOne_eq_zpow, zpow_add₀ two (e + 1)]
          ring
      _ ≤ 2 ^ (1 + 52 + (k : Int)) * d := by
          have top : e + 1 + halvings ≤ 1 + 52 + (k : Int) := by omega
          exact mul_le_mul_of_nonneg_right (zpow_le_zpow_right₀ one_le_two top) (by positivity)
      _ = 2 * binade * (d * 2 ^ (k : Int)) := by
          rw [binade_eq_zpow, zpow_add₀ two, zpow_add₀ two, zpow_one]
          ring
  exact_mod_cast scaled

/-- From a power of two on, a quotient is a binade of steps or more. -/
theorem binade_mul_le {e : Int} {k : Nat} (low : (2 : ℚ) ^ e * d ≤ n)
    (step : e + halvings = 52 + (k : Int)) : binade * (d * 2 ^ k) ≤ n * unitsPerOne := by
  have two : (2 : ℚ) ≠ 0 := two_ne_zero
  have scaled : (binade : ℚ) * (d * 2 ^ (k : Int)) ≤ n * unitsPerOne := by
    calc (binade : ℚ) * (d * 2 ^ (k : Int)) = 2 ^ (e + halvings) * d := by
          rw [binade_eq_zpow, step, zpow_add₀ two]
          ring
      _ = 2 ^ e * d * unitsPerOne := by
          rw [unitsPerOne_eq_zpow, zpow_add₀ two]
          ring
      _ ≤ n * unitsPerOne := mul_le_mul_of_nonneg_right low (Nat.cast_nonneg _)
  exact_mod_cast scaled

/-- A quotient is rounded on a grid whose step is a power of two times the smallest magnitude. Unless
the step is the smallest, the quotient is as many steps as there are from a power of two on. -/
theorem exists_grid (n : Nat) (hd : 0 < d) :
    ∃ k, units (rankOfRatio n d) = nearest (n * unitsPerOne) (d * 2 ^ k) * 2 ^ k ∧
      (k = 0 ∨ binade * (d * 2 ^ k) ≤ n * unitsPerOne) := by
  rcases Nat.eq_zero_or_pos n with rfl | hn
  · refine ⟨0, ?_, .inl rfl⟩
    have none : nearest (0 * unitsPerOne) (d * 2 ^ 0) ≤ 0 :=
      nearest_le (by positivity) (by omega)
    rw [Nat.le_zero.1 none]
    rfl
  obtain ⟨low, high⟩ := binaryExponent_bounds hn hd
  rw [rankOfRatio, if_neg hn.ne']
  dsimp only
  generalize binaryExponent n d = e at low high
  generalize hunit : max (e - 52) (-1074) = unit
  obtain ⟨k, hk⟩ := Int.eq_ofNat_of_zero_le (a := unit + 1074) (by omega)
  have steps : (if unit < 0 then nearest (n * Nat.pow 2 unit.natAbs) d
      else nearest n (d * Nat.pow 2 unit.natAbs)) = nearest (n * unitsPerOne) (d * 2 ^ k) := by
    split
    · next fine =>
      rw [← nearest_mul_right _ _ (Nat.two_pow_pos k), Nat.pow_eq, Nat.mul_assoc,
        ← unitsPerOne_eq (a := unit.natAbs) (b := k) (by unfold halvings; omega)]
    · next coarse =>
      rw [← nearest_mul_right _ _ unitsPerOne_pos, Nat.pow_eq, Nat.mul_assoc,
        ← two_pow_eq_mul_unitsPerOne (a := k) (b := unit.natAbs) (by unfold halvings; omega)]
  have below : n * unitsPerOne < 2 * binade * (d * 2 ^ k) :=
    lt_two_mul_binade high (by unfold halvings; omega)
  have above : k = 0 ∨ binade * (d * 2 ^ k) ≤ n * unitsPerOne :=
    (Nat.eq_zero_or_pos k).imp id fun coarse => binade_mul_le low (by unfold halvings; omega)
  refine ⟨k, ?_, above⟩
  rw [steps, hk]
  have grid_pos : 0 < d * 2 ^ k := by positivity
  exact units_step (above.symm.imp (le_nearest grid_pos) id) (nearest_le grid_pos below.le)

/-- No rank stands for a magnitude that is nearer to a quotient than the chosen one. -/
theorem natAbs_units_rankOfRatio_sub_le (n rank : Nat) (hd : 0 < d) :
    (((units (rankOfRatio n d) * d : Nat) : Int) - (n * unitsPerOne : Nat)).natAbs ≤
      (((units rank * d : Nat) : Int) - (n * unitsPerOne : Nat)).natAbs := by
  obtain ⟨k, chosen, filled⟩ := exists_grid n hd
  have grid_pos : 0 < d * 2 ^ k := by positivity
  have optimal (z : Nat) := natAbs_nearest_mul_sub_le (n * unitsPerOne) z grid_pos
  have chosen_mul : units (rankOfRatio n d) * d =
      nearest (n * unitsPerOne) (d * 2 ^ k) * (d * 2 ^ k) := by
    rw [chosen]
    ring
  rw [chosen_mul]
  obtain ⟨j, s, rfl, low, high⟩ := exists_step rank
  rw [units_step low high.le]
  rcases Nat.lt_or_ge j k with finer | coarser
  · -- All magnitudes on a finer grid lie below a grid point that is not above the quotient.
    have reached := filled.resolve_left (by omega)
    refine (optimal binade).trans ?_
    have beyond : s * 2 ^ j * d ≤ binade * (d * 2 ^ k) := by
      calc s * 2 ^ j * d ≤ 2 * binade * 2 ^ j * d := by gcongr
        _ = binade * (d * 2 ^ (j + 1)) := by
          rw [Nat.pow_succ]
          ring
        _ ≤ binade * (d * 2 ^ k) := by
          gcongr
          · norm_num
          · omega
    exact natAbs_sub_le_of_le beyond reached
  · obtain ⟨extra, rfl⟩ := Nat.exists_eq_add_of_le coarser
    have multiple : s * 2 ^ (k + extra) * d = s * 2 ^ extra * (d * 2 ^ k) := by
      rw [Nat.pow_add]
      ring
    rw [multiple]
    exact optimal (s * 2 ^ extra)

/-- What is not above a magnitude is not rounded above it. -/
theorem rankOfRatio_le {rank : Nat} (hd : 0 < d) (h : n * unitsPerOne ≤ units rank * d) :
    rankOfRatio n d ≤ rank := by
  by_contra more
  have step : units rank * d < units (rankOfRatio n d) * d :=
    Nat.mul_lt_mul_of_pos_right (units_strictMono (Nat.lt_of_not_le more)) hd
  have optimal := natAbs_units_rankOfRatio_sub_le n rank hd
  exact absurd (lt_natAbs_sub_of_lt (.inl ⟨h, step⟩)) (Nat.not_lt.2 optimal)

/-- What is not below a magnitude is not rounded below it. -/
theorem le_rankOfRatio {rank : Nat} (hd : 0 < d) (h : units rank * d ≤ n * unitsPerOne) :
    rank ≤ rankOfRatio n d := by
  by_contra less
  have step : units (rankOfRatio n d) * d < units rank * d :=
    Nat.mul_lt_mul_of_pos_right (units_strictMono (Nat.lt_of_not_le less)) hd
  have optimal := natAbs_units_rankOfRatio_sub_le n rank hd
  exact absurd (lt_natAbs_sub_of_lt (.inr ⟨step, h⟩)) (Nat.not_lt.2 optimal)

theorem rankOfRatio_eq {rank : Nat} (hd : 0 < d) (h : units rank * d = n * unitsPerOne) :
    rankOfRatio n d = rank :=
  Nat.le_antisymm (rankOfRatio_le hd h.ge) (le_rankOfRatio hd h.le)

end Grid

end TypeAssertion.Number
