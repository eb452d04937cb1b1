import TypeAssertion.Json
import TypeAssertion.Proofs.Number.Rounding

/-!
Integers as numbers. Below the exact limit an integer is its own number and can be read back from it;
any integer of 64 bits has a finite number, which is a nearest one.
-/

set_option autoImplicit false

namespace TypeAssertion.Number

/-! ### Rounded quotients -/

theorem rank_ofRatio (negative : Bool) (n d : Nat) :
    (ofRatio negative n d).rank.val = min (rankOfRatio n d) infinityRank := rfl

theorem isFinite_ofRatio {negative : Bool} {n d m : Nat} (hd : 0 < d) (hm : m ≤ 1023)
    (h : n ≤ 2 ^ m * d) : (ofRatio negative n d).isFinite = true := by
  have power : units ((m + 1022) * binade + binade) = 2 ^ m * unitsPerOne := by
    rw [units_step (.inl (Nat.le_refl _)) (by omega),
      ← two_pow_eq_mul_unitsPerOne (a := 52 + (m + 1022)) (b := m) (by unfold halvings; omega),
      binade_eq, ← Nat.pow_add]
  have bound : rankOfRatio n d ≤ (m + 1022) * binade + binade := by
    apply rankOfRatio_le hd
    calc n * unitsPerOne ≤ 2 ^ m * d * unitsPerOne := Nat.mul_le_mul_right _ h
      _ = 2 ^ m * unitsPerOne * d := Nat.mul_right_comm _ _ _
      _ = units ((m + 1022) * binade + binade) * d := by rw [power]
  rw [isFinite, decide_eq_true_eq, rank_ofRatio]
  unfold infinityRank binade at *
  omega

/-- Every whole number below the exact limit is the magnitude of a rank. -/
theorem exists_rank_of_lt {n : Nat} (h : n < exactLimit) :
    ∃ rank, rank < infinityRank ∧ units rank = n * unitsPerOne := by
  rcases Nat.eq_zero_or_pos n with rfl | hn
  · exact ⟨0, by decide, by rw [units_zero, Nat.zero_mul]⟩
  · have low : 2 ^ n.log2 ≤ n := Nat.log2_self_le hn.ne'
    have high : n < 2 ^ (n.log2 + 1) := Nat.lt_log2_self
    have short : n.log2 < 53 := by
      by_contra long
      have grown : 2 ^ 53 ≤ 2 ^ n.log2 := Nat.pow_le_pow_right (by decide) (by omega)
      unfold exactLimit at h
      omega
    obtain ⟨m, hm⟩ := Nat.exists_eq_add_of_le (Nat.le_of_lt_succ short)
    have full : binade = 2 ^ n.log2 * 2 ^ m := by rw [← Nat.pow_add, ← hm, binade_eq]
    have low' : binade ≤ n * 2 ^ m := full ▸ Nat.mul_le_mul_right _ low
    have high' : n * 2 ^ m < 2 * binade := by
      rw [full, ← Nat.mul_assoc, Nat.mul_comm 2, ← Nat.pow_succ]
      exact Nat.mul_lt_mul_of_pos_right high (Nat.two_pow_pos m)
    refine ⟨(1022 + n.log2) * binade + n * 2 ^ m, ?_, ?_⟩
    · unfold infinityRank
      calc (1022 + n.log2) * binade + n * 2 ^ m < (1022 + n.log2) * binade + 2 * binade :=
            Nat.add_lt_add_left high' _
        _ = (1024 + n.log2) * binade := by ring
        _ ≤ 2047 * binade := Nat.mul_le_mul_right _ (by omega)
    · rw [units_step (.inl low') high'.le, unitsPerOne_eq (a := m) (b := 1022 + n.log2)
        (by unfold halvings; omega), Nat.mul_assoc]

/-! ### Integers -/

theorem ofInt_negative (i : Int) : (ofInt i).negative = decide (i < 0) := rfl

theorem signed_mul_unitsPerOne (i : Int) :
    i * unitsPerOne =
      if i < 0 then -((i.natAbs * unitsPerOne : Nat) : Int)
      else (i.natAbs * unitsPerOne : Nat) := by
  rw [Nat.cast_mul]
  split
  · rw [← Int.neg_mul, show -((i.natAbs : Nat) : Int) = i by omega]
  · rw [show ((i.natAbs : Nat) : Int) = i by omega]

theorem isFinite_ofInt {i : Int} {m : Nat} (hm : m ≤ 1023) (h : i.natAbs ≤ 2 ^ m) :
    (ofInt i).isFinite = true :=
  isFinite_ofRatio Nat.one_pos hm (by rwa [Nat.mul_one])

theorem isFinite_ofInt_of_fits {i : Int} (h : Numeral.fitsInteger i = true) :
    (ofInt i).isFinite = true := by
  simp only [Numeral.fitsInteger, Bool.and_eq_true, decide_eq_true_eq] at h
  exact isFinite_ofInt (m := 64) (by decide) (by omega)

theorem toRat_eq_intCast_iff {x : Number} {i : Int} :
    x.toRat = i ↔ x.signedUnits = i * unitsPerOne := by
  have one : (unitsPerOne : ℚ) ≠ 0 := by exact_mod_cast unitsPerOne_pos.ne'
  rw [toRat_eq, div_eq_iff one]
  exact_mod_cast Iff.rfl

theorem units_of_toRat_eq {x : Number} {i : Int} (h : x.toRat = i) :
    units x.rank.val = i.natAbs * unitsPerOne := by
  rw [toRat_eq_intCast_iff, signed_mul_unitsPerOne, signedUnits] at h
  generalize i.natAbs * unitsPerOne = magnitude at h ⊢
  generalize units x.rank.val = given at h ⊢
  split at h <;> split at h <;> omega

theorem signedUnits_ofInt {i : Int} (h : i.natAbs < exactLimit) :
    (ofInt i).signedUnits = i * unitsPerOne := by
  obtain ⟨rank, bound, exact⟩ := exists_rank_of_lt h
  have chosen : (ofInt i).rank.val = rank := by
    rw [ofInt, rank_ofRatio, rankOfRatio_eq Nat.one_pos ((Nat.mul_one _).trans exact)]
    omega
  rw [signedUnits, chosen, exact, signed_mul_unitsPerOne, ofInt_negative]
  simp only [decide_eq_true_eq]

/-- Below the exact limit the number of an integer has its value. -/
theorem toRat_ofInt {i : Int} (h : i.natAbs < exactLimit) : (ofInt i).toRat = i :=
  toRat_eq_intCast_iff.2 (signedUnits_ofInt h)

theorem exactLimit_eq : exactLimit = 2 ^ 53 := rfl

/-- An integer from the exact limit on is not rounded below it. -/
theorem exactLimit_le_of_toRat_ofInt {i j : Int} (h : exactLimit ≤ i.natAbs)
    (value : (ofInt i).toRat = j) : exactLimit ≤ j.natAbs := by
  obtain ⟨k, hk⟩ : ∃ k, k = 1075 := ⟨_, rfl⟩
  have limit : units (k * binade + binade) = exactLimit * unitsPerOne := by
    rw [units_step (.inl (Nat.le_refl _)) (by omega), binade_eq, ← Nat.pow_add,
      two_pow_eq_mul_unitsPerOne (a := 52 + k) (b := 53) (by unfold halvings; omega),
      exactLimit_eq]
  have reached : k * binade + binade ≤ (ofInt i).rank.val := by
    rw [ofInt, rank_ofRatio]
    refine Nat.le_min.2 ⟨le_rankOfRatio Nat.one_pos ?_, ?_⟩
    · rw [Nat.mul_one, limit]
      exact Nat.mul_le_mul_right _ h
    · unfold infinityRank binade
      omega
  apply Nat.le_of_mul_le_mul_right _ unitsPerOne_pos
  rw [← limit, ← units_of_toRat_eq value]
  exact units_strictMono.monotone reached

theorem abs_toRat_sub_intCast (x : Number) (i : Int) :
    |x.toRat - i| = ((x.signedUnits - i * unitsPerOne).natAbs : ℚ) / unitsPerOne := by
  have one : (0 : ℚ) < unitsPerOne := by exact_mod_cast unitsPerOne_pos
  rw [toRat_eq, Nat.cast_natAbs, Int.cast_abs, Int.cast_sub, Int.cast_mul, Int.cast_natCast,
    div_sub' one.ne', abs_div, abs_of_pos one, mul_comm (unitsPerOne : ℚ)]

/-- No finite number is nearer to an integer than the one chosen for it. -/
theorem abs_toRat_ofInt_sub_le {i : Int} (h : (ofInt i).isFinite = true) (y : Number) :
    |(ofInt i).toRat - i| ≤ |y.toRat - i| := by
  have one : (0 : ℚ) < unitsPerOne := by exact_mod_cast unitsPerOne_pos
  rw [abs_toRat_sub_intCast, abs_toRat_sub_intCast, div_le_div_iff_of_pos_right one, Nat.cast_le]
  have chosen : (ofInt i).rank.val = rankOfRatio i.natAbs 1 := by
    rw [isFinite, decide_eq_true_eq] at h
    rw [ofInt, rank_ofRatio] at *
    omega
  have optimal := natAbs_units_rankOfRatio_sub_le i.natAbs y.rank.val Nat.one_pos
  rw [Nat.mul_one, Nat.mul_one, ← chosen] at optimal
  rw [signed_mul_unitsPerOne, signedUnits, signedUnits, ofInt_negative]
  generalize i.natAbs * unitsPerOne = whole at optimal
  generalize units (ofInt i).rank.val = given at optimal
  generalize units y.rank.val = other at optimal
  simp only [decide_eq_true_eq]
  split <;> split <;> omega

/-! ### Reading integers back -/

theorem wholeMagnitude?_eq_some_iff {x : Number} {n : Nat} :
    x.wholeMagnitude? = some n ↔ x.isFinite = true ∧ units x.rank.val = n * unitsPerOne := by
  have quotient_iff : units x.rank.val = n * unitsPerOne ↔ x.ratio.1 = n * x.ratio.2 := by
    have same := x.ratio_mul_unitsPerOne
    constructor
    · intro whole
      apply Nat.eq_of_mul_eq_mul_right unitsPerOne_pos
      rw [same, whole, Nat.mul_right_comm]
    · intro whole
      apply Nat.eq_of_mul_eq_mul_right x.ratio_pos
      rw [← same, whole, Nat.mul_right_comm]
  rw [wholeMagnitude?, quotient_iff]
  have pos := x.ratio_pos
  constructor
  · intro h
    split at h
    · next whole =>
      simp only [Bool.and_eq_true, beq_iff_eq] at whole
      refine ⟨whole.1, ?_⟩
      rw [← Option.some.inj h, Nat.div_mul_cancel (Nat.dvd_of_mod_eq_zero whole.2)]
    · simp at h
  · rintro ⟨finite, whole⟩
    rw [finite, whole, Nat.mul_mod_left, Nat.mul_div_cancel _ pos]
    rfl

/-- A number gives the integer that is its value, if that is below the exact limit. -/
theorem toInteger?_eq_some_iff {x : Number} {i : Int} :
    x.toInteger? = some i ↔ x.isFinite = true ∧ x.toRat = i ∧ i.natAbs < exactLimit := by
  rw [toRat_eq_intCast_iff, toInteger?]
  constructor
  · intro h
    cases whole : x.wholeMagnitude? with
    | none => simp [whole] at h
    | some n =>
      obtain ⟨finite, exact⟩ := wholeMagnitude?_eq_some_iff.1 whole
      simp only [whole] at h
      split at h
      · next small =>
        obtain rfl := Option.some.inj h
        refine ⟨finite, ?_, by split <;> omega⟩
        rw [signedUnits, exact]
        split <;> push_cast <;> ring
      · simp at h
  · rintro ⟨finite, exact, small⟩
    have whole : x.wholeMagnitude? = some i.natAbs :=
      wholeMagnitude?_eq_some_iff.2 ⟨finite, units_of_toRat_eq (toRat_eq_intCast_iff.2 exact)⟩
    have pos : (0 : Int) < unitsPerOne := by exact_mod_cast unitsPerOne_pos
    have sign : if x.negative then i ≤ 0 else 0 ≤ i := by
      rw [signedUnits] at exact
      split
      · next negative =>
        rw [if_pos negative] at exact
        by_contra up
        have := Int.mul_pos (Int.lt_of_not_ge up) pos
        omega
      · next positive =>
        rw [if_neg positive] at exact
        by_contra down
        have := Int.mul_neg_of_neg_of_pos (Int.lt_of_not_ge down) pos
        omega
    rw [whole]
    dsimp only
    rw [if_pos small, Option.some.injEq]
    split at sign
    · next negative =>
      rw [if_pos negative]
      omega
    · next positive =>
      rw [if_neg positive]
      omega

theorem toInteger?_ofInt {i : Int} (h : i.natAbs < exactLimit) : (ofInt i).toInteger? = some i :=
  toInteger?_eq_some_iff.2
    ⟨isFinite_ofInt (m := 53) (by decide) (Nat.le_of_lt h), toRat_ofInt h, h⟩

/-- Finite numbers with one value are one number, unless they are the two zeros. -/
theorem eq_of_toRat_eq {x y : Number} (h : x.toRat = y.toRat) (hy : y.isZero = false) : x = y := by
  rw [toRat_inj, signedUnits_inj] at h
  obtain ⟨s, r, hr⟩ := x
  obtain ⟨t, q, hq⟩ := y
  simp only [isZero, decide_eq_false_iff_not] at hy
  cases s <;> cases t <;> simp only [key, Bool.false_eq_true, if_true, if_false] at h
  · obtain rfl : r = q := by omega
    rfl
  · omega
  · omega
  · obtain rfl : r = q := by omega
    rfl

theorem isZero_iff_toRat_eq_zero {x : Number} : x.isZero = true ↔ x.toRat = 0 := by
  have none : zero.toRat = 0 := by
    rw [toRat_eq, show zero.signedUnits = 0 from rfl, Int.cast_zero, zero_div]
  rw [← none, toRat_inj, signedUnits_inj, show zero.key = 0 from rfl, isZero, decide_eq_true_eq, key]
  split <;> omega

/-- Reading an integer off a number and taking its number again only loses the sign of a zero. -/
theorem ofInt_of_toInteger? {x : Number} {i : Int} (h : x.toInteger? = some i) :
    ofInt i = if x.isZero then zero else x := by
  obtain ⟨_, value, small⟩ := toInteger?_eq_some_iff.1 h
  have same : (ofInt i).toRat = x.toRat := (toRat_ofInt small).trans value.symm
  split
  · next zeroed =>
    rw [isZero_iff_toRat_eq_zero, value] at zeroed
    obtain rfl : i = 0 := by exact_mod_cast zeroed
    rfl
  · next nonzero => exact eq_of_toRat_eq same (Bool.not_eq_true _ ▸ nonzero)

end TypeAssertion.Number
