import TypeAssertion.Json.Reader
import TypeAssertion.Proofs.Number.Integer

/-!
Well-formed documents: their numerals hold what a numeral can, and the keys of each object ascend.
Every document that is read from a text is well-formed. For numerals this rests on the rounding of
scaled numbers: a division by a power of ten gives a finite number again.
-/

set_option autoImplicit false

namespace TypeAssertion

instance : DecidablePred Numeral.WellFormed
  | .integer value => inferInstanceAs (Decidable (Numeral.fitsInteger value = true))
  | .double value => inferInstanceAs (Decidable (value.isFinite = true))

namespace Json

/-- A document with sound numerals and ascending keys at every depth. -/
inductive WellFormed : Json → Prop
  | null : WellFormed .null
  | bool {truth : Bool} : WellFormed (.bool truth)
  | number {numeral : Numeral} : numeral.WellFormed → WellFormed (.number numeral)
  | string {text : String} : WellFormed (.string text)
  | array {items : List Json} : (∀ item ∈ items, WellFormed item) → WellFormed (.array items)
  | object {members : List (String × Json)} : Ascending members →
      (∀ member ∈ members, WellFormed member.2) → WellFormed (.object members)

/-- The members of an object; other documents have none. -/
def members : Json → List (String × Json)
  | object members => members
  | _ => []

theorem WellFormed.ascending_members {document : Json} (h : document.WellFormed) :
    Ascending document.members := by
  cases h with
  | object ascending _ => exact ascending
  | _ => simp [members, Ascending]

theorem WellFormed.of_mem_members {document : Json} (h : document.WellFormed)
    {member : String × Json} (inside : member ∈ document.members) : member.2.WellFormed := by
  cases h with
  | object _ sound => exact sound member inside
  | _ => exact absurd inside List.not_mem_nil

end Json

theorem Numeral.isFinite_toNumber {numeral : Numeral} (h : numeral.WellFormed) :
    numeral.toNumber.isFinite = true := by
  cases numeral with
  | integer i => exact Number.isFinite_ofInt_of_fits h
  | double x => exact h

namespace Number

theorem exists_ratio_le {x : Number} (h : x.isFinite = true) :
    ∃ m, m ≤ 1023 ∧ x.ratio.1 ≤ 2 ^ (m + 1) * x.ratio.2 := by
  obtain ⟨m, hm⟩ : ∃ m, m = 1023 := ⟨_, rfl⟩
  have top : units ((m + 1023) * binade + binade) = 2 ^ (m + 1) * unitsPerOne := by
    rw [units_step (.inl (Nat.le_refl _)) (by omega),
      ← two_pow_eq_mul_unitsPerOne (a := 52 + (m + 1023)) (b := m + 1) (by unfold halvings; omega),
      binade_eq, ← Nat.pow_add]
  have bound : units x.rank.val ≤ 2 ^ (m + 1) * unitsPerOne := by
    rw [← top]
    apply units_strictMono.monotone
    rw [isFinite, decide_eq_true_eq, infinityRank] at h
    rw [hm]
    omega
  refine ⟨m, hm.le, ?_⟩
  apply Nat.le_of_mul_le_mul_right _ unitsPerOne_pos
  calc x.ratio.1 * unitsPerOne = units x.rank.val * x.ratio.2 := x.ratio_mul_unitsPerOne
    _ ≤ 2 ^ (m + 1) * unitsPerOne * x.ratio.2 := Nat.mul_le_mul_right _ bound
    _ = 2 ^ (m + 1) * x.ratio.2 * unitsPerOne := Nat.mul_right_comm _ _ _

theorem two_mul_le_powerOfTen {k : Nat} (hk : 0 < k) :
    2 * (powerOfTen k).ratio.2 ≤ (powerOfTen k).ratio.1 := by
  obtain ⟨two, finite, exact⟩ := exists_rank_of_lt (n := 2) (by decide)
  have ten : 2 ≤ Nat.pow 10 k := by
    calc 2 ≤ 10 ^ 1 := by decide
      _ ≤ 10 ^ k := Nat.pow_le_pow_right (by decide) hk
  have reached : two ≤ (powerOfTen k).rank.val := by
    rw [powerOfTen, ofNat, rank_ofRatio]
    refine Nat.le_min.2 ⟨le_rankOfRatio Nat.one_pos ?_, finite.le⟩
    rw [Nat.mul_one, exact]
    exact Nat.mul_le_mul_right _ ten
  apply Nat.le_of_mul_le_mul_right _ unitsPerOne_pos
  calc 2 * (powerOfTen k).ratio.2 * unitsPerOne
      = units two * (powerOfTen k).ratio.2 := by rw [exact, Nat.mul_right_comm]
    _ ≤ units (powerOfTen k).rank.val * (powerOfTen k).ratio.2 :=
      Nat.mul_le_mul_right _ (units_strictMono.monotone reached)
    _ = (powerOfTen k).ratio.1 * unitsPerOne := ((powerOfTen k).ratio_mul_unitsPerOne).symm

theorem isFinite_div_powerOfTen {x : Number} {k : Nat} (h : x.isFinite = true) (hk : 0 < k) :
    (x.div (powerOfTen k)).isFinite = true := by
  obtain ⟨m, hm, bound⟩ := exists_ratio_le h
  have ten := two_mul_le_powerOfTen hk
  have pos := (powerOfTen k).ratio_pos
  refine isFinite_ofRatio (Nat.mul_pos x.ratio_pos (by omega)) hm ?_
  calc x.ratio.1 * (powerOfTen k).ratio.2
      ≤ 2 ^ (m + 1) * x.ratio.2 * (powerOfTen k).ratio.2 := Nat.mul_le_mul_right _ bound
    _ = 2 ^ m * (x.ratio.2 * (2 * (powerOfTen k).ratio.2)) := by
      rw [Nat.pow_succ]
      ring
    _ ≤ 2 ^ m * (x.ratio.2 * (powerOfTen k).ratio.1) := by gcongr

end Number

namespace Json

/-! ### Numerals -/

theorem isFinite_ofNat {n : Nat} (h : n ≤ greatestWord) : (Number.ofNat n).isFinite = true := by
  refine Number.isFinite_ofRatio (m := 64) Nat.one_pos (by decide) ?_
  unfold greatestWord at h
  omega

theorem appendDigits_le {value : Nat} (digits : List Char) (h : value ≤ greatestWord) :
    (appendDigits value digits).1 ≤ greatestWord := by
  induction digits generalizing value with
  | nil => exact h
  | cons c rest ih =>
    rw [appendDigits]
    split
    · next fits => exact ih fits
    · exact h

theorem isFinite_scaleDown {x : Number} {exponent : Nat} (h : x.isFinite = true)
    (positive : 0 < exponent) : (scaleDown x exponent).isFinite = true := by
  fun_induction scaleDown x exponent with
  | case1 => exact h
  | case2 x exponent more _ ih =>
    exact ih (Number.isFinite_div_powerOfTen h (by decide)) (by omega)
  | case3 => exact Number.isFinite_div_powerOfTen h positive

theorem isFinite_of_scaled? {significand : Nat} {exponent : Int} {x : Number}
    (small : significand ≤ greatestWord) (h : scaled? significand exponent = some x) :
    x.isFinite = true := by
  have start := isFinite_ofNat small
  unfold scaled? at h
  dsimp only at h
  split at h
  · next negative =>
    obtain rfl := Option.some.inj h
    exact isFinite_scaleDown start (by omega)
  · split at h
    · exact Option.some.inj h ▸ start
    · split at h
      · simp at h
      · split at h
        · next finite => exact Option.some.inj h ▸ finite
        · simp at h

theorem isFinite_of_doubleOf? {whole fraction : List Char} {exponent : Option (Bool × Nat)}
    {x : Number} (h : doubleOf? whole fraction exponent = some x) : x.isFinite = true := by
  have small : (appendDigits (appendDigits 0 whole).1 fraction).1 ≤ greatestWord :=
    appendDigits_le _ (appendDigits_le _ (Nat.zero_le _))
  unfold doubleOf? at h
  dsimp only at h
  split at h
  · exact isFinite_of_scaled? small h
  · split at h
    · split at h
      · simp at h
      · obtain rfl := Option.some.inj h
        rfl
    · exact isFinite_of_scaled? small h

/-- A sign does not change whether a number is finite. -/
theorem wellFormed_signed {x : Number} (h : x.isFinite = true) (negative : Bool) :
    (Numeral.double { x with negative := negative }).WellFormed := h

theorem wellFormed_of_integerOf? {negative : Bool} {whole : List Char} {numeral : Numeral}
    (h : integerOf? negative whole = some numeral) : numeral.WellFormed := by
  have small : (appendDigits 0 whole).1 ≤ greatestWord := appendDigits_le _ (Nat.zero_le _)
  unfold integerOf? at h
  dsimp only at h
  split at h
  · obtain ⟨x, read, rfl⟩ := Option.map_eq_some_iff.1 h
    exact wellFormed_signed (isFinite_of_doubleOf? read) negative
  · split at h
    · split at h
      · next fits =>
        obtain rfl := Option.some.inj h
        simp only [Bool.and_eq_true, decide_eq_true_eq] at fits
        simp only [Numeral.WellFormed, Numeral.fitsInteger, Bool.and_eq_true, decide_eq_true_eq]
        omega
      · obtain rfl := Option.some.inj h
        exact wellFormed_signed (isFinite_ofNat small) true
    · obtain rfl := Option.some.inj h
      unfold greatestWord at small
      simp only [Numeral.WellFormed, Numeral.fitsInteger, Bool.and_eq_true, decide_eq_true_eq]
      omega

/-! ### Documents -/

/-- What a reader reads has a property. -/
def Yields {α : Type} (holds : α → Prop) (reader : Reader α) : Prop :=
  ∀ text x rest, reader text = some (x, rest) → holds x

theorem yields_readNumeral : Yields Numeral.WellFormed readNumeral := by
  intro text numeral rest h
  unfold readNumeral at h
  split at h
  dsimp only at h
  split at h
  · simp at h
  · obtain ⟨⟨fraction, afterFraction⟩, _, h⟩ := Option.bind_eq_some_iff.1 h
    obtain ⟨⟨exponent, afterExponent⟩, _, h⟩ := Option.bind_eq_some_iff.1 h
    split at h
    · obtain ⟨numeral, read, e⟩ := Option.map_eq_some_iff.1 h
      obtain ⟨rfl, _⟩ := Prod.mk.inj e
      exact wellFormed_of_integerOf? read
    · obtain ⟨x, read, e⟩ := Option.map_eq_some_iff.1 h
      obtain ⟨rfl, _⟩ := Prod.mk.inj e
      exact wellFormed_signed (isFinite_of_doubleOf? read) _

section

variable {α : Type} {holds : α → Prop} {item : Reader α}

theorem yields_readMore (h : Yields holds item) (close : Char) (fuel : Nat) :
    Yields (fun items => ∀ x ∈ items, holds x) (readMore item close fuel) := by
  induction fuel with
  | zero => exact fun text items rest read => nomatch read
  | succ fuel ih =>
    intro text items rest read
    rw [readMore] at read
    split at read
    · simp at read
    · split at read
      · obtain ⟨rfl, _⟩ := Prod.mk.inj (Option.some.inj read)
        simp
      · split at read
        · obtain ⟨⟨x, afterItem⟩, first, read⟩ := Option.bind_eq_some_iff.1 read
          obtain ⟨⟨more, afterMore⟩, others, read⟩ := Option.bind_eq_some_iff.1 read
          obtain ⟨rfl, _⟩ := Prod.mk.inj (Option.some.inj read)
          exact List.forall_mem_cons.2 ⟨h _ _ _ first, ih _ _ _ others⟩
        · simp at read

theorem yields_readSequence (h : Yields holds item) (close : Char) :
    Yields (fun items => ∀ x ∈ items, holds x) (readSequence item close) := by
  intro text items rest read
  rw [readSequence] at read
  split at read
  · simp at read
  · split at read
    · obtain ⟨rfl, _⟩ := Prod.mk.inj (Option.some.inj read)
      simp
    · obtain ⟨⟨x, afterItem⟩, first, read⟩ := Option.bind_eq_some_iff.1 read
      obtain ⟨⟨more, afterMore⟩, others, read⟩ := Option.bind_eq_some_iff.1 read
      obtain ⟨rfl, _⟩ := Prod.mk.inj (Option.some.inj read)
      exact List.forall_mem_cons.2 ⟨h _ _ _ first, yields_readMore h close _ _ _ _ others⟩

theorem yields_readMember (h : Yields holds item) :
    Yields (fun member => holds member.2) (readMember item) := by
  intro text member rest read
  unfold readMember at read
  split at read
  · obtain ⟨⟨key, afterKey⟩, _, read⟩ := Option.bind_eq_some_iff.1 read
    dsimp only at read
    split at read
    · obtain ⟨⟨x, afterItem⟩, value, read⟩ := Option.bind_eq_some_iff.1 read
      obtain ⟨rfl, _⟩ := Prod.mk.inj (Option.some.inj read)
      exact h _ _ _ value
    · simp at read
  · simp at read

end

theorem yields_readDocument (depth : Nat) : Yields WellFormed (readDocument depth) := by
  induction depth using Nat.strongRecOn with
  | ind depth ih =>
    intro text document rest read
    unfold readDocument at read
    split at read
    · obtain ⟨rfl, _⟩ := Prod.mk.inj (Option.some.inj read)
      exact .null
    · obtain ⟨rfl, _⟩ := Prod.mk.inj (Option.some.inj read)
      exact .bool
    · obtain ⟨rfl, _⟩ := Prod.mk.inj (Option.some.inj read)
      exact .bool
    · obtain ⟨_, _, e⟩ := Option.map_eq_some_iff.1 read
      obtain ⟨rfl, _⟩ := Prod.mk.inj e
      exact .string
    · split at read
      · simp at read
      · simp at read
      · next depth =>
        obtain ⟨⟨items, after⟩, sequence, e⟩ := Option.map_eq_some_iff.1 read
        obtain ⟨rfl, _⟩ := Prod.mk.inj e
        exact .array (yields_readSequence (ih (depth + 1) (by omega)) _ _ _ _ sequence)
    · split at read
      · simp at read
      · simp at read
      · next depth =>
        obtain ⟨⟨members, after⟩, sequence, e⟩ := Option.map_eq_some_iff.1 read
        obtain ⟨rfl, _⟩ := Prod.mk.inj e
        have sound := yields_readSequence (yields_readMember (ih (depth + 1) (by omega))) _ _ _ _
          sequence
        exact .object (ascending_sortEntries members) fun member h =>
          sound member (mem_sortEntries h)
    · obtain ⟨⟨numeral, after⟩, number, e⟩ := Option.map_eq_some_iff.1 read
      obtain ⟨rfl, _⟩ := Prod.mk.inj e
      exact .number (yields_readNumeral _ _ _ number)

/-- A document that is read from a text is well-formed. -/
theorem wellFormed_of_ofText? {text : String} {document : Json} (h : ofText? text = some document) :
    document.WellFormed := by
  unfold ofText? at h
  split at h
  · next found rest read =>
    split at h
    · obtain rfl := Option.some.inj h
      exact yields_readDocument _ _ _ _ read
    · simp at h
  · simp at h

end Json

end TypeAssertion
