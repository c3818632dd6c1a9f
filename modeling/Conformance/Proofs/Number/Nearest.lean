import Conformance.Number.Arithmetic
import Conformance.Proofs.Number.Rounding
import Conformance.Proofs.Number.Value

/-!
# Nearest numbers

What a number owns is no nearer to any other number, and where another one is as near, the mantissa
is even. So rounding, which is defined by digits, is what the name says of the rationals denoted.
-/
namespace Conformance.Binary64

/-- No number is nearer to a rational, and where another one is as near the mantissa is even. -/
structure IsNearest (x : Binary64) (q : ℚ) : Prop where
  nearest (y : Binary64) : |x.value - q| ≤ |y.value - q|
  even (y : Binary64) : y.value ≠ x.value → |x.value - q| = |y.value - q| → x.mantissa % 2 = 0

theorem value_eq (x : Binary64) :
    x.value = if x.negative then -(x.mantissa * 2 ^ x.exponent : ℚ)
      else x.mantissa * 2 ^ x.exponent := by
  have steps : ((magnitude x.mantissa x.exponent : ℕ) : ℚ) / 2 ^ 1074 =
      x.mantissa * 2 ^ x.exponent := by
    have least := x.normal.2.1
    obtain ⟨k, shifted⟩ := Int.eq_ofNat_of_zero_le (show 0 ≤ x.exponent + 1074 by omega)
    have exponent : x.exponent = k - 1074 := by omega
    rw [magnitude, shifted, Int.toNat_natCast, Nat.cast_mul, Nat.cast_pow, Nat.cast_ofNat,
      exponent, zpow_sub₀ two_ne_zero, zpow_natCast, zpow_ofNat, mul_div_assoc]
  rw [value, units_eq]
  split_ifs
  · rw [Int.cast_neg, Int.cast_natCast, neg_div, steps]
  · rw [Int.cast_natCast, steps]

theorem value_negate (x : Binary64) : x.negate.value = -x.value := by
  rw [value_eq, value_eq, negate]
  cases x.negative <;> simp

/-- Numbers of no smaller exponent are whole multiples of a step. -/
theorem exists_steps {x y : Binary64} (le : x.exponent ≤ y.exponent) :
    ∃ k : ℕ, (y.mantissa * 2 ^ y.exponent : ℚ) = k * 2 ^ x.exponent := by
  obtain ⟨shift, difference⟩ := Int.eq_ofNat_of_zero_le (sub_nonneg.mpr le)
  have exponent : y.exponent = shift + x.exponent := by omega
  refine ⟨y.mantissa * 2 ^ shift, ?_⟩
  rw [exponent, zpow_add₀ two_ne_zero, zpow_natCast]
  push_cast
  ring

/-- Numbers of a smaller exponent lie below the full mantissas by half a step. -/
theorem le_of_exponent_lt {x y : Binary64} (less : y.exponent < x.exponent) :
    (2 : ℚ) ^ 52 ≤ x.mantissa ∧
      (y.mantissa * 2 ^ y.exponent : ℚ) ≤ (2 ^ 52 - 1 / 2) * 2 ^ x.exponent := by
  have least := y.normal.2.1
  refine ⟨x.mantissa_bounds.2.resolve_left (by omega), ?_⟩
  have most := y.mantissa_bounds.1
  have half : (2 : ℚ) ^ y.exponent ≤ 2 ^ x.exponent / 2 := by
    rw [le_div_iff₀ two_pos, ← zpow_add_one₀ two_ne_zero]
    exact zpow_le_zpow_right₀ one_le_two less
  calc (y.mantissa * 2 ^ y.exponent : ℚ) ≤ (2 ^ 53 - 1) * (2 ^ x.exponent / 2) :=
        mul_le_mul most half (by positivity) (by norm_num)
    _ = (2 ^ 52 - 1 / 2) * 2 ^ x.exponent := by ring

theorem value_of_positive {x : Binary64} (positive : x.negative = false) :
    x.value = x.mantissa * 2 ^ x.exponent := by
  rw [value_eq, positive]
  rfl

theorem value_nonpos {x : Binary64} (negative : x.negative = true) : x.value ≤ 0 := by
  rw [value_eq, if_pos negative]
  have : (0 : ℚ) ≤ x.mantissa * 2 ^ x.exponent := by positivity
  linarith

/-- The next number above is a whole step away. -/
theorem step_le_of_value_lt {x y : Binary64} (positive : x.negative = false)
    (above : x.value < y.value) : ((x.mantissa : ℚ) + 1) * 2 ^ x.exponent ≤ y.value := by
  have power : (0 : ℚ) < 2 ^ x.exponent := zpow_pos two_pos _
  have nonneg : (0 : ℚ) ≤ x.mantissa * 2 ^ x.exponent := by positivity
  rw [value_of_positive positive] at above
  cases sign : y.negative with
  | true => exact absurd (value_nonpos sign) (not_le.mpr (nonneg.trans_lt above))
  | false =>
    rw [value_of_positive sign] at above ⊢
    rcases le_or_gt x.exponent y.exponent with le | less
    · obtain ⟨k, steps⟩ := exists_steps le
      rw [steps] at above ⊢
      have next : x.mantissa + 1 ≤ k := by exact_mod_cast lt_of_mul_lt_mul_right above power.le
      exact mul_le_mul_of_nonneg_right (by exact_mod_cast next) power.le
    · obtain ⟨full, below⟩ := le_of_exponent_lt less
      have least := mul_le_mul_of_nonneg_right full power.le
      linarith

/-- The next number below is twice the reach away. -/
theorem value_le_of_value_lt {x y : Binary64} (positive : x.negative = false)
    (nonzero : x.mantissa ≠ 0) (below : y.value < x.value) :
    y.value ≤ ((x.mantissa : ℚ) - 2 * x.reach) * 2 ^ x.exponent := by
  have power : (0 : ℚ) < 2 ^ x.exponent := zpow_pos two_pos _
  have one : (1 : ℚ) ≤ x.mantissa := by exact_mod_cast Nat.one_le_iff_ne_zero.mpr nonzero
  have near := x.reach_le
  cases sign : y.negative with
  | true => exact (value_nonpos sign).trans (mul_nonneg (by linarith) power.le)
  | false =>
    rw [value_of_positive positive, value_of_positive sign] at below
    rw [value_of_positive sign]
    rcases le_or_gt x.exponent y.exponent with le | less
    · obtain ⟨k, steps⟩ := exists_steps le
      rw [steps] at below ⊢
      have next : k + 1 ≤ x.mantissa := by exact_mod_cast lt_of_mul_lt_mul_right below power.le
      have next : (k : ℚ) + 1 ≤ x.mantissa := by exact_mod_cast next
      exact mul_le_mul_of_nonneg_right (by linarith) power.le
    · obtain ⟨full, most⟩ := le_of_exponent_lt less
      refine most.trans (mul_le_mul_of_nonneg_right ?_ power.le)
      rw [reach]
      split_ifs with boundary
      · linarith
      · -- Above a power of two there is a whole step to the next number below.
        have least := y.normal.2.1
        have other : x.mantissa ≠ 2 ^ 52 := fun same => boundary ⟨same, by omega⟩
        have full : 2 ^ 52 ≤ x.mantissa := by exact_mod_cast full
        have past : 2 ^ 52 + 1 ≤ x.mantissa := by omega
        have past : (2 : ℚ) ^ 52 + 1 ≤ x.mantissa := by exact_mod_cast past
        linarith

/-- What a number owns is no further from it than from any number above. -/
theorem Owns.le_middle {x : Binary64} {q : ℚ} (owns : x.Owns q) (positive : x.negative = false)
    {y : Binary64} (above : x.value < y.value) :
    q ≤ (x.value + y.value) / 2 ∧ (q = (x.value + y.value) / 2 → x.mantissa % 2 = 0) := by
  have power : (0 : ℚ) < 2 ^ x.exponent := zpow_pos two_pos _
  have step := step_le_of_value_lt positive above
  have value := value_of_positive positive
  have high := owns.high
  rw [div_le_iff₀ power] at high
  refine ⟨by linarith, fun middle => owns.even (.inr ?_)⟩
  rw [div_eq_iff power.ne']
  linarith

/-- What a number owns is no further from it than from any number below. -/
theorem Owns.middle_le {x : Binary64} {q : ℚ} (owns : x.Owns q) (nonneg : 0 ≤ q)
    (positive : x.negative = false) {y : Binary64} (below : y.value < x.value) :
    (y.value + x.value) / 2 ≤ q ∧ ((y.value + x.value) / 2 = q → x.mantissa % 2 = 0) := by
  have power : (0 : ℚ) < 2 ^ x.exponent := zpow_pos two_pos _
  have value := value_of_positive positive
  by_cases zero : x.mantissa = 0
  · rw [zero, Nat.cast_zero, zero_mul] at value
    exact ⟨by linarith, fun _ => by rw [zero]⟩
  · have step := value_le_of_value_lt positive zero below
    have low := owns.low
    rw [le_div_iff₀ power] at low
    refine ⟨by linarith, fun middle => owns.even (.inl ?_)⟩
    rw [div_eq_iff power.ne']
    linarith

/-- A positive number is nearest to the rationals that it owns. -/
theorem Owns.isNearest_of_positive {x : Binary64} {q : ℚ} (owns : x.Owns q) (nonneg : 0 ≤ q)
    (positive : x.negative = false) : x.IsNearest q := by
  constructor
  · intro y
    rcases lt_trichotomy y.value x.value with below | same | above
    · have middle := (owns.middle_le nonneg positive below).1
      rw [abs_of_neg (show y.value - q < 0 by linarith), abs_le]
      exact ⟨by linarith, by linarith⟩
    · rw [same]
    · have middle := (owns.le_middle positive above).1
      rw [abs_of_pos (show 0 < y.value - q by linarith), abs_le]
      exact ⟨by linarith, by linarith⟩
  · intro y other tie
    rcases lt_or_gt_of_ne other with below | above
    · obtain ⟨middle, even⟩ := owns.middle_le nonneg positive below
      rw [abs_of_neg (show y.value - q < 0 by linarith)] at tie
      rcases abs_choice (x.value - q) with same | same
      · rw [same] at tie; exact even (by linarith)
      · rw [same] at tie; exact absurd (by linarith) other
    · obtain ⟨middle, even⟩ := owns.le_middle positive above
      rw [abs_of_pos (show 0 < y.value - q by linarith)] at tie
      rcases abs_choice (x.value - q) with same | same
      · rw [same] at tie; exact absurd (by linarith) other
      · rw [same] at tie; exact even (by linarith)

theorem negate_negate (x : Binary64) : x.negate.negate = x := by
  obtain ⟨negative, _, _, _⟩ := x
  cases negative <;> rfl

theorem IsNearest.negate {x : Binary64} {q : ℚ} (nearest : x.IsNearest q) :
    x.negate.IsNearest (-q) := by
  have mirror (y : Binary64) : |y.negate.value - -q| = |y.value - q| := by
    rw [value_negate, ← abs_neg (y.value - q)]
    congr 1
    ring
  constructor
  · intro y
    rw [mirror, ← y.negate_negate, mirror]
    exact nearest.nearest y.negate
  · intro y other tie
    rw [mirror, ← y.negate_negate, mirror] at tie
    refine nearest.even y.negate (fun same => other ?_) tie
    rw [← y.negate_negate, value_negate, same, value_negate]

/-- A number is nearest to the magnitudes that it owns, with its own sign. -/
theorem Owns.isNearest {x : Binary64} {q : ℚ} (owns : x.Owns q) (nonneg : 0 ≤ q) :
    x.IsNearest (if x.negative then -q else q) := by
  cases sign : x.negative with
  | false => exact owns.isNearest_of_positive nonneg sign
  | true =>
    have mirrored : x.negate.Owns q := ⟨owns.low, owns.high, owns.even⟩
    have positive : x.negate.negative = false := by rw [Binary64.negate, sign]; rfl
    have nearest := (mirrored.isNearest_of_positive nonneg positive).negate
    rw [negate_negate] at nearest
    exact nearest

/-! ### Whole numbers -/

theorem abs_value (x : Binary64) : |x.value| = x.mantissa * 2 ^ x.exponent := by
  have nonneg : (0 : ℚ) ≤ x.mantissa * 2 ^ x.exponent := by positivity
  rw [value_eq]
  split_ifs
  · rw [abs_neg, abs_of_nonneg nonneg]
  · exact abs_of_nonneg nonneg

/-- Every number owns its own magnitude. -/
theorem owns_self (x : Binary64) : x.Owns (x.mantissa * 2 ^ x.exponent) := by
  have steps : (x.mantissa * 2 ^ x.exponent : ℚ) / 2 ^ x.exponent = x.mantissa :=
    mul_div_cancel_right₀ _ (zpow_pos two_pos _).ne'
  have reach := x.reach_pos
  constructor
  · rw [steps]
    linarith
  · rw [steps]
    linarith
  · rw [steps]
    rintro (same | same) <;> linarith

/-- Every number is finite. -/
theorem abs_value_lt (x : Binary64) : |x.value| < bound := by
  rw [abs_value]
  exact x.owns_self.lt_bound

/-- A whole number is rounded to the number nearest to it. -/
theorem isNearest_of_ofInt? {i : ℤ} {x : Binary64} (rounded : ofInt? i = some x) :
    x.IsNearest i := by
  obtain ⟨sign, owns⟩ := owns_of_ofRatio? Nat.one_pos rounded
  have nearest := owns.isNearest (by positivity)
  rw [sign, Nat.cast_one, div_one, Nat.cast_natAbs] at nearest
  simp only [decide_eq_true_eq] at nearest
  split_ifs at nearest with negative
  · rwa [abs_of_neg negative, Int.cast_neg, neg_neg] at nearest
  · rwa [abs_of_nonneg (not_lt.mp negative)] at nearest

theorem negative_of_ofInt? {i : ℤ} {x : Binary64} (rounded : ofInt? i = some x) :
    x.negative = decide (i < 0) :=
  (owns_of_ofRatio? Nat.one_pos rounded).1

/-- Whole numbers out of range are those from the bound on. -/
theorem ofInt?_eq_none_iff {i : ℤ} : ofInt? i = none ↔ bound ≤ |(i : ℚ)| := by
  rw [ofInt?, ofRatio?_eq_none_iff Nat.one_pos, Nat.cast_one, div_one, Nat.cast_natAbs,
    Int.cast_abs]

/-- A whole value is rounded to itself, but for the sign of zero. -/
theorem exists_ofInt?_toInt {x : Binary64} (whole : x.isInteger = true) :
    ∃ y, ofInt? x.toInt = some y ∧ y.same x = true := by
  obtain ⟨z, value⟩ := (isInteger_iff x).mp whole
  rw [toInt_eq_of_value value]
  have amount : (z.natAbs : ℚ) / (1 : ℕ) = x.mantissa * 2 ^ x.exponent := by
    rw [Nat.cast_one, div_one, Nat.cast_natAbs, Int.cast_abs, ← value, abs_value]
  have owns : ({ x with negative := decide (z < 0) } : Binary64).Owns (z.natAbs / (1 : ℕ)) := by
    rw [amount]
    exact ⟨x.owns_self.low, x.owns_self.high, x.owns_self.even⟩
  refine ⟨_, ofRatio?_of_owns Nat.one_pos owns rfl, ?_⟩
  -- The count of units has the sign of the value, and the same amount either way.
  have units := (value_eq_intCast_iff x z).mp value
  rw [same_iff, units_eq]
  show (if decide (z < 0) then -(magnitude x.mantissa x.exponent : ℤ)
    else magnitude x.mantissa x.exponent) = x.units
  simp only [← natAbs_units, decide_eq_true_eq]
  split_ifs with negative
  · have below : x.units ≤ 0 := units ▸ mul_nonpos_of_nonpos_of_nonneg negative.le (by positivity)
    rw [Int.ofNat_natAbs_of_nonpos below, neg_neg]
  · have above : 0 ≤ x.units := units ▸ mul_nonneg (not_lt.mp negative) (by positivity)
    exact Int.natAbs_of_nonneg above

end Conformance.Binary64
