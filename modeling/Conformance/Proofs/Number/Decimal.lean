import Conformance.Proofs.Number.Rounding

/-!
# Reading a decimal

A decimal whose first digit lies far outside the range of numbers is decided by its order of
magnitude alone, any other by rounding; both give the number that owns it.
-/
namespace Conformance.Binary64

theorem zpow_ten_pos (k : ℤ) : (0 : ℚ) < 10 ^ k := zpow_pos (by norm_num) k

/-- A positive whole number is bounded by the powers of ten next to its count of digits. -/
theorem zpow_length_toDigits {n : ℕ} (positive : 0 < n) :
    (10 : ℚ) ^ (((Nat.toDigits 10 n).length : ℤ) - 1) ≤ n ∧
      (n : ℚ) < 10 ^ ((Nat.toDigits 10 n).length : ℤ) := by
  obtain ⟨k, count⟩ := Nat.exists_eq_add_one.mpr (@Nat.length_toDigits_pos 10 n)
  have upper : n < 10 ^ (k + 1) := by
    rw [← Nat.length_toDigits_le_iff (by decide) k.succ_pos, count]
  have lower : 10 ^ k ≤ n := by
    rcases Nat.eq_zero_or_pos k with rfl | more
    · exact positive
    · rw [← not_lt, ← Nat.length_toDigits_le_iff (by decide) more, count]
      exact Nat.not_succ_le_self k
  rw [count, Nat.cast_succ, add_sub_cancel_right]
  exact ⟨by exact_mod_cast lower, by exact_mod_cast upper⟩

/-- The value of a decimal as a quotient of whole numbers. -/
theorem decimal_quotient (n : ℕ) (power : ℤ) :
    ((n * 10 ^ power.toNat : ℕ) : ℚ) / (10 ^ (-power).toNat : ℕ) = n * 10 ^ power := by
  rcases le_total 0 power with up | down
  · obtain ⟨k, rfl⟩ := Int.eq_ofNat_of_zero_le up
    simp
  · obtain ⟨k, rfl⟩ := Int.exists_eq_neg_ofNat down
    simp [div_eq_mul_inv]

/-- A decimal lies between the powers of ten next to its order of magnitude. -/
theorem decimal_bounds {n : ℕ} (positive : 0 < n) (power : ℤ) :
    (10 : ℚ) ^ (power + (Nat.toDigits 10 n).length - 1) ≤ n * 10 ^ power ∧
      (n : ℚ) * 10 ^ power < 10 ^ (power + (Nat.toDigits 10 n).length) := by
  obtain ⟨lower, upper⟩ := zpow_length_toDigits positive
  have nonzero : (10 : ℚ) ≠ 0 := by norm_num
  have scale := zpow_ten_pos power
  rw [show power + ((Nat.toDigits 10 n).length : ℤ) - 1 =
    ((Nat.toDigits 10 n).length - 1) + power by ring, zpow_add₀ nonzero, add_comm power,
    zpow_add₀ nonzero]
  exact ⟨mul_le_mul_of_nonneg_right lower scale.le, mul_lt_mul_of_pos_right upper scale⟩

theorem bound_lt : bound < 10 ^ (309 : ℤ) := by
  have powers : 2 ^ 1024 ≤ 10 ^ 309 := by decide +kernel
  have powers : (2 : ℚ) ^ 1024 ≤ 10 ^ (309 : ℤ) := by exact_mod_cast powers
  refine lt_of_lt_of_le ?_ powers
  rw [bound, show 1024 = 53 + 971 from rfl, pow_add]
  exact mul_lt_mul_of_pos_right (by norm_num) (pow_pos two_pos _)

/-- What is below half of the least positive number is owned by the zeros. -/
theorem zero_owns {negative : Bool} {q : ℚ} (nonneg : 0 ≤ q) (small : q ≤ 10 ^ (-331 : ℤ)) :
    (zero negative).Owns q := by
  have powers : 2 ^ 1075 ≤ 10 ^ 331 := by decide +kernel
  have powers : (2 : ℚ) ^ 1075 ≤ 10 ^ 331 := by exact_mod_cast powers
  have steps : q / 2 ^ (-1074 : ℤ) ≤ 1 / 2 := by
    rw [div_le_iff₀ (zpow_pos two_pos _)]
    calc q ≤ 10 ^ (-331 : ℤ) := small
      _ = (10 ^ 331)⁻¹ := by rw [zpow_neg, zpow_ofNat]
      _ ≤ (2 ^ 1075)⁻¹ := inv_anti₀ (by positivity) powers
      _ = 1 / 2 * 2 ^ (-1074 : ℤ) := by rw [zpow_neg, zpow_ofNat, pow_succ', mul_inv, one_div]
  have nonneg : 0 ≤ q / 2 ^ (-1074 : ℤ) := by positivity
  have reach := (zero negative).reach_pos
  refine ⟨?_, ?_, fun _ => rfl⟩
  · show ((0 : ℕ) : ℚ) - _ ≤ q / 2 ^ (-1074 : ℤ)
    rw [Nat.cast_zero]
    linarith
  · show q / 2 ^ (-1074 : ℤ) ≤ ((0 : ℕ) : ℚ) + 1 / 2
    rw [Nat.cast_zero, zero_add]
    exact steps

/-- Each magnitude is owned by one number of each sign at most. -/
theorem Owns.unique {n : ℕ} {power : ℤ} {x y : Binary64} (first : x.Owns (n * 10 ^ power))
    (second : y.Owns (n * 10 ^ power)) (sign : x.negative = y.negative) : x = y := by
  have denominator : 0 < 10 ^ (-power).toNat := Nat.pow_pos (by decide)
  rw [← decimal_quotient] at first second
  exact Option.some_inj.mp ((ofRatio?_of_owns denominator first sign).symm.trans
    (ofRatio?_of_owns denominator second rfl))

/-- A decimal denotes the number of its sign that owns it. -/
theorem ofDecimal?_of_owns {negative : Bool} {n : ℕ} {power : ℤ} {x : Binary64}
    (owns : x.Owns (n * 10 ^ power)) (sign : x.negative = negative) :
    ofDecimal? negative n power = some x := by
  rw [ofDecimal?]
  simp only [Nat.pow_eq]
  split_ifs with none large small
  · rw [none, Nat.cast_zero, zero_mul, owns_zero_iff] at owns
    rw [eq_zero_of_mantissa owns, sign]
  · have least := (decimal_bounds (Nat.pos_of_ne_zero none) power).1
    have range : (10 : ℚ) ^ (309 : ℤ) ≤ 10 ^ (power + (Nat.toDigits 10 n).length - 1) :=
      zpow_le_zpow_right₀ (by norm_num) (by omega)
    exact absurd owns.lt_bound (not_lt.mpr (bound_lt.le.trans (range.trans least)))
  · have most := (decimal_bounds (Nat.pos_of_ne_zero none) power).2
    have range : (10 : ℚ) ^ (power + (Nat.toDigits 10 n).length) ≤ 10 ^ (-331 : ℤ) :=
      zpow_le_zpow_right₀ (by norm_num) (by omega)
    have nonneg : (0 : ℚ) ≤ n * 10 ^ power := mul_nonneg n.cast_nonneg (zpow_ten_pos power).le
    rw [← sign, (zero_owns nonneg (most.le.trans range)).unique owns (by rw [zero])]
  · rw [← decimal_quotient] at owns
    exact ofRatio?_of_owns (Nat.pow_pos (by decide)) owns sign

/-- The order of magnitude decides nothing that rounding would not: a decimal is read as the quotient
of whole numbers that it is. -/
theorem ofDecimal?_eq_ofRatio? (negative : Bool) (n : ℕ) (power : ℤ) :
    ofDecimal? negative n power =
      ofRatio? negative (n * 10 ^ power.toNat) (10 ^ (-power).toNat) := by
  have denominator : 0 < 10 ^ (-power).toNat := Nat.pow_pos (by decide)
  cases rounded : ofRatio? negative (n * 10 ^ power.toNat) (10 ^ (-power).toNat) with
  | some x =>
    obtain ⟨sign, owns⟩ := owns_of_ofRatio? denominator rounded
    rw [decimal_quotient] at owns
    exact ofDecimal?_of_owns owns sign
  | none =>
    have past := bound_le_of_ofRatio? denominator rounded
    rw [decimal_quotient] at past
    have above : 0 < bound := mul_pos (by norm_num) (pow_pos two_pos _)
    -- What is out of range is neither zero nor of too small an order of magnitude.
    rw [ofDecimal?]
    simp only [Nat.pow_eq]
    split_ifs with none large small
    · rw [none, Nat.cast_zero, zero_mul] at past
      exact absurd above (not_lt.mpr past)
    · rfl
    · have most := (decimal_bounds (Nat.pos_of_ne_zero none) power).2
      have range : (10 : ℚ) ^ (power + (Nat.toDigits 10 n).length) ≤ 10 ^ (-331 : ℤ) :=
        zpow_le_zpow_right₀ (by norm_num) (by omega)
      have nonneg : (0 : ℚ) ≤ n * 10 ^ power := mul_nonneg n.cast_nonneg (zpow_ten_pos power).le
      have owns : (zero negative).Owns (n * 10 ^ power) := zero_owns nonneg (most.le.trans range)
      exact absurd owns.lt_bound (not_lt.mpr past)
    · exact rounded

theorem ofDecimal?_eq_some_iff {negative : Bool} {n : ℕ} {power : ℤ} {x : Binary64} :
    ofDecimal? negative n power = some x ↔ x.negative = negative ∧ x.Owns (n * 10 ^ power) := by
  rw [ofDecimal?_eq_ofRatio?, ofRatio?_eq_some_iff (Nat.pow_pos (by decide)), decimal_quotient]

/-- Decimals out of range are those from the bound on. -/
theorem ofDecimal?_eq_none_iff {negative : Bool} {n : ℕ} {power : ℤ} :
    ofDecimal? negative n power = none ↔ bound ≤ n * 10 ^ power := by
  rw [ofDecimal?_eq_ofRatio?, ofRatio?_eq_none_iff (Nat.pow_pos (by decide)), decimal_quotient]

end Conformance.Binary64
