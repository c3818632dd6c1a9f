import Conformance.Number.Extended
import Mathlib.Algebra.Order.Field.Rat
import Mathlib.Algebra.Order.Field.Basic
import Mathlib.Data.Rat.Cast.Order

/-!
# The value of a binary64 number

Every number denotes a rational. The order of numbers, the test for whole numbers and the whole
part are read off the count of least units; here each of them is tied to the rational, which is
what rules about bounds and counts speak of.
-/
namespace Conformance.Binary64

/-- The rational that a number denotes. -/
def value (x : Binary64) : ℚ := x.units / 2 ^ 1074

theorem less_iff (x y : Binary64) : x.less y = true ↔ x.value < y.value := by
  have scale : (0 : ℚ) < 2 ^ 1074 := pow_pos two_pos 1074
  simp only [less, value, decide_eq_true_eq]
  rw [div_lt_div_iff_of_pos_right scale, Int.cast_lt]

theorem nonneg_iff (x : Binary64) : 0 ≤ x.units ↔ 0 ≤ x.value := by
  have scale : (0 : ℚ) < 2 ^ 1074 := pow_pos two_pos 1074
  simp only [value]
  rw [le_div_iff₀ scale, zero_mul, Int.cast_nonneg_iff]

private theorem div_eq_intCast_iff (a b z : Int) (positive : 0 < b) :
    (a : ℚ) / b = z ↔ a = z * b := by
  have nonzero : (b : ℚ) ≠ 0 := by exact_mod_cast positive.ne'
  rw [div_eq_iff nonzero]
  exact_mod_cast Iff.rfl

theorem value_eq_intCast_iff (x : Binary64) (z : Int) :
    x.value = z ↔ x.units = z * 2 ^ 1074 := by
  have cast : ((2 ^ 1074 : Int) : ℚ) = 2 ^ 1074 := Int.cast_pow 2 1074
  rw [value, ← cast]
  exact div_eq_intCast_iff _ _ _ (pow_pos two_pos 1074)

/-- The number of least units in one. -/
private theorem units_in_one : ((Nat.pow 2 1074 : Nat) : Int) = 2 ^ 1074 := by
  simp only [Nat.pow_eq, Nat.cast_pow, Nat.cast_ofNat]

theorem isInteger_iff (x : Binary64) : x.isInteger = true ↔ ∃ z : Int, x.value = z := by
  simp only [isInteger, decide_eq_true_eq, value_eq_intCast_iff, units_in_one]
  constructor
  · intro whole
    obtain ⟨z, equal⟩ := Int.dvd_of_emod_eq_zero whole
    exact ⟨z, by rw [equal, mul_comm]⟩
  · rintro ⟨z, equal⟩
    rw [equal]
    exact Int.mul_emod_left _ _

/-- The whole part of a number with a whole value is that value. -/
theorem toInt_eq_of_value {x : Binary64} {z : Int} (whole : x.value = z) : x.toInt = z := by
  rw [value_eq_intCast_iff] at whole
  rw [toInt, whole, units_in_one]
  exact Int.mul_tdiv_cancel _ (pow_pos two_pos 1074).ne'

/-- The numbers that count something are those with a natural value. -/
theorem isCount_iff (x : Binary64) :
    (x.isInteger && decide (0 ≤ x.units)) = true ↔ ∃ n : Nat, x.value = n := by
  simp only [Bool.and_eq_true, decide_eq_true_eq, isInteger_iff, nonneg_iff]
  constructor
  · rintro ⟨⟨z, whole⟩, nonneg⟩
    -- Minus zero has the value zero and is a count like it.
    have bound : 0 ≤ z := by rw [whole] at nonneg; exact_mod_cast nonneg
    obtain ⟨n, rfl⟩ := Int.eq_ofNat_of_zero_le bound
    exact ⟨n, by exact_mod_cast whole⟩
  · rintro ⟨n, natural⟩
    exact ⟨⟨n, by exact_mod_cast natural⟩, by rw [natural]; exact n.cast_nonneg⟩

theorem toNat_toInt_of_value {x : Binary64} {n : Nat} (natural : x.value = n) :
    x.toInt.toNat = n := by
  have whole : x.toInt = n := toInt_eq_of_value (by exact_mod_cast natural)
  rw [whole, Int.toNat_natCast]

end Conformance.Binary64
