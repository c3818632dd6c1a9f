import Conformance.Number.Rounding
import Mathlib.Data.Nat.Digits.Defs

/-!
# The range of whole numbers

A whole number of more than 310 digits lies outside the range of binary64. The reader of decimals
tells so from the number of digits alone, the reader of whole numbers by rounding; they agree.
-/
namespace Conformance.Binary64

theorem le_gridExponent (n d : Nat) : (n.log2 : Int) - d.log2 - 53 ≤ gridExponent n d := by
  rw [gridExponent.eq_def]
  simp only
  split_ifs
  · exact le_max_right _ _
  · exact le_trans (by omega) (le_max_right _ _)

/-- A number of 1026 bits or more is past the greatest finite one. -/
theorem ofRatio?_eq_none {negative : Bool} {n : Nat} (bits : 1025 ≤ n.log2) :
    ofRatio? negative n 1 = none := by
  have nonzero : n ≠ 0 := by
    rintro rfl
    exact absurd bits (by decide)
  have exponent := le_gridExponent n 1
  have one : Nat.log2 1 = 0 := by decide
  rw [one] at exponent
  rw [ofRatio?, if_neg nonzero]
  simp only
  rw [dif_neg]
  -- Whether or not rounding carries, the exponent is out of bounds.
  rintro ⟨_, _, within, _⟩
  split_ifs at within
  · simp only at within
    omega
  · simp only at within
    omega

theorem ofInt?_eq_none {i : Int} (bits : 1025 ≤ i.natAbs.log2) : ofInt? i = none :=
  ofRatio?_eq_none bits

/-- What is no less than a power of ten has no fewer bits. -/
theorem le_log2_of_pow_le {n k bits : Nat} (least : 10 ^ k ≤ n) (past : bits ≤ (10 ^ k).log2) :
    bits ≤ n.log2 := by
  have power : 0 < 10 ^ k := Nat.pow_pos (by decide)
  have bound := (Nat.le_log2 power.ne').mp past
  exact (Nat.le_log2 (power.trans_le least).ne').mpr (bound.trans least)

/-- What has more than 310 digits is out of range. -/
theorem bits_of_pow_le {n k : Nat} (large : 310 ≤ k) (least : 10 ^ k ≤ n) : 1025 ≤ n.log2 :=
  have power (j : Nat) (within : j ≤ k) : 10 ^ j ≤ n :=
    (Nat.pow_le_pow_right (by decide) within).trans least
  le_log2_of_pow_le (power 310 large) (by decide +kernel)

theorem pow_le_of_lt_length {n k : Nat} (long : k < (Nat.toDigits 10 n).length) (positive : 0 < k) :
    10 ^ k ≤ n := by
  by_contra small
  exact absurd (Nat.toDigits_length 10 n k positive (Nat.lt_of_not_le small)) (Nat.not_le.mpr long)

/-- The readers of decimals and of whole numbers agree, but for the sign of zero. -/
theorem ofDecimal?_zero_power {negative : Bool} {n : Nat} (nonzero : n ≠ 0) :
    ofDecimal? negative n 0 = ofRatio? negative n 1 := by
  rw [ofDecimal?, if_neg nonzero]
  simp only
  split_ifs with large small
  · have digits : 310 < (Nat.toDigits 10 n).length := by omega
    exact (ofRatio?_eq_none
      (bits_of_pow_le (Nat.le_refl 310) (pow_le_of_lt_length digits (by decide)))).symm
  · omega
  · simp

end Conformance.Binary64
