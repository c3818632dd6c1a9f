import Conformance.Proofs.Document.Denotation
import Conformance.Proofs.Number.Decimal
import Conformance.Proofs.Number.Nearest

/-!
# The rational that a numeral denotes

A numeral is read as the number nearest to the rational that it denotes, and is out of range exactly
if that rational lies at the bound or past it. How the rational is spelled has no say in either,
though whole numerals and all others are rounded in different places; only the sign of a zero does
not come from the rational.
-/
namespace Conformance.Json.Numeral

/-- What is denoted, before it is rounded. -/
def rational (n : Numeral) : ℚ :=
  if n.negative then -(n.digits * 10 ^ n.power) else n.digits * 10 ^ n.power

variable {n m : Numeral} {x y : Binary64}

theorem magnitude_nonneg (n : Numeral) : (0 : ℚ) ≤ n.digits * 10 ^ n.power :=
  mul_nonneg n.digits.cast_nonneg (Binary64.zpow_ten_pos n.power).le

theorem abs_rational (n : Numeral) : |n.rational| = n.digits * 10 ^ n.power := by
  rw [rational]
  split_ifs
  · rw [abs_neg, abs_of_nonneg n.magnitude_nonneg]
  · exact abs_of_nonneg n.magnitude_nonneg

theorem rational_eq_zero_iff (n : Numeral) : n.rational = 0 ↔ n.digits = 0 := by
  have power := (Binary64.zpow_ten_pos n.power).ne'
  rw [← abs_eq_zero, abs_rational, mul_eq_zero, or_iff_left power, Nat.cast_eq_zero]

/-- A numeral that denotes something else than zero shows the sign of what it denotes. -/
theorem rational_neg_iff (nonzero : n.rational ≠ 0) : n.rational < 0 ↔ n.negative = true := by
  have positive : 0 < (n.digits * 10 ^ n.power : ℚ) := by
    rw [← abs_rational]
    exact abs_pos.mpr nonzero
  rw [rational]
  split_ifs with negative
  · simp [negative, positive]
  · simp [negative, positive.le]

/-- Zeros at the end of the digits are worth what as many more powers are. -/
theorem rational_eq_of_zeros (zeros : Nat) (sign : n.negative = m.negative)
    (digits : n.digits = m.digits * 10 ^ zeros) (power : m.power = n.power + zeros) :
    n.rational = m.rational := by
  have magnitude : (n.digits * 10 ^ n.power : ℚ) = m.digits * 10 ^ m.power := by
    rw [digits, power, zpow_add₀ (by norm_num), zpow_natCast]
    push_cast
    ring
  rw [rational, rational, sign, magnitude]

theorem nearest?_eq_none_iff (n : Numeral) : n.nearest? = none ↔ Binary64.bound ≤ |n.rational| := by
  rw [nearest?, Binary64.ofDecimal?_eq_none_iff, abs_rational]

/-- The number owns the magnitude of the rational, and has its sign unless that is zero. -/
theorem owns_of_nearest? (known : n.nearest? = some x) :
    x.Owns |n.rational| ∧ (n.rational ≠ 0 → x.negative = n.negative) := by
  obtain ⟨sign, owns⟩ := Binary64.ofDecimal?_eq_some_iff.mp known
  rw [abs_rational]
  refine ⟨owns, fun nonzero => ?_⟩
  have digits : n.digits ≠ 0 := fun none => nonzero ((rational_eq_zero_iff n).mpr none)
  simpa [digits] using sign

/-- A numeral is read as the number nearest to what it denotes. -/
theorem isNearest_of_nearest? (known : n.nearest? = some x) : x.IsNearest n.rational := by
  obtain ⟨owns, sign⟩ := owns_of_nearest? known
  have nearest := owns.isNearest (abs_nonneg n.rational)
  by_cases zero : n.rational = 0
  · rw [zero, abs_zero, neg_zero, ite_self] at nearest
    rwa [zero]
  · rw [sign zero, abs_rational] at nearest
    exact nearest

/-- What owns one magnitude is one number, but for the sign. -/
theorem eq_of_owns (first : x.Owns |n.rational|) (second : y.Owns |n.rational|) :
    x = { y with negative := x.negative } := by
  have owns : ({ y with negative := x.negative } : Binary64).Owns |n.rational| :=
    ⟨second.low, second.high, second.even⟩
  rw [abs_rational] at first owns
  exact first.unique owns rfl

/-- Numerals that denote one rational are read as one number, but for the sign of zero, or are both
out of range. -/
theorem rel_nearest?_of_rational_eq (same : n.rational = m.rational) :
    Option.Rel (fun x y => x.same y = true) n.nearest? m.nearest? := by
  cases first : n.nearest? with
  | none =>
    have past := (nearest?_eq_none_iff n).mp first
    rw [same, ← nearest?_eq_none_iff] at past
    rw [past]
    exact .none
  | some x =>
    cases second : m.nearest? with
    | none =>
      have past := (nearest?_eq_none_iff m).mp second
      rw [← same, ← nearest?_eq_none_iff, first] at past
      cases past
    | some y =>
      obtain ⟨owns, sign⟩ := owns_of_nearest? first
      obtain ⟨owns', sign'⟩ := owns_of_nearest? second
      rw [← same] at owns' sign'
      refine .some ((Binary64.same_iff x y).mpr ?_)
      by_cases zero : n.rational = 0
      · -- The signs of zeros may differ, and their units are all zero.
        rw [zero, abs_zero, Binary64.owns_zero_iff] at owns owns'
        rw [Binary64.eq_zero_of_mantissa owns, Binary64.eq_zero_of_mantissa owns']
        cases x.negative <;> cases y.negative <;> rfl
      · have negative : x.negative = y.negative := by
          rw [sign zero, sign' zero, Bool.eq_iff_iff, ← rational_neg_iff zero,
            ← rational_neg_iff (same ▸ zero), same]
        have equal := eq_of_owns owns owns'
        rw [negative] at equal
        rw [equal]

end Conformance.Json.Numeral
