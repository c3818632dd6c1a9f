import Conformance.Document.OfDatum
import Conformance.Number.Extended
import Mathlib.Algebra.Order.Ring.Nat

/-!
# Equal numbers are written alike

Numbers are kept in one normal form, so numbers of one value are the same data, the two zeros
apart. The zeros are whole, and a whole number is written by its value alone; hence numbers of one
value are written alike.
-/
namespace Conformance.Binary64

/-- The magnitude as a multiple of the least positive number. -/
def magnitude (mantissa : Nat) (exponent : Int) : Nat := mantissa * 2 ^ (exponent + 1074).toNat

theorem units_eq (x : Binary64) : x.units =
    if x.negative then -(magnitude x.mantissa x.exponent : Int)
    else magnitude x.mantissa x.exponent := rfl

theorem natAbs_units (x : Binary64) : x.units.natAbs = magnitude x.mantissa x.exponent := by
  rw [units_eq]
  split
  · rw [Int.natAbs_neg, Int.natAbs_natCast]
  · rw [Int.natAbs_natCast]

theorem negative_iff {x : Binary64} (nonzero : x.units ≠ 0) : x.negative = true ↔ x.units < 0 := by
  rw [units_eq] at nonzero ⊢
  by_cases sign : x.negative = true
  · rw [if_pos sign] at nonzero ⊢
    have below : -(magnitude x.mantissa x.exponent : Int) < 0 := by omega
    exact ⟨fun _ => below, fun _ => sign⟩
  · rw [if_neg sign] at nonzero ⊢
    have above : ¬(magnitude x.mantissa x.exponent : Int) < 0 := by omega
    exact ⟨fun negative => absurd negative sign, fun below => absurd below above⟩

/-- A greater exponent has a greater magnitude, since its mantissa is full. -/
theorem magnitude_lt {m₁ m₂ : Nat} {e₁ e₂ : Int} (first : IsNormal m₁ e₁)
    (second : IsNormal m₂ e₂) (less : e₁ < e₂) : magnitude m₁ e₁ < magnitude m₂ e₂ := by
  obtain ⟨bound, least, _, _⟩ := first
  obtain ⟨_, _, _, full⟩ := second
  -- The second exponent is not the least one, so its mantissa has all its bits.
  have full : 2 ^ 52 ≤ m₂ := full.resolve_right (by omega)
  have step : (e₁ + 1074).toNat + 1 ≤ (e₂ + 1074).toNat := by omega
  calc magnitude m₁ e₁
      < 2 ^ 53 * 2 ^ (e₁ + 1074).toNat := Nat.mul_lt_mul_of_pos_right bound (Nat.two_pow_pos _)
    _ = 2 ^ 52 * 2 ^ ((e₁ + 1074).toNat + 1) := by
        rw [pow_succ' 2 (e₁ + 1074).toNat, ← mul_assoc, ← pow_succ]
    _ ≤ 2 ^ 52 * 2 ^ (e₂ + 1074).toNat :=
        Nat.mul_le_mul_left _ (Nat.pow_le_pow_right Nat.two_pos step)
    _ ≤ magnitude m₂ e₂ := Nat.mul_le_mul_right _ full

theorem eq_of_magnitude_eq {m₁ m₂ : Nat} {e₁ e₂ : Int} (first : IsNormal m₁ e₁)
    (second : IsNormal m₂ e₂) (equal : magnitude m₁ e₁ = magnitude m₂ e₂) :
    m₁ = m₂ ∧ e₁ = e₂ := by
  have exponents : e₁ = e₂ := by
    rcases lt_trichotomy e₁ e₂ with less | same | greater
    · exact absurd equal (magnitude_lt first second less).ne
    · exact same
    · exact absurd equal (magnitude_lt second first greater).ne'
  subst exponents
  exact ⟨Nat.eq_of_mul_eq_mul_right (Nat.two_pow_pos _) equal, rfl⟩

theorem same_iff (x y : Binary64) : x.same y = true ↔ x.units = y.units := by
  rw [same, decide_eq_true_iff]

/-- Numbers of one value are the same, or they are zeros. -/
theorem eq_or_zero_of_same {x y : Binary64} (equal : x.same y = true) : x = y ∨ x.units = 0 := by
  rw [same_iff] at equal
  by_cases zero : x.units = 0
  · exact .inr zero
  · -- A number other than zero shows its sign in its value, and the rest in its magnitude.
    have magnitudes : magnitude x.mantissa x.exponent = magnitude y.mantissa y.exponent := by
      rw [← natAbs_units, ← natAbs_units, equal]
    have signs : x.negative = y.negative := by
      rw [Bool.eq_iff_iff, negative_iff zero, negative_iff (equal ▸ zero), equal]
    obtain ⟨mantissas, exponents⟩ := eq_of_magnitude_eq x.normal y.normal magnitudes
    obtain ⟨_, _, _, _⟩ := x
    obtain ⟨_, _, _, _⟩ := y
    cases signs
    cases mantissas
    cases exponents
    exact .inl rfl

/-- What depends on a whole number only through its value does not tell numbers of one value
apart. -/
theorem congr_of_same {α : Type} {x y : Binary64} (equal : x.same y = true) (f : Int → α)
    (g : Binary64 → α) :
    (if x.isInteger then f x.toInt else g x) = if y.isInteger then f y.toInt else g y := by
  rcases eq_or_zero_of_same equal with rfl | zero
  · rfl
  · have other : y.units = 0 := by rw [← (same_iff x y).mp equal, zero]
    have whole {z : Binary64} (null : z.units = 0) : z.isInteger = true ∧ z.toInt = 0 := by
      rw [isInteger, toInt, null, Int.zero_emod, Int.zero_tdiv]
      exact ⟨decide_eq_true rfl, rfl⟩
    simp only [whole zero, whole other, if_true]

/-- Numbers of one value are written alike. -/
theorem formatPlain_of_same {x y : Binary64} (equal : x.same y = true) :
    x.formatPlain = y.formatPlain :=
  congr_of_same equal Text.ofInt format

end Conformance.Binary64

/-- Numbers of one value are above and below the same. -/
theorem Conformance.Extended.less_of_same {x y : Binary64} (equal : x.same y = true)
    (z : Extended) :
    less (.finite x) z = less (.finite y) z ∧ less z (.finite x) = less z (.finite y) := by
  rw [Binary64.same_iff] at equal
  cases z <;> simp only [less, Binary64.less, equal, and_self]

namespace Conformance.Document

/-- Numbers of one value have one datum. -/
theorem toDatum_number_of_same {x y : Binary64} (equal : x.same y = true) :
    toDatum (.number x) = toDatum (.number y) :=
  Binary64.congr_of_same equal Datum.integer fun z => .real (.finite z)

end Conformance.Document
