import Conformance.Text.Numeral
import Mathlib.Algebra.Order.Ring.Nat

/-!
# Reading numerals back

A number is written in digits that have its value, and no zero stands in front of others.
-/
namespace Conformance.Text

theorem isDigit_ofChar (c : Char) : (CodePoint.ofChar c).isDigit = c.isDigit := rfl

theorem isDigit_of_mem_ofNat {n : Nat} {c : CodePoint} (member : c ∈ ofNat n) :
    c.isDigit = true := by
  obtain ⟨digit, present, rfl⟩ := List.mem_map.mp member
  rw [isDigit_ofChar]
  exact Nat.isDigit_of_mem_toDigits (by decide) (by decide) present

theorem natValue_ofNat (n : Nat) : natValue (ofNat n) = n := by
  have value : Nat.ofDigitChars 10 (Nat.toDigits 10 n) 0 = n :=
    Nat.ofDigitChars_toDigits (by decide) (by decide)
  rw [natValue, ofNat, ofNatBase, List.foldl_map]
  exact value

/-- How many digits a number has. -/
theorem length_ofNat_le_iff {n k : Nat} (positive : 0 < k) : (ofNat n).length ≤ k ↔ n < 10 ^ k := by
  rw [ofNat, ofNatBase, List.length_map]
  exact Nat.length_toDigits_le_iff (by decide) positive

/-- Digits are read on from a value. -/
theorem foldl_digitValue (t : Text) (value : Nat) :
    t.foldl (fun value c => 10 * value + c.digitValue) value =
      value * 10 ^ t.length + natValue t := by
  induction t generalizing value with
  | nil => simp [natValue]
  | cons c t ih =>
    rw [natValue, List.foldl_cons, List.foldl_cons, ih, ih (10 * 0 + c.digitValue),
      List.length_cons, Nat.pow_succ', Nat.mul_zero, Nat.zero_add, Nat.add_mul, Nat.mul_comm 10,
      Nat.mul_assoc, Nat.add_assoc]

theorem natValue_append (s t : Text) :
    natValue (s ++ t) = natValue s * 10 ^ t.length + natValue t := by
  rw [natValue, List.foldl_append, foldl_digitValue]
  rfl

/-- So many zeros. -/
def zeros (count : Nat) : Text := List.replicate count (CodePoint.ofChar '0')

@[simp] theorem length_zeros (count : Nat) : (zeros count).length = count := List.length_replicate

theorem isDigit_of_mem_zeros {count : Nat} {c : CodePoint} (member : c ∈ zeros count) :
    c.isDigit = true := by
  rw [List.eq_of_mem_replicate member]
  rfl

@[simp] theorem natValue_zeros (count : Nat) : natValue (zeros count) = 0 := by
  induction count with
  | zero => rfl
  | succ count ih =>
    have split : zeros (count + 1) = [CodePoint.ofChar '0'] ++ zeros count := rfl
    rw [split, natValue_append, ih]
    simp [natValue, CodePoint.digitValue, CodePoint.ofChar]

/-- Zeros in front do not count. -/
theorem natValue_zeros_append (count : Nat) (t : Text) :
    natValue (zeros count ++ t) = natValue t := by
  rw [natValue_append, natValue_zeros, Nat.zero_mul, Nat.zero_add]

theorem natValue_append_zeros (t : Text) (count : Nat) :
    natValue (t ++ zeros count) = natValue t * 10 ^ count := by
  rw [natValue_append, natValue_zeros, length_zeros, Nat.add_zero]

theorem toDigits_head_ne_zero {n : Nat} (positive : 0 < n) :
    (Nat.toDigits 10 n).head Nat.toDigits_ne_nil ≠ '0' := by
  induction n using Nat.strongRecOn with
  | ind n ih =>
    by_cases small : n < 10
    · simp only [Nat.toDigits_of_lt_base small, List.head_cons]
      rcases n with _ | _ | _ | _ | _ | _ | _ | _ | _ | _ | n
      case zero => omega
      case succ.succ.succ.succ.succ.succ.succ.succ.succ.succ => omega
      all_goals decide
    · -- The digits of a tenth of the number come first.
      have tenth : 0 < n / 10 := Nat.div_pos (Nat.le_of_not_lt small) (by decide)
      have split := Nat.toDigits_of_base_le (b := 10) (by decide) (Nat.le_of_not_lt small)
      simp only [split, List.head_append_of_ne_nil Nat.toDigits_ne_nil]
      exact ih (n / 10) (Nat.div_lt_self (Nat.lt_of_lt_of_le tenth (Nat.div_le_self n 10))
        (by decide)) tenth

/-- A numeral starts with a digit, which is a zero only if it is the whole numeral. -/
theorem ofNat_eq_cons (n : Nat) :
    ∃ c rest, ofNat n = c :: rest ∧ (c ≠ CodePoint.ofChar '0' ∨ rest = []) := by
  rcases Nat.eq_zero_or_pos n with rfl | positive
  · exact ⟨CodePoint.ofChar '0', [], rfl, .inr rfl⟩
  · have first := toDigits_head_ne_zero positive
    have inhabited : Nat.toDigits 10 n ≠ [] := Nat.toDigits_ne_nil
    obtain ⟨digit, digits, equal⟩ := List.exists_cons_of_ne_nil inhabited
    simp only [equal, List.head_cons] at first
    refine ⟨.ofChar digit, digits.map .ofChar, ?_, .inl fun same => first ?_⟩
    · rw [ofNat, ofNatBase, equal, List.map_cons]
    · exact Char.toNat_inj.mp (congrArg CodePoint.toNat same)

end Conformance.Text
