import Conformance.Number.Shortest
import Conformance.Proofs.Number.Decimal
import Conformance.Proofs.Text.Numeral
import Mathlib.Data.List.TakeWhile
import Mathlib.Data.Nat.Cast.Order.Field

/-!
# The shortest decimal is owned by its number

A grid of decimals that is finer than the interval has a hit at one of the two neighbours of the
number. Seventeen digits make such a grid, so the search for the shortest decimal ends with one that
the number owns, and reading that decimal gives the number back.
-/
namespace Conformance.Binary64

/-- An interval of magnitudes, with its ends or without. -/
structure Within (low high : ℚ) (inclusive : Bool) (q : ℚ) : Prop where
  low_le : low ≤ q
  le_high : q ≤ high
  inner : inclusive = false → low < q ∧ q < high

theorem Within.of_lt {low high q : ℚ} (inclusive : Bool) (above : low < q) (below : q < high) :
    Within low high inclusive q :=
  ⟨above.le, below.le, fun _ => ⟨above, below⟩⟩

/-! ### One grid -/

section Grid

variable {denominator : ℕ} (positive : 0 < denominator) (power : ℤ)

include positive

theorem grid_le_iff (d n : ℕ) :
    d * (denominator * 10 ^ power.toNat) ≤ n * 10 ^ (-power).toNat ↔
      (d : ℚ) * 10 ^ power ≤ n / denominator := by
  have unit : (0 : ℚ) < denominator := by exact_mod_cast positive
  have scale : (0 : ℚ) < (10 ^ (-power).toNat : ℕ) := by positivity
  rw [← decimal_quotient, div_le_div_iff₀ scale unit, mul_left_comm, mul_comm denominator]
  exact_mod_cast Iff.rfl

theorem le_grid_iff (d n : ℕ) :
    n * 10 ^ (-power).toNat ≤ d * (denominator * 10 ^ power.toNat) ↔
      (n : ℚ) / denominator ≤ d * 10 ^ power := by
  have unit : (0 : ℚ) < denominator := by exact_mod_cast positive
  have scale : (0 : ℚ) < (10 ^ (-power).toNat : ℕ) := by positivity
  rw [← decimal_quotient, div_le_div_iff₀ unit scale, mul_left_comm, mul_comm denominator]
  exact_mod_cast Iff.rfl

theorem holds_iff (low high : ℕ) (inclusive : Bool) (d : ℕ) :
    (if inclusive then
        decide (low * 10 ^ (-power).toNat ≤ d * (denominator * 10 ^ power.toNat)) &&
          decide (d * (denominator * 10 ^ power.toNat) ≤ high * 10 ^ (-power).toNat)
      else
        decide (low * 10 ^ (-power).toNat < d * (denominator * 10 ^ power.toNat)) &&
          decide (d * (denominator * 10 ^ power.toNat) < high * 10 ^ (-power).toNat)) = true ↔
      Within (low / denominator) (high / denominator) inclusive (d * 10 ^ power) := by
  simp only [← not_le, grid_le_iff positive, le_grid_iff positive]
  cases inclusive
  · simp only [Bool.false_eq_true, if_false, Bool.and_eq_true, decide_eq_true_iff, not_le]
    exact ⟨fun ⟨above, below⟩ => .of_lt false above below, fun within => within.inner rfl⟩
  · simp only [if_true, Bool.and_eq_true, decide_eq_true_iff]
    exact ⟨fun ⟨above, below⟩ => ⟨above, below, nofun⟩,
      fun within => ⟨within.low_le, within.le_high⟩⟩

/-- A hit is a positive decimal of the interval. -/
theorem within_of_gridHit? {low center high : ℕ} {inclusive : Bool} {decimal : Decimal}
    (hit : gridHit? low center high denominator inclusive power = some decimal) :
    0 < decimal.digits ∧
      Within (low / denominator) (high / denominator) inclusive
        (decimal.digits * 10 ^ decimal.power) := by
  rw [gridHit?.eq_def] at hit
  simp only [Nat.pow_eq] at hit
  split at hit
  next lower upper =>
    rw [Bool.and_eq_true, decide_eq_true_iff, holds_iff positive] at lower
    rw [holds_iff positive] at upper
    split_ifs at hit <;> cases hit
    · exact lower.symm
    · exact ⟨Nat.succ_pos _, upper⟩
  next lower upper =>
    rw [Bool.and_eq_true, decide_eq_true_iff, holds_iff positive] at lower
    cases hit
    exact lower.symm
  next lower upper =>
    rw [holds_iff positive] at upper
    cases hit
    exact ⟨Nat.succ_pos _, upper⟩
  next => cases hit

/-- A grid finer than the interval has a hit. -/
theorem gridHit?_ne_none {low center high : ℕ} {inclusive : Bool} (above : low < center)
    (below : center < high) (coarse : (10 : ℚ) ^ power ≤ center / denominator)
    (fine : (10 : ℚ) ^ power < high / denominator - low / denominator) :
    gridHit? low center high denominator inclusive power ≠ none := by
  have unit : (0 : ℚ) < denominator := by exact_mod_cast positive
  have step : 0 < denominator * 10 ^ power.toNat := Nat.mul_pos positive (Nat.pow_pos (by decide))
  have left : (low : ℚ) / denominator < center / denominator := by
    rw [div_lt_div_iff_of_pos_right unit]
    exact_mod_cast above
  have right : (center : ℚ) / denominator < high / denominator := by
    rw [div_lt_div_iff_of_pos_right unit]
    exact_mod_cast below
  intro none
  rw [gridHit?.eq_def] at none
  simp only [Nat.pow_eq] at none
  generalize known : center * 10 ^ (-power).toNat / (denominator * 10 ^ power.toNat) = floor at none
  have first : 0 < floor := by
    rw [← known]
    refine Nat.div_pos ?_ step
    rw [← one_mul (denominator * _), grid_le_iff positive, Nat.cast_one, one_mul]
    exact coarse
  have under : (floor : ℚ) * 10 ^ power ≤ center / denominator := by
    rw [← grid_le_iff positive, ← known]
    exact Nat.div_mul_le_self _ _
  have past : (center : ℚ) / denominator < (floor + 1 : ℕ) * 10 ^ power := by
    rw [← not_le, ← grid_le_iff positive, not_le, ← known]
    exact Nat.lt_div_mul_add step |>.trans_eq (by ring)
  split at none
  · split_ifs at none
  · cases none
  · cases none
  next lower upper =>
    -- Both neighbours lie outside, so the interval is no wider than the grid.
    rw [decide_eq_true first, Bool.and_true, ← Bool.not_eq_true, holds_iff positive] at lower
    rw [← Bool.not_eq_true, holds_iff positive] at upper
    have low := not_lt.mp fun inside => lower (.of_lt _ inside (under.trans_lt right))
    have high := not_lt.mp fun inside => upper (.of_lt _ (left.trans past) inside)
    push_cast at high
    linarith

end Grid

/-! ### The search -/

/-- A search that comes to a grid with a hit ends with a hit. -/
theorem exists_gridHit_firstHit {low center high denominator : ℕ} {inclusive : Bool}
    {exponent : ℤ} {last : ℕ}
    (hit : gridHit? low center high denominator inclusive (exponent - last) ≠ none) (tries : ℕ) :
    ∀ count, count ≤ last → last < count + tries →
      ∃ power, gridHit? low center high denominator inclusive power =
        some (firstHit low center high denominator inclusive exponent tries count) := by
  induction tries with
  | zero => intro count _ _; omega
  | succ tries ih =>
    intro count start stop
    rw [firstHit]
    cases found : gridHit? low center high denominator inclusive (exponent - count) with
    | some decimal => exact ⟨_, found⟩
    | none =>
      have other : count ≠ last := by
        rintro rfl
        exact hit found
      exact ih (count + 1) (by omega) (by omega)

/-- A quotient of one or more lies next to the digits of its whole part. -/
theorem whole_bounds {n d : ℕ} (denominator : 0 < d) (whole : 0 < n / d) :
    (10 : ℚ) ^ (((Nat.toDigits 10 (n / d)).length : ℤ) - 1) ≤ n / d ∧
      (n : ℚ) / d < 10 ^ ((Nat.toDigits 10 (n / d)).length : ℤ) := by
  have unit : (0 : ℚ) < d := by exact_mod_cast denominator
  obtain ⟨lower, upper⟩ := zpow_length_toDigits whole
  refine ⟨lower.trans Nat.cast_div_le, ?_⟩
  have digits : n / d + 1 ≤ 10 ^ (Nat.toDigits 10 (n / d)).length := by
    rw [zpow_natCast] at upper
    exact_mod_cast upper
  calc (n : ℚ) / d < (n / d : ℕ) + 1 := by
        rw [div_lt_iff₀ unit]
        exact_mod_cast Nat.lt_div_mul_add denominator |>.trans_eq (by ring)
    _ ≤ 10 ^ ((Nat.toDigits 10 (n / d)).length : ℤ) := by exact_mod_cast digits

/-- A quotient of less than one lies next to the digits of its inverse, which is rounded up and made
less by one. -/
theorem inverse_bounds {n d : ℕ} (numerator : 0 < n) (denominator : 0 < d)
    (some : 0 < (d - 1) / n) :
    (10 : ℚ) ^ (-((Nat.toDigits 10 ((d - 1) / n)).length : ℤ)) ≤ n / d ∧
      (n : ℚ) / d < 10 ^ (1 - ((Nat.toDigits 10 ((d - 1) / n)).length : ℤ)) := by
  have unit : (0 : ℚ) < d := by exact_mod_cast denominator
  have count : (0 : ℚ) < n := by exact_mod_cast numerator
  obtain ⟨lower, upper⟩ := zpow_length_toDigits some
  generalize (Nat.toDigits 10 ((d - 1) / n)).length = k at *
  have below : ((d - 1) / n : ℕ) * (n : ℚ) ≤ d - 1 := by
    have := Nat.div_mul_le_self (d - 1) n
    have : (d - 1) / n * n + 1 ≤ d := by omega
    have : ((d - 1) / n : ℕ) * (n : ℚ) + 1 ≤ d := by exact_mod_cast this
    linarith
  have above : (d : ℚ) ≤ (((d - 1) / n : ℕ) + 1) * n := by
    have := Nat.lt_div_mul_add numerator (a := d - 1)
    have : d ≤ ((d - 1) / n + 1) * n := by rw [add_mul, one_mul]; omega
    exact_mod_cast this
  have upper : (((d - 1) / n : ℕ) : ℚ) + 1 ≤ 10 ^ (k : ℤ) := by
    rw [zpow_natCast] at upper ⊢
    exact_mod_cast upper
  constructor
  · rw [zpow_neg, inv_le_iff_one_le_mul₀ (zpow_ten_pos _), div_mul_eq_mul_div, le_div_iff₀ unit,
      one_mul]
    calc (d : ℚ) ≤ (((d - 1) / n : ℕ) + 1) * n := above
      _ ≤ 10 ^ (k : ℤ) * n := mul_le_mul_of_nonneg_right upper count.le
      _ = n * 10 ^ (k : ℤ) := mul_comm _ _
  · rw [← neg_sub, zpow_neg, lt_inv_comm₀ (by positivity) (zpow_ten_pos _), inv_div,
      lt_div_iff₀ count]
    calc (10 : ℚ) ^ ((k : ℤ) - 1) * n ≤ ((d - 1) / n : ℕ) * n :=
          mul_le_mul_of_nonneg_right lower count.le
      _ < d := by linarith

/-- The decimal exponent tells the powers of ten next to a quotient. -/
theorem decimalExponent_bounds {n d : ℕ} (numerator : 0 < n) (denominator : 0 < d) :
    (10 : ℚ) ^ (decimalExponent n d - 1) ≤ n / d ∧ (n : ℚ) / d < 10 ^ decimalExponent n d := by
  rw [decimalExponent]
  split_ifs with whole
  · exact whole_bounds denominator (Nat.div_pos whole denominator)
  · have inverse : (d + n - 1) / n - 1 = (d - 1) / n := by
      rw [show d + n - 1 = d - 1 + n by omega, Nat.add_div_right _ numerator, Nat.succ_sub_one]
    rw [inverse, sub_sub_cancel_left]
    exact inverse_bounds numerator denominator (Nat.div_pos (by omega) numerator)

/-- Quarter steps of the mantissa, in the units of the search. -/
theorem quarters (k : ℕ) (e : ℤ) :
    ((k * 2 ^ e.toNat : ℕ) : ℚ) / (4 * 2 ^ (-e).toNat : ℕ) = k / 4 * 2 ^ e := by
  rcases le_total 0 e with up | down
  · obtain ⟨j, rfl⟩ := Int.eq_ofNat_of_zero_le up
    simp
    ring
  · obtain ⟨j, rfl⟩ := Int.exists_eq_neg_ofNat down
    simp
    field_simp

/-- The interval of a number other than zero in quarter steps. -/
theorem exists_quarterSteps {x : Binary64} (nonzero : x.mantissa ≠ 0) :
    ∃ low, x.quarterSteps = (low, 4 * x.mantissa, 4 * x.mantissa + 2) ∧ low < 4 * x.mantissa ∧
      (low : ℚ) / 4 = x.mantissa - x.reach := by
  have positive : 0 < x.mantissa := Nat.pos_of_ne_zero nonzero
  refine ⟨_, rfl, ?_, ?_⟩
  · split_ifs <;> omega
  · rw [reach]
    simp only [Nat.pow_eq]
    split_ifs
    · rw [Nat.cast_sub (by omega)]
      push_cast
      ring
    · rw [Nat.cast_sub (by omega)]
      push_cast
      ring

/-- Seventeen digits tell the numbers apart. -/
theorem mantissa_lt_width (x : Binary64) :
    (x.mantissa : ℚ) / 10 ^ 16 < x.mantissa + 1 / 2 - (x.mantissa - x.reach) := by
  have most := x.mantissa_bounds.1
  rw [reach]
  split_ifs with boundary
  · rw [boundary.1]
    norm_num
  · linarith

/-- The interval of a number as rationals. -/
theorem interval_values {x : Binary64} {low : ℕ} (start : (low : ℚ) / 4 = x.mantissa - x.reach) :
    ((low * 2 ^ x.exponent.toNat : ℕ) : ℚ) / (4 * 2 ^ (-x.exponent).toNat : ℕ) =
        (x.mantissa - x.reach) * 2 ^ x.exponent ∧
      ((4 * x.mantissa * 2 ^ x.exponent.toNat : ℕ) : ℚ) / (4 * 2 ^ (-x.exponent).toNat : ℕ) =
        x.mantissa * 2 ^ x.exponent ∧
      (((4 * x.mantissa + 2) * 2 ^ x.exponent.toNat : ℕ) : ℚ) /
          (4 * 2 ^ (-x.exponent).toNat : ℕ) = (x.mantissa + 1 / 2) * 2 ^ x.exponent := by
  rw [quarters, quarters, quarters, start]
  refine ⟨rfl, ?_, ?_⟩
  · push_cast
    ring
  · push_cast
    ring

/-- With seventeen digits the search has a hit. -/
theorem gridHit?_seventeen {x : Binary64} {low : ℕ} (less : low < 4 * x.mantissa)
    (start : (low : ℚ) / 4 = x.mantissa - x.reach) {exponent : ℤ}
    (coarse : (10 : ℚ) ^ (exponent - 1) ≤ x.mantissa * 2 ^ x.exponent) (inclusive : Bool) :
    gridHit? (low * 2 ^ x.exponent.toNat) (4 * x.mantissa * 2 ^ x.exponent.toNat)
      ((4 * x.mantissa + 2) * 2 ^ x.exponent.toNat) (4 * 2 ^ (-x.exponent).toNat) inclusive
      (exponent - (17 : ℕ)) ≠ none := by
  obtain ⟨lower, middle, upper⟩ := interval_values start
  have scale : 0 < 2 ^ x.exponent.toNat := Nat.two_pow_pos _
  have grid : (10 : ℚ) ^ (exponent - (17 : ℕ)) ≤ x.mantissa * 2 ^ x.exponent / 10 ^ 16 := by
    rw [le_div_iff₀ (by norm_num), ← zpow_natCast 10 16, ← zpow_add₀ (by norm_num),
      show exponent - (17 : ℕ) + (16 : ℕ) = exponent - 1 by omega]
    exact coarse
  apply gridHit?_ne_none (by positivity) _ (Nat.mul_lt_mul_of_pos_right less scale)
    (Nat.mul_lt_mul_of_pos_right (by omega) scale)
  · rw [middle]
    exact grid.trans (div_le_self (by positivity) (by norm_num))
  · rw [lower, upper, ← sub_mul]
    refine grid.trans_lt ?_
    rw [mul_div_right_comm]
    exact mul_lt_mul_of_pos_right x.mantissa_lt_width (zpow_pos two_pos _)

/-- The shortest decimal of a number other than zero is owned by it. -/
theorem owns_shortest {x : Binary64} (nonzero : x.mantissa ≠ 0) :
    0 < x.shortest.digits ∧ x.Owns (x.shortest.digits * 10 ^ x.shortest.power) := by
  obtain ⟨low, steps, less, start⟩ := exists_quarterSteps nonzero
  obtain ⟨lower, middle, upper⟩ := interval_values start
  have power : (0 : ℚ) < 2 ^ x.exponent := zpow_pos two_pos _
  have unit : 0 < 4 * 2 ^ (-x.exponent).toNat := by positivity
  have center : 0 < 4 * x.mantissa * 2 ^ x.exponent.toNat :=
    Nat.mul_pos (Nat.zero_lt_of_lt less) (Nat.two_pow_pos _)
  rw [shortest, if_neg nonzero, steps]
  simp only [Nat.pow_eq]
  obtain ⟨coarse, -⟩ := decimalExponent_bounds center unit
  rw [middle] at coarse
  generalize decimalExponent _ _ = exponent at coarse ⊢
  -- The search ends, at seventeen digits if not before, and what it finds lies in the interval.
  have hit := gridHit?_seventeen less start coarse (decide (x.mantissa % 2 = 0))
  obtain ⟨_, found⟩ := exists_gridHit_firstHit hit 17 1 (by decide) (by decide)
  obtain ⟨positive, within⟩ := within_of_gridHit? unit _ found
  rw [lower, upper] at within
  refine ⟨positive, ?_, ?_, ?_⟩
  · rw [le_div_iff₀ power]
    exact within.low_le
  · rw [div_le_iff₀ power]
    exact within.le_high
  · -- The ends are hits only where the mantissa is even.
    intro either
    by_contra odd
    obtain ⟨above, below⟩ := within.inner (decide_eq_false odd)
    rw [div_eq_iff power.ne', div_eq_iff power.ne'] at either
    rcases either with same | same
    · exact above.ne' same
    · exact below.ne same

/-! ### The scientific form -/

/-- What is left of a text without the zeros at its end. -/
theorem exists_zeros_append (t : Text) : ∃ count, t =
    (t.reverse.dropWhile fun c => decide (c = CodePoint.ofChar '0')).reverse ++
      Text.zeros count := by
  refine ⟨(t.reverse.takeWhile fun c => decide (c = CodePoint.ofChar '0')).length, ?_⟩
  have zeros : t.reverse.takeWhile (fun c => decide (c = CodePoint.ofChar '0')) =
      Text.zeros (t.reverse.takeWhile fun c => decide (c = CodePoint.ofChar '0')).length :=
    List.eq_replicate_of_mem fun c member => by simpa using List.mem_takeWhile_imp member
  calc t = (t.reverse.takeWhile (fun c => decide (c = CodePoint.ofChar '0')) ++
        t.reverse.dropWhile fun c => decide (c = CodePoint.ofChar '0')).reverse := by
        rw [List.takeWhile_append_dropWhile, List.reverse_reverse]
    _ = _ := by
        rw [List.reverse_append]
        exact congrArg _ (by rw [zeros, Text.length_zeros, Text.zeros, List.reverse_replicate])

/-- The digits of the scientific form have the value of the shortest decimal. The first of them is
no zero, unless it is the only one. -/
theorem exists_scientific (x : Binary64) : ∃ first others,
    x.scientific.1 = first :: others ∧ (∀ c ∈ first :: others, c.isDigit = true) ∧
      (first ≠ CodePoint.ofChar '0' ∨ others = [] ∧ x.scientific.2 = 0) ∧
      x.Owns (Text.natValue (first :: others) * 10 ^ (x.scientific.2 - others.length)) := by
  by_cases zero : x.mantissa = 0
  · have plain : x.scientific = ([CodePoint.ofChar '0'], 0) := by
      rw [scientific.eq_def, shortest, if_pos zero]
      rfl
    have value : Text.natValue [CodePoint.ofChar '0'] = 0 := rfl
    rw [plain]
    refine ⟨CodePoint.ofChar '0', [], rfl, by decide, .inr ⟨rfl, rfl⟩, ?_⟩
    rw [value, Nat.cast_zero, zero_mul, owns_zero_iff]
    exact zero
  · obtain ⟨positive, owns⟩ := owns_shortest zero
    rw [scientific.eq_def]
    simp only
    generalize x.shortest = decimal at *
    -- The zeros at the end of the shortest decimal are left out and counted in the power instead.
    obtain ⟨count, split⟩ := exists_zeros_append (Text.ofNat decimal.digits)
    generalize ((Text.ofNat decimal.digits).reverse.dropWhile
      fun c => decide (c = CodePoint.ofChar '0')).reverse = significant at *
    have value : decimal.digits = Text.natValue significant * 10 ^ count := by
      rw [← Text.natValue_append_zeros, ← split, Text.natValue_ofNat]
    obtain ⟨first, others, rfl⟩ : ∃ first others, significant = first :: others := by
      refine List.exists_cons_of_ne_nil ?_
      rintro rfl
      exact absurd (value.trans (Nat.zero_mul _)) positive.ne'
    refine ⟨first, others, rfl, fun c member => ?_, .inl ?_, ?_⟩
    · exact Text.isDigit_of_mem_ofNat (split ▸ List.mem_append_left _ member)
    · obtain ⟨c, rest, spelled, leading⟩ := Text.ofNat_eq_cons decimal.digits
      rw [spelled, List.cons_append, List.cons.injEq] at split
      obtain ⟨rfl, rest⟩ := split
      refine leading.elim id fun alone => ?_
      -- A digit that is the whole numeral is no zero, since the number is none.
      rw [alone, eq_comm, List.append_eq_nil_iff] at rest
      rintro rfl
      rw [rest.1] at value
      exact absurd (value.trans (Nat.zero_mul _)) positive.ne'
    · rw [split, List.length_append, List.length_cons, Text.length_zeros]
      rw [value] at owns
      convert owns using 1
      push_cast
      rw [mul_assoc, ← zpow_natCast, ← zpow_add₀ (by norm_num)]
      congr 2
      omega

end Conformance.Binary64
