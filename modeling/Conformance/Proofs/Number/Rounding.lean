import Conformance.Proofs.Number.NormalForm
import Mathlib.Algebra.Order.Field.Power
import Mathlib.Data.Rat.Cast.Order
import Mathlib.Tactic.FieldSimp
import Mathlib.Tactic.Linarith
import Mathlib.Tactic.NormNum
import Mathlib.Tactic.Positivity
import Mathlib.Tactic.Ring

/-!
# Rounding to a number

A number owns the magnitudes that are rounded to it: an interval around its own magnitude, half a
step wide on each side, below a power of two a quarter. The ends belong to it when its mantissa is
even. A quotient is rounded to the number that owns it, and to none exactly from the bound on, the
point halfway from the greatest finite number to the next power of two.
-/
namespace Conformance.Binary64

/-! ### Whole numbers -/

/-- A whole number is nearest to a rational, and even where another one is as near. -/
structure Rounds (q : ℚ) (r : ℕ) : Prop where
  low : (r : ℚ) - 1 / 2 ≤ q
  high : q ≤ r + 1 / 2
  even : q = r - 1 / 2 ∨ q = r + 1 / 2 → r % 2 = 0

/-- Of two neighbours one is odd, so no rational is rounded to both. -/
theorem Rounds.le {q : ℚ} {r s : ℕ} (first : Rounds q r) (second : Rounds q s) : s ≤ r := by
  by_contra less
  have next : (r : ℚ) + 1 ≤ s := by exact_mod_cast Nat.lt_of_not_le less
  have below := first.high
  have above := second.low
  have even := first.even (.inr (by linarith))
  have even' := second.even (.inl (by linarith))
  have adjacent : (s : ℚ) = r + 1 := by linarith
  have adjacent : s = r + 1 := by exact_mod_cast adjacent
  omega

theorem Rounds.unique {q : ℚ} {r s : ℕ} (first : Rounds q r) (second : Rounds q s) : r = s :=
  le_antisymm (second.le first) (first.le second)

theorem rounds_roundDiv (n : ℕ) {d : ℕ} (positive : 0 < d) : Rounds (n / d) (roundDiv n d) := by
  have unit : (0 : ℚ) < d := by exact_mod_cast positive
  have split : (n : ℚ) = d * (n / d : ℕ) + (n % d : ℕ) := by
    exact_mod_cast (Nat.div_add_mod n d).symm
  have value : (n : ℚ) / d = (n / d : ℕ) + (n % d : ℕ) / d := by
    rw [split]
    field_simp
  have part : (0 : ℚ) ≤ (n % d : ℕ) / d := by positivity
  have whole : ((n % d : ℕ) : ℚ) / d < 1 := by
    rw [div_lt_one unit]
    exact_mod_cast Nat.mod_lt n positive
  rw [roundDiv.eq_def, value]
  simp only
  -- The remainder is compared with half of the divisor.
  split_ifs with less more tie
  · have half : ((n % d : ℕ) : ℚ) / d < 1 / 2 := by
      rw [div_lt_div_iff₀ unit two_pos, mul_comm, one_mul]
      exact_mod_cast less
    refine ⟨by linarith, by linarith, ?_⟩
    rintro (same | same) <;> linarith
  · have half : (1 / 2 : ℚ) < (n % d : ℕ) / d := by
      rw [div_lt_div_iff₀ two_pos unit, mul_comm _ (2 : ℚ), one_mul]
      exact_mod_cast more
    refine ⟨by push_cast; linarith, by push_cast; linarith, ?_⟩
    push_cast
    rintro (same | same) <;> linarith
  all_goals
    have half : ((n % d : ℕ) : ℚ) / d = 1 / 2 := by
      rw [div_eq_div_iff unit.ne' two_ne_zero, mul_comm, one_mul]
      exact_mod_cast le_antisymm (Nat.not_lt.mp more) (Nat.not_lt.mp less)
  · exact ⟨by linarith, by linarith, fun _ => tie⟩
  · exact ⟨by push_cast; linarith, by push_cast; linarith, fun _ => by omega⟩

/-! ### Scaling -/

theorem scale_pos (n : ℕ) {d : ℕ} (positive : 0 < d) (e : ℤ) : 0 < (scale n d e).2 :=
  Nat.mul_pos positive (Nat.two_pow_pos _)

theorem scale_eq (n d : ℕ) (e : ℤ) :
    ((scale n d e).1 : ℚ) / (scale n d e).2 = n / d / 2 ^ e := by
  simp only [scale, Nat.pow_eq, Nat.cast_mul, Nat.cast_pow, Nat.cast_ofNat]
  rcases le_total 0 e with up | down
  · obtain ⟨k, rfl⟩ := Int.eq_ofNat_of_zero_le up
    simp [div_div]
  · obtain ⟨k, rfl⟩ := Int.exists_eq_neg_ofNat down
    simp
    ring

/-- The quotient lies in the binade of an exponent, or below the least binade. -/
structure Binade (q : ℚ) (e : ℤ) : Prop where
  least : -1074 ≤ e
  low : e = -1074 ∨ 2 ^ 52 ≤ q / 2 ^ e
  high : q / 2 ^ e < 2 ^ 53

/-- The bits of numerator and denominator tell the quotient up to a factor of four. -/
theorem bits_quotient {n d : ℕ} (numerator : 0 < n) (denominator : 0 < d) :
    (2 : ℚ) ^ ((n.log2 : ℤ) - d.log2 - 1) < n / d ∧
      (n : ℚ) / d < 2 ^ ((n.log2 : ℤ) - d.log2 + 1) := by
  have positive : (0 : ℚ) < d := by exact_mod_cast denominator
  have power (k : ℤ) : (0 : ℚ) < 2 ^ k := zpow_pos two_pos k
  have lower (m : ℕ) (nonzero : m ≠ 0) : (2 : ℚ) ^ (m.log2 : ℤ) ≤ m := by
    exact_mod_cast Nat.log2_self_le nonzero
  have upper (m : ℕ) : (m : ℚ) < 2 ^ ((m.log2 : ℤ) + 1) := by
    exact_mod_cast Nat.lt_log2_self
  constructor
  · rw [lt_div_iff₀ positive]
    calc (2 : ℚ) ^ ((n.log2 : ℤ) - d.log2 - 1) * d
        < 2 ^ ((n.log2 : ℤ) - d.log2 - 1) * 2 ^ ((d.log2 : ℤ) + 1) :=
          mul_lt_mul_of_pos_left (upper d) (power _)
      _ = 2 ^ (n.log2 : ℤ) := by rw [← zpow_add₀ two_ne_zero]; congr 1; ring
      _ ≤ n := lower n numerator.ne'
  · rw [div_lt_iff₀ positive]
    calc (n : ℚ) < 2 ^ ((n.log2 : ℤ) + 1) := upper n
      _ = 2 ^ ((n.log2 : ℤ) - d.log2 + 1) * 2 ^ (d.log2 : ℤ) := by
          rw [← zpow_add₀ two_ne_zero]; congr 1; ring
      _ ≤ 2 ^ ((n.log2 : ℤ) - d.log2 + 1) * d :=
          mul_le_mul_of_nonneg_left (lower d denominator.ne') (power _).le

theorem div_two_zpow_succ (q : ℚ) (e : ℤ) : q / 2 ^ (e + 1) = q / 2 ^ e / 2 := by
  rw [zpow_add_one₀ two_ne_zero, div_div]

/-- A greater exponent makes a smaller quotient. -/
theorem div_two_zpow_anti {q : ℚ} (nonneg : 0 ≤ q) {e f : ℤ} (le : e ≤ f) :
    q / 2 ^ f ≤ q / 2 ^ e :=
  div_le_div_of_nonneg_left nonneg (zpow_pos two_pos e) (zpow_le_zpow_right₀ one_le_two le)

theorem binade_gridExponent {n d : ℕ} (numerator : 0 < n) (denominator : 0 < d) :
    Binade (n / d) (gridExponent n d) := by
  obtain ⟨lower, upper⟩ := bits_quotient numerator denominator
  have positive : (0 : ℚ) ≤ n / d := by positivity
  have power (k : ℤ) : (0 : ℚ) < 2 ^ k := zpow_pos two_pos k
  rw [gridExponent.eq_def]
  simp only
  generalize known : (n.log2 : ℤ) - d.log2 - 53 = guess
  have least : 2 ^ 52 < (n : ℚ) / d / 2 ^ guess := by
    rw [lt_div_iff₀ (power _), ← zpow_natCast, ← zpow_add₀ two_ne_zero]
    exact lt_of_le_of_lt (zpow_le_zpow_right₀ one_le_two (by push_cast; omega)) lower
  have most : (n : ℚ) / d / 2 ^ guess < 2 ^ 54 := by
    rw [div_lt_iff₀ (power _), ← zpow_natCast, ← zpow_add₀ two_ne_zero]
    exact lt_of_lt_of_le upper (zpow_le_zpow_right₀ one_le_two (by push_cast; omega))
  have decides : (scale n d guess).1 / (scale n d guess).2 < Nat.pow 2 53 ↔
      (n : ℚ) / d / 2 ^ guess < 2 ^ 53 := by
    have unit : (0 : ℚ) < (scale n d guess).2 := by exact_mod_cast scale_pos n denominator guess
    rw [← scale_eq, div_lt_iff₀ unit, Nat.div_lt_iff_lt_mul (scale_pos n denominator guess)]
    exact_mod_cast Iff.rfl
  -- The guess is the exponent of the binade, or one less.
  have found : ∃ e, (if (scale n d guess).1 / (scale n d guess).2 < Nat.pow 2 53 then guess
      else guess + 1) = e ∧ 2 ^ 52 ≤ (n : ℚ) / d / 2 ^ e ∧ (n : ℚ) / d / 2 ^ e < 2 ^ 53 := by
    refine ⟨_, rfl, ?_⟩
    split_ifs with within
    · exact ⟨least.le, decides.mp within⟩
    · have past := not_lt.mp (mt decides.mpr within)
      rw [div_two_zpow_succ]
      constructor
      · linarith
      · linarith
  obtain ⟨e, chosen, low, high⟩ := found
  rw [chosen]
  rcases le_total (-1074) e with above | below
  · rw [max_eq_right above]
    exact ⟨above, .inr low, high⟩
  · rw [max_eq_left below]
    exact ⟨le_rfl, .inl rfl, lt_of_le_of_lt (div_two_zpow_anti positive below) high⟩

theorem Binade.le {q : ℚ} (nonneg : 0 ≤ q) {e f : ℤ} (first : Binade q e) (second : Binade q f) :
    f ≤ e := by
  by_contra less
  have normal : 2 ^ 52 ≤ q / 2 ^ f := second.low.resolve_left (by have := first.least; omega)
  have steps := div_two_zpow_anti nonneg (show e ≤ f - 1 by omega)
  have double := div_two_zpow_succ q (f - 1)
  rw [sub_add_cancel] at double
  have high := first.high
  linarith

theorem Binade.unique {q : ℚ} (nonneg : 0 ≤ q) {e f : ℤ} (first : Binade q e)
    (second : Binade q f) : e = f :=
  le_antisymm (second.le nonneg first) (first.le nonneg second)

/-! ### The numbers nearest to a quotient -/

/-- How far below a number its numbers begin, in steps of its mantissa. Under a power of two the
steps are half as wide. -/
def reach (x : Binary64) : ℚ :=
  if x.mantissa = 2 ^ 52 ∧ x.exponent ≠ -1074 then 1 / 4 else 1 / 2

/-- The magnitudes that are rounded to a number: those nearer to it than to any other, and with an
even mantissa also those halfway. -/
structure Owns (x : Binary64) (q : ℚ) : Prop where
  low : (x.mantissa : ℚ) - x.reach ≤ q / 2 ^ x.exponent
  high : q / 2 ^ x.exponent ≤ x.mantissa + 1 / 2
  even : q / 2 ^ x.exponent = x.mantissa - x.reach ∨ q / 2 ^ x.exponent = x.mantissa + 1 / 2 →
    x.mantissa % 2 = 0

/-- The number with a given mantissa and exponent, if they are in normal form. -/
def ofParts? (negative : Bool) (mantissa : ℕ) (exponent : ℤ) : Option Binary64 :=
  if normal : IsNormal mantissa exponent then some ⟨negative, mantissa, exponent, normal⟩ else none

theorem ofParts?_eq_some_iff {negative : Bool} {mantissa : ℕ} {exponent : ℤ} {x : Binary64} :
    ofParts? negative mantissa exponent = some x ↔
      x.negative = negative ∧ x.mantissa = mantissa ∧ x.exponent = exponent := by
  rw [ofParts?]
  constructor
  · intro known
    split_ifs at known
    cases known
    exact ⟨rfl, rfl, rfl⟩
  · rintro ⟨rfl, rfl, rfl⟩
    rw [dif_pos x.normal]

theorem ofParts?_ne_none {negative : Bool} {mantissa : ℕ} {exponent : ℤ}
    (normal : IsNormal mantissa exponent) : ofParts? negative mantissa exponent ≠ none := by
  rw [ofParts?, dif_pos normal]
  exact Option.some_ne_none _

/-- The mantissa is rounded in the binade of the quotient, and one that becomes too large is
halved. -/
theorem exists_ofRatio?_eq {n d : ℕ} (numerator : 0 < n) (denominator : 0 < d) :
    ∃ e r, Binade (n / d) e ∧ Rounds (n / d / 2 ^ e) r ∧ ∀ negative,
      ofRatio? negative n d =
        if r = 2 ^ 53 then ofParts? negative (2 ^ 52) (e + 1) else ofParts? negative r e := by
  have rounds := rounds_roundDiv (scale n d (gridExponent n d)).1
    (scale_pos n denominator (gridExponent n d))
  rw [scale_eq] at rounds
  refine ⟨_, _, binade_gridExponent numerator denominator, rounds, fun negative => ?_⟩
  rw [ofRatio?.eq_def, if_neg numerator.ne']
  simp only [Nat.pow_eq]
  split_ifs <;> simp_all [ofParts?]

theorem reach_pos (x : Binary64) : 0 < x.reach := by
  rw [reach]
  split_ifs <;> norm_num

theorem reach_le (x : Binary64) : x.reach ≤ 1 / 2 := by
  rw [reach]
  split_ifs <;> norm_num

/-- A full mantissa is the least one of its exponent. -/
theorem mantissa_bounds (x : Binary64) :
    (x.mantissa : ℚ) ≤ 2 ^ 53 - 1 ∧ (x.exponent = -1074 ∨ (2 : ℚ) ^ 52 ≤ x.mantissa) := by
  obtain ⟨most, _, _, full⟩ := x.normal
  simp only [Nat.pow_eq] at most full
  refine ⟨?_, ?_⟩
  · have most : x.mantissa + 1 ≤ 2 ^ 53 := most
    have most : (x.mantissa : ℚ) + 1 ≤ 2 ^ 53 := by exact_mod_cast most
    linarith
  · rcases full with full | least
    · exact .inr (by exact_mod_cast full)
    · exact .inl least

/-- A quotient in the binade of a number is rounded to its mantissa. -/
theorem Owns.rounds {x : Binary64} {q : ℚ} (owns : x.Owns q) :
    Rounds (q / 2 ^ x.exponent) x.mantissa := by
  have low := owns.low
  have near := x.reach_le
  refine ⟨by linarith, owns.high, ?_⟩
  rintro (same | same)
  · -- Only where the reach is a whole half can the quotient lie so low.
    exact owns.even (.inl (by linarith))
  · exact owns.even (.inr same)

/-- A quotient below the binade of a number is rounded up to a power of two. -/
theorem Owns.power {x : Binary64} {q : ℚ} (owns : x.Owns q) (outside : ¬Binade q x.exponent) :
    x.mantissa = 2 ^ 52 ∧ Binade q (x.exponent - 1) ∧
      Rounds (q / 2 ^ (x.exponent - 1)) (2 ^ 53) := by
  obtain ⟨most, full⟩ := x.mantissa_bounds
  have low := owns.low
  have high := owns.high
  have least := x.normal.2.1
  have within : q / 2 ^ x.exponent < 2 ^ 53 := by linarith
  have below : x.exponent ≠ -1074 ∧ q / 2 ^ x.exponent < 2 ^ 52 := by
    by_contra other
    refine outside ⟨least, ?_, within⟩
    by_contra neither
    exact other ⟨fun same => neither (.inl same), not_le.mp fun above => neither (.inr above)⟩
  have full := full.resolve_left below.1
  have near := x.reach_le
  have power : x.mantissa = 2 ^ 52 := by
    have under : (x.mantissa : ℚ) < 2 ^ 52 + 1 := by linarith
    have under : x.mantissa < 2 ^ 52 + 1 := by exact_mod_cast under
    have enough : 2 ^ 52 ≤ x.mantissa := by exact_mod_cast full
    omega
  have reach : x.reach = 1 / 4 := if_pos ⟨power, below.1⟩
  have double := div_two_zpow_succ q (x.exponent - 1)
  rw [sub_add_cancel] at double
  rw [power, reach] at low
  push_cast at low
  refine ⟨power, ⟨by omega, .inr (by linarith), by linarith⟩, ?_⟩
  refine ⟨by push_cast; linarith, by push_cast; linarith, fun _ => by norm_num⟩

theorem eq_zero_of_mantissa {x : Binary64} (zero : x.mantissa = 0) : x = .zero x.negative := by
  have exponent : x.exponent = -1074 := by
    refine x.normal.2.2.2.resolve_left fun full => ?_
    rw [zero] at full
    exact absurd full (by decide)
  obtain ⟨_, _, _, _⟩ := x
  cases zero
  cases exponent
  rfl

/-- Zero is owned by the two zeros. -/
theorem owns_zero_iff (x : Binary64) : x.Owns 0 ↔ x.mantissa = 0 := by
  have near := x.reach_le
  have positive := x.reach_pos
  constructor
  · intro owns
    have low := owns.low
    rw [zero_div] at low
    by_contra nonzero
    have least : (1 : ℚ) ≤ x.mantissa := by exact_mod_cast Nat.pos_of_ne_zero nonzero
    linarith
  · intro zero
    refine ⟨?_, ?_, fun _ => by rw [zero]⟩
    · rw [zero, zero_div, Nat.cast_zero]
      linarith
    · rw [zero, zero_div, Nat.cast_zero]
      norm_num

/-- A quotient in the binade of a number is owned if it is rounded to the mantissa. -/
theorem Owns.of_rounds {x : Binary64} {q : ℚ} (binade : Binade q x.exponent)
    (rounds : Rounds (q / 2 ^ x.exponent) x.mantissa) : x.Owns q := by
  have low := rounds.low
  refine ⟨?_, rounds.high, ?_⟩
  · rw [reach]
    split_ifs with power
    · -- No quotient of the binade lies below its least mantissa.
      have full := binade.low.resolve_left power.2
      rw [power.1]
      push_cast
      linarith
    · exact low
  · rintro (same | same)
    · rw [reach] at same
      split_ifs at same with power
      · rw [power.1]
        norm_num
      · exact rounds.even (.inl same)
    · exact rounds.even (.inr same)

/-- A quotient that is rounded up to the next binade is owned by the least number there. -/
theorem Owns.of_carry {x : Binary64} {q : ℚ} {e : ℤ} (binade : Binade q e)
    (rounds : Rounds (q / 2 ^ e) (2 ^ 53)) (mantissa : x.mantissa = 2 ^ 52)
    (exponent : x.exponent = e + 1) : x.Owns q := by
  have low := rounds.low
  have least := binade.least
  have within := binade.high
  have reach : x.reach = 1 / 4 := if_pos ⟨mantissa, by omega⟩
  push_cast at low
  refine ⟨?_, ?_, fun _ => by rw [mantissa]; norm_num⟩
  · rw [mantissa, exponent, reach, div_two_zpow_succ]
    push_cast
    linarith
  · rw [mantissa, exponent, div_two_zpow_succ]
    push_cast
    linarith

/-- Rounding gives the number that owns the quotient. -/
theorem ofRatio?_of_owns {negative : Bool} {n d : ℕ} (denominator : 0 < d) {x : Binary64}
    (owns : x.Owns (n / d)) (sign : x.negative = negative) : ofRatio? negative n d = some x := by
  rcases Nat.eq_zero_or_pos n with rfl | numerator
  · rw [Nat.cast_zero, zero_div, owns_zero_iff] at owns
    rw [ofRatio?, if_pos rfl, eq_zero_of_mantissa owns, sign]
  · have nonneg : (0 : ℚ) ≤ n / d := by positivity
    obtain ⟨e, r, binade, rounds, parts⟩ := exists_ofRatio?_eq numerator denominator
    rw [parts]
    by_cases inside : Binade (n / d) x.exponent
    · obtain rfl := binade.unique nonneg inside
      obtain rfl := rounds.unique owns.rounds
      have small : x.mantissa ≠ 2 ^ 53 := x.normal.1.ne
      rw [if_neg small, ofParts?_eq_some_iff]
      exact ⟨sign, rfl, rfl⟩
    · -- Half a step below a power of two the quotient is in the binade below, and is carried up.
      obtain ⟨power, lower, above⟩ := owns.power inside
      obtain rfl := binade.unique nonneg lower
      rw [if_pos (rounds.unique above), ofParts?_eq_some_iff]
      exact ⟨sign, power, (sub_add_cancel ..).symm⟩

/-- A quotient is owned by the number to which it is rounded. -/
theorem owns_of_ofRatio? {negative : Bool} {n d : ℕ} (denominator : 0 < d) {x : Binary64}
    (rounded : ofRatio? negative n d = some x) : x.negative = negative ∧ x.Owns (n / d) := by
  rcases Nat.eq_zero_or_pos n with rfl | numerator
  · rw [ofRatio?, if_pos rfl] at rounded
    cases rounded
    rw [Nat.cast_zero, zero_div, owns_zero_iff]
    exact ⟨rfl, rfl⟩
  · obtain ⟨e, r, binade, rounds, parts⟩ := exists_ofRatio?_eq numerator denominator
    rw [parts] at rounded
    split_ifs at rounded with carry
    · obtain ⟨sign, mantissa, exponent⟩ := ofParts?_eq_some_iff.mp rounded
      exact ⟨sign, .of_carry binade (carry ▸ rounds) mantissa exponent⟩
    · obtain ⟨sign, rfl, rfl⟩ := ofParts?_eq_some_iff.mp rounded
      exact ⟨sign, .of_rounds binade rounds⟩

theorem ofRatio?_eq_some_iff {negative : Bool} {n d : ℕ} (denominator : 0 < d) {x : Binary64} :
    ofRatio? negative n d = some x ↔ x.negative = negative ∧ x.Owns (n / d) :=
  ⟨owns_of_ofRatio? denominator, fun ⟨sign, owns⟩ => ofRatio?_of_owns denominator owns sign⟩

/-- Halfway from the greatest finite number to the next power of two. -/
def bound : ℚ := (2 ^ 53 - 1 / 2) * 2 ^ 971

theorem Owns.lt_bound {x : Binary64} {q : ℚ} (owns : x.Owns q) : q < bound := by
  have most := x.mantissa_bounds.1
  have high := owns.high
  have power : (0 : ℚ) < 2 ^ x.exponent := zpow_pos two_pos _
  have steps : q / 2 ^ x.exponent < 2 ^ 53 - 1 / 2 := by
    refine lt_of_le_of_ne (by linarith) fun same => ?_
    -- The greatest mantissa is odd.
    have greatest : (x.mantissa : ℚ) = 2 ^ 53 - 1 := by linarith
    have even := owns.even (.inr (by linarith))
    have greatest : x.mantissa + 1 = 2 ^ 53 := by
      have : (x.mantissa : ℚ) + 1 = 2 ^ 53 := by linarith
      exact_mod_cast this
    omega
  rw [div_lt_iff₀ power] at steps
  refine lt_of_lt_of_le steps (mul_le_mul_of_nonneg_left ?_ (by norm_num))
  have range : (2 : ℚ) ^ x.exponent ≤ 2 ^ (971 : ℤ) :=
    zpow_le_zpow_right₀ one_le_two x.normal.2.2.1
  exact_mod_cast range

/-- What is rounded up from the last binade is past the bound. -/
theorem bound_le_of_carry {q : ℚ} {e : ℤ} (past : 971 ≤ e) (rounds : Rounds (q / 2 ^ e) (2 ^ 53)) :
    bound ≤ q := by
  have low := rounds.low
  have range : (2 : ℚ) ^ (971 : ℤ) ≤ 2 ^ e := zpow_le_zpow_right₀ one_le_two past
  push_cast at low
  rw [bound, ← div_mul_cancel₀ q (zpow_pos two_pos e).ne']
  exact mul_le_mul low (by exact_mod_cast range) (by positivity) (by linarith)

/-- The binades after the last lie past the bound. -/
theorem Binade.bound_le {q : ℚ} {e : ℤ} (binade : Binade q e) (past : 972 ≤ e) : bound ≤ q := by
  have full : 2 ^ 52 ≤ q / 2 ^ e := binade.low.resolve_left (by omega)
  have range : (2 : ℚ) ^ (972 : ℤ) ≤ 2 ^ e := zpow_le_zpow_right₀ one_le_two past
  calc bound ≤ 2 ^ 53 * 2 ^ 971 := mul_le_mul_of_nonneg_right (by norm_num) (by positivity)
    _ = 2 ^ 52 * 2 ^ 972 := by rw [← pow_add, ← pow_add]
    _ ≤ q / 2 ^ e * 2 ^ e :=
        mul_le_mul full (by exact_mod_cast range) (by positivity) (by linarith)
    _ = q := div_mul_cancel₀ q (zpow_pos two_pos e).ne'

/-- A mantissa that is rounded in a binade and becomes none too large is in normal form. -/
theorem Binade.isNormal {q : ℚ} {e : ℤ} {r : ℕ} (binade : Binade q e) (rounds : Rounds (q / 2 ^ e) r)
    (small : r ≠ 2 ^ 53) (within : e ≤ 971) : IsNormal r e := by
  have low := rounds.low
  have high := rounds.high
  have top := binade.high
  have most : (r : ℚ) < 2 ^ 53 + 1 := by linarith
  have most : r < 2 ^ 53 + 1 := by exact_mod_cast most
  refine ⟨show r < 2 ^ 53 by omega, binade.least, within, ?_⟩
  refine binade.low.symm.imp_left fun full => ?_
  have full : (2 : ℚ) ^ 52 < r + 1 := by linarith
  have full : 2 ^ 52 < r + 1 := by exact_mod_cast full
  exact Nat.le_of_lt_succ full

/-- What is owned by no number is past the greatest. -/
theorem bound_le_of_ofRatio? {negative : Bool} {n d : ℕ} (denominator : 0 < d)
    (none : ofRatio? negative n d = none) : bound ≤ n / d := by
  have numerator : 0 < n := by
    rcases Nat.eq_zero_or_pos n with rfl | positive
    · rw [ofRatio?, if_pos rfl] at none
      cases none
    · exact positive
  obtain ⟨e, r, binade, rounds, parts⟩ := exists_ofRatio?_eq numerator denominator
  rw [parts] at none
  split_ifs at none with carry
  · refine bound_le_of_carry ?_ (carry ▸ rounds)
    by_contra within
    have least := binade.least
    exact ofParts?_ne_none ⟨by decide, by omega, by omega, .inl (by decide)⟩ none
  · refine binade.bound_le ?_
    by_contra within
    exact ofParts?_ne_none (binade.isNormal rounds carry (by omega)) none

/-- The quotients that are rounded to a finite number. -/
theorem ofRatio?_eq_none_iff {negative : Bool} {n d : ℕ} (denominator : 0 < d) :
    ofRatio? negative n d = none ↔ bound ≤ n / d := by
  refine ⟨bound_le_of_ofRatio? denominator, fun past => ?_⟩
  cases rounded : ofRatio? negative n d with
  | none => rfl
  | some x => exact absurd (owns_of_ofRatio? denominator rounded).2.lt_bound (not_lt.mpr past)

end Conformance.Binary64
