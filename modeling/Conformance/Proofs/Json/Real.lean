import Conformance.Proofs.Document.Denotation
import Conformance.Proofs.Number.Shortest

/-!
# Real numbers read back

A number is written in one of three layouts: with an exponent, with zeros between the point and the
digits, or with a point among the digits or behind them. Each is a numeral of the grammar with a
point or an exponent, and each denotes the shortest decimal of the number, so the number that is
nearest to it is the one that was written.
-/
namespace Conformance.Json

open Grammar

/-- Digits of which the first is no zero, or a single one, are a whole part. -/
theorem whole_of_leading {first : CodePoint} {others : Text}
    (digits : ∀ c ∈ first :: others, c.isDigit = true)
    (leading : first ≠ CodePoint.ofChar '0' ∨ others = []) (rest : Text) :
    Whole (first :: others ++ rest) (first :: others) rest := by
  by_cases zero : first = CodePoint.ofChar '0'
  · rw [leading.resolve_left (· zero), zero]
    exact .zero
  · exact .digits ⟨rfl, List.cons_ne_nil _ _, digits⟩ fun same => zero (Option.some.inj same)

theorem Grammar.Fraction.of_digits {fraction : Text} (some_digit : fraction ≠ [])
    (digits : ∀ c ∈ fraction, c.isDigit = true) (rest : Text) :
    Fraction (CodePoint.ofChar '.' :: (fraction ++ rest)) fraction rest :=
  .present ⟨rfl, some_digit, digits⟩

/-- Whatever follows the text, it is an unsigned number of these parts. -/
def Unsigned (body whole fraction : Text) (exponent : Option (Bool × Text)) : Prop :=
  ∀ rest, ∃ behindWhole behindFraction, Whole (body ++ rest) whole behindWhole ∧
    Fraction behindWhole fraction behindFraction ∧ Exponent behindFraction exponent rest

/-- Whatever follows the text, it is an unsigned number with a point or an exponent, and has the
value of a decimal. -/
def SpellsDecimal (body : Text) (digits : ℕ) (power : ℤ) : Prop :=
  ∃ whole fraction exponent, Unsigned body whole fraction exponent ∧
    ∀ negative literal, Numeral.isWhole ⟨negative, whole, fraction, exponent, literal⟩ = false ∧
      (Numeral.digits ⟨negative, whole, fraction, exponent, literal⟩ : ℚ) *
        10 ^ Numeral.power ⟨negative, whole, fraction, exponent, literal⟩ = digits * 10 ^ power

/-! ### The layouts -/

theorem natValue_padZeros (width n : ℕ) :
    Text.natValue (Text.padZeros width (Text.ofNat n)) = n := by
  rw [Text.padZeros]
  exact (Text.natValue_zeros_append _ _).trans (Text.natValue_ofNat n)

/-- The sign and the digits of an exponent, with a zero in front of a single one. -/
theorem exponent_padZeros (exponent : ℤ) (rest : Text) :
    Exponent ((if exponent < 0 then Text.ofString "e-" else Text.ofString "e+") ++
        (Text.padZeros 2 (Text.ofNat exponent.natAbs) ++ rest))
      (some (decide (exponent < 0), Text.padZeros 2 (Text.ofNat exponent.natAbs))) rest := by
  have run : Digits (Text.padZeros 2 (Text.ofNat exponent.natAbs) ++ rest)
      (Text.padZeros 2 (Text.ofNat exponent.natAbs)) rest := by
    obtain ⟨c, more, spelled, _⟩ := Text.ofNat_eq_cons exponent.natAbs
    refine ⟨rfl, ?_, fun c member => ?_⟩
    · rw [Text.padZeros, spelled]
      exact List.append_ne_nil_of_right_ne_nil _ (List.cons_ne_nil _ _)
    · rcases List.mem_append.mp member with zero | digit
      · exact Text.isDigit_of_mem_zeros zero
      · exact Text.isDigit_of_mem_ofNat digit
  split_ifs with down
  · rw [decide_eq_true down]
    exact .present (.inl rfl) .minus run
  · rw [decide_eq_false down]
    exact .present (.inl rfl) .plus run

/-- Digits behind a point, and no point without digits. -/
def fractionOf : Text → Text
  | [] => []
  | rest => Text.ofString "." ++ rest

section Layouts

variable {first : CodePoint} {others : Text} (digits : ∀ c ∈ first :: others, c.isDigit = true)
  (leading : first ≠ CodePoint.ofChar '0' ∨ others = [])

include digits

theorem spells_exponent (exponent : ℤ) :
    SpellsDecimal ([first] ++ fractionOf others ++
      (if exponent < 0 then Text.ofString "e-" else Text.ofString "e+") ++
      Text.padZeros 2 (Text.ofNat exponent.natAbs))
      (Text.natValue (first :: others)) (exponent - others.length) := by
  refine ⟨[first], others,
    some (decide (exponent < 0), Text.padZeros 2 (Text.ofNat exponent.natAbs)), fun rest => ?_,
    fun negative literal => ⟨Bool.and_false _, ?_⟩⟩
  · have alone : ∀ c ∈ [first], c.isDigit = true :=
      List.forall_mem_singleton.mpr (digits first List.mem_cons_self)
    -- A point is written only in front of digits.
    cases others with
    | nil =>
      refine ⟨_, _, ?_, .absent, exponent_padZeros exponent rest⟩
      simpa [fractionOf] using whole_of_leading alone (.inr rfl) _
    | cons second others =>
      refine ⟨_, _, ?_, .of_digits (List.cons_ne_nil second others)
        (List.forall_mem_cons.mp digits).2 _, exponent_padZeros exponent rest⟩
      simpa [fractionOf, Text.ofString] using whole_of_leading alone (.inr rfl) _
  · congr 2
    simp only [Numeral.power, natValue_padZeros, decide_eq_true_eq]
    split_ifs <;> omega

theorem spells_zeros (count : ℕ) :
    SpellsDecimal (Text.ofString "0." ++ Text.zeros count ++ first :: others)
      (Text.natValue (first :: others)) (-(count + 1 : ℕ) - others.length) := by
  refine ⟨[CodePoint.ofChar '0'], Text.zeros count ++ first :: others, none, fun rest => ?_,
    fun negative literal => ⟨?_, ?_⟩⟩
  · have all : ∀ c ∈ Text.zeros count ++ first :: others, c.isDigit = true :=
      List.forall_mem_append.mpr ⟨fun _ => Text.isDigit_of_mem_zeros, digits⟩
    refine ⟨_, _, ?_, .of_digits (List.append_ne_nil_of_right_ne_nil _ (List.cons_ne_nil _ _)) all
      rest, .absent⟩
    simpa [Text.ofString] using Whole.zero
  · simp [Numeral.isWhole]
  · -- The zeros have no value, but they move the point.
    have value : Text.natValue ([CodePoint.ofChar '0'] ++ (Text.zeros count ++ first :: others)) =
        Text.natValue (first :: others) := by
      rw [← List.append_assoc]
      exact Text.natValue_zeros_append (count + 1) _
    rw [Numeral.digits, value]
    congr 2
    simp [Numeral.power]
    ring

include leading

theorem spells_padded (count : ℕ) (single : count = 0 ∨ first ≠ CodePoint.ofChar '0') :
    SpellsDecimal (first :: others ++ Text.zeros count ++ Text.ofString ".0")
      (Text.natValue (first :: others)) count := by
  refine ⟨first :: others ++ Text.zeros count, [CodePoint.ofChar '0'], none, fun rest => ?_,
    fun negative literal => ⟨rfl, ?_⟩⟩
  · have all : ∀ c ∈ first :: others ++ Text.zeros count, c.isDigit = true :=
      List.forall_mem_append.mpr ⟨digits, fun _ => Text.isDigit_of_mem_zeros⟩
    -- A zero is not padded, so no zero stands in front of others.
    have leading : first ≠ CodePoint.ofChar '0' ∨ others ++ Text.zeros count = [] := by
      rcases single with rfl | nonzero
      · exact leading.imp_right fun none => by rw [none]; rfl
      · exact .inl nonzero
    have fraction := Fraction.of_digits (List.cons_ne_nil (CodePoint.ofChar '0') [])
      (List.forall_mem_singleton.mpr rfl) rest
    refine ⟨_, _, ?_, fraction, .absent⟩
    simpa [Text.ofString] using whole_of_leading all leading _
  · have value : Text.natValue (first :: others ++ Text.zeros count ++ [CodePoint.ofChar '0']) =
        Text.natValue (first :: others) * 10 ^ (count + 1) := by
      rw [← Text.natValue_append_zeros, List.append_assoc, Text.zeros, Text.zeros,
        List.replicate_succ']
    rw [Numeral.digits, value]
    simp [Numeral.power, pow_succ, mul_assoc]

theorem spells_pointed {front behind : Text} (split : first :: others = front ++ behind)
    (inhabited : front ≠ []) (some_digit : behind ≠ []) :
    SpellsDecimal (front ++ Text.ofString "." ++ behind)
      (Text.natValue (first :: others)) (-behind.length) := by
  obtain ⟨c, more, rfl⟩ := List.exists_cons_of_ne_nil inhabited
  obtain ⟨rfl, others⟩ := List.cons.inj split
  rw [split] at digits
  obtain ⟨whole, fraction⟩ := List.forall_mem_append.mp digits
  -- More than one digit, so the first is no zero.
  have nonzero : first ≠ CodePoint.ofChar '0' := leading.resolve_right fun none => by
    rw [none, eq_comm] at others
    exact some_digit (List.append_eq_nil_iff.mp others).2
  refine ⟨first :: more, behind, none, fun rest => ?_, fun negative literal => ⟨?_, ?_⟩⟩
  · refine ⟨_, _, ?_, .of_digits some_digit fraction rest, .absent⟩
    simpa [Text.ofString] using whole_of_leading whole (.inl nonzero) _
  · simp [Numeral.isWhole, some_digit]
  · rw [Numeral.digits, split]
    simp [Numeral.power]

end Layouts

/-! ### The three layouts together -/

/-- The layout with a point among the digits, or behind them and zeros in their place. -/
theorem spells_positional {first : CodePoint} {others : Text} {exponent : ℤ}
    (digits : ∀ c ∈ first :: others, c.isDigit = true)
    (leading : first ≠ CodePoint.ofChar '0' ∨ others = [] ∧ exponent = 0) (nonneg : 0 ≤ exponent) :
    SpellsDecimal (match List.drop (exponent.toNat + 1) (first :: others) with
      | [] => List.take (exponent.toNat + 1) (first :: others) ++
          Text.zeros (exponent.toNat + 1 - (first :: others).length) ++ Text.ofString ".0"
      | rest => List.take (exponent.toNat + 1) (first :: others) ++
          Text.zeros (exponent.toNat + 1 - (first :: others).length) ++ Text.ofString "." ++ rest)
      (Text.natValue (first :: others)) (exponent - others.length) := by
  have single : first ≠ CodePoint.ofChar '0' ∨ others = [] := leading.imp_right And.left
  have split := (List.take_append_drop (exponent.toNat + 1) (first :: others)).symm
  have length := List.length_drop (i := exponent.toNat + 1) (l := first :: others)
  cases behind : List.drop (exponent.toNat + 1) (first :: others) with
  | nil =>
    -- All digits stand in front of the point, with zeros in the places up to it.
    rw [behind] at split length
    rw [List.append_nil] at split
    rw [List.length_nil, List.length_cons] at length
    have zero : exponent.toNat + 1 - (first :: others).length = 0 ∨
        first ≠ CodePoint.ofChar '0' := by
      refine leading.symm.imp_left fun single => ?_
      rw [single.1, single.2]
      rfl
    have layout := spells_padded digits single _ zero
    rw [List.length_cons] at layout ⊢
    rw [← split, show exponent - others.length = (exponent.toNat + 1 - (others.length + 1) : ℕ) by
      omega]
    exact layout
  | cons c rest =>
    -- The point stands among the digits, and there are no places to fill.
    rw [behind] at split length
    rw [List.length_cons, List.length_cons] at length
    have layout := spells_pointed digits single split (by simp) (List.cons_ne_nil c rest)
    rw [List.length_cons, show exponent.toNat + 1 - (others.length + 1) = 0 by omega,
      show exponent - others.length = -((c :: rest).length : ℤ) by
        rw [List.length_cons]
        omega]
    simpa [Text.zeros] using layout

/-- A number is written as a sign and a decimal that the number owns. -/
theorem exists_body (x : Binary64) : ∃ (body : Text) (digits : ℕ) (power : ℤ),
    x.format = (if x.negative then Text.ofString "-" else Text.ofString "") ++ body ∧
      SpellsDecimal body digits power ∧ x.Owns (digits * 10 ^ power) := by
  obtain ⟨first, others, shape, digits, leading, owns⟩ := x.exists_scientific
  rw [Binary64.format.eq_def]
  simp only [shape]
  generalize x.scientific.2 = exponent at *
  refine ⟨_, _, _, rfl, ?_, owns⟩
  by_cases far : exponent < -4 ∨ 16 ≤ exponent
  · have layout := spells_exponent digits exponent
    rw [if_pos far]
    cases others <;> exact layout
  · rw [if_neg far]
    by_cases small : exponent < 0
    · obtain ⟨count, known⟩ := Int.eq_ofNat_of_zero_le (show 0 ≤ -exponent - 1 by omega)
      have layout := spells_zeros digits count
      rw [if_pos small, show exponent.natAbs - 1 = count by omega,
        show exponent - others.length = -(count + 1 : ℕ) - others.length by omega]
      exact layout
    · rw [if_neg small]
      exact spells_positional digits leading (not_lt.mp small)

/-- A numeral with a point or an exponent denotes the number of its sign that owns its value. -/
theorem Numeral.nearest?_of_owns {n : Numeral} {x : Binary64} (real : n.isWhole = false)
    (owns : x.Owns (n.digits * 10 ^ n.power)) (sign : x.negative = n.negative) :
    n.nearest? = some x := by
  rw [nearest?, real, Bool.false_and, Bool.not_false, Bool.and_true]
  exact Binary64.ofDecimal?_of_owns owns sign

/-- A written number is a numeral, whatever follows it, and the number is what it denotes. -/
theorem exists_number_format (x : Binary64) : ∃ n : Numeral,
    (∀ rest, Number (x.format ++ rest) n rest) ∧ n.isWhole = false ∧ n.nearest? = some x := by
  obtain ⟨body, digits, power, format, ⟨whole, fraction, exponent, parts, value⟩, owns⟩ :=
    exists_body x
  obtain ⟨real, same⟩ := value x.negative x.format
  refine ⟨⟨x.negative, whole, fraction, exponent, x.format⟩, fun rest => ?_, real,
    Numeral.nearest?_of_owns real (same ▸ owns) rfl⟩
  obtain ⟨behindWhole, behindFraction, first, second, third⟩ := parts rest
  refine .intro ?_ first second third rfl
  rw [format]
  cases x.negative <;> rfl

end Conformance.Json
