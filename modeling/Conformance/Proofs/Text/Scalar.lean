import Conformance.Number.Extended
import Conformance.Text.Quoted
import Mathlib.Tactic.SplitIfs

/-!
# Texts without surrogates

A text of scalar values can be encoded. Whatever the program writes of its own is such a text, and
so is what it quotes of one: numerals, quoted texts, and texts put together of others.
-/
namespace Conformance

/-- A character is a scalar value. -/
theorem CodePoint.isSurrogate_ofChar (c : Char) : (CodePoint.ofChar c).isSurrogate = false := by
  have valid : c.val.toNat < 0xD800 ∨ (0xDFFF < c.val.toNat ∧ c.val.toNat < 0x110000) := c.valid
  have shape : (CodePoint.ofChar c).toNat = c.val.toNat := rfl
  rw [CodePoint.isSurrogate, shape, Bool.and_eq_false_iff, decide_eq_false_iff_not,
    decide_eq_false_iff_not]
  omega

namespace Text

/-- No code point is a surrogate. -/
def Scalar (t : Text) : Prop := ∀ c ∈ t, c.isSurrogate = false

variable {t u : Text}

theorem scalar_nil : Scalar [] := List.forall_mem_nil _

theorem scalar_append : Scalar (t ++ u) ↔ Scalar t ∧ Scalar u := List.forall_mem_append

theorem Scalar.append (first : Scalar t) (second : Scalar u) : Scalar (t ++ u) :=
  scalar_append.mpr ⟨first, second⟩

theorem Scalar.of_subset (scalar : Scalar t) (part : u ⊆ t) : Scalar u :=
  fun c member => scalar c (part member)

theorem scalar_chars (chars : List Char) : Scalar (chars.map CodePoint.ofChar) := by
  intro c member
  obtain ⟨char, _, rfl⟩ := List.mem_map.mp member
  exact CodePoint.isSurrogate_ofChar char

theorem scalar_ofString (s : String) : Scalar (ofString s) := scalar_chars s.toList

theorem scalar_replicate (n : Nat) (c : Char) : Scalar (List.replicate n (c : CodePoint)) := by
  intro d member
  rw [List.eq_of_mem_replicate member]
  exact CodePoint.isSurrogate_ofChar c

theorem Scalar.join {separator : Text} {parts : List Text} (between : Scalar separator)
    (each : ∀ part ∈ parts, Scalar part) : Scalar (join separator parts) := by
  induction parts with
  | nil => exact scalar_nil
  | cons part others ih =>
    obtain ⟨first, later⟩ := List.forall_mem_cons.mp each
    cases others with
    | nil => exact first
    | cons second others => exact (first.append between).append (ih later)

/-! ### Numerals -/

theorem scalar_ofNatBase (base n : Nat) : Scalar (ofNatBase base n) := scalar_chars _

theorem scalar_ofNat (n : Nat) : Scalar (ofNat n) := scalar_ofNatBase 10 n

theorem scalar_ofInt (value : Int) : Scalar (ofInt value) := by
  cases value with
  | ofNat n => exact scalar_ofNat n
  | negSucc n => exact (scalar_ofString "-").append (scalar_ofNat (n + 1))

theorem Scalar.padZeros (scalar : Scalar t) (width : Nat) : Scalar (padZeros width t) :=
  (scalar_replicate _ '0').append scalar

end Text

namespace Binary64

open Text

theorem scalar_scientific (x : Binary64) : Scalar x.scientific.1 := by
  rw [scientific]
  simp only
  split_ifs
  · exact scalar_ofString "0"
  · refine (scalar_ofNat x.shortest.digits).of_subset fun c member => ?_
    have kept := (List.dropWhile_sublist _).subset (List.mem_reverse.mp member)
    exact List.mem_reverse.mp kept

theorem scalar_format (x : Binary64) : Scalar x.format := by
  have digits := scalar_scientific x
  rw [format]
  generalize x.scientific = shown at digits ⊢
  obtain ⟨digits', exponent⟩ := shown
  have front (n : Nat) : Scalar (digits'.take n) := digits.of_subset (List.take_subset n digits')
  have back (n : Nat) : Scalar (digits'.drop n) := digits.of_subset (List.drop_subset n digits')
  have sign : Scalar (if x.negative then ("-" : Text) else "") := by
    split_ifs
    · exact scalar_ofString "-"
    · exact scalar_ofString ""
  refine sign.append ?_
  simp only
  split_ifs
  · refine ((((front 1).append ?_).append (scalar_ofString "e-")).append
      ((scalar_ofNat _).padZeros 2))
    split
    · exact scalar_nil
    · exact (scalar_ofString ".").append (back 1)
  · refine ((((front 1).append ?_).append (scalar_ofString "e+")).append
      ((scalar_ofNat _).padZeros 2))
    split
    · exact scalar_nil
    · exact (scalar_ofString ".").append (back 1)
  · exact ((scalar_ofString "0.").append (scalar_replicate _ '0')).append digits
  · have whole := (front (exponent.toNat + 1)).append
      (scalar_replicate (exponent.toNat + 1 - digits'.length) '0')
    split
    · exact whole.append (scalar_ofString ".0")
    · exact (whole.append (scalar_ofString ".")).append (back _)

theorem scalar_formatPlain (x : Binary64) : Scalar x.formatPlain := by
  rw [formatPlain]
  split_ifs
  · exact scalar_ofInt _
  · exact scalar_format x

end Binary64

theorem Extended.scalar_formatPlain (x : Extended) : Text.Scalar x.formatPlain := by
  cases x with
  | finite value => exact value.scalar_formatPlain
  | infinite negative =>
    cases negative with
    | true => exact Text.scalar_ofString "-inf"
    | false => exact Text.scalar_ofString "inf"
  | notNumber => exact Text.scalar_ofString "nan"

/-! ### Quoted texts -/

namespace Text

theorem scalar_hexEscape (c : CodePoint) : Scalar (hexEscape c) := by
  have padded (width n : Nat) : Scalar (hexPadded width n) := (scalar_ofNatBase 16 n).padZeros width
  rw [hexEscape]
  split_ifs
  · exact (scalar_ofString "\\x").append (padded 2 _)
  · exact (scalar_ofString "\\u").append (padded 4 _)
  · exact (scalar_ofString "\\U").append (padded 8 _)

theorem scalar_quotedPoint {quote c : CodePoint} (scalar : c.isSurrogate = false) :
    Scalar (quotedPoint quote c) := by
  have own : Scalar [c] := List.forall_mem_singleton.mpr scalar
  rw [quotedPoint]
  split_ifs
  · exact (scalar_ofString "\\").append own
  · exact scalar_ofString "\\n"
  · exact scalar_ofString "\\r"
  · exact scalar_ofString "\\t"
  · exact own
  · exact scalar_hexEscape c

theorem Scalar.quoted (scalar : Scalar t) : Scalar t.quoted := by
  have mark : Scalar [quoteMark t] := by
    rw [quoteMark]
    split_ifs
    · exact scalar_ofString "\""
    · exact scalar_ofString "'"
  refine (mark.append fun c member => ?_).append mark
  obtain ⟨d, present, within⟩ := List.mem_flatMap.mp member
  exact scalar_quotedPoint (scalar d present) c within

end Text
end Conformance
