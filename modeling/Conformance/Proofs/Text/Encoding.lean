import Conformance.Text.Encoding
import Conformance.Proofs.Step
import Mathlib.Tactic.Common

/-!
# Reading UTF-8 back

What is written in UTF-8 is read back: every code point but a surrogate has bytes from which the
strict decoder, and the lenient one, make that code point again. A text without surrogates can
therefore be encoded, and its bytes decode to it.
-/
namespace Conformance

/-- A code point is known by its number. -/
theorem CodePoint.ofNat_toNat (c : CodePoint) : CodePoint.ofNat c.toNat = c := by
  rw [CodePoint.ofNat, dif_pos c.toNat_lt]

namespace Encoding

theorem isContinuation_iff (b : UInt8) :
    isContinuation b = true ↔ 0x80 ≤ b.toNat ∧ b.toNat ≤ 0xBF := by
  simp [isContinuation]

/-! ### Sequences of each length

The bounds on the first byte are those that the decoder goes by. -/

section Sequences

variable {lenient : Bool} {position : Nat} {a b c d : UInt8}

theorem not_lt_of_le_toNat {bound least : UInt8} (above : least.toNat ≤ a.toNat)
    (ordered : bound ≤ least) : ¬a < bound :=
  UInt8.not_lt.mpr (UInt8.le_trans ordered (UInt8.le_iff_toNat_le.mpr above))

theorem decodeUtf8_one (rest : Bytes) (first : a.toNat < 0x80) :
    decodeUtf8 lenient position (a :: rest) =
      (decodeUtf8 lenient (position + 1) rest).map (CodePoint.ofNat a.toNat :: ·) := by
  have one : a < 0x80 := UInt8.lt_iff_toNat_lt.mpr first
  rw [decodeUtf8.eq_def]
  exact if_pos one

theorem decodeUtf8_two (rest : Bytes) (least : 0xC2 ≤ a.toNat) (greatest : a.toNat < 0xE0)
    (second : isContinuation b = true) :
    decodeUtf8 lenient position (a :: b :: rest) =
      (decodeUtf8 lenient (position + 2) rest).map (join2 a b :: ·) := by
  have above {bound : UInt8} : bound ≤ 0xC2 → ¬a < bound := not_lt_of_le_toNat least
  have two : a < 0xE0 := UInt8.lt_iff_toNat_lt.mpr greatest
  rw [decodeUtf8, if_neg (above (by decide)), if_neg (above (by decide)), if_pos two]
  exact if_pos second

theorem decodeUtf8_three (rest : Bytes) (least : 0xE0 ≤ a.toNat) (greatest : a.toNat < 0xF0)
    (second : fitsThree a b = true) (third : isContinuation c = true) :
    decodeUtf8 lenient position (a :: b :: c :: rest) =
      (decodeUtf8 lenient (position + 3) rest).map (join3 a b c :: ·) := by
  have above {bound : UInt8} : bound ≤ 0xE0 → ¬a < bound := not_lt_of_le_toNat least
  have three : a < 0xF0 := UInt8.lt_iff_toNat_lt.mpr greatest
  rw [decodeUtf8.eq_def]
  simp only [above, three, second, third, if_true, if_false, UInt8.reduceLE]

theorem decodeUtf8_four (rest : Bytes) (least : 0xF0 ≤ a.toNat) (greatest : a.toNat < 0xF5)
    (second : fitsFour a b = true) (third : isContinuation c = true)
    (fourth : isContinuation d = true) :
    decodeUtf8 lenient position (a :: b :: c :: d :: rest) =
      (decodeUtf8 lenient (position + 4) rest).map (join4 a b c d :: ·) := by
  have above {bound : UInt8} : bound ≤ 0xF0 → ¬a < bound := not_lt_of_le_toNat least
  have four : a < 0xF5 := UInt8.lt_iff_toNat_lt.mpr greatest
  rw [decodeUtf8.eq_def]
  simp only [above, four, second, third, fourth, if_true, if_false, UInt8.reduceLE]

end Sequences

/-! ### One code point -/

theorem toNat_byte {n : Nat} (small : n < 256) : (UInt8.ofNat n).toNat = n :=
  UInt8.toNat_ofNat_of_lt' small

/-- The byte that carries six bits of a number. -/
theorem toNat_tail (n : Nat) : (UInt8.ofNat (0x80 + n % 64)).toNat = 0x80 + n % 64 :=
  toNat_byte (by omega)

theorem isContinuation_tail (n : Nat) : isContinuation (UInt8.ofNat (0x80 + n % 64)) = true := by
  rw [isContinuation_iff, toNat_tail]
  omega

/-- Only surrogates, and numbers that fewer bytes hold, are kept from three bytes. -/
theorem fitsThree_of_scalar {n : Nat} (least : 0x800 ≤ n) (greatest : n < 0x10000)
    (scalar : ¬(0xD800 ≤ n ∧ n ≤ 0xDFFF)) :
    fitsThree (UInt8.ofNat (0xE0 + n / 4096)) (UInt8.ofNat (0x80 + n / 64 % 64)) = true := by
  have first : (UInt8.ofNat (0xE0 + n / 4096)).toNat = 0xE0 + n / 4096 := toNat_byte (by omega)
  have second := toNat_tail (n / 64)
  simp only [fitsThree, isContinuation_tail, Bool.true_and, Bool.and_eq_true, Bool.not_eq_true',
    Bool.and_eq_false_iff, decide_eq_false_iff_not, UInt8.lt_iff_toNat_lt, ge_iff_le,
    UInt8.le_iff_toNat_le, ← UInt8.toNat_inj, first, second, UInt8.reduceToNat]
  omega

/-- Only numbers that fewer bytes hold, or that are too large, are kept from four bytes. -/
theorem fitsFour_of_large {n : Nat} (least : 0x10000 ≤ n) (greatest : n < 0x110000) :
    fitsFour (UInt8.ofNat (0xF0 + n / 262144)) (UInt8.ofNat (0x80 + n / 4096 % 64)) = true := by
  have first : (UInt8.ofNat (0xF0 + n / 262144)).toNat = 0xF0 + n / 262144 := toNat_byte (by omega)
  have second := toNat_tail (n / 4096)
  simp only [fitsFour, isContinuation_tail, Bool.true_and, Bool.and_eq_true, Bool.not_eq_true',
    Bool.and_eq_false_iff, decide_eq_false_iff_not, UInt8.lt_iff_toNat_lt, ge_iff_le,
    UInt8.le_iff_toNat_le, ← UInt8.toNat_inj, first, second, UInt8.reduceToNat]
  omega

/-! The bits of a number, cut into bytes, make it again. -/

theorem join2_bytes {n : Nat} (greatest : n < 0x800) :
    join2 (UInt8.ofNat (0xC0 + n / 64)) (UInt8.ofNat (0x80 + n % 64)) = .ofNat n := by
  have first : (UInt8.ofNat (0xC0 + n / 64)).toNat = 0xC0 + n / 64 := toNat_byte (by omega)
  rw [join2, first, toNat_tail]
  congr 1
  omega

theorem join3_bytes {n : Nat} (greatest : n < 0x10000) :
    join3 (UInt8.ofNat (0xE0 + n / 4096)) (UInt8.ofNat (0x80 + n / 64 % 64))
      (UInt8.ofNat (0x80 + n % 64)) = .ofNat n := by
  have first : (UInt8.ofNat (0xE0 + n / 4096)).toNat = 0xE0 + n / 4096 := toNat_byte (by omega)
  rw [join3, first, toNat_tail, toNat_tail]
  congr 1
  omega

theorem join4_bytes {n : Nat} (greatest : n < 0x110000) :
    join4 (UInt8.ofNat (0xF0 + n / 262144)) (UInt8.ofNat (0x80 + n / 4096 % 64))
      (UInt8.ofNat (0x80 + n / 64 % 64)) (UInt8.ofNat (0x80 + n % 64)) = .ofNat n := by
  have first : (UInt8.ofNat (0xF0 + n / 262144)).toNat = 0xF0 + n / 262144 := toNat_byte (by omega)
  rw [join4, first, toNat_tail, toNat_tail, toNat_tail]
  congr 1
  omega

/-- The bytes of a code point decode to it, whatever follows them. -/
theorem decodeUtf8_utf8Bytes {lenient : Bool} {position : Nat} {c : CodePoint} (rest : Bytes)
    (scalar : c.isSurrogate = false) :
    decodeUtf8 lenient position (utf8Bytes c ++ rest) =
      (decodeUtf8 lenient (position + (utf8Bytes c).length) rest).map (c :: ·) := by
  have bound := c.toNat_lt
  have whole : ¬(0xD800 ≤ c.toNat ∧ c.toNat ≤ 0xDFFF) := by
    simpa [CodePoint.isSurrogate] using scalar
  have units : c.toNat / Nat.pow 2 0 = c.toNat := Nat.div_one _
  rw [utf8Bytes]
  simp only [units]
  -- The cases are those of the writer; in each one the first byte lies in the reader's range.
  split_ifs with one two three
  · have first : (UInt8.ofNat c.toNat).toNat = c.toNat := toNat_byte (by omega)
    have same : CodePoint.ofNat (UInt8.ofNat c.toNat).toNat = c := by rw [first, c.ofNat_toNat]
    rw [List.singleton_append, decodeUtf8_one rest (by omega), same, List.length_singleton]
  · have first : (UInt8.ofNat (0xC0 + c.toNat / 64)).toNat = 0xC0 + c.toNat / 64 :=
      toNat_byte (by omega)
    have same := (join2_bytes two).trans c.ofNat_toNat
    refine (decodeUtf8_two rest (by omega) (by omega) (isContinuation_tail _)).trans ?_
    rw [same]
    rfl
  · have first : (UInt8.ofNat (0xE0 + c.toNat / 4096)).toNat = 0xE0 + c.toNat / 4096 :=
      toNat_byte (by omega)
    have same := (join3_bytes three).trans c.ofNat_toNat
    refine (decodeUtf8_three rest (by omega) (by omega)
      (fitsThree_of_scalar (by omega) three whole) (isContinuation_tail _)).trans ?_
    rw [same]
    rfl
  · have first : (UInt8.ofNat (0xF0 + c.toNat / 262144)).toNat = 0xF0 + c.toNat / 262144 :=
      toNat_byte (by omega)
    have same := (join4_bytes bound).trans c.ofNat_toNat
    refine (decodeUtf8_four rest (by omega) (by omega) (fitsFour_of_large (by omega) bound)
      (isContinuation_tail _) (isContinuation_tail _)).trans ?_
    rw [same]
    rfl

/-! ### Whole texts -/

theorem decodeUtf8_flatMap {lenient : Bool} {position : Nat} {t : Text}
    (scalar : ∀ c ∈ t, c.isSurrogate = false) :
    decodeUtf8 lenient position (t.flatMap utf8Bytes) = .ok t := by
  induction t generalizing position with
  | nil => rfl
  | cons c rest ih =>
    obtain ⟨first, others⟩ := List.forall_mem_cons.mp scalar
    rw [List.flatMap_cons, decodeUtf8_utf8Bytes _ first, ih others]
    rfl

/-- A text can be encoded exactly if it has no surrogates. -/
theorem encodeStrict_eq_ok_iff {t : Text} {bytes : Bytes} :
    encodeStrict t = .ok bytes ↔
      (∀ c ∈ t, c.isSurrogate = false) ∧ bytes = t.flatMap utf8Bytes := by
  rw [encodeStrict]
  split
  next position found =>
    constructor
    · intro encoded
      cases encoded
    · rintro ⟨scalar, _⟩
      have none := List.findIdx?_eq_none_iff.mpr scalar
      rw [found] at none
      cases none
  next missing =>
    have scalar := List.findIdx?_eq_none_iff.mp missing
    constructor
    · intro encoded
      cases encoded
      exact ⟨scalar, rfl⟩
    · rintro ⟨_, rfl⟩
      rfl

/-- What is encoded decodes to itself. -/
theorem decodeStrict_of_encodeStrict {t : Text} {bytes : Bytes}
    (encoded : encodeStrict t = .ok bytes) : decodeStrict bytes = .ok t := by
  obtain ⟨scalar, rfl⟩ := encodeStrict_eq_ok_iff.mp encoded
  exact decodeUtf8_flatMap scalar

/-- No text fails exactly if none has surrogates. -/
theorem firstUnencodable_eq_none_iff {texts : List Text} :
    firstUnencodable texts = none ↔ ∀ t ∈ texts, ∀ c ∈ t, c.isSurrogate = false := by
  rw [firstUnencodable, List.findSome?_eq_none_iff]
  refine forall₂_congr fun t _ => ?_
  constructor
  · intro passes
    split at passes
    · cases passes
    next bytes encoded => exact (encodeStrict_eq_ok_iff.mp encoded).1
  · intro scalar
    rw [encodeStrict_eq_ok_iff.mpr ⟨scalar, rfl⟩]

end Encoding
end Conformance
