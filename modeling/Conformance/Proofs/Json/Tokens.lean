import Conformance.Json.Reader
import Mathlib.Tactic.SplitIfs

/-!
# Tokens of JSON text

The reader takes a text token by token. It passes over space, takes a string piece by piece up to its
quote, and reads a number where none of the words stands, as long as nothing behind the number could
belong to it.
-/
namespace Conformance.Json

/-! ### Space -/

/-- A text of space alone. -/
def Blank (t : Text) : Prop := ∀ c ∈ t, isSpace c = true

theorem skipSpace_append {blank : Text} (space : Blank blank) (t : Text) :
    skipSpace (blank ++ t) = skipSpace t :=
  List.dropWhile_append_of_pos space

theorem skipSpace_cons {c : CodePoint} {rest : Text} (solid : isSpace c = false) :
    skipSpace (c :: rest) = c :: rest := by
  rw [skipSpace, List.dropWhile_cons_of_neg (by simp [solid])]

/-! ### Strings -/

section Pieces

variable {opening : Nat} {t : Text}

theorem readPieces_escape {e meant : CodePoint} (unit : e ≠ 'u') (known : escape? e = some meant) :
    readPieces opening (CodePoint.ofChar '\\' :: e :: t) =
      prepend ⟨meant, false⟩ (readPieces opening t) := by
  rw [readPieces.eq_def]
  simp only [if_true, if_neg unit, known]
  rw [if_neg (by decide), if_neg (by decide)]

theorem readPieces_digits {a b c d meant : CodePoint} (digits : unit? a b c d = some meant)
    (more : t ≠ []) :
    readPieces opening
        (CodePoint.ofChar '\\' :: CodePoint.ofChar 'u' :: a :: b :: c :: d :: t) =
      prepend ⟨meant, true⟩ (readPieces opening t) := by
  have unfinished : t.isEmpty = false := List.isEmpty_eq_false_iff.mpr more
  rw [readPieces.eq_def]
  simp only [if_true, digits, unfinished]
  rw [if_neg (by decide), if_neg (by decide)]
  rfl

theorem readPieces_plain {c : CodePoint} (quote : c ≠ '"') (backslash : c ≠ '\\')
    (printable : ¬c.toNat < 0x20) :
    readPieces opening (c :: t) = prepend ⟨c, false⟩ (readPieces opening t) := by
  rw [readPieces.eq_def]
  simp only
  rw [if_neg quote, if_neg printable, if_neg backslash]

end Pieces

/-- Pieces of which no surrogate is escaped are not joined. -/
theorem join_eq_map {pieces : List Piece}
    (single : ∀ piece ∈ pieces, piece.escaped = true → piece.point.toNat < 0x20) :
    Piece.join pieces = pieces.map Piece.point := by
  induction pieces with
  | nil => rfl
  | cons high rest ih =>
    obtain ⟨first, others⟩ := List.forall_mem_cons.mp single
    cases rest with
    | nil => rfl
    | cons low rest =>
      have apart : ¬(high.escaped = true ∧ low.escaped = true ∧
          high.point.isHighSurrogate = true ∧ low.point.isLowSurrogate = true) := by
        -- What is escaped is a control character, which is too small for a surrogate.
        rintro ⟨escaped, _, surrogate, _⟩
        have control := first escaped
        simp only [CodePoint.isHighSurrogate, Bool.and_eq_true, decide_eq_true_eq] at surrogate
        omega
      rw [Piece.join, if_neg apart, ih others]
      rfl

/-- A text that strings of a dialect may hold. -/
def Holds (dialect : Dialect) (content : Text) : Prop :=
  dialect.loneSurrogates = true ∨ ∀ c ∈ content, c.isSurrogate = false

/-! ### Numbers -/

/-- A text that does not go on with a number. -/
def Delimited (rest : Text) : Prop :=
  ∀ c, rest.head? = some c → c.isDigit = false ∧ c ≠ '.' ∧ c ≠ 'e' ∧ c ≠ 'E'

/-- Space and the marks between parts end every token. -/
theorem delimited_cons {c : CodePoint} {rest : Text}
    (ends : isSpace c = true ∨ c = ',' ∨ c = ']' ∨ c = '\x7d') : Delimited (c :: rest) := by
  intro d first
  cases first
  simp only [isSpace, Bool.or_eq_true, decide_eq_true_eq] at ends
  rcases ends with (((rfl | rfl) | rfl) | rfl) | rfl | rfl | rfl
  all_goals decide

theorem delimited_blank {blank : Text} (space : Blank blank) : Delimited blank := by
  cases blank with
  | nil =>
    intro c first
    cases first
  | cons c rest => exact delimited_cons (.inl (space c List.mem_cons_self))

theorem delimited_blank_append {blank : Text} (space : Blank blank) {c : CodePoint} {rest : Text}
    (ends : c = ',' ∨ c = ']' ∨ c = '\x7d') : Delimited (blank ++ c :: rest) := by
  cases blank with
  | nil => exact delimited_cons (.inr ends)
  | cons d blank => exact delimited_cons (.inl (space d List.mem_cons_self))

theorem readExponent_delimited {rest : Text} (delimited : Delimited rest) :
    readExponent rest = (none, rest) := by
  cases rest with
  | nil => rfl
  | cons c rest =>
    obtain ⟨_, _, small, capital⟩ := delimited c rfl
    rw [readExponent, if_neg (not_or.mpr ⟨small, capital⟩)]

theorem ne_of_isDigit {c other : CodePoint} (digit : c.isDigit = true)
    (letter : other.isDigit = false) : c ≠ other := by
  rintro rfl
  rw [letter] at digit
  cases digit

/-- The words start with two code points that are no digits. -/
theorem word_eq_cons_cons {dialect : Dialect} {word : Text × Except Stop Datum}
    (member : word ∈ words dialect) :
    ∃ k l letters, word.1 = k :: l :: letters ∧ k.isDigit = false ∧ l.isDigit = false := by
  simp only [words, extended, List.mem_cons, List.not_mem_nil, or_false] at member
  rcases member with rfl | rfl | rfl | rfl | rfl | rfl
  all_goals exact ⟨_, _, _, rfl, rfl, rfl⟩

/-- No word stands where a number does. -/
theorem words_number {dialect : Dialect} {t more : Text} {c : CodePoint} (digit : c.isDigit = true)
    (starts : t = c :: more ∨ t = CodePoint.ofChar '-' :: c :: more) :
    ((words dialect).findSome? fun (word, meaning) =>
      (Text.after? word t).map fun after => (meaning, after)) = none := by
  refine List.findSome?_eq_none_iff.mpr fun word member => Option.map_eq_none_iff.mpr ?_
  obtain ⟨k, l, letters, spelled, first, second⟩ := word_eq_cons_cons member
  rw [spelled]
  rcases starts with rfl | rfl
  · exact if_neg (ne_of_isDigit digit first).symm
  · -- Behind a minus sign stands a digit, which is no second letter.
    rw [Text.after?]
    split_ifs
    · exact if_neg (ne_of_isDigit digit second).symm
    · rfl

/-- What starts as a number does is read as a numeral. -/
theorem readScalar_number {dialect : Dialect} {t more : Text} {c : CodePoint}
    (digit : c.isDigit = true) (starts : t = c :: more ∨ t = CodePoint.ofChar '-' :: c :: more) :
    readScalar dialect t =
      match readNumeral t with
      | some (numeral, rest) => (numeral.value dialect).map fun datum => (datum, rest)
      | none => .error (.malformed .expectedValue t.length) := by
  unfold readScalar
  exact words_number digit starts ▸ rfl

end Conformance.Json
