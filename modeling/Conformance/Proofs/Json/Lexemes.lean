import Conformance.Proofs.Json.Grammar
import Conformance.Proofs.Step
import Mathlib.Data.List.TakeWhile

/-!
# Lexemes of JSON

The readers of space, numbers, strings and words against the productions of the grammar. What such a
reader takes from a text is always a lexeme of the grammar. The other way round a lexeme is taken as
a whole if nothing behind it could belong to it: strings end with their quote, and numbers need a
text behind them that does not go on with a number.
-/
namespace Conformance.Json

open Grammar

/-! ### Space -/

/-- No space at all. -/
theorem Grammar.Space.refl (t : Text) : Space t t := ⟨[], List.forall_mem_nil _, rfl⟩

theorem space_skipSpace (t : Text) : Space t (skipSpace t) :=
  ⟨t.takeWhile isSpace, fun _ member => List.mem_takeWhile_imp member,
    (List.takeWhile_append_dropWhile).symm⟩

theorem Grammar.Space.skip {t rest : Text} (space : Space t rest) :
    skipSpace t = skipSpace rest := by
  obtain ⟨blank, each, rfl⟩ := space
  exact skipSpace_append each rest

/-- A code point that is no space is where skipping stops. -/
theorem Grammar.Space.skip_cons {t rest : Text} {c : CodePoint}
    (space : Space t (c :: rest)) (solid : isSpace c = false) : skipSpace t = c :: rest := by
  rw [space.skip, skipSpace_cons solid]

theorem Grammar.Space.length_le {t rest : Text} (space : Space t rest) :
    rest.length ≤ t.length := by
  obtain ⟨blank, _, rfl⟩ := space
  rw [List.length_append]
  omega

/-! ### Numbers -/

/-- No digit stands at the start of the text. -/
def Undigited (t : Text) : Prop := ∀ c, t.head? = some c → c.isDigit = false

theorem Delimited.undigited {t : Text} (delimited : Delimited t) : Undigited t :=
  fun c first => (delimited c first).1

theorem digits_takeWhile {t : Text} (some_digit : t.takeWhile CodePoint.isDigit ≠ []) :
    Digits t (t.takeWhile CodePoint.isDigit) (t.dropWhile CodePoint.isDigit) :=
  ⟨(List.takeWhile_append_dropWhile).symm, some_digit, fun _ member =>
    List.mem_takeWhile_imp member⟩

/-- A run of digits is taken as far as it goes. -/
theorem Grammar.Digits.takeWhile_eq {t digits rest : Text} (run : Digits t digits rest)
    (ends : Undigited rest) :
    t.takeWhile CodePoint.isDigit = digits ∧ t.dropWhile CodePoint.isDigit = rest := by
  obtain ⟨rfl, _, each⟩ := run
  have stop : rest.takeWhile CodePoint.isDigit = [] ∧ rest.dropWhile CodePoint.isDigit = rest := by
    cases rest with
    | nil => exact ⟨rfl, rfl⟩
    | cons c rest => simp [ends c rfl]
  rw [List.takeWhile_append_of_pos each, List.dropWhile_append_of_pos each, stop.1, stop.2]
  exact ⟨List.append_nil digits, rfl⟩

theorem Grammar.Digits.exists_cons {t digits rest : Text} (run : Digits t digits rest) :
    ∃ c more, digits = c :: more ∧ c.isDigit = true ∧ t = c :: (more ++ rest) := by
  obtain ⟨rfl, some_digit, each⟩ := run
  obtain ⟨c, more, rfl⟩ := List.exists_cons_of_ne_nil some_digit
  exact ⟨c, more, rfl, each c List.mem_cons_self, rfl⟩

theorem whole_of_readWhole {t whole rest : Text} (read : readWhole t = some (whole, rest)) :
    Whole t whole rest := by
  rw [readWhole.eq_def] at read
  split at read
  · cases read
  next c others =>
    split at read
    next zero =>
      subst zero
      cases read
      exact .zero
    next leading =>
      split at read
      next digit =>
        cases read
        have some_digit : (c :: others).takeWhile CodePoint.isDigit ≠ [] := by
          rw [List.takeWhile_cons_of_pos digit]
          exact List.cons_ne_nil _ _
        refine .digits (digits_takeWhile some_digit) ?_
        rw [List.takeWhile_cons_of_pos digit]
        exact fun same => leading (Option.some.inj same)
      · cases read

theorem Grammar.Whole.read {t whole rest : Text} (spelled : Whole t whole rest)
    (ends : Undigited rest) : readWhole t = some (whole, rest) := by
  cases spelled with
  | zero => rw [readWhole, if_pos rfl]
  | digits run leading =>
    obtain ⟨c, more, rfl, digit, rfl⟩ := run.exists_cons
    have nonzero : c ≠ '0' := fun same => leading (congrArg some same)
    obtain ⟨taken, left⟩ := run.takeWhile_eq ends
    rw [readWhole, if_neg nonzero, if_pos digit, taken, left]

/-- A whole part starts with a digit. -/
theorem Grammar.Whole.exists_cons {t whole rest : Text} (spelled : Whole t whole rest) :
    ∃ c more, t = c :: more ∧ c.isDigit = true := by
  cases spelled with
  | zero => exact ⟨_, _, rfl, rfl⟩
  | digits run _ =>
    obtain ⟨c, more, _, digit, rfl⟩ := run.exists_cons
    exact ⟨c, _, rfl, digit⟩

theorem fraction_readFraction (t : Text) : Fraction t (readFraction t).1 (readFraction t).2 := by
  rw [readFraction.eq_def]
  split
  · exact .absent
  next c rest =>
    split
    next both =>
      obtain ⟨rfl, some_digit⟩ := both
      exact .present (digits_takeWhile some_digit)
    · exact .absent

/-- What follows a whole part and a fraction: neither a digit nor a point. -/
def Unpointed (t : Text) : Prop := ∀ c, t.head? = some c → c.isDigit = false ∧ c ≠ '.'

theorem Grammar.Fraction.read {t fraction rest : Text} (spelled : Fraction t fraction rest)
    (ends : Unpointed rest) : readFraction t = (fraction, rest) := by
  cases spelled with
  | absent =>
    cases t with
    | nil => rfl
    | cons c rest => rw [readFraction, if_neg fun both => (ends c rfl).2 both.1]
  | @present body _ _ run =>
    obtain ⟨taken, left⟩ := run.takeWhile_eq fun c first => (ends c first).1
    rw [readFraction, taken, left, if_pos ⟨rfl, run.2.1⟩]

/-- No digit follows a whole part, whether or not there is a fraction. -/
theorem Grammar.Fraction.undigited {t fraction rest : Text} (spelled : Fraction t fraction rest)
    (ends : Unpointed rest) : Undigited t := by
  cases spelled with
  | absent => exact fun c first => (ends c first).1
  | present _ =>
    intro c first
    cases first
    rfl

theorem sign_splitSign (t : Text) :
    Sign t (Numeral.splitSign t).1 (Numeral.splitSign t).2 := by
  rw [Numeral.splitSign.eq_def]
  split
  · exact .absent
  next c rest =>
    split_ifs with minus plus
    · subst minus
      exact .minus
    · subst plus
      exact .plus
    · exact .absent

/-- In front of a digit a sign is split off. -/
theorem Grammar.Sign.split {t unsigned digits rest : Text} {down : Bool}
    (sign : Sign t down unsigned) (run : Digits unsigned digits rest) :
    Numeral.splitSign t = (down, unsigned) := by
  cases sign with
  | absent =>
    obtain ⟨c, more, _, digit, rfl⟩ := run.exists_cons
    rw [Numeral.splitSign, if_neg (ne_of_isDigit digit rfl), if_neg (ne_of_isDigit digit rfl)]
  | plus => rfl
  | minus => rfl

theorem exponent_readExponent (t : Text) : Exponent t (readExponent t).1 (readExponent t).2 := by
  rw [readExponent.eq_def]
  split
  · exact .absent
  next c rest =>
    split
    next mark =>
      have sign := sign_splitSign rest
      simp only
      split
      · exact .absent
      next some_digit => exact .present mark sign (digits_takeWhile some_digit)
    · exact .absent

theorem Grammar.Exponent.read {t rest : Text} {exponent : Option (Bool × Text)}
    (spelled : Exponent t exponent rest) (ends : Delimited rest) :
    readExponent t = (exponent, rest) := by
  cases spelled with
  | absent => exact readExponent_delimited ends
  | present mark sign run =>
    obtain ⟨taken, left⟩ := run.takeWhile_eq ends.undigited
    obtain ⟨c, more, rfl, _⟩ := run.exists_cons
    rw [readExponent, if_pos mark, sign.split run]
    simp only [taken, left]

/-- Neither a digit nor a point follows a fraction, whether or not there is an exponent. -/
theorem Grammar.Exponent.unpointed {t rest : Text} {exponent : Option (Bool × Text)}
    (spelled : Exponent t exponent rest) (ends : Delimited rest) : Unpointed t := by
  cases spelled with
  | absent => exact fun c first => ⟨(ends c first).1, (ends c first).2.1⟩
  | present mark _ _ =>
    intro c first
    cases first
    rcases mark with rfl | rfl
    · decide
    · decide

theorem Grammar.Whole.suffix {t whole rest : Text} (spelled : Whole t whole rest) :
    rest <:+ t := by
  cases spelled with
  | zero => exact List.suffix_cons _ _
  | digits run _ => exact ⟨_, run.1.symm⟩

theorem Grammar.Fraction.suffix {t fraction rest : Text} (spelled : Fraction t fraction rest) :
    rest <:+ t := by
  cases spelled with
  | absent => exact List.suffix_rfl
  | present run => exact List.IsSuffix.trans ⟨_, run.1.symm⟩ (List.suffix_cons _ _)

theorem Grammar.Sign.suffix {t unsigned : Text} {down : Bool} (sign : Sign t down unsigned) :
    unsigned <:+ t := by
  cases sign with
  | absent => exact List.suffix_rfl
  | plus => exact List.suffix_cons _ _
  | minus => exact List.suffix_cons _ _

theorem Grammar.Exponent.suffix {t rest : Text} {exponent : Option (Bool × Text)}
    (spelled : Exponent t exponent rest) : rest <:+ t := by
  cases spelled with
  | absent => exact List.suffix_rfl
  | present _ sign run =>
    exact (List.IsSuffix.trans ⟨_, run.1.symm⟩ sign.suffix).trans (List.suffix_cons _ _)

/-- A minus sign at the start and the rest. -/
def splitMinus : Text → Bool × Text
  | [] => (false, [])
  | c :: rest => if c = '-' then (true, rest) else (false, c :: rest)

theorem eq_of_splitMinus (t : Text) :
    t = if (splitMinus t).1 then CodePoint.ofChar '-' :: (splitMinus t).2 else (splitMinus t).2 := by
  cases t with
  | nil => rfl
  | cons c rest =>
    by_cases minus : c = '-'
    · simp [splitMinus, minus]
    · simp [splitMinus, minus]

/-- A sign is split off in front of a digit. -/
theorem splitMinus_of_isDigit {negative : Bool} {c : CodePoint} {more : Text}
    (digit : c.isDigit = true) :
    splitMinus (if negative then CodePoint.ofChar '-' :: c :: more else c :: more) =
      (negative, c :: more) := by
  cases negative with
  | true => rfl
  | false => exact if_neg (ne_of_isDigit digit rfl)

/-- A numeral is read part by part: sign, whole part, fraction and exponent. -/
theorem readNumeral_eq (t : Text) :
    readNumeral t = (readWhole (splitMinus t).2).map fun (whole, behind) =>
      let fraction := readFraction behind
      let exponent := readExponent fraction.2
      (⟨(splitMinus t).1, whole, fraction.1, exponent.1,
        t.take (t.length - exponent.2.length)⟩, exponent.2) := by
  cases t with
  | nil => rfl
  | cons c rest =>
    rw [readNumeral.eq_def, splitMinus]
    simp only
    split_ifs
    · cases readWhole rest with
      | none => rfl
      | some part => rfl
    · cases readWhole (c :: rest) with
      | none => rfl
      | some part => rfl

/-- A numeral that is read is a number of the grammar. -/
theorem number_of_readNumeral {t rest : Text} {numeral : Numeral}
    (read : readNumeral t = some (numeral, rest)) : Number t numeral rest := by
  rw [readNumeral_eq] at read
  obtain ⟨⟨whole, behind⟩, found, equal⟩ := Option.map_eq_some_iff.mp read
  cases equal
  have start := eq_of_splitMinus t
  have first := whole_of_readWhole found
  have second := fraction_readFraction behind
  have third := exponent_readExponent (readFraction behind).2
  have in_body := (third.suffix.trans second.suffix).trans first.suffix
  have in_text : (readExponent (readFraction behind).2).2 <:+ t := by
    rw [start]
    split_ifs
    · exact in_body.trans (List.suffix_cons _ _)
    · exact in_body
  -- What was taken is a prefix of the text, so its length determines it.
  obtain ⟨literal, all⟩ := in_text
  refine .intro start first second third ?_
  rw [← all]
  simp

/-- A number of the grammar is read as a whole if nothing behind it could belong to it. -/
theorem Grammar.Number.read {t rest : Text} {numeral : Numeral} (spelled : Number t numeral rest)
    (ends : Delimited rest) : readNumeral t = some (numeral, rest) := by
  obtain ⟨start, first, second, third, all⟩ := spelled
  -- Each part ends where the next begins, so what is asked of the rest goes from back to front.
  have unpointed := third.unpointed ends
  have whole := first.read (second.undigited unpointed)
  have spelling := congrArg (fun u => u.take (t.length - rest.length)) all
  simp only [all, List.length_append, Nat.add_sub_cancel, List.take_left] at spelling
  obtain ⟨c, more, rfl, digit⟩ := first.exists_cons
  rw [readNumeral_eq, start, splitMinus_of_isDigit digit, whole]
  simp only [Option.map_some, second.read unpointed, third.read ends]
  rw [← start, all]
  simp

/-- A number starts with a digit, perhaps with a minus sign in front. -/
theorem Grammar.Number.starts {t rest : Text} {numeral : Numeral}
    (spelled : Number t numeral rest) :
    ∃ c more, c.isDigit = true ∧ (t = c :: more ∨ t = CodePoint.ofChar '-' :: c :: more) := by
  obtain @⟨negative, _, _, _, _, _, _, _, _, _, start, first, _, _, _⟩ := spelled
  obtain ⟨c, more, rfl, digit⟩ := first.exists_cons
  cases negative with
  | true => exact ⟨c, more, digit, .inr start⟩
  | false => exact ⟨c, more, digit, .inl start⟩

/-! ### Strings -/

theorem escape?_eq_some_iff {letter meant : CodePoint} :
    escape? letter = some meant ↔ (letter, meant) ∈ shortEscapes := by
  simp only [escape?, shortEscapes, List.mem_cons, Prod.mk.injEq, List.not_mem_nil, or_false]
  constructor
  · intro known
    split_ifs at known with same b f n r t <;> cases known
    · rcases same with rfl | rfl | rfl <;> simp
    all_goals subst_vars; simp
  · rintro (⟨rfl, rfl⟩ | ⟨rfl, rfl⟩ | ⟨rfl, rfl⟩ | ⟨rfl, rfl⟩ | ⟨rfl, rfl⟩ | ⟨rfl, rfl⟩ |
      ⟨rfl, rfl⟩ | ⟨rfl, rfl⟩) <;> rfl

theorem exists_of_prepend {piece : Piece} {reading : Reading (List Piece)} {pieces : List Piece}
    {rest : Text} (read : prepend piece reading = .ok (pieces, rest)) :
    ∃ others, reading = .ok (others, rest) ∧ pieces = piece :: others := by
  obtain ⟨⟨others, _⟩, inner, equal⟩ := map_eq_ok_iff.mp read
  cases equal
  exact ⟨others, inner, rfl⟩

/-- The inside of a string that is read is one of the grammar. -/
theorem chars_of_readPieces {opening : Nat} {t rest : Text} {pieces : List Piece}
    (read : readPieces opening t = .ok (pieces, rest)) : Chars t pieces rest := by
  -- Four cases of the reader give pieces; in all others it refuses the text.
  fun_induction readPieces opening t generalizing pieces
  case case2 =>
    cases read
    exact .close
  case case6 known _ _ _ ih =>
    obtain ⟨others, inner, rfl⟩ := exists_of_prepend read
    exact .unit known (ih inner)
  case case9 known _ _ ih =>
    obtain ⟨others, inner, rfl⟩ := exists_of_prepend read
    exact .short (escape?_eq_some_iff.mp known) (ih inner)
  case case11 quote printable backslash ih =>
    obtain ⟨others, inner, rfl⟩ := exists_of_prepend read
    exact .plain (Nat.not_lt.mp printable) quote backslash (ih inner)
  all_goals cases read

theorem Grammar.Chars.ne_nil {t rest : Text} {pieces : List Piece} (chars : Chars t pieces rest) :
    t ≠ [] := by
  cases chars <;> exact List.cons_ne_nil _ _

theorem Grammar.Chars.suffix {t rest : Text} {pieces : List Piece} (chars : Chars t pieces rest) :
    rest <:+ t := by
  induction chars with
  | close => exact List.suffix_cons _ _
  | plain _ _ _ _ ih => exact ih.trans (List.suffix_cons _ _)
  | @short letter _ t _ _ _ _ ih => exact ih.trans (List.suffix_append [_, letter] t)
  | @unit a b c d _ t _ _ _ _ ih => exact ih.trans (List.suffix_append [_, _, a, b, c, d] t)

theorem ne_u_of_mem_shortEscapes {letter meant : CodePoint}
    (known : (letter, meant) ∈ shortEscapes) : letter ≠ 'u' := by
  rintro rfl
  exact absurd (escape?_eq_some_iff.mpr known) (by simp [show escape? 'u' = none from rfl])

/-- The inside of a string is read up to its closing quote, whatever follows. -/
theorem Grammar.Chars.read {t rest : Text} {pieces : List Piece} (chars : Chars t pieces rest)
    (opening : Nat) : readPieces opening t = .ok (pieces, rest) := by
  induction chars with
  | close =>
    rw [readPieces.eq_def]
    exact if_pos rfl
  | plain printable quote backslash _ ih =>
    rw [readPieces_plain quote backslash (Nat.not_lt.mpr printable), ih]
    rfl
  | short known _ ih =>
    rw [readPieces_escape (ne_u_of_mem_shortEscapes known) (escape?_eq_some_iff.mpr known), ih]
    rfl
  | unit digits more ih =>
    rw [readPieces_digits digits more.ne_nil, ih]
    rfl

theorem holds_iff {dialect : Dialect} {content : Text} :
    Holds dialect content ↔
      (!dialect.loneSurrogates && content.any CodePoint.isSurrogate) = false := by
  rw [Holds, Bool.and_eq_false_iff, Bool.not_eq_false', List.any_eq_false]
  simp only [Bool.not_eq_true]

/-- A string that a dialect holds is read up to its closing quote. -/
theorem readString_eq_ok_iff {dialect : Dialect} {opening : Nat} {t content rest : Text} :
    readString dialect opening t = .ok (content, rest) ↔
      Quoted t content rest ∧ Holds dialect content := by
  rw [readString.eq_def]
  constructor
  · intro read
    split at read
    · cases read
    next pieces after inner =>
      simp only at read
      split_ifs at read with refused
      cases read
      exact ⟨⟨pieces, chars_of_readPieces inner, rfl⟩, holds_iff.mpr (Bool.not_eq_true _ ▸ refused)⟩
  · rintro ⟨⟨pieces, chars, rfl⟩, held⟩
    rw [chars.read opening]
    simp only [holds_iff.mp held]
    rfl

/-- A text that needs no escapes is quoted as it is. -/
theorem Grammar.Quoted.of_plain {content rest : Text}
    (plain : ∀ c ∈ content, 0x20 ≤ c.toNat ∧ c ≠ '"' ∧ c ≠ '\\') :
    Quoted (content ++ CodePoint.ofChar '"' :: rest) content rest := by
  have chars : Chars (content ++ CodePoint.ofChar '"' :: rest)
      (content.map fun c => ⟨c, false⟩) rest := by
    induction content with
    | nil => exact .close
    | cons c content ih =>
      obtain ⟨⟨printable, quote, backslash⟩, later⟩ := List.forall_mem_cons.mp plain
      exact .plain printable quote backslash (ih later)
  refine ⟨_, chars, ?_⟩
  -- Nothing is escaped, so no two pieces are halves of one code point.
  have single : ∀ piece ∈ content.map fun c => Piece.mk c false, piece.escaped = true →
      piece.point.toNat < 0x20 := fun piece member escaped => by
    obtain ⟨c, _, rfl⟩ := List.mem_map.mp member
    cases escaped
  rw [join_eq_map single, List.map_map]
  exact (List.map_id content).symm

theorem Grammar.Quoted.suffix {t content rest : Text} (quoted : Quoted t content rest) :
    rest <:+ t := by
  obtain ⟨pieces, chars, _⟩ := quoted
  exact chars.suffix

/-! ### Words -/

theorem after?_eq_some_iff {word t rest : Text} :
    Text.after? word t = some rest ↔ t = word ++ rest := by
  induction word generalizing t with
  | nil => simp [Text.after?]
  | cons c word ih =>
    cases t with
    | nil => simp [Text.after?]
    | cons d t =>
      rw [Text.after?, List.cons_append, List.cons.injEq]
      by_cases same : c = d
      · rw [if_pos same, ih, and_iff_right same.symm]
      · rw [if_neg same]
        refine ⟨fun found => ?_, fun both => absurd both.1.symm same⟩
        cases found

end Conformance.Json
