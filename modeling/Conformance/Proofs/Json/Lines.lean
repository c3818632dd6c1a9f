import Conformance.Proofs.Json.Derivation
import Conformance.Session.Basic

/-!
# Lines of JSON

Reading a file replaces the ends of its lines. A text derives from the grammar afterwards as before,
by the same phrase: outside of strings an end of a line is space, however it is written, and inside
of a string there is none.
-/
namespace Conformance

namespace Session

/-! ### Texts that are read as they are -/

theorem unifyLines_cons {c : CodePoint} (other : c ≠ '\r') (t : Text) :
    unifyLines (c :: t) = c :: unifyLines t := by
  cases t with
  | nil => exact if_neg other
  | cons d rest => exact if_neg other

theorem unifyLines_append {letters : Text} (clean : ∀ c ∈ letters, c ≠ '\r') (t : Text) :
    unifyLines (letters ++ t) = letters ++ unifyLines t := by
  induction letters with
  | nil => rfl
  | cons c letters ih =>
    obtain ⟨other, later⟩ := List.forall_mem_cons.mp clean
    rw [List.cons_append, unifyLines_cons other, ih later, List.cons_append]

/-- Lines that end in line feeds alone are read as they are. -/
theorem unifyLines_eq_self {t : Text} (clean : ∀ c ∈ t, c ≠ '\r') : unifyLines t = t := by
  have read := unifyLines_append clean []
  rwa [unifyLines, List.append_nil] at read

/-- A carriage return alone and one with a line feed behind it are a line feed. -/
theorem unifyLines_return (t : Text) :
    unifyLines (CodePoint.ofChar '\r' :: t) = unifyLines (CodePoint.ofChar '\n' :: t) ∨
      ∃ rest, t = CodePoint.ofChar '\n' :: rest ∧
        unifyLines (CodePoint.ofChar '\r' :: t) = unifyLines t := by
  have feed (t : Text) := unifyLines_cons (c := CodePoint.ofChar '\n') (by decide) t
  rw [feed]
  cases t with
  | nil => exact .inl rfl
  | cons d rest =>
    rw [unifyLines, if_pos rfl]
    by_cases next : d = CodePoint.ofChar '\n'
    · subst next
      exact .inr ⟨rest, rfl, by rw [if_pos rfl, feed]⟩
    · rw [if_neg next]
      exact .inl rfl

end Session

namespace Json

open Grammar Session

/-- Nothing that stands before the rest is a carriage return. -/
def Unbroken (t rest : Text) : Prop :=
  ∃ letters : Text, (∀ c ∈ letters, c ≠ '\r') ∧ t = letters ++ rest

namespace Unbroken

variable {t middle rest : Text}

theorem refl (t : Text) : Unbroken t t := ⟨[], List.forall_mem_nil _, rfl⟩

theorem trans (first : Unbroken t middle) (second : Unbroken middle rest) : Unbroken t rest := by
  obtain ⟨letters, clean, rfl⟩ := first
  obtain ⟨others, more, rfl⟩ := second
  exact ⟨letters ++ others, List.forall_mem_append.mpr ⟨clean, more⟩, (List.append_assoc ..).symm⟩

theorem cons {c : CodePoint} (other : c ≠ '\r') (more : Unbroken t rest) :
    Unbroken (c :: t) rest := by
  obtain ⟨letters, clean, rfl⟩ := more
  exact ⟨c :: letters, List.forall_mem_cons.mpr ⟨other, clean⟩, rfl⟩

/-- What stands before the rest stands before it when the ends of lines are replaced. -/
theorem unifyLines_eq {letters : Text} (unbroken : Unbroken t rest) (shape : t = letters ++ rest) :
    unifyLines t = letters ++ unifyLines rest := by
  obtain ⟨same, clean, rfl⟩ := unbroken
  obtain rfl := List.append_cancel_right shape
  exact unifyLines_append clean rest

end Unbroken

/-! ### Parts of a text -/

namespace Grammar

variable {t rest : Text}

theorem Space.unifyLines (space : Space t rest) : Space (unifyLines t) (unifyLines rest) := by
  obtain ⟨blank, each, rfl⟩ := space
  induction blank with
  | nil => exact ⟨[], List.forall_mem_nil _, rfl⟩
  | cons c blank ih =>
    obtain ⟨first, later⟩ := List.forall_mem_cons.mp each
    have more := ih later
    have longer {d : CodePoint} (mark : isSpace d = true) (other : d ≠ '\r') :
        Space (Session.unifyLines (d :: (blank ++ rest))) (Session.unifyLines rest) := by
      obtain ⟨gap, spaces, shape⟩ := more
      rw [unifyLines_cons other, shape]
      exact ⟨d :: gap, List.forall_mem_cons.mpr ⟨mark, spaces⟩, rfl⟩
    by_cases here : c = CodePoint.ofChar '\r'
    · subst here
      rcases unifyLines_return (blank ++ rest) with same | ⟨_, _, same⟩
      · rw [List.cons_append, same]
        exact longer rfl (by decide)
      · rw [List.cons_append, same]
        exact more
    · exact longer first here

theorem Digits.unbroken {digits : Text} (run : Digits t digits rest) : Unbroken t rest :=
  ⟨digits, fun c member => ne_of_isDigit (run.2.2 c member) rfl, run.1⟩

theorem Digits.unifyLines {digits : Text} (run : Digits t digits rest) :
    Digits (unifyLines t) digits (unifyLines rest) :=
  ⟨run.unbroken.unifyLines_eq run.1, run.2⟩

theorem Whole.unbroken {whole : Text} (first : Whole t whole rest) : Unbroken t rest := by
  cases first with
  | zero => exact .cons (by decide) (.refl _)
  | digits run _ => exact run.unbroken

theorem Whole.unifyLines {whole : Text} (first : Whole t whole rest) :
    Whole (unifyLines t) whole (unifyLines rest) := by
  cases first with
  | zero =>
    rw [unifyLines_cons (by decide)]
    exact .zero
  | digits run leading => exact .digits run.unifyLines leading

theorem Fraction.unbroken {fraction : Text} (second : Fraction t fraction rest) :
    Unbroken t rest := by
  cases second with
  | absent => exact .refl _
  | present run => exact .cons (by decide) run.unbroken

theorem Fraction.unifyLines {fraction : Text} (second : Fraction t fraction rest) :
    Fraction (unifyLines t) fraction (unifyLines rest) := by
  cases second with
  | absent => exact .absent
  | present run =>
    rw [unifyLines_cons (by decide)]
    exact .present run.unifyLines

theorem Sign.unbroken {down : Bool} (sign : Sign t down rest) : Unbroken t rest := by
  cases sign with
  | absent => exact .refl _
  | plus => exact .cons (by decide) (.refl _)
  | minus => exact .cons (by decide) (.refl _)

theorem Sign.unifyLines {down : Bool} (sign : Sign t down rest) :
    Sign (unifyLines t) down (unifyLines rest) := by
  cases sign with
  | absent => exact .absent
  | plus =>
    rw [unifyLines_cons (by decide)]
    exact .plus
  | minus =>
    rw [unifyLines_cons (by decide)]
    exact .minus

theorem ne_return_of_mark {letter : CodePoint} (mark : letter = 'e' ∨ letter = 'E') :
    letter ≠ '\r' := by
  rcases mark with rfl | rfl
  · decide
  · decide

theorem Exponent.unbroken {exponent : Option (Bool × Text)} (third : Exponent t exponent rest) :
    Unbroken t rest := by
  cases third with
  | absent => exact .refl _
  | present mark sign run => exact .cons (ne_return_of_mark mark) (sign.unbroken.trans run.unbroken)

theorem Exponent.unifyLines {exponent : Option (Bool × Text)} (third : Exponent t exponent rest) :
    Exponent (unifyLines t) exponent (unifyLines rest) := by
  cases third with
  | absent => exact .absent
  | present mark sign run =>
    rw [unifyLines_cons (ne_return_of_mark mark)]
    exact .present mark sign.unifyLines run.unifyLines

theorem Number.unifyLines {n : Numeral} (spelled : Number t n rest) :
    Number (unifyLines t) n (unifyLines rest) := by
  cases spelled with
  | @intro negative _ unsigned _ _ _ _ _ _ _ start first second third all =>
    have body := first.unbroken.trans (second.unbroken.trans third.unbroken)
    cases negative with
    | false =>
      obtain rfl := start
      exact .intro rfl first.unifyLines second.unifyLines third.unifyLines (body.unifyLines_eq all)
    | true =>
      obtain rfl := start
      have shape := unifyLines_cons (c := CodePoint.ofChar '-') (by decide) unsigned
      exact .intro shape first.unifyLines second.unifyLines third.unifyLines
        ((body.cons (by decide)).unifyLines_eq all)

/-- The letters of a short escape are no ends of lines. -/
theorem ne_return_of_mem_shortEscapes {letter meant : CodePoint}
    (known : (letter, meant) ∈ shortEscapes) : letter ≠ '\r' := by
  have each : ∀ escape ∈ shortEscapes, escape.1 ≠ CodePoint.ofChar '\r' := by decide
  exact each _ known

theorem ne_return_of_unit? {a b c d meant : CodePoint} (digits : unit? a b c d = some meant) :
    a ≠ '\r' ∧ b ≠ '\r' ∧ c ≠ '\r' ∧ d ≠ '\r' := by
  have none : CodePoint.hexValue? '\r' = none := by rfl
  refine ⟨?_, ?_, ?_, ?_⟩ <;> rintro rfl <;> simp [unit?, none] at digits

theorem Chars.unifyLines {pieces : List Piece} (chars : Chars t pieces rest) :
    Chars (unifyLines t) pieces (unifyLines rest) := by
  induction chars with
  | close =>
    rw [unifyLines_cons (by decide)]
    exact .close
  | @plain c t rest pieces printable quote backslash _ ih =>
    have other : c ≠ '\r' := by
      rintro rfl
      exact absurd printable (by decide)
    rw [unifyLines_cons other]
    exact .plain printable quote backslash ih
  | short known _ ih =>
    rw [unifyLines_cons (by decide), unifyLines_cons (ne_return_of_mem_shortEscapes known)]
    exact .short known ih
  | unit digits _ ih =>
    obtain ⟨first, second, third, fourth⟩ := ne_return_of_unit? digits
    rw [unifyLines_cons (by decide), unifyLines_cons (by decide), unifyLines_cons first,
      unifyLines_cons second, unifyLines_cons third, unifyLines_cons fourth]
    exact .unit digits ih

theorem Quoted.unifyLines {content : Text} (quoted : Quoted t content rest) :
    Quoted (unifyLines t) content (unifyLines rest) := by
  obtain ⟨pieces, chars, rfl⟩ := quoted
  exact ⟨pieces, chars.unifyLines, rfl⟩

/-- The ends of lines play no part in what derives. -/
theorem Derives.unifyLines {unbounded : Bool} {part : Part}
    (derived : Derives unbounded t part rest) :
    Derives unbounded (unifyLines t) part (unifyLines rest) := by
  -- Marks are read as they are, and what is around them is space as before.
  have mark {c : CodePoint} {t behind : Text} (other : c ≠ '\r') (space : Space t (c :: behind)) :
      Space (Session.unifyLines t) (c :: Session.unifyLines behind) := by
    rw [← unifyLines_cons other]
    exact space.unifyLines
  have word {letters : Text} (clean : ∀ c ∈ letters, c ≠ CodePoint.ofChar '\r') (rest : Text) :=
    unifyLines_append clean rest
  induction derived with
  | null =>
    rw [word (by decide)]
    exact .null
  | yes =>
    rw [word (by decide)]
    exact .yes
  | no =>
    rw [word (by decide)]
    exact .no
  | constant known listed =>
    have clean : ∀ entry ∈ constants, ∀ c ∈ entry.1, c ≠ CodePoint.ofChar '\r' := by
      simp only [constants, List.forall_mem_cons]
      decide
    rw [word (clean _ listed)]
    exact .constant known listed
  | number spelled => exact .number spelled.unifyLines
  | string quoted =>
    rw [unifyLines_cons (by decide)]
    exact .string quoted.unifyLines
  | emptyArray space =>
    rw [unifyLines_cons (by decide)]
    exact .emptyArray (mark (by decide) space)
  | array space _ ih =>
    rw [unifyLines_cons (by decide)]
    exact .array space.unifyLines ih
  | emptyObject space =>
    rw [unifyLines_cons (by decide)]
    exact .emptyObject (mark (by decide) space)
  | object space _ ih =>
    rw [unifyLines_cons (by decide)]
    exact .object space.unifyLines ih
  | lastElement _ close ih => exact .lastElement ih (mark (by decide) close)
  | nextElement _ comma space _ first later =>
    exact .nextElement first (mark (by decide) comma) space.unifyLines later
  | member quoted colon space _ ih =>
    rw [unifyLines_cons (by decide)]
    exact .member quoted.unifyLines (mark (by decide) colon) space.unifyLines ih
  | lastMember _ close ih => exact .lastMember ih (mark (by decide) close)
  | nextMember _ comma space _ first later =>
    exact .nextMember first (mark (by decide) comma) space.unifyLines later

/-- A text writes the same when the ends of its lines are replaced. -/
theorem Writes.unifyLines {unbounded : Bool} {phrase : Phrase}
    (writes : Writes unbounded t phrase) :
    Writes unbounded (unifyLines t) phrase := by
  obtain ⟨inside, behind, lead, derived, tail⟩ := writes
  exact ⟨_, _, lead.unifyLines, derived.unifyLines, tail.unifyLines⟩

end Grammar
end Json
end Conformance
