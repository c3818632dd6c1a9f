import Conformance.Proofs.Yaml.Flaw
import Conformance.Yaml.Token

/-!
# Scanning

The scalars, the other tokens and the whole scan of a text, with a triple for each step: the cursor
stays in the text, and a text breaks off for a flaw of its own.
-/
set_option mvcgen.warning false

open Std.Do

namespace Conformance.Yaml

open Cursor

variable {t : Text}

/-! ### Scalars -/

namespace Scalar

open Reader

@[spec]
theorem takeBlankLines_spec (fuel : Nat) (breaks : Text) :
    ⦃Before t⦄ takeBlankLines fuel breaks ⦃After (Option Text) t⦄ := by
  induction fuel generalizing breaks with
  | zero => mvcgen [takeBlankLines]
  | succ fuel ih => mvcgen [takeBlankLines, ih]

@[spec]
theorem takePlainGap_spec : ⦃Before t⦄ takePlainGap ⦃After PlainGap t⦄ := by
  mvcgen [takePlainGap]

@[spec]
theorem takePlainRuns_spec (inFlow : Bool) (indent : Int) (fuel : Nat) (gap : PlainGap)
    (taken : Text) :
    ⦃Before t⦄ takePlainRuns inFlow indent fuel gap taken ⦃After (Text × Bool) t⦄ := by
  induction fuel generalizing gap taken with
  | zero => mvcgen [takePlainRuns]
  | succ fuel ih => mvcgen [takePlainRuns, ih]

@[spec]
theorem takePlain_spec (inFlow : Bool) (indent : Int) :
    ⦃Before t⦄ takePlain inFlow indent ⦃After (Text × Bool) t⦄ := by
  mvcgen [takePlain]

@[spec]
theorem takeInnerBreaks_spec (fuel : Nat) (breaks : Text) :
    ⦃Before t⦄ takeInnerBreaks fuel breaks ⦃After Text t⦄ := by
  induction fuel generalizing breaks with
  | zero => mvcgen [takeInnerBreaks]
  | succ fuel ih => mvcgen [takeInnerBreaks, ih]

@[spec]
theorem innerBreaks_spec : ⦃Before t⦄ innerBreaks ⦃After Text t⦄ := by
  mvcgen [innerBreaks]

/-- Code points of a text stand right before the cursor. -/
def Behind (before t : Text) (c : Cursor) : Prop := before ++ c.rest <:+ t

theorem Behind.within {before : Text} {c : Cursor} (behind : Behind before t c) : Within t c :=
  (List.suffix_append before c.rest).trans behind

/-- A step over a code point leaves it behind. -/
theorem Behind.forward {before : Text} {x : CodePoint} {c : Cursor} (behind : Behind before t c)
    (next : c.peek 0 = some x) : Behind (before ++ [x]) t (c.forward 1) := by
  obtain ⟨rest, index, line, column⟩ := c
  cases rest with
  | nil => cases next
  | cons y rest =>
    obtain rfl : y = x := Option.some.inj next
    have left : (Cursor.forward 1 ⟨y :: rest, index, line, column⟩).rest = rest := by
      simp only [Cursor.forward, Cursor.step]
      split_ifs <;> rfl
    rw [Behind, left, List.append_assoc]
    exact behind

/-- What comes next stands in the text behind what stands before the cursor. -/
theorem Behind.isInfix {before next : Text} {c : Cursor} (behind : Behind before t c)
    (ahead : next <+: c.rest) : before ++ next <:+: t :=
  ((List.prefix_append_right_inj before).mpr ahead).isInfix.trans (List.IsSuffix.isInfix behind)

/-- The digits of an escape stand behind its letter in the text. -/
theorem flaw_of_digits {letter : CodePoint} {count : Nat} {c : Cursor} {digits : Text}
    (known : lookUp letter numberedEscapes = some count)
    (behind : Behind [CodePoint.ofChar '\\', letter] t c)
    (taken : digits = (c.rest.take count).takeWhile fun x => x.hexValue?.isSome)
    (enough : ¬digits.length < count) (past : ¬Numeral.valueIn 16 digits < 0x110000) :
    Flaw t (.noCodePoint (Numeral.valueIn 16 digits)) := by
  have front : digits <+: c.rest.take count := taken ▸ List.takeWhile_prefix _
  have most : digits.length ≤ count := front.length_le.trans (List.length_take_le _ _)
  obtain rfl : digits.length = count := Nat.le_antisymm most (Nat.not_lt.mp enough)
  have each : ∀ x ∈ digits, x.hexValue?.isSome = true := by
    intro x member
    rw [taken] at member
    exact List.mem_takeWhile_imp (p := fun x : CodePoint => x.hexValue?.isSome) member
  exact .escape (behind.isInfix (front.trans (List.take_prefix _ _))) known each
    (Nat.not_lt.mp past)

@[spec]
theorem takeNumberedEscape_spec {letter : CodePoint} {count : Nat}
    (known : lookUp letter numberedEscapes = some count) :
    ⦃fun c => ⌜Behind [CodePoint.ofChar '\\', letter] t c⌝⦄ takeNumberedEscape count
      ⦃After Text t⦄ := by
  mvcgen [takeNumberedEscape]
  · exact Behind.within ‹_›
  · exact flaw_of_digits known ‹_› rfl ‹_› ‹_›

@[spec]
theorem takeEscape_spec :
    ⦃fun c => ⌜Behind [CodePoint.ofChar '\\'] t c⌝⦄ takeEscape ⦃After Text t⦄ := by
  -- The specifications of a look and of a step forget what stands before the cursor.
  mvcgen [takeEscape, -peek_spec, -forward_spec, Reader.peek, Reader.forward]
  next behind x next _ _ _ _ _ => exact (behind.forward next).within
  next behind x next _ _ _ _ _ _ => exact behind.forward next
  next behind _ _ _ _ _ _ _ _ _ => exact behind.within

/-- An escape begins with a backslash, which is left behind. -/
@[spec]
theorem takeContent_spec (double : Bool) (fuel : Nat) (taken : Text) :
    ⦃Before t⦄ takeContent double fuel taken ⦃After Text t⦄ := by
  induction fuel generalizing taken with
  | zero => mvcgen [takeContent]
  | succ fuel ih =>
    mvcgen [takeContent, ih, -forward_spec, Reader.forward]
    next within _ _ _ _ => exact within.forward 2
    next within _ _ _ _ _ => exact within.forward 1
    next within x next _ _ escape _ =>
      -- Before the step nothing need be behind; after it the backslash is.
      obtain rfl : x = CodePoint.ofChar '\\' := escape.2
      have start : Behind [] t _ := within
      exact start.forward next

@[spec]
theorem takeQuotedGap_spec : ⦃Before t⦄ takeQuotedGap ⦃After Text t⦄ := by
  mvcgen [takeQuotedGap]

@[spec]
theorem takeToQuote_spec (quote : CodePoint) (double : Bool) (fuel : Nat) (taken : Text) :
    ⦃Before t⦄ takeToQuote quote double fuel taken ⦃After Text t⦄ := by
  induction fuel generalizing taken with
  | zero => mvcgen [takeToQuote]
  | succ fuel ih => mvcgen [takeToQuote, ih]

@[spec]
theorem takeQuoted_spec (double : Bool) : ⦃Before t⦄ takeQuoted double ⦃After Text t⦄ := by
  mvcgen [takeQuoted]

@[spec]
theorem takeChomping_spec : ⦃Before t⦄ takeChomping ⦃After (Option Chomping) t⦄ := by
  mvcgen [takeChomping]

@[spec]
theorem takeIndentation_spec : ⦃Before t⦄ takeIndentation ⦃After (Option Nat) t⦄ := by
  mvcgen [takeIndentation]

@[spec]
theorem takeBlockHeader_spec : ⦃Before t⦄ takeBlockHeader ⦃After BlockHeader t⦄ := by
  mvcgen [takeBlockHeader]

@[spec]
theorem takeLeadingLines_spec (fuel : Nat) (breaks : Text) (deepest : Nat) :
    ⦃Before t⦄ takeLeadingLines fuel breaks deepest ⦃After (Text × Nat) t⦄ := by
  induction fuel generalizing breaks deepest with
  | zero => mvcgen [takeLeadingLines]
  | succ fuel ih => mvcgen [takeLeadingLines, ih]

@[spec]
theorem skipIndentation_spec (indent : Nat) :
    ⦃Before t⦄ skipIndentation indent ⦃After Unit t⦄ := by
  mvcgen [skipIndentation]

@[spec]
theorem takeEmptyLines_spec (indent fuel : Nat) (breaks : Text) :
    ⦃Before t⦄ takeEmptyLines indent fuel breaks ⦃After Text t⦄ := by
  induction fuel generalizing breaks with
  | zero => mvcgen [takeEmptyLines]
  | succ fuel ih => mvcgen [takeEmptyLines, ih]

@[spec]
theorem takeBlockLines_spec (folded : Bool) (indent fuel : Nat) (breaks taken : Text) :
    ⦃Before t⦄ takeBlockLines folded indent fuel breaks taken ⦃After (Text × Text × Text) t⦄ := by
  induction fuel generalizing breaks taken with
  | zero => mvcgen [takeBlockLines]
  | succ fuel ih => mvcgen [takeBlockLines, ih]

@[spec]
theorem takeBlock_spec (folded : Bool) (outer : Int) :
    ⦃Before t⦄ takeBlock folded outer ⦃After Text t⦄ := by
  mvcgen [takeBlock]

end Scalar

/-! ### Tokens -/

namespace Tokenizer

/-- The cursor stands in a text before a step of reading tokens. -/
abbrev Before (t : Text) : Assertion (.arg Layout (.except Fault .pure)) :=
  fun s => ⌜Within t s.cursor⌝

/-- It stands there after the step, or the text is refused. -/
abbrev After (α : Type) (t : Text) : PostCond α (.arg Layout (.except Fault .pure)) :=
  post⟨fun _ s => ⌜Within t s.cursor⌝, fun fault => ⌜Flaw t fault⌝⟩

@[spec]
theorem malformed_spec {α : Type} {P : α → Assertion (.arg Layout (.except Fault .pure))} :
    ⦃⌜True⌝⦄ (malformed : Tokenizer α) ⦃post⟨P, fun fault => ⌜Flaw t fault⌝⟩⦄ := by
  mvcgen [Tokenizer.malformed]
  exact Flaw.malformed

/-- A step of reading text is one of reading tokens. -/
@[spec]
theorem read_spec {α : Type} {reader : Reader α}
    (triple : ⦃Reader.Before t⦄ reader ⦃Reader.After α t⦄) :
    ⦃Before t⦄ read reader ⦃After α t⦄ := by
  mvcgen [read]
  next s within fault failed =>
    have cases := run_cases triple within
    rwa [show reader.run s.cursor = .error fault from failed] at cases
  next s within result cursor read =>
    have cases := run_cases triple within
    rwa [show reader.run s.cursor = .ok (result, cursor) from read] at cases

@[spec]
theorem emit_spec (token : Token) : ⦃Before t⦄ emit token ⦃After Unit t⦄ := by
  mvcgen [emit]

@[spec]
theorem inFlow_spec : ⦃Before t⦄ inFlow ⦃After Bool t⦄ := by
  mvcgen [inFlow]

@[spec]
theorem allowKey_spec (allowed : Bool) : ⦃Before t⦄ allowKey allowed ⦃After Unit t⦄ := by
  mvcgen [allowKey]

@[spec]
theorem dropStale_spec : ⦃Before t⦄ dropStale ⦃After Unit t⦄ := by
  mvcgen [dropStale]

@[spec]
theorem dropCandidate_spec : ⦃Before t⦄ dropCandidate ⦃After Unit t⦄ := by
  mvcgen [dropCandidate]

@[spec]
theorem noteCandidate_spec : ⦃Before t⦄ noteCandidate ⦃After Unit t⦄ := by
  mvcgen [noteCandidate]

@[spec]
theorem closeBlocks_spec (column : Int) (fuel : Nat) :
    ⦃Before t⦄ closeBlocks column fuel ⦃After Unit t⦄ := by
  induction fuel with
  | zero => mvcgen [closeBlocks]
  | succ fuel ih => mvcgen [closeBlocks, ih]

@[spec]
theorem closeTo_spec (column : Int) : ⦃Before t⦄ closeTo column ⦃After Unit t⦄ := by
  mvcgen [closeTo]

@[spec]
theorem indentTo_spec (column : Nat) : ⦃Before t⦄ indentTo column ⦃After Bool t⦄ := by
  mvcgen [indentTo]

@[spec]
theorem mark_spec (length : Nat) (token : Token) :
    ⦃Before t⦄ mark length token ⦃After Unit t⦄ := by
  mvcgen [mark]

@[spec]
theorem atMargin_spec {token : Tokenizer Unit} (triple : ⦃Before t⦄ token ⦃After Unit t⦄) :
    ⦃Before t⦄ atMargin token ⦃After Unit t⦄ := by
  mvcgen [atMargin, triple]

@[spec]
theorem flowStart_spec (token : Token) : ⦃Before t⦄ flowStart token ⦃After Unit t⦄ := by
  mvcgen [flowStart]

@[spec]
theorem flowEnd_spec (token : Token) : ⦃Before t⦄ flowEnd token ⦃After Unit t⦄ := by
  mvcgen [flowEnd]

@[spec]
theorem flowEntry_spec : ⦃Before t⦄ flowEntry ⦃After Unit t⦄ := by
  mvcgen [flowEntry]

@[spec]
theorem openBlock_spec (start : Token) : ⦃Before t⦄ openBlock start ⦃After Unit t⦄ := by
  mvcgen [openBlock]

@[spec]
theorem blockEntry_spec : ⦃Before t⦄ blockEntry ⦃After Unit t⦄ := by
  mvcgen [blockEntry]

@[spec]
theorem keyMark_spec : ⦃Before t⦄ keyMark ⦃After Unit t⦄ := by
  mvcgen [keyMark]

@[spec]
theorem valueMark_spec : ⦃Before t⦄ valueMark ⦃After Unit t⦄ := by
  mvcgen [valueMark]

@[spec]
theorem keyLike_spec {token : Reader Token}
    (triple : ⦃Reader.Before t⦄ token ⦃Reader.After Token t⦄) :
    ⦃Before t⦄ keyLike token ⦃After Unit t⦄ := by
  mvcgen [keyLike, triple]

@[spec]
theorem takeName_spec : ⦃Reader.Before t⦄ takeName ⦃Reader.After Text t⦄ := by
  mvcgen [takeName]

@[spec]
theorem blockScalar_spec (folded : Bool) : ⦃Before t⦄ blockScalar folded ⦃After Unit t⦄ := by
  mvcgen [blockScalar]

@[spec]
theorem plainScalar_spec : ⦃Before t⦄ plainScalar ⦃After Unit t⦄ := by
  mvcgen [plainScalar]

@[spec]
theorem skipToToken_spec (fuel : Nat) : ⦃Before t⦄ skipToToken fuel ⦃After Unit t⦄ := by
  induction fuel with
  | zero => mvcgen [skipToToken]
  | succ fuel ih => mvcgen [skipToToken, ih]

@[spec]
theorem token_spec (x : CodePoint) : ⦃Before t⦄ token x ⦃After Unit t⦄ := by
  mvcgen [token]

theorem advance_spec : ⦃Before t⦄ advance ⦃After Bool t⦄ := by
  mvcgen [advance]

/-- Tokens break off for a flaw of the text. -/
theorem flaw_of_run {fuel : Nat} {s : Layout} {fault : Fault} (within : Within t s.cursor)
    (broken : (run fuel s).2 = some fault) : Flaw t fault := by
  induction fuel generalizing s with
  | zero => cases broken
  | succ fuel ih =>
    have cases := run_cases advance_spec within
    rw [run] at broken
    split at broken
    next own failed =>
      rw [failed] at cases
      cases broken
      exact cases
    next after advanced =>
      rw [advanced] at cases
      exact ih cases broken
    next => cases broken

end Tokenizer

theorem Cursor.within_atStart (t : Text) : Within t (.atStart t) := by
  have start : Within t (.ofText t) := List.suffix_rfl
  cases t with
  | nil => exact start
  | cons x rest =>
    rw [Cursor.atStart]
    split
    · exact start.step
    · exact start

/-- A scan breaks off for a flaw of the text. -/
theorem flaw_of_scan {fault : Fault} (broken : (Token.scan t).2 = some fault) : Flaw t fault := by
  rw [Token.scan] at broken
  split at broken
  · exact Tokenizer.flaw_of_run (Cursor.within_atStart t) broken
  · cases broken
    exact .malformed

end Conformance.Yaml
