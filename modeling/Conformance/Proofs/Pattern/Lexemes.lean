import Conformance.Proofs.Pattern.Grammar
import Conformance.Proofs.Pattern.Steps

/-!
# Escapes, sets and counts as they are read

The reader looks a letter behind a backslash up in three tables, of control characters, classes and
places, before it takes it for a number, a name or itself. No letter is in two of the tables, and
none of those that begin a number or a name is in any, so the order does not matter.

A set is read item by item. Whether a hyphen makes a range is seen only behind the first item, so
what the reader does from there on is told apart from how an item begins.

Behind an opening brace the reader takes digits, perhaps a comma and more digits, and only then sees
whether a closing brace ends them. If not, it goes back and takes the brace for itself. Both cases
have the same beginning, which every text has.
-/
namespace Conformance.Pattern

open Grammar Reader

variable {size : Nat} {t rest : Text}

/-! ### Letters behind a backslash -/

/-- Letters that name a control character, with that. -/
def controlPairs : List (CodePoint × CodePoint) :=
  controls.map fun entry => (CodePoint.ofChar entry.1, CodePoint.ofNat entry.2)

/-- Letters that name a class. -/
def categoryLetters : List CodePoint := ['d', 'D', 's', 'S', 'w', 'W']

/-- Letters that name a place. -/
def anchorLetters : List CodePoint := ['A', 'Z', 'b', 'B']

theorem mem_of_control? {letter c : CodePoint} (known : control? letter = some c) :
    (letter, c) ∈ controlPairs := by
  obtain ⟨entry, found, rfl⟩ := Option.map_eq_some_iff.mp known
  have same := List.find?_some found
  rw [decide_eq_true_eq] at same
  exact List.mem_map.mpr ⟨entry, List.mem_of_find?_eq_some found, by rw [same]⟩

theorem mem_of_category? {letter : CodePoint} {named : Category × Bool}
    (known : category? letter = some named) : letter ∈ categoryLetters := by
  unfold category? at known
  rw [categoryLetters]
  grind

theorem mem_of_anchor? {letter : CodePoint} {anchor : Anchor}
    (known : anchor? {} letter = some anchor) : letter ∈ anchorLetters := by
  unfold anchor? at known
  rw [anchorLetters]
  grind

/-- A letter that names a control character names neither a class nor a place. -/
theorem of_control? {letter c : CodePoint} (known : control? letter = some c) :
    category? letter = none ∧ anchor? {} letter = none := by
  have all : ∀ pair ∈ controlPairs, category? pair.1 = none ∧ anchor? {} pair.1 = none := by
    decide
  exact all _ (mem_of_control? known)

theorem control?_of_category? {letter : CodePoint} {named : Category × Bool}
    (known : category? letter = some named) : control? letter = none := by
  have all : ∀ letter ∈ categoryLetters, control? letter = none := by decide
  exact all letter (mem_of_category? known)

section NoLetter

variable {c : CodePoint} (mark : isBasicLetter c = false)
include mark

theorem category?_of_mark : category? c = none := by
  have all : ∀ letter ∈ categoryLetters, isBasicLetter letter = true := by decide
  cases known : category? c with
  | none => rfl
  | some named => simp [all c (mem_of_category? known)] at mark

theorem anchor?_of_mark : anchor? {} c = none := by
  have all : ∀ letter ∈ anchorLetters, isBasicLetter letter = true := by decide
  cases known : anchor? {} c with
  | none => rfl
  | some named => simp [all c (mem_of_anchor? known)] at mark

/-- Behind a backslash a second one stands for itself by either rule. -/
theorem eq_of_control?_of_mark {point : CodePoint} (known : control? c = some point) :
    point = c := by
  have all : ∀ pair ∈ controlPairs, isBasicLetter pair.1 = true ∨ pair.2 = pair.1 := by decide
  rcases all _ (mem_of_control? known) with letter | same
  · simp [letter] at mark
  · exact same

end NoLetter

/-! ### Escapes -/

theorem gives_octalValue (digits : Text) :
    Gives size (octalValue digits) t (· = .ofNat (Numeral.valueIn 8 digits)) t := by
  dsimp only [octalValue]
  split
  · exact gives_failBack _ _
  · exact gives_pure rfl

theorem gives_readHex {letter : CodePoint} {digits : Text}
    (digital : ∀ c ∈ digits, c.hexValue?.isSome = true) :
    Gives size (readHex letter digits.length) (digits ++ rest)
      (· = .ofNat (Numeral.valueIn 16 digits)) rest := by
  apply (gives_takeWhile (by decide) (Nat.le_refl _) digital _).then
  · simp only [Nat.lt_irrefl, if_false]
    split
    · exact gives_pure rfl
    · exact gives_failBack _ _
  · intro fewer
    exact absurd fewer (Nat.lt_irrefl _)

theorem gives_readNamed {name : Text} {c : CodePoint} (spelled : Name '\x7d' t name rest)
    (known : Unicode.named? name = some c) :
    Gives size readNamed (CodePoint.ofChar '\x7b' :: t) (· = c) rest := by
  apply (gives_accept (by decide)).then
  rw [spelled.text]
  simp only [Bool.not_true]
  apply (gives_takeName "character name" (by decide) spelled.free).then
  rw [known]
  exact gives_pure rfl

/-- By cases on how the code point is written; a control character is found before. -/
theorem gives_readCodePoint {letter c : CodePoint} (spelled : Escape (letter :: t) c rest)
    (other : control? letter ≠ some c) : Gives size (readCodePoint letter) t (· = c) rest := by
  cases spelled with
  | control known => exact absurd known other
  | number known digital small =>
    simp only [hexadecimal, List.mem_cons, Prod.mk.injEq, List.not_mem_nil, or_false] at known
    rcases known with ⟨rfl, two⟩ | ⟨rfl, four⟩ | ⟨rfl, eight⟩
    · rw [readCodePoint, if_pos rfl, ← two]
      exact gives_readHex digital
    · rw [readCodePoint, if_neg (by decide), if_pos rfl, ← four]
      exact gives_readHex digital
    · rw [readCodePoint, if_neg (by decide), if_neg (by decide), if_pos rfl, ← eight]
      exact gives_readHex digital
  | name spelled known =>
    rw [readCodePoint, if_neg (by decide), if_neg (by decide), if_neg (by decide), if_pos rfl]
    exact gives_readNamed spelled known
  | itself mark digit =>
    have ne (x : CodePoint) (basic : isBasicLetter x = true) : letter ≠ x := by
      rintro rfl
      rw [mark] at basic
      cases basic
    rw [readCodePoint, if_neg (ne 'x' rfl), if_neg (ne 'u' rfl), if_neg (ne 'U' rfl),
      if_neg (ne 'N' rfl), mark, digit]
    exact gives_pure rfl

/-- An escape names a control character, or its letter names nothing by itself. -/
theorem letter_cases {letter c : CodePoint} (spelled : Escape (letter :: t) c rest) :
    (control? letter = some c ∧ t = rest) ∨
      (control? letter = none ∧ category? letter = none ∧ anchor? {} letter = none ∧
        letter.isDigit = false) := by
  cases spelled with
  | control known => exact .inl ⟨known, rfl⟩
  | number known digital small =>
    have all : ∀ pair ∈ hexadecimal, control? pair.1 = none ∧ category? pair.1 = none ∧
        anchor? {} pair.1 = none ∧ pair.1.isDigit = false := by decide
    exact .inr (all _ known)
  | name spelled known => exact .inr (by decide)
  | itself mark digit =>
    -- Of the marks the first table holds only the backslash, which stands for itself there too.
    cases known : control? letter with
    | none => exact .inr ⟨rfl, category?_of_mark mark, anchor?_of_mark mark, digit⟩
    | some point =>
      rw [eq_of_control?_of_mark mark known]
      exact .inl ⟨rfl, rfl⟩

theorem isDigit_of_isOctal {c : CodePoint} (octal : isOctal c = true) : c.isDigit = true := by
  simp only [isOctal, CodePoint.isDigit, Bool.and_eq_true, decide_eq_true_eq] at octal ⊢
  omega

theorem isBasicLetter_of_isDigit {c : CodePoint} (digit : c.isDigit = true) :
    isBasicLetter c = false := by
  simp only [isBasicLetter, CodePoint.isDigit, Bool.and_eq_true, decide_eq_true_eq] at digit ⊢
  simp
  omega

theorem control?_of_isDigit {c : CodePoint} (digit : c.isDigit = true) : control? c = none := by
  have all : ∀ pair ∈ controlPairs, pair.1.isDigit = false := by decide
  cases known : control? c with
  | none => rfl
  | some point => simp [all _ (mem_of_control? known)] at digit

/-- A code point outside of sets is read as the set of it alone. -/
theorem gives_readEscape {letter c : CodePoint} (spelled : Outside (letter :: t) c rest) :
    Gives size (readEscape {} letter) t (· = .unit (.single .exact false c)) rest := by
  have unnamed (digit : letter.isDigit = true) :
      category? letter = none ∧ anchor? {} letter = none ∧ control? letter = none := by
    have mark := isBasicLetter_of_isDigit digit
    exact ⟨category?_of_mark mark, anchor?_of_mark mark, control?_of_isDigit digit⟩
  cases spelled with
  | escape spelled =>
    rcases letter_cases spelled with ⟨known, rfl⟩ | ⟨control, category, anchor, digit⟩
    · obtain ⟨category, anchor⟩ := of_control? known
      simp only [readEscape, category, anchor, known]
      exact gives_pure rfl
    · simp only [readEscape, category, anchor, control, digit, Bool.false_eq_true, if_false]
      apply (gives_readCodePoint spelled (by simp [control])).then
      exact gives_pure rfl
  | zero run =>
    obtain ⟨category, anchor, control⟩ := unnamed rfl
    simp only [readEscape, category, anchor, control]
    rw [if_pos (by rfl), readDigits, if_pos rfl, run.text]
    apply (gives_takeWhile (by decide) run.few run.octal run.all).then
    apply (gives_octalValue _).then
    exact gives_pure rfl
  | @octal _ second third _ leading digits small =>
    simp only [List.forall_mem_cons] at digits
    obtain ⟨first, next, last, -⟩ := digits
    have digit := isDigit_of_isOctal first
    obtain ⟨category, anchor, control⟩ := unnamed digit
    simp only [readEscape, category, anchor, control]
    -- The reader takes a second digit as it comes, and a third one only behind two octal digits.
    rw [if_pos digit, readDigits, if_neg leading]
    apply (gives_takeWhile_one (by decide) (isDigit_of_isOctal next)).then
    simp only [first, next, Bool.and_true, if_true]
    apply (gives_takeWhile_one (by decide) last).then
    apply (gives_octalValue _).then
    exact gives_pure rfl

/-- A code point in a set. -/
theorem gives_readSetEscape {letter c : CodePoint} (spelled : Inside (letter :: t) c rest) :
    Gives size (readSetEscape {} letter) t (· = .single c) rest := by
  cases spelled with
  | escape spelled =>
    rcases letter_cases spelled with ⟨known, rfl⟩ | ⟨control, category, anchor, digit⟩
    · simp only [readSetEscape, known]
      exact gives_pure rfl
    · -- In a set `b` is no place but a control character, which is read before all others.
      have other : letter ≠ 'b' := by
        rintro rfl
        cases anchor
      have octal : ¬isOctal letter = true := by
        intro octal
        rw [isDigit_of_isOctal octal] at digit
        cases digit
      simp only [readSetEscape, control, category, if_neg other, if_neg octal]
      apply (gives_readCodePoint spelled (by simp [control])).then
      exact gives_pure rfl
  | backspace =>
    exact gives_pure rfl
  | octal leading run small =>
    have digit := isDigit_of_isOctal leading
    have mark := isBasicLetter_of_isDigit digit
    have other : letter ≠ 'b' := by
      rintro rfl
      cases mark
    simp only [readSetEscape, control?_of_isDigit digit, category?_of_mark mark, if_neg other,
      if_pos leading]
    rw [run.text]
    apply (gives_takeWhile (by decide) run.few run.octal run.all).then
    apply (gives_octalValue _).then
    exact gives_pure rfl

/-! ### Sets -/

/-- An item is read from one token on, which is a closing bracket only if the item begins with
one. -/
theorem exists_token_of_item {item : SetItem} (spelled : Item t item rest) :
    ∃ token middle, Gives size next t (· = some token) middle ∧
      Gives size (token.readItem {}) middle (· = item) rest ∧
      (token = .plain ']' → t.head? = some (CodePoint.ofChar ']')) := by
  cases spelled with
  | @plain c rest ordinary =>
    refine ⟨.plain c, rest, gives_next_plain ordinary, gives_pure rfl, ?_⟩
    rintro ⟨⟩
    rfl
  | escape spelled =>
    obtain ⟨letter, behind, rfl⟩ :=
      List.exists_cons_of_length_pos (Nat.zero_lt_of_lt spelled.length_lt)
    exact ⟨.escape letter, behind, gives_next_escape, gives_readSetEscape spelled, by rintro ⟨⟩⟩
  | @category letter _ kind negated known =>
    refine ⟨.escape letter, rest, gives_next_escape, ?_, by rintro ⟨⟩⟩
    simp only [Token.readItem, readSetEscape, control?_of_category? known, known]
    exact gives_pure rfl

/-- Where a range may be, the item before it comes first. -/
theorem gives_rangeOf {this that : Token} {low high : CodePoint} :
    Gives size (rangeOf this that (.single low) (.single high)) t (· = .range low high) t := by
  dsimp only [rangeOf]
  split
  · exact gives_failBack _ _
  · exact gives_pure rfl

/-- Reads on behind the first item of a range, or of no range. -/
def readBehind (start fuel : Nat) (items : List SetItem) (this : Token) (low : SetItem) :
    Reader (List SetItem) := do
  if ← accept '-' then
    match ← next with
    | none => failAt .unterminatedSet start
    | some that =>
      if that = .plain ']' then pure (items ++ [low, .single '-'])
      else
        let high ← that.readItem {}
        readItems {} start fuel (items ++ [← rangeOf this that low high])
  else readItems {} start fuel (items ++ [low])

/-- Where an item begins, it is read first. -/
theorem gives_readItems_of_item {before : Bool} {middle : Text} {item : SetItem}
    {kept : List SetItem} {good : List SetItem → Prop} (start fuel : Nat)
    (inner : before = true → t.head? ≠ some (CodePoint.ofChar ']')) (first : Item t item middle)
    (empty : kept.isEmpty = !before)
    (behind : ∀ this, Gives size (readBehind start fuel kept this item) middle good rest) :
    Gives size (readItems {} start (fuel + 1) kept) t good rest := by
  obtain ⟨token, next, taken, read, bracket⟩ := exists_token_of_item first
  have unclosed : ¬(token = .plain ']' ∧ ¬kept.isEmpty = true) := by
    rintro ⟨close, filled⟩
    have : before = true := by simpa [empty] using filled
    exact inner this (bracket close)
  rw [readItems]
  apply taken.then
  dsimp only
  rw [if_neg unclosed]
  exact read.then (behind token)

/-- By induction on the items; each of them takes a code point, and so does the closing bracket. -/
theorem gives_readItems {before : Bool} {items : List SetItem} (spelled : Items before t items rest)
    (start : Nat) :
    ∀ fuel kept, t.length ≤ fuel → kept.isEmpty = !before →
      Gives size (readItems {} start fuel kept) t (· = kept ++ items) rest := by
  have exists_pred {t rest : Text} {fuel : Nat} (shorter : rest.length < t.length)
      (enough : t.length ≤ fuel) : ∃ less, fuel = less + 1 ∧ rest.length ≤ less :=
    ⟨fuel - 1, by omega, by omega⟩
  induction spelled with
  | @close rest =>
    intro fuel kept enough empty
    obtain ⟨fuel, rfl, -⟩ := exists_pred (Nat.lt_succ_self rest.length) enough
    rw [readItems]
    apply (gives_next_plain (by decide)).then
    dsimp only
    rw [if_pos ⟨rfl, by simp [empty]⟩]
    exact gives_pure (List.append_nil kept).symm
  | @item before t behind rest item items inner first alone more ih =>
    intro fuel kept enough empty
    obtain ⟨fuel, rfl, less⟩ := exists_pred first.length_lt enough
    apply gives_readItems_of_item start fuel inner first empty
    intro this
    apply (gives_accept_other alone).then
    apply (ih fuel (kept ++ [item]) less (by simp)).imp
    rintro _ rfl
    rw [List.append_assoc, List.singleton_append]
  | @range before t next behind rest low high items inner first notLast second ordered more ih =>
    intro fuel kept enough empty
    obtain ⟨fuel, rfl, less⟩ := exists_pred first.length_lt enough
    apply gives_readItems_of_item start fuel inner first empty
    intro this
    -- The second item does not begin with a bracket, so the hyphen does not end the set.
    obtain ⟨that, middle, taken, read, bracket⟩ := exists_token_of_item second
    apply (gives_accept (by decide)).then
    rw [if_pos rfl]
    apply taken.then
    dsimp only
    rw [if_neg fun close => notLast (bracket close)]
    apply read.then
    apply gives_rangeOf.then
    have shorter := second.length_lt
    have enough : behind.length ≤ fuel := by
      rw [List.length_cons] at less
      omega
    apply (ih fuel (kept ++ [SetItem.range low high]) enough (by simp)).imp
    rintro _ rfl
    rw [List.append_assoc, List.singleton_append]
  | hyphen inner first =>
    intro fuel kept enough empty
    obtain ⟨fuel, rfl, less⟩ := exists_pred first.length_lt enough
    apply gives_readItems_of_item start fuel inner first empty
    intro this
    apply (gives_accept (by decide)).then
    rw [if_pos rfl]
    apply (gives_next_plain (by decide)).then
    exact gives_pure rfl

/-- A set is read as the code points that are in it. -/
theorem gives_readSet {among : CodePoint → Prop} (spelled : Members t among rest)
    (fits : t.length ≤ size) :
    Gives size (readSet {}) t
      (fun set => set.folding = .exact ∧ Regex.language (.unit set) = oneOf among) rest := by
  apply gives_get
  intro s place
  cases spelled with
  | @listed _ _ items start inside =>
    apply (gives_accept_other start).then
    apply (gives_readItems inside _ s.size [] (by rw [place.size]; exact fits) rfl).then
    apply gives_pure
    refine ⟨rfl, ?_⟩
    exact (Regex.language_listed _).trans (oneOf_congr (listed_distinctItems items))
  | @unlisted t _ items inside =>
    apply (gives_accept (by decide)).then
    have enough : t.length ≤ s.size := by
      rw [place.size]
      exact Nat.le_of_succ_le fits
    apply (gives_readItems inside _ s.size [] enough rfl).then
    apply gives_pure
    refine ⟨rfl, (Regex.language_unlisted _).trans (oneOf_congr ?_)⟩
    exact fun c => not_congr (listed_distinctItems items c)

/-! ### Counts in braces -/

/-- The number of digits, if there are any. -/
def count? (digits : Text) : Option Nat := if digits = [] then none else some (Text.natValue digits)

theorem count?_of_ne {digits : Text} (filled : digits ≠ []) :
    count? digits = some (Text.natValue digits) := if_neg filled

theorem count?_getD (digits : Text) : (count? digits).getD 0 = Text.natValue digits := by
  cases digits with
  | nil => rfl
  | cons c digits => rfl

theorem gives_readCount (digits : Text) :
    Gives size (readCount digits) t (· = count? digits) t := by
  cases digits with
  | nil => exact gives_pure rfl
  | cons c digits =>
    dsimp only [readCount]
    rw [if_neg (by simp)]
    split
    · exact gives_throw _
    · split
      · exact gives_throw _
      · exact gives_pure rfl

/-- One run of digits or two with a comma between them, as far as they go. -/
inductive Counted : Text → Text → Text → Text → Prop where
  | one {low tail : Text} (run : Digits low) (stop : ∀ c ∈ tail.head?, c.isDigit = false)
      (alone : tail.head? ≠ some (CodePoint.ofChar ',')) : Counted (low ++ tail) low low tail
  | two {low high tail : Text} (first : Digits low) (second : Digits high)
      (stop : ∀ c ∈ tail.head?, c.isDigit = false) :
      Counted (low ++ CodePoint.ofChar ',' :: (high ++ tail)) low high tail

theorem exists_digits (t : Text) :
    ∃ digits tail, t = digits ++ tail ∧ Digits digits ∧ ∀ c ∈ tail.head?, c.isDigit = false := by
  refine ⟨t.takeWhile CodePoint.isDigit, t.dropWhile CodePoint.isDigit,
    List.takeWhile_append_dropWhile.symm, ?_, ?_⟩
  · exact fun c among => List.all_eq_true.mp List.all_takeWhile c among
  · intro c first
    have stop := List.head?_dropWhile_not CodePoint.isDigit t
    rw [Option.mem_def.mp first] at stop
    exact stop

theorem exists_counted (t : Text) : ∃ low high tail, Counted t low high tail := by
  obtain ⟨low, middle, rfl, run, stop⟩ := exists_digits t
  by_cases comma : middle.head? = some (CodePoint.ofChar ',')
  case pos =>
    obtain ⟨behind, rfl⟩ := List.head?_eq_some_iff.mp comma
    obtain ⟨high, tail, rfl, more, stop⟩ := exists_digits behind
    exact ⟨low, high, tail, .two run more stop⟩
  case neg => exact ⟨low, low, middle, .one run stop comma⟩

/-- Reads the closing brace and the counts, or goes back to a place. -/
def readClosing (s : Scan) (low high : Text) : Reader (Option Counts) := do
  if ← accept '\x7d' then
    let least := (← readCount low).getD 0
    let most ← readCount high
    if most.any (· < least) then failAt .leastAboveMost s.offset
    pure (some ⟨least, most⟩)
  else
    goTo s.rest
    pure none

theorem gives_readClosing (s : Scan) (low high : Text) :
    Gives size (readClosing s low high) (CodePoint.ofChar '\x7d' :: rest)
      (fun found => found = some ⟨Text.natValue low, count? high⟩ ∧
        ∀ m ∈ count? high, Text.natValue low ≤ m) rest := by
  apply (gives_accept (by decide)).then
  rw [if_pos rfl]
  apply (gives_readCount low).then
  rw [count?_getD]
  apply (gives_readCount high).then
  dsimp only
  split
  case isTrue => exact gives_failAt_bind _ _
  case isFalse ordered =>
    apply gives_pure
    refine ⟨rfl, fun m given => ?_⟩
    rw [given] at ordered
    simpa using ordered

theorem gives_readClosing_none {s : Scan} (other : t.head? ≠ some (CodePoint.ofChar '\x7d'))
    (low high : Text) : Gives size (readClosing s low high) t (· = none) s.rest := by
  apply (gives_accept_other other).then
  apply gives_goTo.bind
  intro _ _
  exact gives_pure rfl

/-- Counts are read up to where they end. -/
theorem gives_readBraces_of_counted {low high tail : Text} {good : Option Counts → Prop}
    (counted : Counted t low high tail) (start : t.head? ≠ some (CodePoint.ofChar '\x7d'))
    (closing : ∀ s, s.At size t → Gives size (readClosing s low high) tail good rest) :
    Gives size readBraces t good rest := by
  apply gives_get
  intro s place
  apply gives_peek.bind
  intro token first
  rw [if_neg fun same => start (first _ same)]
  cases counted with
  | one run stop alone =>
    apply (gives_takeAll (by decide) run stop).then
    apply (gives_accept_other alone).then
    exact closing s place
  | two run more stop =>
    apply (gives_takeAll (by decide) run (by rintro _ ⟨⟩; rfl)).then
    apply (gives_accept (by decide)).then
    apply (gives_takeAll (by decide) more stop).then
    exact closing s place

theorem head?_digits_append_ne {digits behind : Text} (run : Digits digits)
    (next : digits = [] → behind.head? ≠ some (CodePoint.ofChar '\x7d')) :
    (digits ++ behind).head? ≠ some (CodePoint.ofChar '\x7d') := by
  cases digits with
  | nil => exact next rfl
  | cons c digits =>
    rintro ⟨⟩
    have digit := run _ (List.mem_cons_self ..)
    cases digit

/-- The counts in braces are the counted runs before the closing brace. -/
theorem exists_counted_of_braces {counts : Counts} (spelled : Braces t counts rest) :
    t.head? ≠ some (CodePoint.ofChar '\x7d') ∧
      ∃ low high, counts = ⟨Text.natValue low, count? high⟩ ∧
        Counted t low high (CodePoint.ofChar '\x7d' :: rest) := by
  have brace : ∀ c ∈ (CodePoint.ofChar '\x7d' :: rest).head?, c.isDigit = false := by
    rintro _ ⟨⟩
    rfl
  have comma (behind : Text) :
      (CodePoint.ofChar ',' :: behind).head? ≠ some (CodePoint.ofChar '\x7d') := by
    rintro ⟨⟩
  cases spelled with
  | @exactly digits _ run filled =>
    refine ⟨head?_digits_append_ne run fun empty => absurd empty filled, digits, digits, ?_, ?_⟩
    · rw [count?_of_ne filled]
    · exact .one run brace (by rintro ⟨⟩)
  | @atLeast low _ run =>
    refine ⟨head?_digits_append_ne run fun _ => comma _, low, [], rfl, ?_⟩
    exact .two run (fun c none => absurd none List.not_mem_nil) brace
  | @between low high _ first second filled =>
    refine ⟨head?_digits_append_ne first fun _ => comma _, low, high, ?_, .two first second brace⟩
    rw [count?_of_ne filled]

theorem exists_braces_of_counted {low high : Text}
    (start : t.head? ≠ some (CodePoint.ofChar '\x7d'))
    (counted : Counted t low high (CodePoint.ofChar '\x7d' :: rest)) :
    ∃ counts, Braces t counts rest := by
  cases counted with
  | one run =>
    refine ⟨_, .exactly run ?_⟩
    rintro rfl
    exact start rfl
  | two first second =>
    -- Without digits behind the comma there is no most.
    cases high with
    | nil => exact ⟨_, .atLeast first⟩
    | cons c high => exact ⟨_, .between first second (List.cons_ne_nil c high)⟩

/-- What follows the first count of braces: a comma and perhaps a second count, or nothing. -/
theorem gives_readBraces {counts : Counts} (spelled : Braces t counts rest) :
    Gives size readBraces t (fun found => found = some counts ∧ ∀ m ∈ counts.most, counts.least ≤ m)
      rest := by
  obtain ⟨start, low, high, rfl, counted⟩ := exists_counted_of_braces spelled
  apply gives_readBraces_of_counted counted start
  intro s _
  exact gives_readClosing s low high

/-- Braces that hold no counts are left as they are. -/
theorem gives_readBraces_none (alone : ¬∃ counts behind, Braces t counts behind) :
    Gives size readBraces t (· = none) t := by
  by_cases start : t.head? = some (CodePoint.ofChar '\x7d')
  case pos =>
    obtain ⟨behind, rfl⟩ := List.head?_eq_some_iff.mp start
    apply gives_get
    intro s place
    apply (gives_peek_plain (by decide)).then
    exact gives_pure rfl
  case neg =>
    obtain ⟨low, high, tail, counted⟩ := exists_counted t
    apply gives_readBraces_of_counted counted start
    intro s place
    -- With a brace behind them the runs would be counts.
    have other : tail.head? ≠ some (CodePoint.ofChar '\x7d') := by
      intro closing
      obtain ⟨behind, rfl⟩ := List.head?_eq_some_iff.mp closing
      obtain ⟨counts, braces⟩ := exists_braces_of_counted start counted
      exact alone ⟨counts, behind, braces⟩
    have closing : Gives size (readClosing s low high) tail (· = none) s.rest :=
      gives_readClosing_none other low high
    -- The place to go back to was noted before anything was read.
    rw [place.rest] at closing
    exact closing

/-! ### Repetitions -/

/-- Nothing comes next that would be taken for the mark of a repetition. -/
def Unmarked (t : Text) : Prop :=
  ∀ c ∈ t.head?, c ≠ CodePoint.ofChar '?' ∧ c ≠ CodePoint.ofChar '+'

theorem gives_readCounts? {counts : Counts} (times : Times t counts rest) :
    ∃ c behind, t = c :: behind ∧ c ∉ (['\\', '|', ')', '('] : List CodePoint) ∧
      Gives size (readCounts? (.plain c)) behind
        (fun found => found = some counts ∧ ∀ m ∈ counts.most, counts.least ≤ m) rest := by
  cases times with
  | optional =>
    refine ⟨_, _, rfl, by decide, ?_⟩
    exact gives_pure ⟨rfl, by simp⟩
  | star =>
    refine ⟨_, _, rfl, by decide, ?_⟩
    exact gives_pure ⟨rfl, by simp⟩
  | plus =>
    refine ⟨_, _, rfl, by decide, ?_⟩
    exact gives_pure ⟨rfl, by simp⟩
  | braces inside =>
    refine ⟨_, _, rfl, by decide, ?_⟩
    exact gives_readBraces inside

theorem gives_readGreed (mark : Mark t rest) (next : Unmarked rest) :
    Gives size readGreed t (· ≠ .possessive) rest := by
  cases mark with
  | greedy =>
    apply (gives_accept_other fun lazy => (next _ lazy).1 rfl).then
    apply (gives_accept_other fun possessive => (next _ possessive).2 rfl).then
    exact gives_pure (by decide)
  | lazy =>
    apply (gives_accept (by decide)).then
    exact gives_pure (by decide)

theorem gives_repeatLast {counts : Counts} {item : Regex} {items : List Regex}
    {L : Language CodePoint} (means : Means item L) (ordered : ∀ m ∈ counts.most, counts.least ≤ m)
    (mark : Mark t rest) (next : Unmarked rest) (start : Nat) :
    Gives size (repeatLast start counts (item :: items)) t
      (fun result => ∃ tree, result = tree :: items ∧
        Means tree (between counts.least counts.most L)) rest := by
  dsimp only [repeatLast]
  -- A place or a repetition is not repeated; then the reader fails.
  split
  case isTrue => exact gives_failAt_bind _ _
  case isFalse =>
    split
    case isTrue => exact gives_failAt_bind _ _
    case isFalse =>
      apply (gives_readGreed mark next).bind
      intro greed gives
      apply gives_pure
      refine ⟨_, rfl, ?_, ?_⟩
      · exact ⟨gives, ordered, means.regular⟩
      · rw [Regex.language, means.language]

end Conformance.Pattern
