import Conformance.Pattern.Bracket
import Conformance.Pattern.Quantifier
import Conformance.Proofs.Pattern.Branches

/-!
# The grammar of plain patterns

Patterns of literals, escapes, classes, sets, dots, groups, alternatives and repetitions that are
greedy or lazy, with the languages that they denote. There are no flags, so code points are compared
as they are. Places, look-around, references, conditions, comments and repetitions that keep what
they took are left out. Of the code points with a name only those that `Unicode.named?` knows have
an escape with that name, as in the reader.

As in the grammar of JSON, a production relates a text, a part at its beginning and what follows
that part. What follows matters where a part goes on as long as it can: digits of an octal number,
and a brace, which stands for itself unless counts follow it.
-/
namespace Conformance.Pattern.Grammar

/-! ### Code points -/

/-- Octal digits up to so many, and no fewer than there are. -/
structure Octal (most : Nat) (t digits rest : Text) : Prop where
  text : t = digits ++ rest
  few : digits.length ≤ most
  octal : ∀ c ∈ digits, isOctal c = true
  all : digits.length < most → ∀ c ∈ rest.head?, isOctal c = false

/-- A name up to a closing code point. -/
structure Name (closing : CodePoint) (t name rest : Text) : Prop where
  text : t = name ++ closing :: rest
  free : ∀ c ∈ name, c ≠ closing ∧ c ≠ '\\'

/-- Letters before the hexadecimal digits of a code point, and how many digits there are. -/
def hexadecimal : List (CodePoint × Nat) := [('x', 2), ('u', 4), ('U', 8)]

/-- An escape behind its backslash that means one code point both in sets and outside. -/
inductive Escape : Text → CodePoint → Text → Prop where
  | control {letter c : CodePoint} {rest : Text} (known : control? letter = some c) :
      Escape (letter :: rest) c rest
  | number {letter : CodePoint} {digits rest : Text} (known : (letter, digits.length) ∈ hexadecimal)
      (digital : ∀ c ∈ digits, c.hexValue?.isSome = true)
      (small : Numeral.valueIn 16 digits < 0x110000) :
      Escape (letter :: (digits ++ rest)) (.ofNat (Numeral.valueIn 16 digits)) rest
  | name {t name rest : Text} {c : CodePoint} (spelled : Name '\x7d' t name rest)
      (known : Unicode.named? name = some c) :
      Escape (CodePoint.ofChar 'N' :: CodePoint.ofChar '\x7b' :: t) c rest
  | itself {c : CodePoint} {rest : Text} (letter : isBasicLetter c = false)
      (digit : c.isDigit = false) : Escape (c :: rest) c rest

/-- An escape outside of sets. Three octal digits or a zero first, else digits are a reference. -/
inductive Outside : Text → CodePoint → Text → Prop where
  | escape {t rest : Text} {c : CodePoint} (spelled : Escape t c rest) : Outside t c rest
  | zero {t digits rest : Text} (run : Octal 2 t digits rest) :
      Outside (CodePoint.ofChar '0' :: t) (.ofNat (Numeral.valueIn 8 ('0' :: digits))) rest
  | octal {a b c : CodePoint} {rest : Text} (leading : a ≠ '0')
      (digits : ∀ x ∈ [a, b, c], isOctal x = true) (small : Numeral.valueIn 8 [a, b, c] ≤ 0o377) :
      Outside (a :: b :: c :: rest) (.ofNat (Numeral.valueIn 8 [a, b, c])) rest

/-- An escape in a set. -/
inductive Inside : Text → CodePoint → Text → Prop where
  | escape {t rest : Text} {c : CodePoint} (spelled : Escape t c rest) : Inside t c rest
  | backspace {rest : Text} : Inside (CodePoint.ofChar 'b' :: rest) (.ofNat 8) rest
  | octal {first : CodePoint} {t digits rest : Text} (leading : isOctal first = true)
      (run : Octal 2 t digits rest) (small : Numeral.valueIn 8 (first :: digits) ≤ 0o377) :
      Inside (first :: t) (.ofNat (Numeral.valueIn 8 (first :: digits))) rest

/-! ### Sets -/

/-- One item of a set that is no range. -/
inductive Item : Text → SetItem → Text → Prop where
  | plain {c : CodePoint} {rest : Text} (ordinary : c ≠ '\\') : Item (c :: rest) (.single c) rest
  | escape {t rest : Text} {c : CodePoint} (spelled : Inside t c rest) :
      Item (CodePoint.ofChar '\\' :: t) (.single c) rest
  | category {letter : CodePoint} {rest : Text} {kind : Category} {negated : Bool}
      (known : category? letter = some (kind, negated)) :
      Item (CodePoint.ofChar '\\' :: letter :: rest) (.category kind negated false) rest

/-- The items of a set up to its closing bracket. Where no item stands before, such a bracket is one
itself; and a hyphen right before the end is an item. -/
inductive Items : Bool → Text → List SetItem → Text → Prop where
  | close {rest : Text} : Items true (CodePoint.ofChar ']' :: rest) [] rest
  | item {before : Bool} {t behind rest : Text} {item : SetItem} {items : List SetItem}
      (start : before = true → t.head? ≠ some (CodePoint.ofChar ']')) (first : Item t item behind)
      (alone : behind.head? ≠ some (CodePoint.ofChar '-')) (more : Items true behind items rest) :
      Items before t (item :: items) rest
  | range {before : Bool} {t next behind rest : Text} {low high : CodePoint} {items : List SetItem}
      (start : before = true → t.head? ≠ some (CodePoint.ofChar ']'))
      (first : Item t (.single low) (CodePoint.ofChar '-' :: next))
      (inner : next.head? ≠ some (CodePoint.ofChar ']')) (second : Item next (.single high) behind)
      (ordered : low.toNat ≤ high.toNat) (more : Items true behind items rest) :
      Items before t (.range low high :: items) rest
  | hyphen {before : Bool} {t rest : Text} {item : SetItem}
      (start : before = true → t.head? ≠ some (CodePoint.ofChar ']'))
      (first : Item t item (CodePoint.ofChar '-' :: CodePoint.ofChar ']' :: rest)) :
      Items before t [item, .single '-'] rest

/-- A set behind its opening bracket, and which code points are in it. -/
inductive Members : Text → (CodePoint → Prop) → Text → Prop where
  | listed {t rest : Text} {items : List SetItem}
      (start : t.head? ≠ some (CodePoint.ofChar '^')) (inside : Items false t items rest) :
      Members t (Listed items) rest
  | unlisted {t rest : Text} {items : List SetItem} (inside : Items false t items rest) :
      Members (CodePoint.ofChar '^' :: t) (fun c => ¬Listed items c) rest

/-! ### Counts -/

def Digits (digits : Text) : Prop := ∀ c ∈ digits, c.isDigit = true

/-- Counts behind an opening brace. -/
inductive Braces : Text → Counts → Text → Prop where
  | exactly {digits rest : Text} (run : Digits digits) (filled : digits ≠ []) :
      Braces (digits ++ CodePoint.ofChar '\x7d' :: rest)
        ⟨Text.natValue digits, some (Text.natValue digits)⟩ rest
  | atLeast {low rest : Text} (run : Digits low) :
      Braces (low ++ CodePoint.ofChar ',' :: CodePoint.ofChar '\x7d' :: rest)
        ⟨Text.natValue low, none⟩ rest
  | between {low high rest : Text} (first : Digits low) (second : Digits high)
      (filled : high ≠ []) :
      Braces (low ++ CodePoint.ofChar ',' :: (high ++ CodePoint.ofChar '\x7d' :: rest))
        ⟨Text.natValue low, some (Text.natValue high)⟩ rest

/-- How often what stands before is repeated. -/
inductive Times : Text → Counts → Text → Prop where
  | optional {rest : Text} : Times (CodePoint.ofChar '?' :: rest) ⟨0, some 1⟩ rest
  | star {rest : Text} : Times (CodePoint.ofChar '*' :: rest) ⟨0, none⟩ rest
  | plus {rest : Text} : Times (CodePoint.ofChar '+' :: rest) ⟨1, none⟩ rest
  | braces {t rest : Text} {counts : Counts} (inside : Braces t counts rest) :
      Times (CodePoint.ofChar '\x7b' :: t) counts rest

/-- The mark of a repetition that tries few turns first. -/
inductive Mark : Text → Text → Prop where
  | greedy {rest : Text} : Mark rest rest
  | lazy {rest : Text} : Mark (CodePoint.ofChar '?' :: rest) rest

/-! ### Patterns -/

/-- Code points that mean more than themselves. -/
def special : List CodePoint :=
  ['\\', '[', '.', '^', '$', '(', ')', '|', '*', '+', '?', '\x7b']

/-- Whether a group captures, behind its opening parenthesis. -/
inductive Opened : Text → Text → Prop where
  | capture {t : Text} (start : t.head? ≠ some (CodePoint.ofChar '?')) : Opened t t
  | plain {t : Text} : Opened (CodePoint.ofChar '?' :: CodePoint.ofChar ':' :: t) t
  | named {t name rest : Text} (spelled : Name '>' t name rest) :
      Opened (CodePoint.ofChar '?' :: CodePoint.ofChar 'P' :: CodePoint.ofChar '<' :: t) rest

/-- A part of a pattern, by what it denotes. -/
inductive Part where
  | atom (L : Language CodePoint)
  /-- Repeated and single atoms up to a bar, a closing parenthesis or the end. -/
  | sequence (L : Language CodePoint)
  | branches (L : Language CodePoint)

/-- A part at the beginning of a text, and what follows it. -/
inductive Derives : Text → Part → Text → Prop where
  | literal {c : CodePoint} {rest : Text} (ordinary : c ∉ special) :
      Derives (c :: rest) (.atom (oneOf (· = c))) rest
  | brace {rest : Text} (alone : ¬∃ counts behind, Braces rest counts behind) :
      Derives (CodePoint.ofChar '\x7b' :: rest) (.atom (oneOf (· = CodePoint.ofChar '\x7b'))) rest
  | dot {rest : Text} :
      Derives (CodePoint.ofChar '.' :: rest) (.atom (oneOf (· ≠ CodePoint.ofChar '\n'))) rest
  | escape {t rest : Text} {c : CodePoint} (spelled : Outside t c rest) :
      Derives (CodePoint.ofChar '\\' :: t) (.atom (oneOf (· = c))) rest
  | category {letter : CodePoint} {rest : Text} {kind : Category} {negated : Bool}
      (known : category? letter = some (kind, negated)) :
      Derives (CodePoint.ofChar '\\' :: letter :: rest)
        (.atom (oneOf (Listed [.category kind negated false]))) rest
  | set {t rest : Text} {among : CodePoint → Prop} (members : Members t among rest) :
      Derives (CodePoint.ofChar '[' :: t) (.atom (oneOf among)) rest
  | group {t inside rest : Text} {L : Language CodePoint} (opened : Opened t inside)
      (body : Derives inside (.branches L) (CodePoint.ofChar ')' :: rest)) :
      Derives (CodePoint.ofChar '(' :: t) (.atom L) rest
  | stop {t : Text}
      (ended : ∀ c ∈ t.head?, c = CodePoint.ofChar '|' ∨ c = CodePoint.ofChar ')') :
      Derives t (.sequence 1) t
  | once {t behind rest : Text} {L M : Language CodePoint} (first : Derives t (.atom L) behind)
      (more : Derives behind (.sequence M) rest) : Derives t (.sequence (L * M)) rest
  | repeated {t behind marked next rest : Text} {L M : Language CodePoint} {counts : Counts}
      (first : Derives t (.atom L) behind) (times : Times behind counts marked)
      (mark : Mark marked next) (more : Derives next (.sequence M) rest) :
      Derives t (.sequence (between counts.least counts.most L * M)) rest
  | last {t rest : Text} {L : Language CodePoint} (only : Derives t (.sequence L) rest)
      (ended : rest.head? ≠ some (CodePoint.ofChar '|')) : Derives t (.branches L) rest
  | next {t next rest : Text} {L M : Language CodePoint}
      (first : Derives t (.sequence L) (CodePoint.ofChar '|' :: next))
      (more : Derives next (.branches M) rest) : Derives t (.branches (L + M)) rest

/-! ### Lengths

Every part but an empty sequence takes at least one code point. -/

section Lengths

variable {t rest : Text}

theorem Octal.length_le {most : Nat} {digits : Text} (run : Octal most t digits rest) :
    rest.length ≤ t.length := by
  rw [run.text, List.length_append]
  exact Nat.le_add_left _ _

theorem Name.length_lt {closing : CodePoint} {name : Text} (spelled : Name closing t name rest) :
    rest.length < t.length := by
  rw [spelled.text, List.length_append, List.length_cons]
  omega

theorem Escape.length_lt {c : CodePoint} (spelled : Escape t c rest) : rest.length < t.length := by
  cases spelled with
  | control known => simp
  | number known digital small =>
    simp only [List.length_cons, List.length_append]
    omega
  | name spelled known =>
    have := spelled.length_lt
    simp only [List.length_cons]
    omega
  | itself letter digit => simp

theorem Outside.length_lt {c : CodePoint} (spelled : Outside t c rest) :
    rest.length < t.length := by
  cases spelled with
  | escape spelled => exact spelled.length_lt
  | zero run => exact Nat.lt_succ_of_le run.length_le
  | octal leading digits small =>
    simp only [List.length_cons]
    omega

theorem Inside.length_lt {c : CodePoint} (spelled : Inside t c rest) : rest.length < t.length := by
  cases spelled with
  | escape spelled => exact spelled.length_lt
  | backspace => simp
  | octal leading run small => exact Nat.lt_succ_of_le run.length_le

theorem Item.length_lt {item : SetItem} (spelled : Item t item rest) : rest.length < t.length := by
  cases spelled with
  | plain ordinary => simp
  | escape spelled => exact Nat.lt_succ_of_lt spelled.length_lt
  | category known =>
    simp only [List.length_cons]
    omega

theorem Items.length_lt {before : Bool} {items : List SetItem}
    (spelled : Items before t items rest) : rest.length < t.length := by
  induction spelled with
  | close => simp
  | item start first alone more ih => exact Nat.lt_trans ih first.length_lt
  | range start first inner second ordered more ih =>
    have := first.length_lt
    have := second.length_lt
    simp only [List.length_cons] at *
    omega
  | hyphen start first =>
    have := first.length_lt
    simp only [List.length_cons] at this
    omega

theorem Members.length_lt {among : CodePoint → Prop} (spelled : Members t among rest) :
    rest.length < t.length := by
  cases spelled with
  | listed start inside => exact inside.length_lt
  | unlisted inside => exact Nat.lt_succ_of_lt inside.length_lt

theorem Braces.length_lt {counts : Counts} (spelled : Braces t counts rest) :
    rest.length < t.length := by
  cases spelled <;> simp only [List.length_append, List.length_cons] <;> omega

theorem Times.length_lt {counts : Counts} (spelled : Times t counts rest) :
    rest.length < t.length := by
  cases spelled with
  | braces inside => exact Nat.lt_succ_of_lt inside.length_lt
  | _ => simp

theorem Mark.length_le (mark : Mark t rest) : rest.length ≤ t.length := by
  cases mark <;> simp

theorem Opened.length_le (opened : Opened t rest) : rest.length ≤ t.length := by
  cases opened with
  | capture start => exact Nat.le_refl _
  | plain =>
    simp only [List.length_cons]
    omega
  | named spelled =>
    have := spelled.length_lt
    simp only [List.length_cons]
    omega

/-- How many code points a part takes at least. -/
def Part.least : Part → Nat
  | .atom _ => 1
  | _ => 0

theorem Derives.length_le {part : Part} (derived : Derives t part rest) :
    rest.length + part.least ≤ t.length := by
  induction derived with
  | literal ordinary => simp [Part.least]
  | brace alone => simp [Part.least]
  | dot => simp [Part.least]
  | escape spelled => exact Nat.lt_succ_of_lt spelled.length_lt
  | category known => simp [Part.least]
  | set members => exact Nat.lt_succ_of_lt members.length_lt
  | group opened body ih =>
    have := opened.length_le
    simp only [Part.least, List.length_cons] at ih ⊢
    omega
  | stop ended => exact Nat.le_refl _
  | once first more ihFirst ihMore =>
    simp only [Part.least] at *
    omega
  | repeated first times mark more ihFirst ihMore =>
    have := times.length_lt
    have := mark.length_le
    simp only [Part.least] at *
    omega
  | last only ended ih => exact ih
  | next first more ihFirst ihMore =>
    simp only [Part.least, List.length_cons] at *
    omega

end Lengths

end Grammar

/-- A pattern of plain parts denotes a language. -/
def Denotes (pattern : Text) (L : Language CodePoint) : Prop :=
  Grammar.Derives pattern (.branches L) []

end Conformance.Pattern
