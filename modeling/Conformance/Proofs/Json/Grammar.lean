import Conformance.Json.Reader
import Conformance.Proofs.Json.Tokens

/-!
# The grammar of JSON

The productions of RFC 8259 as relations between a text, a part at its beginning, and what follows
that part. A part is told as a phrase: what is written, before anything is made of it. Numbers are
still numerals, and an object still has every member, also one that a later member of the same name
replaces. On demand the grammar also has the three words for numbers past the finite ones, which
decoders know and the standard does not.

Every part starts with a code point that is no space and is longer than nothing.
-/
namespace Conformance.Json

/-- What a text writes. -/
inductive Phrase where
  | null
  | boolean (value : Bool)
  | number (numeral : Numeral)
  /-- The word for no number. -/
  | notNumber
  /-- A word for a number past the finite ones. -/
  | infinite (negative : Bool)
  | string (content : Text)
  | array (elements : List Phrase)
  | object (members : List (Text × Phrase))

namespace Grammar

/-- Insignificant space, or none. -/
def Space (t rest : Text) : Prop := ∃ blank, Blank blank ∧ t = blank ++ rest

/-! ### Numbers -/

/-- One digit or more. -/
def Digits (t digits rest : Text) : Prop :=
  t = digits ++ rest ∧ digits ≠ [] ∧ ∀ c ∈ digits, c.isDigit = true

/-- A zero alone, or digits of which the first is no zero. -/
inductive Whole : Text → Text → Text → Prop where
  | zero {rest : Text} : Whole (CodePoint.ofChar '0' :: rest) [CodePoint.ofChar '0'] rest
  | digits {t digits rest : Text} (run : Digits t digits rest)
      (leading : digits.head? ≠ some (CodePoint.ofChar '0')) : Whole t digits rest

/-- A point and the digits behind it. -/
inductive Fraction : Text → Text → Text → Prop where
  | absent {t : Text} : Fraction t [] t
  | present {t digits rest : Text} (run : Digits t digits rest) :
      Fraction (CodePoint.ofChar '.' :: t) digits rest

/-- The sign of an exponent: whether it leads down. -/
inductive Sign : Text → Bool → Text → Prop where
  | absent {t : Text} : Sign t false t
  | plus {t : Text} : Sign (CodePoint.ofChar '+' :: t) false t
  | minus {t : Text} : Sign (CodePoint.ofChar '-' :: t) true t

inductive Exponent : Text → Option (Bool × Text) → Text → Prop where
  | absent {t : Text} : Exponent t none t
  | present {letter : CodePoint} {t unsigned digits rest : Text} {down : Bool}
      (mark : letter = 'e' ∨ letter = 'E') (sign : Sign t down unsigned)
      (run : Digits unsigned digits rest) : Exponent (letter :: t) (some (down, digits)) rest

/-- A number with an optional minus sign; the literal is all of its spelling. -/
inductive Number : Text → Numeral → Text → Prop where
  | intro {negative : Bool} {t body behindWhole behindFraction whole fraction literal rest : Text}
      {exponent : Option (Bool × Text)}
      (start : t = if negative then CodePoint.ofChar '-' :: body else body)
      (first : Whole body whole behindWhole) (second : Fraction behindWhole fraction behindFraction)
      (third : Exponent behindFraction exponent rest) (all : t = literal ++ rest) :
      Number t ⟨negative, whole, fraction, exponent, literal⟩ rest

/-! ### Strings -/

/-- The letters of short escapes with the code points that they stand for. -/
def shortEscapes : List (CodePoint × CodePoint) := [
  ('"', '"'), ('\\', '\\'), ('/', '/'), ('b', .ofNat 8), ('f', .ofNat 12), ('n', '\n'),
  ('r', '\r'), ('t', '\t')]

/-- The inside of a string up to its closing quote. -/
inductive Chars : Text → List Piece → Text → Prop where
  | close {rest : Text} : Chars (CodePoint.ofChar '"' :: rest) [] rest
  | plain {c : CodePoint} {t rest : Text} {pieces : List Piece} (printable : 0x20 ≤ c.toNat)
      (quote : c ≠ '"') (backslash : c ≠ '\\') (more : Chars t pieces rest) :
      Chars (c :: t) (⟨c, false⟩ :: pieces) rest
  | short {letter meant : CodePoint} {t rest : Text} {pieces : List Piece}
      (known : (letter, meant) ∈ shortEscapes) (more : Chars t pieces rest) :
      Chars (CodePoint.ofChar '\\' :: letter :: t) (⟨meant, false⟩ :: pieces) rest
  | unit {a b c d meant : CodePoint} {t rest : Text} {pieces : List Piece}
      (digits : unit? a b c d = some meant) (more : Chars t pieces rest) :
      Chars (CodePoint.ofChar '\\' :: CodePoint.ofChar 'u' :: a :: b :: c :: d :: t)
        (⟨meant, true⟩ :: pieces) rest

/-- A string behind its opening quote, with the text that it holds. -/
def Quoted (t content rest : Text) : Prop :=
  ∃ pieces, Chars t pieces rest ∧ content = Piece.join pieces

/-! ### Values -/

/-- A part of a text with what it writes. -/
inductive Part where
  | value (phrase : Phrase)
  /-- Elements up to the closing bracket. -/
  | elements (phrases : List Phrase)
  | member (member : Text × Phrase)
  /-- Members up to the closing brace. -/
  | members (members : List (Text × Phrase))

/-- The words that the standard does not know. -/
def constants : List (Text × Phrase) :=
  [("NaN", .notNumber), ("Infinity", .infinite false), ("-Infinity", .infinite true)]

/-- A part at the beginning of a text, and what follows it. -/
inductive Derives (unbounded : Bool) : Text → Part → Text → Prop where
  | null {rest : Text} : Derives unbounded ("null" ++ rest) (.value .null) rest
  | yes {rest : Text} : Derives unbounded ("true" ++ rest) (.value (.boolean true)) rest
  | no {rest : Text} : Derives unbounded ("false" ++ rest) (.value (.boolean false)) rest
  | constant {word rest : Text} {phrase : Phrase} (known : unbounded = true)
      (listed : (word, phrase) ∈ constants) :
      Derives unbounded (word ++ rest) (.value phrase) rest
  | number {t rest : Text} {numeral : Numeral} (spelled : Number t numeral rest) :
      Derives unbounded t (.value (.number numeral)) rest
  | string {t content rest : Text} (quoted : Quoted t content rest) :
      Derives unbounded (CodePoint.ofChar '"' :: t) (.value (.string content)) rest
  | emptyArray {t rest : Text} (space : Space t (CodePoint.ofChar ']' :: rest)) :
      Derives unbounded (CodePoint.ofChar '[' :: t) (.value (.array [])) rest
  | array {t inside rest : Text} {elements : List Phrase} (space : Space t inside)
      (derived : Derives unbounded inside (.elements elements) rest) :
      Derives unbounded (CodePoint.ofChar '[' :: t) (.value (.array elements)) rest
  | emptyObject {t rest : Text} (space : Space t (CodePoint.ofChar '\x7d' :: rest)) :
      Derives unbounded (CodePoint.ofChar '\x7b' :: t) (.value (.object [])) rest
  | object {t inside rest : Text} {members : List (Text × Phrase)} (space : Space t inside)
      (derived : Derives unbounded inside (.members members) rest) :
      Derives unbounded (CodePoint.ofChar '\x7b' :: t) (.value (.object members)) rest
  | lastElement {t behind rest : Text} {element : Phrase}
      (first : Derives unbounded t (.value element) behind)
      (close : Space behind (CodePoint.ofChar ']' :: rest)) :
      Derives unbounded t (.elements [element]) rest
  | nextElement {t behind gap next rest : Text} {element : Phrase} {others : List Phrase}
      (first : Derives unbounded t (.value element) behind)
      (comma : Space behind (CodePoint.ofChar ',' :: gap)) (space : Space gap next)
      (more : Derives unbounded next (.elements others) rest) :
      Derives unbounded t (.elements (element :: others)) rest
  | member {t name behind gap next rest : Text} {phrase : Phrase} (quoted : Quoted t name behind)
      (colon : Space behind (CodePoint.ofChar ':' :: gap)) (space : Space gap next)
      (value : Derives unbounded next (.value phrase) rest) :
      Derives unbounded (CodePoint.ofChar '"' :: t) (.member (name, phrase)) rest
  | lastMember {t behind rest : Text} {member : Text × Phrase}
      (first : Derives unbounded t (.member member) behind)
      (close : Space behind (CodePoint.ofChar '\x7d' :: rest)) :
      Derives unbounded t (.members [member]) rest
  | nextMember {t behind gap next rest : Text} {member : Text × Phrase}
      {others : List (Text × Phrase)} (first : Derives unbounded t (.member member) behind)
      (comma : Space behind (CodePoint.ofChar ',' :: gap)) (space : Space gap next)
      (more : Derives unbounded next (.members others) rest) :
      Derives unbounded t (.members (member :: others)) rest

/-- A whole text: a value with space around it. -/
def Writes (unbounded : Bool) (t : Text) (phrase : Phrase) : Prop :=
  ∃ inside behind, Space t inside ∧ Derives unbounded inside (.value phrase) behind ∧
    Space behind []

end Grammar
end Conformance.Json
