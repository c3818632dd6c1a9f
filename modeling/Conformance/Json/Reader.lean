import Conformance.Datum.Basic
import Conformance.Json.Dialect
import Conformance.Json.Error

/-!
# Reading JSON text

A recursive reader for the grammar of JSON. Whole numbers without fraction or exponent are kept
apart from real ones; pairs of surrogate escapes are joined, single ones pass if the dialect lets
them. The first fault in reading order is the one reported. `left` counts the code points from a
fault to the end of the text, which places it without carrying an offset along.
-/
namespace Conformance.Json

/-- Where reading stops short. -/
inductive Stop where
  | malformed (fault : Fault) (left : Nat)
  | constant (word : Text)
  | outOfRange (literal : Text)
  | tooManyDigits (count : Nat)
  | tooDeep (container : Container)
deriving DecidableEq

/-- The value of a part of the text and the text after it. -/
abbrev Reading (α : Type) := Except Stop (α × Text)

def isSpace (c : CodePoint) : Bool := c = ' ' || c = '\t' || c = '\n' || c = '\r'

def skipSpace (t : Text) : Text := t.dropWhile isSpace

/-- The code unit of four hexadecimal digits. -/
def unit? (a b c d : CodePoint) : Option CodePoint :=
  match a.hexValue?, b.hexValue?, c.hexValue?, d.hexValue? with
  | some a, some b, some c, some d => some (.ofNat (((a * 16 + b) * 16 + c) * 16 + d))
  | _, _, _, _ => none

/-- The code point of a one-letter escape. -/
def escape? (c : CodePoint) : Option CodePoint :=
  if c = '"' ∨ c = '\\' ∨ c = '/' then some c
  else if c = 'b' then some (.ofNat 8)
  else if c = 'f' then some (.ofNat 12)
  else if c = 'n' then some '\n'
  else if c = 'r' then some '\r'
  else if c = 't' then some '\t'
  else none

/-- A code point of a string; `escaped` marks one written as a code unit. -/
structure Piece where
  point : CodePoint
  escaped : Bool
deriving DecidableEq

/-- The text of pieces: an escaped high surrogate joins the escaped low one right after it. -/
def Piece.join : List Piece → Text
  | high :: low :: rest =>
    if high.escaped ∧ low.escaped ∧ high.point.isHighSurrogate ∧ low.point.isLowSurrogate then
      .ofSurrogates high.point low.point :: join rest
    else high.point :: join (low :: rest)
  | [piece] => [piece.point]
  | [] => []

/-- Puts a piece in front of those that were read. -/
def prepend (piece : Piece) (reading : Reading (List Piece)) : Reading (List Piece) :=
  reading.map fun (pieces, rest) => (piece :: pieces, rest)

/-- The pieces of a string after its opening quote. `opening` is what is left from that quote on.
A text never ends right after a code unit. -/
def readPieces (opening : Nat) : Text → Reading (List Piece)
  | [] => .error (.malformed .unterminatedString opening)
  | c :: rest =>
    if c = '"' then .ok ([], rest)
    else if c.toNat < 0x20 then .error (.malformed .controlCharacter (rest.length + 1))
    else if c = '\\' then
      match rest with
      | [] => .error (.malformed .unterminatedString opening)
      | e :: rest =>
        if e = 'u' then
          match rest with
          | d₁ :: d₂ :: d₃ :: d₄ :: after =>
            match unit? d₁ d₂ d₃ d₄ with
            | some unit =>
              if after.isEmpty then .error (.malformed .brokenUnicodeEscape (rest.length + 1))
              else prepend ⟨unit, true⟩ (readPieces opening after)
            | none => .error (.malformed .brokenUnicodeEscape (rest.length + 1))
          | _ => .error (.malformed .brokenUnicodeEscape (rest.length + 1))
        else
          match escape? e with
          | some meant => prepend ⟨meant, false⟩ (readPieces opening rest)
          | none => .error (.malformed .unknownEscape (rest.length + 2))
    else prepend ⟨c, false⟩ (readPieces opening rest)

/-- The content of a string after its opening quote, whose place is `opening`. -/
def readString (dialect : Dialect) (opening : Nat) (t : Text) : Reading Text :=
  match readPieces opening t with
  | .error stop => .error stop
  | .ok (pieces, rest) =>
    let content := Piece.join pieces
    if !dialect.loneSurrogates && content.any CodePoint.isSurrogate then
      .error (.malformed .brokenUnicodeEscape opening)
    else .ok (content, rest)

/-- The spelling of a number. -/
structure Numeral where
  negative : Bool
  whole : Text
  fraction : Text
  /-- Sign and digits of the exponent. -/
  exponent : Option (Bool × Text)
  literal : Text
deriving DecidableEq

/-- Digits after a point; none unless there is a digit. -/
def readFraction (t : Text) : Text × Text :=
  match t with
  | [] => ([], [])
  | c :: rest =>
    if c = '.' ∧ (rest.takeWhile CodePoint.isDigit) ≠ [] then
      (rest.takeWhile CodePoint.isDigit, rest.dropWhile CodePoint.isDigit)
    else ([], t)

/-- An exponent with its sign; none unless there is a digit. -/
def readExponent (t : Text) : Option (Bool × Text) × Text :=
  match t with
  | [] => (none, [])
  | c :: rest =>
    if c = 'e' ∨ c = 'E' then
      let (down, digits) := Conformance.Numeral.splitSign rest
      match digits.takeWhile CodePoint.isDigit with
      | [] => (none, t)
      | run => (some (down, run), digits.dropWhile CodePoint.isDigit)
    else (none, t)

/-- The whole part: a zero alone or digits that do not start with one. -/
def readWhole (t : Text) : Option (Text × Text) :=
  match t with
  | [] => none
  | c :: rest =>
    if c = '0' then some ([c], rest)
    else if c.isDigit then some (t.takeWhile CodePoint.isDigit, t.dropWhile CodePoint.isDigit)
    else none

/-- The longest number at the start of a text. -/
def readNumeral (t : Text) : Option (Numeral × Text) :=
  let (negative, body) : Bool × Text := match t with
    | c :: rest => if c = '-' then (true, rest) else (false, t)
    | [] => (false, [])
  match readWhole body with
  | none => none
  | some (whole, rest) =>
    let (fraction, rest) := readFraction rest
    let (exponent, rest) := readExponent rest
    some (⟨negative, whole, fraction, exponent, t.take (t.length - rest.length)⟩, rest)

/-- The number that a spelling denotes. -/
def Numeral.value (dialect : Dialect) (n : Numeral) : Except Stop Datum :=
  if n.fraction.isEmpty && n.exponent.isNone then
    if maxIntegerDigits < n.whole.length then .error (.tooManyDigits n.whole.length)
    else
      let magnitude : Int := Text.natValue n.whole
      .ok (.integer (if n.negative then -magnitude else magnitude))
  else
    let power : Int := match n.exponent with
      | none => 0
      | some (down, digits) =>
        let size : Int := Text.natValue digits
        if down then -size else size
    match Binary64.ofDecimal? n.negative (Text.natValue (n.whole ++ n.fraction))
        (power - n.fraction.length) with
    | some value => .ok (.real (.finite value))
    | none =>
      if dialect.unbounded then .ok (.real (.infinite n.negative))
      else .error (.outOfRange n.literal)

/-- What a word for a number past the finite ones stands for. -/
def extended (dialect : Dialect) (word : Text) (value : Extended) : Text × Except Stop Datum :=
  (word, if dialect.unbounded then .ok (.real value) else .error (.constant word))

/-- Words that stand for a value. -/
def words (dialect : Dialect) : List (Text × Except Stop Datum) := [
  ("null", .ok .null),
  ("true", .ok (.boolean true)),
  ("false", .ok (.boolean false)),
  extended dialect "NaN" .notNumber,
  extended dialect "Infinity" (.infinite false),
  extended dialect "-Infinity" (.infinite true)]

/-- A value that is neither a string nor a container. -/
def readScalar (dialect : Dialect) (t : Text) : Reading Datum :=
  match (words dialect).findSome? fun (word, meaning) =>
      (Text.after? word t).map fun rest => (meaning, rest) with
  | some (meaning, rest) => meaning.map fun datum => (datum, rest)
  | none =>
    match readNumeral t with
    | some (numeral, rest) => (numeral.value dialect).map fun datum => (datum, rest)
    | none => .error (.malformed .expectedValue t.length)

mutual

/-- A value at the start of a text, within a number of levels. -/
def readValue (dialect : Dialect) : (fuel levels : Nat) → Text → Reading Datum
  | 0, _, t => .error (.malformed .expectedValue t.length)
  | _ + 1, _, [] => .error (.malformed .expectedValue 0)
  | fuel + 1, levels, c :: rest =>
    if c = '"' then (readString dialect (rest.length + 1) rest).map fun (s, after) =>
      (.text s, after)
    else if c = '[' then
      if levels = 0 then .error (.tooDeep .array)
      else
        match skipSpace rest with
        | [] => .error (.malformed .expectedValue 0)
        | d :: after =>
          if d = ']' then .ok (.sequence [], after)
          else (readElements dialect fuel (levels - 1) (d :: after)).map fun (items, after) =>
            (.sequence items, after)
    else if c = '\x7b' then
      if levels = 0 then .error (.tooDeep .object)
      else
        match skipSpace rest with
        | [] => .error (.malformed .expectedName 0)
        | d :: after =>
          if d = '\x7d' then .ok (.mapping [], after)
          else (readMembers dialect fuel (levels - 1) (d :: after)).map fun (entries, after) =>
            (Datum.ofEntries entries, after)
    else readScalar dialect (c :: rest)

/-- The elements of an array from the first one to the closing bracket. -/
def readElements (dialect : Dialect) : (fuel levels : Nat) → Text → Reading (List Datum)
  | 0, _, t => .error (.malformed .expectedValue t.length)
  | fuel + 1, levels, t =>
    match readValue dialect fuel levels t with
    | .error stop => .error stop
    | .ok (item, rest) =>
      match skipSpace rest with
      | [] => .error (.malformed .expectedComma 0)
      | c :: after =>
        if c = ']' then .ok ([item], after)
        else if c = ',' then
          (readElements dialect fuel levels (skipSpace after)).map fun (items, rest) =>
            (item :: items, rest)
        else .error (.malformed .expectedComma (after.length + 1))

/-- The members of an object from the first name to the closing brace. -/
def readMembers (dialect : Dialect) :
    (fuel levels : Nat) → Text → Reading (List (Datum × Datum))
  | 0, _, t => .error (.malformed .expectedName t.length)
  | _ + 1, _, [] => .error (.malformed .expectedName 0)
  | fuel + 1, levels, quote :: inside =>
    if quote ≠ '"' then .error (.malformed .expectedName (inside.length + 1))
    else
      match readString dialect (inside.length + 1) inside with
      | .error stop => .error stop
      | .ok (name, rest) =>
        match skipSpace rest with
        | [] => .error (.malformed .expectedColon 0)
        | colon :: rest =>
          if colon ≠ ':' then .error (.malformed .expectedColon (rest.length + 1))
          else
            match readValue dialect fuel levels (skipSpace rest) with
            | .error stop => .error stop
            | .ok (value, rest) =>
              match skipSpace rest with
              | [] => .error (.malformed .expectedComma 0)
              | c :: after =>
                if c = '\x7d' then .ok ([(.text name, value)], after)
                else if c = ',' then
                  (readMembers dialect fuel levels (skipSpace after)).map fun (entries, rest) =>
                    ((.text name, value) :: entries, rest)
                else .error (.malformed .expectedComma (after.length + 1))

end

/-- The one value that a text holds, with space around it. -/
def readText (dialect : Dialect) (t : Text) : Except Stop Datum :=
  match readValue dialect (2 * t.length + 2) dialect.maxNesting (skipSpace t) with
  | .error stop => .error stop
  | .ok (datum, rest) =>
    match skipSpace rest with
    | [] => .ok datum
    | _ :: after => .error (.malformed .extraData (after.length + 1))

/-- The fault of a whole text from what is left of it. -/
def Stop.toError (t : Text) : Stop → Error
  | .malformed fault left => .malformed fault (.ofOffset t (t.length - left))
  | .constant word => .constant word
  | .outOfRange literal => .outOfRange literal
  | .tooManyDigits count => .tooManyDigits count
  | .tooDeep container => .tooDeep container

/-- The datum of a JSON text. -/
def decode (dialect : Dialect) (t : Text) : Except Error Datum :=
  if t.head? = some (.ofNat 0xFEFF) then .error (.malformed .byteOrderMark (.ofOffset t 0))
  else (readText dialect t).mapError (Stop.toError t)

/-- The datum of JSON text in bytes of a detected encoding; a byte-order mark may lead. -/
def decodeBytes (dialect : Dialect) (bytes : Bytes) : Except Error Datum :=
  match Encoding.decodeDetected bytes with
  | .error error => .error (.undecodable error)
  | .ok t => (readText dialect t).mapError (Stop.toError t)

end Conformance.Json
