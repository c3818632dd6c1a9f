import Conformance.Number.Extended
import Conformance.Number.Rounding
import Conformance.Text.Quoted
import Conformance.Unicode.DecimalDigit
import Conformance.Unicode.Ranges

/-!
# Numerals in free text

Numbers typed by people: blanks around, digits of any script, single low lines between digits. A
whole number has at most 4300 digits.
-/
namespace Conformance

/-- Why a text is no numeral. -/
inductive NumeralError where
  /-- The text is not a whole number of the base. -/
  | notInteger (base : Nat) (text : Text)
  | tooManyDigits (count : Nat)
  | notReal (text : Text)
deriving DecidableEq

/-- The greatest number of digits that a whole number may be written with. -/
def maxIntegerDigits : Nat := 4300

namespace NumeralError

def message : NumeralError → Text
  | .notInteger base text =>
    "invalid literal for int() with base " ++ Text.ofNat base ++ ": " ++ text.quoted.take 200
  | .tooManyDigits count =>
    "Exceeds the limit (" ++ Text.ofNat maxIntegerDigits
      ++ " digits) for integer string conversion: value has " ++ Text.ofNat count
      ++ " digits; use sys.set_int_max_str_digits() to increase the limit"
  | .notReal text => "could not convert string to float: " ++ text.quoted

end NumeralError

namespace Numeral

/-- White space of the basic character set. -/
def isAsciiSpace (c : CodePoint) : Bool := c = ' ' || (9 ≤ c.toNat && c.toNat ≤ 13)

/-- Digits and blanks of every script become basic ones. -/
def toBasic (t : Text) : Text :=
  if t.isAscii then t
  else t.map fun c =>
    if c.toNat < 127 then c
    else if Unicode.isBlank c then ' '
    else match Unicode.decimalValue? c with
      | some d => CodePoint.ofNat (48 + d)
      | none => '?'

/-- A leading sign and the rest. -/
def splitSign : Text → Bool × Text
  | [] => (false, [])
  | c :: rest => if c = '-' then (true, rest) else if c = '+' then (false, rest) else (false, c :: rest)

/-- The value of a digit in a base up to sixteen. -/
def digitIn? (base : Nat) (c : CodePoint) : Option Nat :=
  c.hexValue?.filter (· < base)

/-- Digits of a base with single low lines between them, and what follows; none if there is no
digit or a low line stands elsewhere. `open` says that a digit stands before. -/
def digitRun? (base : Nat) : Bool → Text → Option (Text × Text)
  | before, [] => if before then some ([], []) else none
  | before, c :: rest =>
    if (digitIn? base c).isSome then (digitRun? base true rest).map fun (run, tail) => (c :: run, tail)
    else if c = '_' then (if before then digitRun? base false rest else none)
    else if before then some ([], c :: rest) else none

/-- The value of digits of a base, most significant first. -/
def valueIn (base : Nat) (digits : Text) : Nat :=
  digits.foldl (fun value c => base * value + (c.hexValue?).getD 0) 0

/-- The letter that may follow a leading zero to name the base. -/
def baseLetter? (base : Nat) : Option CodePoint :=
  if base = 2 then some 'b' else if base = 8 then some 'o' else if base = 16 then some 'x' else none

/-- Drops a zero and the letter of the base, and one low line after them. -/
def dropBaseMark (base : Nat) : Text → Text
  | zero :: letter :: rest =>
    if zero = '0' ∧ baseLetter? base = some letter.toAsciiLower then
      match rest with
      | c :: digits => if c = '_' then digits else rest
      | [] => []
    else zero :: letter :: rest
  | t => t

/-- A whole number of a base with an optional sign. -/
def parseIntIn (base : Nat) (t : Text) : Except NumeralError Int :=
  let (negative, unsignedText) := splitSign ((toBasic t).dropWhile isAsciiSpace)
  let body := dropBaseMark base unsignedText
  match digitRun? base false body with
  | none => .error (.notInteger base t)
  | some (digits, tail) =>
    if base = 10 ∧ maxIntegerDigits < digits.length then .error (.tooManyDigits digits.length)
    else if tail.all isAsciiSpace then
      let value : Int := valueIn base digits
      .ok (if negative then -value else value)
    else .error (.notInteger base t)

def parseInt (t : Text) : Except NumeralError Int := parseIntIn 10 t

/-- Low lines are dropped; each must stand between digits. -/
def dropLowLines? : CodePoint → Text → Option Text
  | last, [] => if last = '_' then none else some []
  | last, c :: rest =>
    if c = '_' then (if last.isDigit then dropLowLines? c rest else none)
    else if last = '_' ∧ ¬ c.isDigit then none
    else (dropLowLines? c rest).map (c :: ·)

/-- Unsigned decimal digits with an optional fraction and exponent; at least one digit. -/
def parseMagnitude? (negative : Bool) (t : Text) : Option Extended :=
  let whole := t.takeWhile CodePoint.isDigit
  let rest := t.dropWhile CodePoint.isDigit
  let (fraction, rest) : Text × Text := match rest with
    | c :: after =>
      if c = '.' then (after.takeWhile CodePoint.isDigit, after.dropWhile CodePoint.isDigit)
      else ([], rest)
    | [] => ([], [])
  let value (exponent : Int) : Extended :=
    .ofRounded negative
      (Binary64.ofDecimal? negative (Text.natValue (whole ++ fraction)) (exponent - fraction.length))
  if whole.isEmpty && fraction.isEmpty then none
  else match rest with
    | [] => some (value 0)
    | c :: after =>
      if c = 'e' ∨ c = 'E' then
        let (down, digits) := splitSign after
        if digits.isEmpty || !digits.all CodePoint.isDigit then none
        else
          let exponent : Int := Text.natValue digits
          some (value (if down then -exponent else exponent))
      else none

/-- A real number, an infinity or the mark for no number. -/
def parseReal (t : Text) : Except NumeralError Extended :=
  let body := (toBasic t).trim isAsciiSpace
  let read (plain : Text) : Option Extended :=
    let (negative, magnitude) := splitSign plain
    let word := magnitude.toAsciiLower
    if word = "inf" ∨ word = "infinity" then some (.infinite negative)
    else if word = "nan" then some .notNumber
    else parseMagnitude? negative magnitude
  match (dropLowLines? ' ' body).bind read with
  | some value => .ok value
  | none => .error (.notReal t)

end Numeral
end Conformance
