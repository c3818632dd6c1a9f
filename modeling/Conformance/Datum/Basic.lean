import Conformance.Datum.Calendar
import Conformance.Number.Literal

/-!
# Decoded data

What a decoder of some notation, or a caller, may hand over before it is known to be a document:
whole and real numbers apart, keys of any kind, and values that no document can hold. A description
shows a datum inside a message.
-/
namespace Conformance

/-- A decimal numeral of any precision, coefficient · 10^exponent. -/
inductive DecimalNumeral where
  | finite (negative : Bool) (coefficient : Nat) (exponent : Int)
  | infinite (negative : Bool)
  | notNumber
deriving DecidableEq

namespace DecimalNumeral

/-- Positional unless the exponent is positive or the first digit lies beyond six zeros. -/
def format : DecimalNumeral → Text
  | .infinite negative => (if negative then "-" else "") ++ "Infinity"
  | .notNumber => "NaN"
  | .finite negative coefficient exponent =>
    let digits := Text.ofNat coefficient
    let first : Int := exponent + digits.length
    let sign : Text := if negative then "-" else ""
    let body : Text :=
      if exponent ≤ 0 ∧ -6 < first then
        if exponent = 0 then digits
        else if first ≤ 0 then
          "0." ++ List.replicate first.natAbs ('0' : CodePoint) ++ digits
        else digits.take first.toNat ++ "." ++ digits.drop first.toNat
      else
        let fraction : Text := match digits.drop 1 with
          | [] => []
          | rest => "." ++ rest
        let power := first - 1
        digits.take 1 ++ fraction ++ (if power < 0 then "E-" else "E+") ++ Text.ofNat power.natAbs
    sign ++ body

/-- A decimal numeral with an optional sign, fraction and exponent, or the word for an infinity or
no number. -/
def parse? (t : Text) : Option DecimalNumeral :=
  let (negative, body) : Bool × Text := match t with
    | c :: rest => if c = '-' then (true, rest) else if c = '+' then (false, rest) else (false, t)
    | [] => (false, [])
  let word := body.toAsciiLower
  if word = "inf" ∨ word = "infinity" then some (.infinite negative)
  else if word = "nan" then some .notNumber
  else
    let whole := body.takeWhile CodePoint.isDigit
    let rest := body.dropWhile CodePoint.isDigit
    let (fraction, rest) : Text × Text := match rest with
      | c :: after =>
        if c = '.' then (after.takeWhile CodePoint.isDigit, after.dropWhile CodePoint.isDigit)
        else ([], rest)
      | [] => ([], [])
    let numeral (exponent : Int) : DecimalNumeral :=
      .finite negative (Text.natValue (whole ++ fraction)) (exponent - fraction.length)
    if whole.isEmpty && fraction.isEmpty then none
    else match rest with
      | [] => some (numeral 0)
      | c :: after =>
        if c = 'e' ∨ c = 'E' then
          let (down, digits) : Bool × Text := match after with
            | s :: more =>
              if s = '-' then (true, more) else if s = '+' then (false, more) else (false, after)
            | [] => (false, [])
          if digits.isEmpty || !digits.all CodePoint.isDigit then none
          else
            let size : Int := Text.natValue digits
            some (numeral (if down then -size else size))
        else none

end DecimalNumeral

inductive Datum where
  | null
  | boolean (value : Bool)
  | integer (value : Int)
  | real (value : Extended)
  | text (value : Text)
  | sequence (items : List Datum)
  | tuple (items : List Datum)
  | mapping (entries : List (Datum × Datum))
  /-- A set. What it holds is left out, as no document can hold one; it is shown as an empty set. -/
  | set
  | bytes (value : List UInt8)
  | decimal (value : DecimalNumeral)
  | date (value : Date)
  | moment (value : Moment)
  /-- A value that is nothing but itself. -/
  | object
  /-- A container that holds this very place; it is shown as a list. -/
  | enclosing

namespace Datum

/-- A text, or null where there is none. -/
def ofText? (t : Option Text) : Datum := (t.map Datum.text).getD .null

/-- The name of the kind of datum. -/
def kindName : Datum → Text
  | .null => "NoneType"
  | .boolean _ => "bool"
  | .integer _ => "int"
  | .real _ => "float"
  | .text _ => "str"
  | .sequence _ => "list"
  | .tuple _ => "tuple"
  | .mapping _ => "dict"
  | .set => "set"
  | .bytes _ => "bytes"
  | .decimal _ => "Decimal"
  | .date _ => "date"
  | .moment _ => "datetime"
  | .object => "object"
  | .enclosing => "list"

/-- The name of the kind with the part of the library that it comes from. -/
def fullKindName : Datum → Text
  | .decimal _ => "decimal.Decimal"
  | .date _ => "datetime.date"
  | .moment _ => "datetime.datetime"
  | other => other.kindName

mutual

/-- How a datum is shown inside a message. -/
def describe : Datum → Text
  | .null => "None"
  | .boolean true => "True"
  | .boolean false => "False"
  | .integer i => Text.ofInt i
  | .real x => x.format
  | .text t => t.quoted
  | .sequence items => "[" ++ Text.join ", " (describeAll items) ++ "]"
  | .tuple [item] => "(" ++ describe item ++ ",)"
  | .tuple items => "(" ++ Text.join ", " (describeAll items) ++ ")"
  | .mapping entries => "\x7b" ++ Text.join ", " (describeEntries entries) ++ "\x7d"
  | .set => "set()"
  | .bytes value => Text.quotedBytes value
  | .decimal value => "Decimal('" ++ value.format ++ "')"
  | .date value => value.description
  | .moment value => value.description
  | .object => "<object object>"
  | .enclosing => "[...]"

def describeAll : List Datum → List Text
  | [] => []
  | item :: rest => describe item :: describeAll rest

def describeEntries : List (Datum × Datum) → List Text
  | [] => []
  | (key, value) :: rest => (describe key ++ ": " ++ describe value) :: describeEntries rest

end

mutual

/-- Whether a datum can be shown: no whole number in it has more digits than are written. -/
def isShowable : Datum → Bool
  | .integer i => (Text.ofNat i.natAbs).length ≤ maxIntegerDigits
  | .sequence items | .tuple items => allShowable items
  | .mapping entries => entriesShowable entries
  | _ => true

def allShowable : List Datum → Bool
  | [] => true
  | item :: rest => isShowable item && allShowable rest

def entriesShowable : List (Datum × Datum) → Bool
  | [] => true
  | (key, value) :: rest => isShowable key && isShowable value && entriesShowable rest

end

/-- What is said of a datum that cannot be shown. -/
def tooLong : Text :=
  "Exceeds the limit (" ++ Text.ofNat maxIntegerDigits
    ++ " digits) for integer string conversion; use sys.set_int_max_str_digits() to increase "
    ++ "the limit"

/-- Entries with one more: a key that is there keeps its place and takes the new value. -/
def insert (key : Text) (value : Datum) : List (Datum × Datum) → List (Datum × Datum)
  | [] => [(.text key, value)]
  | (k, v) :: rest =>
    match k with
    | .text name => if name = key then (k, value) :: rest else (k, v) :: insert key value rest
    | _ => (k, v) :: insert key value rest

/-- A mapping of entries in order, in which a text key that comes again keeps its first place and
takes the last value. -/
def ofEntries (entries : List (Datum × Datum)) : Datum :=
  .mapping <| entries.foldl (fun built (key, value) =>
    match key with
    | .text name => insert name value built
    | _ => built ++ [(key, value)]) []

/-- The value of a text key. -/
def lookup? (key : Text) : List (Datum × Datum) → Option Datum
  | [] => none
  | (k, v) :: rest =>
    match k with
    | .text name => if name = key then some v else lookup? key rest
    | _ => lookup? key rest

end Datum
end Conformance
