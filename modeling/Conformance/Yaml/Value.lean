import Conformance.Datum.Basic
import Conformance.Number.Arithmetic
import Conformance.Text.Base64
import Conformance.Unicode.SmallLetter
import Conformance.Yaml.Implicit

/-!
# Values of scalars

The tag of a scalar says how its text is read. A tag may be given to a text that does not have the
form for it, and then the text is read as far as it can be.
-/
namespace Conformance.Yaml

/-- The text in small letters. -/
def toSmallText (t : Text) : Text :=
  t.flatMap fun c => if c.toNat = 0x130 then ["i", "\u0307"].flatMap Text.ofString
    else [Unicode.toSmall c]

def withoutLowLines (t : Text) : Text := t.filter (· ≠ ('_' : CodePoint))

/-- Whether a number is negative, and its text without one sign; the text may not be empty. -/
def takeSign (t : Text) : Except Fault (Bool × Text) :=
  if t.isEmpty then .error .emptyNumeral else .ok (Numeral.splitSign t)

def readIn (base : Nat) (t : Text) : Except Fault Int := (Numeral.parseIntIn base t).mapError .numeral

/-- The value of parts in base sixty, most significant first. -/
def sexagesimalValue (parts : List Int) : Int := parts.foldl (fun value part => 60 * value + part) 0

/-- A whole number without its sign: in base two, eight, ten, sixteen or sixty. -/
def readMagnitude (t : Text) : Except Fault Int :=
  match t with
  | [] => .error .emptyNumeral
  | x :: _ =>
    if t = "0" then .ok 0
    else
      match Text.after? "0b" t, Text.after? "0x" t with
      | some digits, _ => readIn 2 digits
      | _, some digits => readIn 16 digits
      | _, _ =>
        if x = '0' then readIn 8 t
        else if t.contains (':' : CodePoint) then
          ((Text.splitOn ':' t).mapM (readIn 10)).map sexagesimalValue
        else readIn 10 t

def readInteger (t : Text) : Except Fault Int := do
  let (negative, body) ← takeSign (withoutLowLines t)
  let magnitude ← readMagnitude body
  pure (if negative then -magnitude else magnitude)

def readRealPart (t : Text) : Except Fault Extended := (Numeral.parseReal t).mapError .numeral

/-- The value of real parts in base sixty, least significant first and each rounded on its own. -/
def sexagesimalSum : (base : Nat) → Extended → List Extended → Extended
  | _, sum, [] => sum
  | base, sum, part :: rest =>
    sexagesimalSum (60 * base) (sum.add (part.mul (.ofNat base))) rest

def readReal (t : Text) : Except Fault Extended := do
  let (negative, body) ← takeSign (toSmallText (withoutLowLines t))
  let magnitude ←
    if body = ".inf" then pure (.infinite false)
    else if body = ".nan" then pure .notNumber
    else if body.contains (':' : CodePoint) then do
      let parts ← (Text.splitOn ':' body).mapM readRealPart
      pure (sexagesimalSum 1 (.finite (.zero false)) parts.reverse)
    else readRealPart body
  pure (if negative then magnitude.negate else magnitude)

def readBoolean (t : Text) : Except Fault Bool :=
  let word := toSmallText t
  if Implicit.spelled ["yes", "true", "on"] word then .ok true
  else if Implicit.spelled ["no", "false", "off"] word then .ok false
  else .error (.notBoolean word)

/-- Microseconds of a fraction of a second; further digits are dropped. -/
def microseconds (fraction : Text) : Nat :=
  let digits := fraction.take 6
  Text.natValue digits * Nat.pow 10 (6 - digits.length)

/-- A zone in minutes from universal time. -/
def zoneMinutes : Option (CodePoint × Text × Text) → Int
  | none => 0
  | some (sign, hours, minutes) =>
    let minutes : Int := Text.natValue hours * 60 + Text.natValue minutes
    if sign = '-' then -minutes else minutes

def readTimestamp (t : Text) : Except Fault Datum :=
  match Implicit.stamp? (Implicit.dropFinalBreak t) with
  | none => .error .notTimestamp
  | some fields =>
    let year := Text.natValue fields.year
    let month := Text.natValue fields.month
    let day := Text.natValue fields.day
    match fields.time with
    | none => ((Date.ofFields year month day).mapError .calendar).map .date
    | some (hour, minute, second, fraction) =>
      ((Moment.ofFields year month day (Text.natValue hour) (Text.natValue minute)
        (Text.natValue second) (microseconds fraction) (fields.zone.map zoneMinutes)).mapError
          .calendar).map .moment

/-- The datum of a scalar with a tag; none for the tags of collections and unknown tags. -/
def Tag.read (tag : Tag) (t : Text) : Except Fault Datum :=
  match tag with
  | .null => .ok .null
  | .boolean => (readBoolean t).map .boolean
  | .integer => (readInteger t).map .integer
  | .real => (readReal t).map .real
  | .text => .ok (.text t)
  | .binary =>
    match Base64.decode? t with
    | some octets => .ok (.bytes octets)
    | none => .error .malformed
  | .timestamp => readTimestamp t
  | _ => .error .malformed

end Conformance.Yaml
