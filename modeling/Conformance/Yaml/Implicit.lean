import Conformance.Yaml.Cursor
import Conformance.Yaml.Node

/-!
# What plain scalars denote

The form of a plain scalar decides its tag: null, a truth value, a real or whole number, a time
stamp, a merge key, the key of a value, or else text. A line feed at the end does not matter.
-/
namespace Conformance.Yaml.Implicit

/-- What is left after as many code points as are of a kind, at least one. -/
def oneOrMore? (kind : CodePoint → Bool) : Text → Option Text
  | [] => none
  | x :: rest => if kind x then some (rest.dropWhile kind) else none

/-- What is left after a code point of a kind. -/
def one? (kind : CodePoint → Bool) : Text → Option Text
  | [] => none
  | x :: rest => if kind x then some rest else none

def isDigitOrLow (c : CodePoint) : Bool := c.isDigit || c = '_'

def isSign (c : CodePoint) : Bool := c = '+' || c = '-'

def dropSign (t : Text) : Text := (one? isSign t).getD t

/-- What is left after a digit and further digits and low lines. -/
def digits? (t : Text) : Option Text := (one? CodePoint.isDigit t).map (·.dropWhile isDigitOrLow)

def spelled (words : List String) (t : Text) : Bool := words.any fun word => Text.ofString word = t

def isNull (t : Text) : Bool := spelled ["", "~", "null", "Null", "NULL"] t

def isBoolean (t : Text) : Bool :=
  spelled ["yes", "Yes", "YES", "no", "No", "NO", "true", "True", "TRUE", "false", "False", "FALSE",
    "on", "On", "ON", "off", "Off", "OFF"] t

/-- Parts of at most two digits, below sixty, each after a colon, and what is left. -/
def sexagesimalParts : Nat → Text → Text
  | 0, t => t
  | fuel + 1, t =>
    match t with
    | x :: a :: b :: rest =>
      if x = ':' ∧ a.isDigit then
        if b.isDigit then
          if a.digitValue < 6 then sexagesimalParts fuel rest else t
        else sexagesimalParts fuel (b :: rest)
      else t
    | [x, a] => if x = ':' ∧ a.isDigit then [] else t
    | t => t

/-- What is left after at least one sexagesimal part. -/
def sexagesimal? (t : Text) : Option Text :=
  let rest := sexagesimalParts t.length t
  if rest.length < t.length then some rest else none

/-- An exponent with its sign, or nothing. -/
def isExponent (t : Text) : Bool :=
  t.isEmpty ||
    (match one? (fun c => c = 'e' || c = 'E') t with
      | none => false
      | some afterLetter =>
        match one? isSign afterLetter with
        | none => false
        | some digits => oneOrMore? CodePoint.isDigit digits = some [])

def isDecimal (t : Text) : Bool :=
  match digits? (dropSign t) with
  | none => false
  | some rest =>
    match one? (· = '.') rest with
    | none => false
    | some fraction => isExponent (fraction.dropWhile isDigitOrLow)

def isFraction (t : Text) : Bool :=
  match one? (· = '.') t with
  | none => false
  | some rest =>
    match digits? rest with
    | none => false
    | some rest => isExponent rest

def isSexagesimalReal (t : Text) : Bool :=
  match (digits? (dropSign t)).bind sexagesimal? with
  | none => false
  | some rest =>
    match one? (· = '.') rest with
    | none => false
    | some fraction => fraction.all isDigitOrLow

def isReal (t : Text) : Bool :=
  isDecimal t || isFraction t || isSexagesimalReal t
    || spelled [".inf", ".Inf", ".INF"] (dropSign t) || spelled [".nan", ".NaN", ".NAN"] t

/-- The letter that follows a zero, and then digits of a base and low lines. -/
def isBased (letter : CodePoint) (digit : CodePoint → Bool) (t : Text) : Bool :=
  match t with
  | zero :: x :: rest =>
    zero = '0' && x = letter && oneOrMore? (fun c => digit c || c = '_') rest = some []
  | _ => false

def isOctalNumeral (t : Text) : Bool :=
  match t with
  | zero :: rest =>
    zero = '0' && oneOrMore? (fun c => (48 ≤ c.toNat && c.toNat ≤ 55) || c = '_') rest = some []
  | [] => false

def startsPositive : Text → Bool
  | [] => false
  | x :: _ => x.isDigit && x ≠ '0'

def isInteger (t : Text) : Bool :=
  let body := dropSign t
  isBased 'b' (fun c => c = '0' || c = '1') body || isOctalNumeral body || body = "0"
    || (startsPositive body && digits? body = some [])
    || isBased 'x' (fun c => c.hexValue?.isSome) body
    || (startsPositive body && (digits? body).bind sexagesimal? = some [])

/-! ### Time stamps -/

/-- The fields of a time stamp as they are written. -/
structure StampFields where
  year : Text
  month : Text
  day : Text
  /-- Hour, minute, second and fraction of a second, if a time is given. -/
  time : Option (Text × Text × Text × Text)
  /-- The zone, which is empty if none is given: `Z`, or sign, hours and minutes. -/
  zone : Option (Option (CodePoint × Text × Text))

/-- One or two digits, and what is left. -/
def upToTwoDigits? (t : Text) : Option (Text × Text) :=
  let run := (t.take 2).takeWhile CodePoint.isDigit
  if run.isEmpty then none else some (run, t.drop run.length)

/-- So many digits, and what is left. -/
def exactDigits? (count : Nat) (t : Text) : Option (Text × Text) :=
  let run := (t.take count).takeWhile CodePoint.isDigit
  if run.length = count then some (run, t.drop count) else none

def after? (mark : CodePoint) (t : Text) : Option Text := one? (· = mark) t

/-- A zone at the end of a time stamp, or nothing. -/
def zone? (t : Text) : Option (Option (Option (CodePoint × Text × Text))) :=
  if t.isEmpty then some none
  else
    match t.dropWhile isSpaceOrTab with
    | [] => none
    | x :: rest =>
      if x = 'Z' then (if rest.isEmpty then some (some none) else none)
      else if isSign x then do
        let (hours, rest) ← upToTwoDigits? rest
        if rest.isEmpty then some (some (some (x, hours, [])))
        else
          let (minutes, rest) ← exactDigits? 2 (← after? ':' rest)
          if rest.isEmpty then some (some (some (x, hours, minutes))) else none
      else none

/-- The time and zone after a date. -/
def time? (t : Text) :
    Option ((Text × Text × Text × Text) × Option (Option (CodePoint × Text × Text))) := do
  let (hour, rest) ← upToTwoDigits? t
  let (minute, rest) ← exactDigits? 2 (← after? ':' rest)
  let (second, rest) ← exactDigits? 2 (← after? ':' rest)
  let (fraction, rest) : Text × Text := match after? '.' rest with
    | some digits => (digits.takeWhile CodePoint.isDigit, digits.dropWhile CodePoint.isDigit)
    | none => ([], rest)
  pure ((hour, minute, second, fraction), ← zone? rest)

/-- What separates a date from a time. -/
def dropTimeMark? (t : Text) : Option Text :=
  match t with
  | [] => none
  | x :: rest =>
    if x = 'T' ∨ x = 't' then some rest
    else if isSpaceOrTab x then some (rest.dropWhile isSpaceOrTab)
    else none

/-- The fields of a time stamp: a date, or a date and a time of day. -/
def stamp? (t : Text) : Option StampFields := do
  let (year, rest) ← exactDigits? 4 t
  let (month, rest) ← upToTwoDigits? (← after? '-' rest)
  let (day, rest) ← upToTwoDigits? (← after? '-' rest)
  if rest.isEmpty then pure ⟨year, month, day, none, none⟩
  else
    let (time, zone) ← time? (← dropTimeMark? rest)
    pure ⟨year, month, day, some time, zone⟩

/-- A plain date needs two digits for month and day. -/
def isTimestamp (t : Text) : Bool :=
  match stamp? t with
  | none => false
  | some fields => fields.time.isSome || (fields.month.length = 2 && fields.day.length = 2)

/-- The text without one line feed at the end. -/
def dropFinalBreak (t : Text) : Text :=
  if t.getLast? = some ('\n' : CodePoint) then t.dropLast else t

end Implicit

/-- The tag of a plain scalar. -/
def Tag.ofPlain (content : Text) : Tag :=
  let t := Implicit.dropFinalBreak content
  if t.isEmpty then (if content.isEmpty then .null else .text)
  else if Implicit.isBoolean t then .boolean
  else if Implicit.isReal t then .real
  else if Implicit.isInteger t then .integer
  else if t = "<<" then .merge
  else if Implicit.isNull t then .null
  else if Implicit.isTimestamp t then .timestamp
  else if t = "=" then .value
  else if t = "!" ∨ t = "&" ∨ t = "*" then .unknown
  else .text

end Conformance.Yaml
