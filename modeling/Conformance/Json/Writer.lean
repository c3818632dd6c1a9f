import Conformance.Datum.Basic

/-!
# Writing JSON text

A style fixes what the grammar leaves open: which code points are escaped, the text after commas and
colons, the order of members and the indentation. Numbers are written in full when whole and with
the fewest digits otherwise.
-/
namespace Conformance.Json

structure Style where
  /-- Escapes every code point outside the printable basic ones. -/
  basicOnly : Bool
  afterComma : Text
  afterColon : Text
  /-- Members in code point order of their names instead of their own order. -/
  sorted : Bool
  /-- Spaces for each level when every element has a line of its own. -/
  indent : Option Nat

/-- Four hexadecimal digits after a backslash and a `u`. -/
def unitEscape (unit : Nat) : Text := "\\u" ++ Text.hexPadded 4 unit

/-- Code units of a code point: a pair for a supplementary one. -/
def escapeUnits (c : CodePoint) : Text :=
  if c.toNat < 0x10000 then unitEscape c.toNat
  else
    unitEscape (0xD800 + (c.toNat - 0x10000) / 0x400)
      ++ unitEscape (0xDC00 + (c.toNat - 0x10000) % 0x400)

/-- A code point inside a string. -/
def writePoint (basicOnly : Bool) (c : CodePoint) : Text :=
  if c = '"' then "\\\""
  else if c = '\\' then "\\\\"
  else if c = '\n' then "\\n"
  else if c = '\r' then "\\r"
  else if c = '\t' then "\\t"
  else if c.toNat = 8 then "\\b"
  else if c.toNat = 12 then "\\f"
  else if c.toNat < 0x20 then unitEscape c.toNat
  else if basicOnly && 0x7E < c.toNat then escapeUnits c
  else [c]

def writeString (basicOnly : Bool) (t : Text) : Text :=
  "\"" ++ t.flatMap (writePoint basicOnly) ++ "\""

/-- Parts between brackets, on one line or on a line each. -/
def enclose (style : Style) (level : Nat) (opening closing : CodePoint) (parts : List Text) :
    Text :=
  match parts, style.indent with
  | [], _ => [opening, closing]
  | parts, none => [opening] ++ Text.join ("," ++ style.afterComma) parts ++ [closing]
  | parts, some width =>
    let line (depth : Nat) : Text := "\n" ++ List.replicate (width * depth) (' ' : CodePoint)
    [opening] ++ line (level + 1) ++ Text.join ("," ++ line (level + 1)) parts ++ line level
      ++ [closing]

/-- Members with their texts, in the order of the style. -/
def arrange (sorted : Bool) (members : List (Text × Text)) : List (Text × Text) :=
  if sorted then members.mergeSort fun a b => !Text.precedes b.1 a.1 else members

/-- A number with the fewest digits, or the word for what is none. -/
def writeReal : Extended → Text
  | .finite value => value.format
  | .infinite negative => if negative then "-Infinity" else "Infinity"
  | .notNumber => "NaN"

mutual

/-- The text of a datum at a level of nesting; only what JSON can hold is meant to be written. -/
def write (style : Style) (level : Nat) : Datum → Text
  | .null => "null"
  | .boolean true => "true"
  | .boolean false => "false"
  | .integer value => Text.ofInt value
  | .real value => writeReal value
  | .text value => writeString style.basicOnly value
  | .sequence items => enclose style level '[' ']' (writeItems style (level + 1) items)
  | .tuple items => enclose style level '[' ']' (writeItems style (level + 1) items)
  | .mapping entries =>
    let members := arrange style.sorted (writeEntries style (level + 1) entries)
    enclose style level '\x7b' '\x7d' <| members.map fun (name, value) =>
      writeString style.basicOnly name ++ ":" ++ style.afterColon ++ value
  | other => other.describe

def writeItems (style : Style) (level : Nat) : List Datum → List Text
  | [] => []
  | item :: rest => write style level item :: writeItems style level rest

def writeEntries (style : Style) (level : Nat) : List (Datum × Datum) → List (Text × Text)
  | [] => []
  | (key, value) :: rest =>
    (match key with
      | .text name => name
      | other => other.describe, write style level value) :: writeEntries style level rest

end

/-- One line with spaces after commas and colons, members sorted, text as it is. -/
def plainSorted : Style := ⟨false, " ", " ", true, none⟩

/-- One line with spaces after commas and colons, members sorted, basic characters alone. -/
def basicSorted : Style := ⟨true, " ", " ", true, none⟩

/-- One line without spaces, members in their order. -/
def compact : Style := ⟨false, "", "", false, none⟩

/-- Elements on lines of their own, indented by a width for each level. -/
def indented (width : Nat) : Style := ⟨false, "", " ", false, some width⟩

end Conformance.Json
