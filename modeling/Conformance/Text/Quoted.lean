import Conformance.Text.Numeral
import Conformance.Unicode.Printable

/-!
# Quoted text

Text inside a message stands between single quotes, or between double quotes when it holds single
ones and no double ones. Backslashes, the quote in use and code points that are not printable are
escaped, so a quoted text stays on one line.
-/
namespace Conformance.Text

/-- A number with a fixed count of hexadecimal digits. -/
def hexPadded (width n : Nat) : Text := padZeros width (ofNatBase 16 n)

/-- The escape of a code point that cannot be shown: the shortest of the three widths. -/
def hexEscape (c : CodePoint) : Text :=
  if c.toNat < 0x100 then "\\x" ++ hexPadded 2 c.toNat
  else if c.toNat < 0x10000 then "\\u" ++ hexPadded 4 c.toNat
  else "\\U" ++ hexPadded 8 c.toNat

/-- One code point inside the given quotes. -/
def quotedPoint (quote c : CodePoint) : Text :=
  if c = quote ∨ c = '\\' then ['\\', c]
  else if c = '\n' then "\\n"
  else if c = '\r' then "\\r"
  else if c = '\t' then "\\t"
  else if Unicode.isPrintable c then [c]
  else hexEscape c

/-- The quotes for a text: single ones unless it holds only single ones. -/
def quoteMark (t : Text) : CodePoint :=
  if t.contains '\'' && !t.contains '"' then '"' else '\''

def quoted (t : Text) : Text :=
  let mark := quoteMark t
  [mark] ++ t.flatMap (quotedPoint mark) ++ [mark]

/-- Bytes in quotes after a `b`; all but the printable basic ones are escaped. -/
def quotedBytes (bytes : List UInt8) : Text :=
  let points := bytes.map fun b => CodePoint.ofNat b.toNat
  let mark := quoteMark points
  let point (c : CodePoint) : Text :=
    if c.toNat < 127 then quotedPoint mark c else hexEscape c
  "b" ++ [mark] ++ points.flatMap point ++ [mark]

end Conformance.Text
