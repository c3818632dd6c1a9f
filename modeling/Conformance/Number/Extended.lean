import Conformance.Number.Shortest

/-!
# Numbers with infinities

What a numeral outside a document may denote: a finite number, an infinity or no number at all.
-/
namespace Conformance

inductive Extended where
  | finite (value : Binary64)
  | infinite (negative : Bool)
  | notNumber
deriving DecidableEq

namespace Extended

/-- A rounded quotient, infinite when it is past the greatest finite number. -/
def ofRounded (negative : Bool) : Option Binary64 → Extended
  | some value => .finite value
  | none => .infinite negative

/-- Order of values; nothing is below or above what is no number. -/
def less : Extended → Extended → Bool
  | .finite x, .finite y => x.less y
  | .finite _, .infinite negative => !negative
  | .infinite negative, .finite _ => negative
  | .infinite a, .infinite b => a && !b
  | _, _ => false

def format : Extended → Text
  | .finite value => value.format
  | .infinite true => "-inf"
  | .infinite false => "inf"
  | .notNumber => "nan"

/-- A finite whole number is written in full without a point. -/
def formatPlain : Extended → Text
  | .finite value => value.formatPlain
  | other => other.format

end Extended
end Conformance
