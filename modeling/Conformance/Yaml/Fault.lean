import Conformance.Datum.Calendar
import Conformance.Number.Literal

/-!
# Faults of YAML texts

A text that breaks a rule of the notation is simply malformed. A well-formed text may still tag a
scalar as something that it does not denote, and each such case has its own cause.
-/
namespace Conformance.Yaml

inductive Fault where
  | malformed
  /-- An escape names a number past the last code point. -/
  | noCodePoint (number : Nat)
  | numeral (error : NumeralError)
  /-- A number was expected where there is nothing but a sign. -/
  | emptyNumeral
  | notBoolean (word : Text)
  | notTimestamp
  /-- A time stamp was expected where a mapping has a value of its own. -/
  | mappedTimestamp
  | calendar (error : CalendarError)
  /-- A mapping stands for the value of a member that stands for the mapping again. -/
  | endless
deriving DecidableEq

def Fault.message : Fault → Text
  | .malformed => "Invalid YAML"
  | .noCodePoint number =>
    if number < Nat.pow 2 31 then "chr() arg not in range(0x110000)"
    else "Python int too large to convert to C int"
  | .numeral error => error.message
  | .emptyNumeral => "string index out of range"
  | .notBoolean word => word.quoted
  | .notTimestamp => "'NoneType' object has no attribute 'groupdict'"
  | .mappedTimestamp => "expected string or bytes-like object, got 'list'"
  | .calendar error => error.message
  | .endless => "maximum recursion depth exceeded"

end Conformance.Yaml
