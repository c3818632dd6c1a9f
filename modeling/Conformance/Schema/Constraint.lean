import Conformance.Document.Equality
import Conformance.Document.OfDatum
import Conformance.Json.Writer
import Conformance.Pattern.Basic
import Conformance.Report.Basic

/-!
# Constraints on single values

A constraint looks at one value. It applies to one kind of value or to all, and says what is wrong
with a value that fails. Whole numbers are shown without a point; values of an enumeration are shown
as JSON text with sorted members, so equal values are shown alike.

A value is shown whatever its depth. The limit on recursion, which `Document.ofDatum` has as
`Document.maxNesting`, is left out of `Document.dump`. No number of a document has so many digits
that showing it could fail.
-/
namespace Conformance

/-- A rule of the caller's own: values that fail the predicate are reported under its name. -/
structure Check where
  name : Text
  predicate : Document → Bool
  message : Text
  /-- The only kind of value that is looked at. -/
  kind : Option Kind

namespace Check

def defaultMessage : Text := "custom check failed"

/-- Accepts a number that is an even whole number. -/
def isEven : Document → Bool
  | .number value => value.isInteger && value.toInt % 2 = 0
  | _ => false

/-- Accepts all but empty strings, arrays and objects. -/
def isNonempty : Document → Bool
  | .string value => !value.isEmpty
  | .array elements => !elements.isEmpty
  | .object members => !members.isEmpty
  | _ => true

end Check

/-- A limit may be any whole number, or any number and the infinities; limits that come from a
schema are counts and finite numbers. -/
inductive Constraint where
  | minLength (limit : Int)
  | maxLength (limit : Int)
  | pattern (pattern : Pattern)
  | minimum (limit : Extended)
  | maximum (limit : Extended)
  | minItems (limit : Int)
  | maxItems (limit : Int)
  | enum (values : List Document)
  | check (check : Check)

/-- A document as one line of JSON text with sorted members. -/
def Document.dump (d : Document) : Text := Json.write Json.plainSorted 0 d.toDatum

namespace Constraint

def rule : Constraint → Text
  | .minLength _ => "minLength"
  | .maxLength _ => "maxLength"
  | .pattern _ => "pattern"
  | .minimum _ => "minimum"
  | .maximum _ => "maximum"
  | .minItems _ => "minItems"
  | .maxItems _ => "maxItems"
  | .enum _ => "enum"
  | .check c => c.name

/-- The only kind of value that a constraint looks at. -/
def appliesTo : Constraint → Option Kind
  | .minLength _ | .maxLength _ | .pattern _ => some .string
  | .minimum _ | .maximum _ => some .number
  | .minItems _ | .maxItems _ => some .array
  | .enum _ => none
  | .check c => c.kind

def accepts (c : Constraint) (kind : Kind) : Bool :=
  match c.appliesTo with
  | none => true
  | some wanted => wanted = kind

def violationKind : Constraint → ViolationKind
  | .enum _ => .invalidEnumValue
  | _ => .constraintViolation

/-- The words for a bound that a length or number misses. -/
def missed (rule subject found relation limit : Text) : Text :=
  rule ++ ": " ++ subject ++ found ++ relation ++ limit

/-- What is wrong with a value; nothing if it passes or is of another kind. -/
def failure? : Constraint → Document → Option Text
  | .minLength limit, .string value =>
    if value.length < limit then
      some (missed "minLength" "length " (Text.ofNat value.length) " is less than "
        (Text.ofInt limit))
    else none
  | .maxLength limit, .string value =>
    if limit < value.length then
      some (missed "maxLength" "length " (Text.ofNat value.length) " is greater than "
        (Text.ofInt limit))
    else none
  | .pattern p, .string value =>
    if p.search value then none
    else some ("pattern: " ++ value.quoted ++ " does not match " ++ p.source.quoted)
  | .minimum limit, .number value =>
    if Extended.less (.finite value) limit then
      some (missed "minimum" "" value.formatPlain " is less than " limit.formatPlain)
    else none
  | .maximum limit, .number value =>
    if limit.less (.finite value) then
      some (missed "maximum" "" value.formatPlain " is greater than " limit.formatPlain)
    else none
  | .minItems limit, .array elements =>
    if elements.length < limit then
      some (missed "minItems" "" (Text.ofNat elements.length) " items is fewer than "
        (Text.ofInt limit))
    else none
  | .maxItems limit, .array elements =>
    if limit < elements.length then
      some (missed "maxItems" "" (Text.ofNat elements.length) " items is more than "
        (Text.ofInt limit))
    else none
  | .enum values, value =>
    if values.any value.structurallyEqual then none
    else
      some ("enum: " ++ value.dump ++ " is not one of ["
        ++ Text.join ", " (values.map Document.dump) ++ "]")
  | .check c, value => if c.predicate value then none else some (c.name ++ ": " ++ c.message)
  | _, _ => none

end Constraint
end Conformance
