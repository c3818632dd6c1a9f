import Conformance.Number.Literal
import Conformance.Text.Encoding
import Conformance.Text.Position

/-!
# Faults of JSON text

A fault of the grammar is placed by its offset in code points and by line and column, both counted
from one. Other faults concern a whole literal or the nesting and carry no place.
-/
namespace Conformance.Json

/-- What the grammar does not allow. -/
inductive Fault where
  | expectedValue
  | expectedName
  | expectedColon
  | expectedComma
  | extraData
  | unterminatedString
  | controlCharacter
  | unknownEscape
  | brokenUnicodeEscape
  | byteOrderMark
deriving DecidableEq

/-- A container whose nesting is limited. -/
inductive Container where
  | array
  | object
deriving DecidableEq

inductive Error where
  | malformed (fault : Fault) (place : Position)
  /-- A word for a number that is none, such as `NaN`. -/
  | constant (word : Text)
  | outOfRange (literal : Text)
  | tooManyDigits (count : Nat)
  | tooDeep (container : Container)
  | undecodable (error : DecodeError)
deriving DecidableEq

namespace Fault

def message : Fault → Text
  | .expectedValue => "Expecting value"
  | .expectedName => "Expecting property name enclosed in double quotes"
  | .expectedColon => "Expecting ':' delimiter"
  | .expectedComma => "Expecting ',' delimiter"
  | .extraData => "Extra data"
  | .unterminatedString => "Unterminated string starting at"
  | .controlCharacter => "Invalid control character at"
  | .unknownEscape => "Invalid \\escape"
  | .brokenUnicodeEscape => "Invalid \\uXXXX escape"
  | .byteOrderMark => "Unexpected UTF-8 BOM (decode using utf-8-sig)"

end Fault

namespace Error

def message : Error → Text
  | .malformed fault place =>
    fault.message ++ ": line " ++ Text.ofNat place.line ++ " column " ++ Text.ofNat place.column
      ++ " (char " ++ Text.ofNat place.offset ++ ")"
  | .constant word => "non-standard JSON constant " ++ word
  | .outOfRange literal => "number out of range: " ++ literal
  | .tooManyDigits count => (NumeralError.tooManyDigits count).message
  | .tooDeep container =>
    let name : Text := match container with
      | .array => "array"
      | .object => "object"
    "maximum recursion depth exceeded while decoding a JSON " ++ name ++ " from a unicode string"
  | .undecodable error => error.message

end Error
end Conformance.Json
