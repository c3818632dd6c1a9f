import Conformance.Datum.Basic
import Conformance.Document.Basic
import Conformance.Number.Rounding

/-!
# Documents from decoded data

A datum is a document when it consists of nulls, booleans, texts, numbers with a finite nearest
binary64 number, sequences, and mappings whose keys are texts. Otherwise its first fault in reading
order is given. Nesting is limited by a number of levels, of which a sequence takes two and a
mapping one; a container inside itself is nested without end.
-/
namespace Conformance

/-- Why a datum is no document. -/
inductive DatumError where
  | notFinite (number : Extended)
  | outOfRange
  | keyNotText (key : Datum)
  /-- A key that is no text has a number in it with too many digits to be shown. -/
  | keyTooLong
  | unsupported (kindName : Text)
  | tooDeep

namespace DatumError

def message : DatumError → Text
  | .notFinite number => "Number is not finite: " ++ number.format
  | .outOfRange => "Number out of range: int too large to convert to float"
  | .keyNotText key => "Object key is not a string: " ++ key.describe
  | .keyTooLong => Datum.tooLong
  | .unsupported kindName => "Unsupported value of type " ++ kindName
  | .tooDeep => "maximum recursion depth exceeded"

end DatumError

namespace Document

/-- The levels of nesting that a conversion may use. -/
def maxNesting : Nat := 990

mutual

/-- The document that a datum denotes, within a number of levels. -/
def ofDatumWithin (levels : Nat) : Datum → Except DatumError Document
  | .null => .ok .null
  | .boolean value => .ok (.boolean value)
  | .integer value =>
    match Binary64.ofInt? value with
    | some x => .ok (.number x)
    | none => .error .outOfRange
  | .real (.finite x) => .ok (.number x)
  | .real x => .error (.notFinite x)
  | .text value => .ok (.string value)
  | .sequence items =>
    if levels < 2 then .error .tooDeep
    else (ofItems (levels - 2) items).map .array
  | .tuple items =>
    if levels < 2 then .error .tooDeep
    else (ofItems (levels - 2) items).map .array
  | .mapping entries =>
    if levels < 1 then .error .tooDeep
    else (ofEntries (levels - 1) entries).map .object
  | .enclosing => .error .tooDeep
  | other => .error (.unsupported other.kindName)

def ofItems (levels : Nat) : List Datum → Except DatumError (List Document)
  | [] => .ok []
  | item :: rest =>
    match ofDatumWithin levels item with
    | .error fault => .error fault
    | .ok element =>
      match ofItems levels rest with
      | .error fault => .error fault
      | .ok elements => .ok (element :: elements)

def ofEntries (levels : Nat) : List (Datum × Datum) → Except DatumError (Named Document)
  | [] => .ok []
  | (key, value) :: rest =>
    match key with
    | .text name =>
      match ofDatumWithin levels value with
      | .error fault => .error fault
      | .ok member =>
        match ofEntries levels rest with
        | .error fault => .error fault
        | .ok members => .ok ((name, member) :: members)
    | _ => .error (if key.isShowable then .keyNotText key else .keyTooLong)

end

def ofDatum (datum : Datum) : Except DatumError Document := ofDatumWithin maxNesting datum

mutual

/-- The datum of a document; numbers with a whole value become whole numbers. -/
def toDatum : Document → Datum
  | .null => .null
  | .boolean value => .boolean value
  | .number value =>
    if value.isInteger then .integer value.toInt else .real (.finite value)
  | .string value => .text value
  | .array elements => .sequence (toItems elements)
  | .object members => .mapping (toEntries members)

def toItems : List Document → List Datum
  | [] => []
  | element :: rest => toDatum element :: toItems rest

def toEntries : Named Document → List (Datum × Datum)
  | [] => []
  | (name, value) :: rest => (.text name, toDatum value) :: toEntries rest

end
end Document
end Conformance
