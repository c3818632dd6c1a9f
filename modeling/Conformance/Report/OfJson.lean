import Conformance.Document.OfJson
import Conformance.Report.Basic

/-!
# Reports from JSON

A stored report is read member by member. All that is wrong with it is told at once, in the order of
the fields; text that is no JSON is wrong as a whole. Members that a report does not have are passed
over, and of members with one name the last counts. A version, the violations and the path of a
violation may be missing; so may the texts that only some violations have.

An index may also be spelled as a boolean or as a real number without a fraction.
-/
namespace Conformance

/-- What is wrong with a part of a stored report. -/
inductive ReportFault where
  | json
  | notText
  | missing
  | notObject
  | notList
  | notPath
  | unknownName
  | notIndex
  | fraction
  | notFinite
  | indexTooLarge
  | surrogate
deriving DecidableEq

/-- A fault and the steps to the part that has it. -/
structure ReportError where
  place : Path
  fault : ReportFault
deriving DecidableEq

namespace ReportFault

/-- The code of a fault in a machine-readable answer. -/
def code : ReportFault → Text
  | .json => "json_invalid"
  | .notText => "string_type"
  | .missing => "missing"
  | .notObject => "model_type"
  | .notList => "list_type"
  | .notPath => "tuple_type"
  | .unknownName => "enum"
  | .notIndex => "int_type"
  | .fraction => "int_from_float"
  | .notFinite => "finite_number"
  | .indexTooLarge => "int_parsing_size"
  | .surrogate => "string_unicode"

end ReportFault

namespace Report

/-- A part that was read, or all that is wrong with it. -/
abbrev Part (α : Type) := Except (List ReportError) α

/-- One fault. -/
def wrong {α : Type} (place : Path) (fault : ReportFault) : Part α := .error [⟨place, fault⟩]

/-- Two parts together; what is wrong with either is wrong with both. -/
def both {α β : Type} (first : Part α) (second : Part β) : Part (α × β) :=
  match first, second with
  | .ok a, .ok b => .ok (a, b)
  | .error e, .ok _ => .error e
  | .ok _, .error e => .error e
  | .error e, .error e' => .error (e ++ e')

def readText (place : Path) : Datum → Part Text
  | .text value => .ok value
  | _ => wrong place .notText

def readOptionalText (place : Path) : Datum → Part (Option Text)
  | .null => .ok none
  | .text value => .ok (some value)
  | _ => wrong place .notText

/-- A value by its name. -/
def readName {α : Type} (ofName? : Text → Option α) (place : Path) : Datum → Part α
  | .text name =>
    match ofName? name with
    | some value => .ok value
    | none => wrong place .unknownName
  | _ => wrong place .unknownName

/-- A real number without a fraction, if it is not too large to be an index. -/
def readWholeReal : Extended → Except ReportFault Int
  | .finite value =>
    if !value.isInteger then .error .fraction
    else if value.toInt.natAbs < Nat.pow 2 63 then .ok value.toInt
    else .error .indexTooLarge
  | _ => .error .notFinite

def readIndex : Datum → Except ReportFault Int
  | .integer value => .ok value
  | .boolean value => .ok (if value then 1 else 0)
  | .real value => readWholeReal value
  | _ => .error .notIndex

/-- One step of a path. What is neither a name nor an index is told to be wrong as either. -/
def readSegment (place : Path) : Datum → Part Segment
  | .text value => .ok (.name value)
  | other =>
    match readIndex other with
    | .ok value => .ok (.index value)
    | .error fault =>
      .error [⟨place ++ [.name "int"], fault⟩, ⟨place ++ [.name "str"], .notText⟩]

/-- Every item of a list by its index. -/
def readItems {α : Type} (read : Path → Datum → Part α) (place : Path) (index : Nat) :
    List Datum → Part (List α)
  | [] => .ok []
  | item :: rest =>
    (both (read (place ++ [.index index]) item) (readItems read place (index + 1) rest)).map
      fun (first, others) => first :: others

def readPath (place : Path) : Datum → Part Path
  | .sequence steps => readItems readSegment place 0 steps
  | _ => wrong place .notPath

/-- A field by its name, or what stands for it when it is missing. -/
def readField {α : Type} (read : Path → Datum → Part α) (absent : Path → Part α) (place : Path)
    (entries : List (Datum × Datum)) (name : Text) : Part α :=
  match Datum.lookup? name entries with
  | some value => read (place ++ [.name name]) value
  | none => absent (place ++ [.name name])

/-- A field that has to be there. -/
def required {α : Type} (place : Path) : Part α := wrong place .missing

def readViolation (place : Path) : Datum → Part Violation
  | .mapping entries =>
    let path := readField readPath (fun _ => .ok []) place entries "path"
    let kind := readField (readName ViolationKind.ofName?) required place entries "kind"
    let detail := readField readText required place entries "detail"
    let rule := readField readOptionalText (fun _ => .ok none) place entries "rule"
    let expected := readField readOptionalText (fun _ => .ok none) place entries "expected"
    let actual := readField readOptionalText (fun _ => .ok none) place entries "actual"
    (both path (both kind (both detail (both rule (both expected actual))))).map
      fun (path, kind, detail, rule, expected, actual) =>
        ⟨path, kind, detail, rule, expected, actual⟩
  | _ => wrong place .notObject

def readViolations (place : Path) : Datum → Part (List Violation)
  | .sequence items => readItems readViolation place 0 items
  | _ => wrong place .notList

/-- The report that a datum denotes. -/
def ofDatum : Datum → Part Report
  | .mapping entries =>
    let version := readField readText (fun _ => .ok currentVersion) [] entries "version"
    let status := readField (readName Status.ofName?) required [] entries "status"
    let violations := readField readViolations (fun _ => .ok []) [] entries "errors"
    (both version (both status violations)).map fun (version, status, violations) =>
      ⟨version, status, violations⟩
  | _ => wrong [] .notObject

/-- The report of a stored text. -/
def ofJson (source : Source) : Part Report :=
  let content : Except ReportFault Text :=
    match source with
    | .text content => if content.any CodePoint.isSurrogate then .error .surrogate else .ok content
    | .bytes content => (Encoding.decodeStrict content).mapError fun _ => .json
  match content with
  | .error fault => wrong [] fault
  | .ok content =>
    match Json.decode .report content with
    | .error _ => wrong [] .json
    | .ok datum => ofDatum datum

end Report
end Conformance
