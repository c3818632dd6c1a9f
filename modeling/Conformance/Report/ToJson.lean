import Conformance.Json.Writer
import Conformance.Report.Basic
import Conformance.Text.Encoding

/-!
# Reports as JSON

A report is an object of its version, its status and its violations; every field of a violation is
written, a missing one as null. A report with a lone surrogate in one of its texts cannot be written,
since what is written has to fit into UTF-8; the first such text, in the order of writing, is the
one that fails.
-/
namespace Conformance

def Segment.toDatum : Segment → Datum
  | .name value => .text value
  | .index value => .integer value

namespace Violation

def toDatum (v : Violation) : Datum :=
  .mapping [
    (.text "path", .sequence (v.path.map Segment.toDatum)),
    (.text "kind", .text v.kind.name),
    (.text "detail", .text v.detail),
    (.text "rule", Datum.ofText? v.rule),
    (.text "expected", Datum.ofText? v.expected),
    (.text "actual", Datum.ofText? v.actual)]

/-- The texts of a violation in the order of writing. -/
def texts (v : Violation) : List Text :=
  (v.path.filterMap fun step =>
      match step with
      | .name value => some value
      | .index _ => none)
    ++ [v.detail] ++ v.rule.toList ++ v.expected.toList ++ v.actual.toList

end Violation

namespace Report

def toDatum (r : Report) : Datum :=
  .mapping [
    (.text "version", .text r.version),
    (.text "status", .text r.status.name),
    (.text "errors", .sequence (r.violations.map Violation.toDatum))]

/-- The texts of a report in the order of writing. -/
def texts (r : Report) : List Text := r.version :: r.violations.flatMap Violation.texts

/-- The indentation of a report, unless the caller wants another. -/
def defaultIndent : Option Nat := some 2

def jsonStyle : Option Nat → Json.Style
  | none => Json.compact
  | some width => Json.indented width

/-- The JSON of a report: on one line, or indented by a width for each level. -/
def toJson (r : Report) (indent : Option Nat) : Except EncodeError Text :=
  match Encoding.firstUnencodable r.texts with
  | some error => .error error
  | none => .ok (Json.write (jsonStyle indent) 0 r.toDatum)

end Report
end Conformance
