import Conformance.Report.Format
import Conformance.Session.Basic

/-!
# Stored reports

A report is saved in the format that the file asks for, with a line feed at its end. A text report
that has no UTF-8 leaves an empty file behind. Only reports in JSON can be loaded.
-/
namespace Conformance.Session

/-- The format that a caller names. -/
def formatOf (given : Datum) : Except Failure ReportFormat :=
  let named := match given with
    | .text name => ReportFormat.ofName? name
    | _ => none
  match named with
  | some format => .ok format
  | none => .error (.unknownFormat given)

/-- A report in a format. -/
def dump (report : Report) (format : ReportFormat) : Session Text :=
  answer ((report.dump format).mapError .unwritable)

/-- Saves a report and tells the format. -/
def saveReport (report : Report) (path : FilePath) : Session ReportFormat := do
  let format := ReportFormat.forPath path
  let content ← dump report format
  match Encoding.encodeStrict (content ++ "\n") with
  | .ok bytes => rearrange fun files => files.write path bytes
  | .error error =>
    rearrange fun files => files.write path []
    answer (.error (.unencodable error))
  pure format

/-- Loads a report that was saved in JSON. -/
def loadReport (path : FilePath) : Session Report := do
  match ReportFormat.forPath path with
  | .text => answer (.error (.notStored path.text))
  | .json =>
    let content ← readText path
    answer ((Report.ofJson (.text content)).mapError .report)

end Conformance.Session
