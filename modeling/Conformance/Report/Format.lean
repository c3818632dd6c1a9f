import Conformance.Files.Path
import Conformance.Report.ToJson

/-!
# Formats of reports

A report is shown as lines of text or as indented JSON. A file takes JSON when its suffix asks for
it and text otherwise.
-/
namespace Conformance

inductive ReportFormat where
  | text
  | json
deriving DecidableEq

namespace ReportFormat

def all : List ReportFormat := [.text, .json]

def name : ReportFormat → Text
  | .text => "text"
  | .json => "json"

def ofName? (name : Text) : Option ReportFormat := all.find? fun format => format.name = name

/-- The format of a file. -/
def forPath (path : FilePath) : ReportFormat := if path.hasSuffix ".json" then .json else .text

end ReportFormat

/-- A report in a format. -/
def Report.dump (r : Report) : ReportFormat → Except EncodeError Text
  | .text => .ok r.render
  | .json => r.toJson Report.defaultIndent

end Conformance
