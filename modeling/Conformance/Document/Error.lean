import Conformance.Document.OfDatum
import Conformance.Json.Reader
import Conformance.Yaml.Content

/-!
# Faults of inputs

An input that is no document fails with one cause, worded for the reader of the report.
-/
namespace Conformance

/-- Why an input is no document. -/
inductive DocumentError where
  | json (error : Json.Error)
  /-- Well-formed JSON nested too deeply to hold. -/
  | jsonTooDeep
  | yaml (fault : Yaml.Fault)
  | datum (error : DatumError)

namespace DocumentError

def message : DocumentError → Text
  | .json error => "Invalid JSON: " ++ error.message
  | .jsonTooDeep => "Invalid JSON: nesting too deep"
  | .yaml fault => fault.message
  | .datum error => error.message

end DocumentError
end Conformance
