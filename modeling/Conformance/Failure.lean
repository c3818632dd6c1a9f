import Conformance.Document.Notation
import Conformance.Files.Error
import Conformance.Files.Path
import Conformance.Logging.Call
import Conformance.Report.OfJson
import Conformance.Schema.Error
import Conformance.Validation.Settings

/-!
# Failures

Everything that can keep a request from its answer, with the words for it and the class of failure
that a log line or an answer names. Classes belong to families: a command answers for some families
and lets the others through.
-/
namespace Conformance

inductive Failure where
  | document (error : DocumentError)
  | compile (error : CompileError)
  | settings (error : SettingsError)
  | unknownNotation (name : Text)
  | file (error : FileError)
  /-- A path is lost in a circle of links. -/
  | circular (path : FilePath)
  /-- There is no schema at a path. -/
  | noSchema (path : Text)
  /-- The bytes of a text are no UTF-8. -/
  | undecodable (error : DecodeError)
  /-- A text to be written has no UTF-8. -/
  | unencodable (error : EncodeError)
  /-- A report has no JSON. -/
  | unwritable (error : EncodeError)
  /-- A stored report is malformed. -/
  | report (errors : List ReportError)
  /-- Only reports in JSON can be read back. -/
  | notStored (path : Text)
  | unknownFormat (given : Datum)
  /-- A logger cannot be called with the given fields. -/
  | logging (fault : Logging.CallFault)

/-- What a failure has to do with. -/
inductive FailureFamily where
  /-- A file cannot be read or written. -/
  | files
  /-- A document or schema is malformed. -/
  | inputs
  /-- Some other value does not fit. -/
  | values
  /-- Nothing that a caller is told to expect. -/
  | unforeseen
deriving DecidableEq

namespace Failure

def message : Failure → Text
  | .document error => error.message
  | .compile (.schema error) => error.message
  | .compile (.pattern error) => error.message
  | .settings error => error.message
  | .unknownNotation name => "Unsupported schema format: " ++ name
  | .file error => error.message
  | .circular path => "Symlink loop from " ++ path.text.quoted
  | .noSchema path => "Schema not found: " ++ path
  | .undecodable error => error.message
  | .unencodable error => error.message
  | .unwritable error => "Error serializing to JSON: UnicodeEncodeError: " ++ error.message
  | .report errors => Text.join "\n" (errors.map fun error =>
      Pointer.shown (Pointer.ofPath error.place) ++ ": " ++ error.fault.code)
  | .notStored path => "Only JSON reports can be loaded: " ++ path
  | .unknownFormat given => given.describe ++ " is not a valid ReportFormat"
  | .logging fault => fault.message

/-- The class of a fault in a YAML text, with its family. -/
def yamlClass : Yaml.Fault → Text × FailureFamily
  | .malformed => ("DocumentSyntaxError", .inputs)
  | .noCodePoint number =>
    if number < Nat.pow 2 31 then ("ValueError", .values) else ("OverflowError", .unforeseen)
  | .numeral _ | .calendar _ => ("ValueError", .values)
  | .emptyNumeral => ("IndexError", .unforeseen)
  | .notBoolean _ => ("KeyError", .unforeseen)
  | .notTimestamp => ("AttributeError", .unforeseen)
  | .mappedTimestamp => ("TypeError", .unforeseen)
  | .endless => ("RecursionError", .unforeseen)

def schemaClassName : SchemaFault → Text
  | .notObject _ => "NotAnObjectError"
  | .unknownType _ => "UnknownTypeError"
  | .wrongShape .. => "InvalidConstraintError"
  | .invalidPattern .. => "InvalidPatternError"
  | .tooDeep _ => "SchemaTooDeepError"

def fileClassName : FileFault → Text
  | .notFound => "FileNotFoundError"
  | .exists => "FileExistsError"
  | .notDirectory => "NotADirectoryError"
  | .isDirectory => "IsADirectoryError"
  | .nameTooLong | .tooManyLinks => "OSError"

/-- The class of a failure, with its family. -/
def classified : Failure → Text × FailureFamily
  | .document (.yaml fault) => yamlClass fault
  | .document (.datum .tooDeep) => ("RecursionError", .unforeseen)
  | .document (.datum .keyTooLong) => ("ValueError", .values)
  | .document _ => ("DocumentSyntaxError", .inputs)
  | .compile (.schema error) => (schemaClassName error.fault, .inputs)
  | .compile (.pattern .countTooLarge) => ("OverflowError", .unforeseen)
  | .compile (.pattern _) => ("ValueError", .values)
  | .settings _ | .unknownNotation _ | .notStored _ | .unknownFormat _ => ("ValueError", .values)
  | .file error => (fileClassName error.fault, .files)
  | .circular _ => ("RuntimeError", .unforeseen)
  | .noSchema _ => ("FileNotFoundError", .files)
  | .undecodable _ => ("UnicodeDecodeError", .values)
  | .unencodable _ => ("UnicodeEncodeError", .values)
  | .unwritable _ => ("SerializationError", .values)
  | .report _ => ("ValidationError", .values)
  | .logging fault => (fault.className, .unforeseen)

def className (f : Failure) : Text := f.classified.1

def family (f : Failure) : FailureFamily := f.classified.2

end Failure
end Conformance
