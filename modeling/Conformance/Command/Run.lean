import Conformance.Command.Arguments
import Conformance.Command.Help
import Conformance.Session.Reports
import Conformance.Session.Validation

/-!
# Running the command line

A command ends with a code: 0 when the instance is valid or the schema compiles, 1 when the instance
is invalid, 2 when something cannot be used. What it cannot use it names on the error output, after
telling the log. Validation answers in this way for files, for malformed inputs and for values that
do not fit; a check of a schema answers for files and malformed inputs only. Other failures go
through to the caller.
-/
namespace Conformance.Command

/-- How a command ends. -/
structure Outcome where
  code : Nat
  output : Text
deriving DecidableEq

namespace Outcome

def fine (output : Text) : Outcome := ⟨0, output⟩

def invalid (output : Text) : Outcome := ⟨1, output⟩

def unusable : Outcome := ⟨2, []⟩

end Outcome

/-- The text on the standard input, unless its bytes are no text. -/
abbrev Input := Except DecodeError Text

/-- Configures the log for a command. -/
def configureLog (choices : Choices) : Session Unit :=
  Session.change fun w =>
    let channels := (choices.logChannels.filter fun list => !list.isEmpty).map (Text.splitOn ',')
    { w with log := w.log.configure w.environment ⟨choices.logLevel, none, channels⟩ true }

/-- The settings of a command: what it does not choose comes from the environment. -/
def settingsOf (choices : Choices) : Session Settings := do
  let environment ← Session.look Workspace.environment
  let depth : Datum := (choices.maxDepth.map Datum.integer).getD .null
  let mode : Datum := if choices.failFast then .text Mode.failFast.name else .null
  Session.answer ((Settings.ofEnvironment environment depth mode).mapError .settings)

/-- The instance: a file, or the standard input for a hyphen. -/
def readInstance (input : Input) (source : Text) : Session Document :=
  if source = "-" then do
    let content ← Session.answer (input.mapError .undecodable)
    Session.answer (Validation.readDocument (.text content))
  else Session.readDocument (FilePath.ofText source)

/-- Ends a command for which something cannot be used. -/
def giveUp (event : Text) (failure : Failure) : Session Outcome := do
  Session.tell .system .error event
    [("error", .text failure.message), ("error_type", .text failure.className)]
  Session.change fun w => w.print ("error: " ++ failure.message ++ "\n")
  pure .unusable

/-- All that a validation needs. -/
structure Prepared where
  settings : Settings
  schema : Schema
  document : Document

def prepare (input : Input) (schema inst : Text) (choices : Choices) : Session Prepared := do
  let settings ← settingsOf choices
  let holding ← Session.loadSchema (FilePath.ofText schema)
  let document ← readInstance input inst
  pure ⟨settings, holding.schema, document⟩

/-- Validates and shows the report. -/
def showReport (format : ReportFormat) (prepared : Prepared) : Session Outcome := do
  let report ← Session.validate prepared.settings prepared.schema prepared.document
  let shown ← Session.dump report format
  pure ((if report.isValid then Outcome.fine else Outcome.invalid) (shown ++ "\n"))

def runValidate (input : Input) (schema inst : Text) (choices : Choices) : Session Outcome := do
  Session.change fun w => { w with log := w.log.bind [("schema", .text schema)] }
  match ← Session.attempt (prepare input schema inst choices) with
  | .ok prepared => showReport choices.format prepared
  | .error failure =>
    if failure.family = .unforeseen then Session.answer (.error failure)
    else giveUp "validate_failed" failure

def runCheckSchema (schema : Text) : Session Outcome := do
  match ← Session.attempt (Session.loadSchema (FilePath.ofText schema)) with
  | .ok _ => pure (.fine ("ok: " ++ schema ++ "\n"))
  | .error failure =>
    match failure.family with
    | .files | .inputs => giveUp "schema_check_failed" failure
    | _ => Session.answer (.error failure)

/-- Does what a command line asks for. -/
def perform (input : Input) : Request → Session Outcome
  | .help page => pure (.fine page.help)
  | .version => pure (.fine versionLine)
  | .validate schema inst choices => do
    configureLog choices
    runValidate input schema inst choices
  | .checkSchema schema choices => do
    configureLog choices
    runCheckSchema schema

/-- The variables that a command looks at. -/
def watched : List Text :=
  [Settings.depthVariable, Settings.modeVariable, Logging.Config.levelVariable,
    Logging.Config.formatVariable, Logging.Config.channelsVariable]

/-- The files that a request names. -/
def Request.files : Request → List Text
  | .help _ | .version => []
  | .validate schema inst _ => if inst = "-" then [schema] else [schema, inst]
  | .checkSchema schema _ => [schema]

/-- Whether a request reads the standard input. -/
def Request.readsInput : Request → Bool
  | .validate _ inst _ => inst = "-"
  | _ => false

/-- Runs a command line. -/
def run (arguments : List Text) (input : Input) : Session Outcome :=
  match read arguments with
  | .ok request => perform input request
  | .error error => do
    Session.change fun w => w.print (error.message ++ "\n")
    pure .unusable

end Conformance.Command
