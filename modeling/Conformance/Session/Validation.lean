import Conformance.Session.Schemas
import Conformance.Validation.Request

/-!
# Validation in a session

A session validates as a single call does, and tells its log about it. A limit on depth is taken to
have no more digits than a line can show.
-/
namespace Conformance.Session

def violationEvent (v : Violation) : Logging.Event :=
  ⟨.validate, .debug, "violation_found",
    [("pointer", .text v.pointer), ("kind", .text v.kind.name), ("rule", .ofText? v.rule)]⟩

/-- The report of a document. -/
def validate (settings : Settings) (schema : Schema) (document : Document) : Session Report := do
  tell .validate .verbose "validation_started"
    [("mode", .text settings.mode.name), ("max_depth", .integer settings.maxDepth)]
  let report := Validation.validate settings schema document
  change fun w => report.violations.foldl (fun w v => w.note (violationEvent v)) w
  tell .validate .info "validation_completed"
    [("status", .text report.status.name), ("errors", .integer report.violations.length)]
  pure report

/-- The given settings, or those of the environment. -/
def chooseSettings (given : Option Settings) : Session Settings := do
  let environment ← look Workspace.environment
  answer (Validation.chooseSettings environment given)

/-- The report of an instance text against a schema text. -/
def validateText (given : Option Settings) (schema inst : Source) : Session Report := do
  let holding ← compile (← answer (Validation.readDocument schema))
  let document ← answer (Validation.readDocument inst)
  let settings ← chooseSettings given
  validate settings holding.schema document

/-- The report of an instance file against a schema file, which is kept. -/
def validateFile (given : Option Settings) (schema inst : FilePath) : Session Report := do
  let holding ← fetchSchema schema true
  let document ← readDocument inst
  let settings ← chooseSettings given
  validate settings holding.schema document

end Conformance.Session
