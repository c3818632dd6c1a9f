import Conformance.Failure
import Conformance.Files.Tree
import Conformance.Logging.Event
import Conformance.Schema.Basic

/-!
# Sessions

A session is a run of requests on one workspace: a tree of files, an environment, a log, the schemas
loaded so far, and what was written to the error output. A request answers or fails; either way the
workspace stays as the request left it.
-/
namespace Conformance

/-- Which schema it is. All schemas that accept anything are one; any other belongs to the
compilation that made it and stands at the end of some steps through properties. -/
inductive SchemaIdentity where
  | anything
  | made (serial : Nat) (steps : List Text)
deriving DecidableEq

/-- A schema as a caller holds it. -/
structure Holding where
  schema : Schema
  identity : SchemaIdentity
  /-- The schema whose properties these are; another one after checks were added. -/
  source : SchemaIdentity

namespace Holding

/-- The schema that a compilation made. -/
def ofCompiled (serial : Nat) (schema : Schema) : Holding :=
  match schema with
  | .anything => ⟨schema, .anything, .anything⟩
  | _ => ⟨schema, .made serial [], .made serial []⟩

/-- The schema of a property. -/
def property? (holding : Holding) (name : Text) : Option Holding :=
  (holding.schema.property? name).map fun schema =>
    match schema, holding.source with
    | .anything, _ | _, .anything => ⟨schema, .anything, .anything⟩
    | _, .made serial steps =>
      ⟨schema, .made serial (steps ++ [name]), .made serial (steps ++ [name])⟩

/-- The schema with more checks; its properties stay the same. -/
def withChecks (serial : Nat) (holding : Holding) (checks : List Check) : Holding :=
  { holding with
    schema := holding.schema.withChecks (checks.map .check), identity := .made serial [] }

end Holding

structure Workspace where
  files : FileTree
  environment : Environment
  /-- The time stamp that lines of the log carry. -/
  stamp : Text
  log : Logging.Log
  /-- The loaded schemas by location. -/
  loaded : List (Location × Holding)
  /-- The number of the next schema to be made. -/
  serial : Nat
  errorOutput : Text

namespace Workspace

/-- A workspace in which nothing has happened yet. -/
def initial (files : FileTree) (environment : Environment) (stamp : Text) : Workspace :=
  { files, environment, stamp, log := Logging.Log.initial, loaded := [], serial := 0
    errorOutput := [] }

/-- The workspace with more error output. -/
def print (w : Workspace) (t : Text) : Workspace := { w with errorOutput := w.errorOutput ++ t }

/-- The workspace after an event of the log. -/
def note (w : Workspace) (event : Logging.Event) : Workspace :=
  w.print (w.log.write w.stamp event)

end Workspace

/-- A request on a workspace. -/
abbrev Session (α : Type) := ExceptT Failure (StateM Workspace) α

namespace Session

/-- The answer of a request, and the workspace after it. -/
def run {α : Type} (request : Session α) (w : Workspace) : Except Failure α × Workspace :=
  StateT.run (ExceptT.run request) w

/-- An answer that leaves the workspace as it is. -/
def answer {α : Type} (result : Except Failure α) : Session α := ExceptT.mk (pure result)

/-- A request that only looks at the workspace. -/
def look {α : Type} (view : Workspace → α) : Session α :=
  ExceptT.mk fun w => pure (.ok (view w), w)

/-- A request that only changes the workspace. -/
def change (next : Workspace → Workspace) : Session Unit :=
  ExceptT.mk fun w => pure (.ok (), next w)

/-- A request whose failure is an answer too. -/
def attempt {α : Type} (request : Session α) : Session (Except Failure α) :=
  ExceptT.mk fun w =>
    let (result, after) := request.run w
    pure (.ok result, after)

/-- Notes an event whose fields are known to suit the loggers, and to be shown on a line. -/
def tell (channel : Logging.Channel) (severity : Logging.Severity) (name : Text)
    (fields : Named Datum) : Session Unit :=
  change fun w => w.note ⟨channel, severity, name, fields⟩

/-- Notes an event with any fields. -/
def note (channel : Logging.Channel) (severity : Logging.Severity) (name : Text)
    (fields : Named Datum) : Session Unit :=
  ExceptT.mk fun w =>
    match w.log.call w.stamp ⟨channel, severity, name, fields⟩ with
    | .error fault => pure (.error (.logging fault), w)
    | .ok line => pure (.ok (), w.print line)

/-- A new number for a schema. -/
def newSerial : Session Nat :=
  ExceptT.mk fun w => pure (.ok w.serial, { w with serial := w.serial + 1 })

/-- Looks into the files. -/
def inspect {α : Type} (view : FileTree → Except FileError α) : Session α :=
  ExceptT.mk fun w => pure ((view w.files).mapError .file, w)

/-- Changes the files, unless that fails. -/
def rearrange (next : FileTree → Except FileError FileTree) : Session Unit :=
  ExceptT.mk fun w =>
    match next w.files with
    | .error error => pure (.error (.file error), w)
    | .ok files => pure (.ok (), { w with files })

/-- Text with a line feed at the end of every line, whatever ended the line before. -/
def unifyLines : Text → Text
  | [] => []
  | [c] => if c = '\r' then "\n" else [c]
  | c :: d :: rest =>
    if c = '\r' then
      if d = '\n' then ('\n' : CodePoint) :: unifyLines rest
      else ('\n' : CodePoint) :: unifyLines (d :: rest)
    else c :: unifyLines (d :: rest)

/-- The text of a file in UTF-8. -/
def readText (path : FilePath) : Session Text := do
  let content ← inspect fun files => files.read path
  answer (((Encoding.decodeStrict content).mapError Failure.undecodable).map unifyLines)

end Session
end Conformance
