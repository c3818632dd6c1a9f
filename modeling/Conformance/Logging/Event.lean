import Conformance.Document.Basic
import Conformance.Json.Writer
import Conformance.Logging.Config

/-!
# Events of a log

An event has a channel, a severity, a name and fields. It is written if the configuration admits it:
progress needs a level and an enabled channel, warnings and errors need only a log that is not
silent. Behind the log stands a gate that lets events through by their weight alone. A line shows
the event together with the fields that the caller has bound, either as a JSON object with sorted
members or in columns. Not every value can be shown; a limit on the nesting of values is left out.
-/
namespace Conformance.Logging

/-- How an event is told. -/
inductive Severity where
  | info
  | verbose
  | debug
  | warning
  | error
deriving DecidableEq

namespace Severity

/-- The severity as a line shows it. -/
def name : Severity → Text
  | .info => "info"
  | .verbose | .debug => "debug"
  | .warning => "warning"
  | .error => "error"

/-- The mark that tells verbose events from debug ones. -/
def verbosity? : Severity → Option Text
  | .verbose => some "verbose"
  | .debug => some "debug"
  | _ => none

/-- The least level that shows an event. -/
def level : Severity → Level
  | .verbose => .verbose
  | .debug => .debug
  | _ => .info

/-- How much an event weighs, on the scale of common logs. -/
def weight : Severity → Nat
  | .verbose | .debug => 10
  | .info => 20
  | .warning => 30
  | .error => 40

/-- Whether an event has to come from an enabled channel. -/
def isFiltered : Severity → Bool
  | .info | .verbose | .debug => true
  | .warning | .error => false

end Severity

structure Event where
  channel : Channel
  severity : Severity
  name : Text
  fields : Named Datum

/-! ### Values on a line -/

/-- Why no line can be made of an event. -/
inductive LineFault where
  /-- A whole number has more digits than are written. -/
  | tooLong
  /-- A mapping has a key by which JSON names no member. -/
  | notKey (kindName : Text)
  /-- A container holds itself. -/
  | circular
deriving DecidableEq

namespace LineFault

def message : LineFault → Text
  | .tooLong => Datum.tooLong
  | .notKey kindName => "keys must be str, int, float, bool or None, not " ++ kindName
  | .circular => "Circular reference detected"

def className : LineFault → Text
  | .tooLong | .circular => "ValueError"
  | .notKey _ => "TypeError"

end LineFault

/-- A datum as it is shown inside a message, if it can be. -/
def describe (value : Datum) : Except LineFault Text :=
  if value.isShowable then .ok value.describe else .error .tooLong

/-- The name of the member that a key stands for. -/
def nameForm : Datum → Except LineFault Text
  | .text name => .ok name
  | .null => .ok "null"
  | .boolean value => .ok (if value then "true" else "false")
  | .integer value => describe (.integer value)
  | .real value => .ok (Json.writeReal value)
  | other => .error (.notKey other.fullKindName)

mutual

/-- A value as JSON holds it. What is of no kind that JSON knows is shown in a text. -/
def jsonForm : Datum → Except LineFault Datum
  | .null => .ok .null
  | .boolean value => .ok (.boolean value)
  | .integer value => (describe (.integer value)).map fun _ => .integer value
  | .real value => .ok (.real value)
  | .text value => .ok (.text value)
  | .sequence items | .tuple items => (itemsForm items).map .sequence
  | .mapping entries => (entriesForm entries).map .mapping
  | .enclosing => .error .circular
  | other => .ok (.text other.describe)

def itemsForm : List Datum → Except LineFault (List Datum)
  | [] => .ok []
  | item :: rest => do
    let item ← jsonForm item
    let rest ← itemsForm rest
    pure (item :: rest)

def entriesForm : List (Datum × Datum) → Except LineFault (List (Datum × Datum))
  | [] => .ok []
  | (key, value) :: rest => do
    let name ← nameForm key
    let value ← jsonForm value
    let rest ← entriesForm rest
    pure ((.text name, value) :: rest)

end

/-- The members of an object as JSON holds them. -/
def membersForm (members : Named Datum) : Except LineFault (List (Datum × Datum)) :=
  entriesForm (members.map fun (name, value) => (.text name, value))

/-! ### Events -/

/-- Whether an event is written. -/
def Config.admits (config : Config) (event : Event) : Bool :=
  event.severity.level.rank ≤ config.level.rank
    && (!event.severity.isFiltered || config.channels.contains event.channel)

namespace Event

/-- Named values one after the other; a name that comes again takes the new value. -/
def merge (old new : Named Datum) : Named Datum :=
  new.foldl (fun merged (name, value) => Named.insert merged name value) old

/-- All that a line shows: bound fields, the fields of the event, and what every line has. -/
def members (event : Event) (bound : Named Datum) (stamp : Text) : Named Datum :=
  let origin : Named Datum := [("channel", .text event.channel.name)]
  let verbosity : Named Datum :=
    event.severity.verbosity?.toList.map fun mark => ("verbosity", .text mark)
  let every : Named Datum := [("event", .text event.name), ("level", .text event.severity.name),
    ("logger", .text event.channel.loggerName), ("timestamp", .text stamp)]
  merge bound (origin ++ event.fields ++ verbosity ++ every)

/-- The line of an event as a JSON object. -/
def jsonLine (event : Event) (bound : Named Datum) (stamp : Text) : Except LineFault Text :=
  (membersForm (event.members bound stamp)).map fun members =>
    Json.write Json.basicSorted 0 (.mapping members)

/-- Code points that put a text in quotes. -/
def quoting : List CodePoint := [' ', '\t', '=', '\r', '\n', '"', '\'']

/-- A value in a column: a text without quoting code points as it is, all else described. -/
def column : Datum → Except LineFault Text
  | .text value => .ok (if value.any quoting.contains then value.quoted else value)
  | other => describe other

/-- A text filled up with spaces to a width. -/
def pad (width : Nat) (t : Text) : Text :=
  t ++ List.replicate (width - t.length) (' ' : CodePoint)

/-- Names of the members with places of their own in front of the columns. -/
def leading : List Text := ["event", "level", "logger", "logger_name", "timestamp"]

/-- A value that stands in brackets, with no name to it: a text as it is, all else described. -/
def bracketed (value : Datum) : Except LineFault Text :=
  let shown : Except LineFault Text := match value with
    | .text t => .ok t
    | other => describe other
  shown.map fun t => "[" ++ t ++ "]"

/-- The line of an event in columns. -/
def consoleLine (event : Event) (bound : Named Datum) (stamp : Text) : Except LineFault Text := do
  let members := event.members bound stamp
  let origin ← (members.get? "logger_name").toList.mapM bracketed
  let rest := members.filter fun (name, _) => !leading.contains name
  let columns ← (rest.mergeSort fun a b => !Text.precedes b.1 a.1).mapM fun (name, value) =>
    (column value).map fun shown => name ++ "=" ++ shown
  pure <| Text.join " " <| [stamp, "[" ++ pad 9 event.severity.name ++ "]", pad 30 event.name,
    "[" ++ event.channel.loggerName ++ "]"] ++ origin ++ columns

/-- The line of an event in a format. -/
def line (format : Text) (event : Event) (bound : Named Datum) (stamp : Text) :
    Except LineFault Text :=
  if format = "json" then event.jsonLine bound stamp else event.consoleLine bound stamp

end Event

/-- A log: its configuration, whether it was ever configured, the bound fields, and the gate. -/
structure Log where
  config : Config
  configured : Bool
  bound : Named Datum
  /-- The least weight that goes through to the output. -/
  gate : Nat

namespace Log

/-- The gate that stands in a process before any call. -/
def commonGate : Nat := Severity.warning.weight

/-- The log before any call. -/
def initial : Log := ⟨Config.initial, false, [], commonGate⟩

/-- The log after a call that configures it. -/
def configure (log : Log) (environment : Environment) (choice : Choice) (force : Bool) : Log :=
  if log.configured && !force then log
  else
    let config := Config.choose environment choice
    { log with config, configured := true, gate := config.level.threshold }

/-- The log with more bound fields. -/
def bind (log : Log) (fields : Named Datum) : Log :=
  { log with bound := Event.merge log.bound fields }

/-- The log without bound fields. -/
def unbind (log : Log) : Log := { log with bound := [] }

/-- What an admitted event adds to the output of the log. The line of the event is made before the
gate is asked. -/
def lineOf (log : Log) (stamp : Text) (event : Event) : Except LineFault Text :=
  if log.config.admits event then
    (event.line log.config.format log.bound stamp).map fun line =>
      if log.gate ≤ event.severity.weight then line ++ "\n" else []
  else .ok []

/-- What an event adds to the output of the log, nothing if no line can be made of it. -/
def write (log : Log) (stamp : Text) (event : Event) : Text :=
  (log.lineOf stamp event).toOption.getD []

end Log
end Conformance.Logging
