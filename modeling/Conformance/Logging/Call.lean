import Conformance.Logging.Event

/-!
# Calls of a logger

A logger is called with an event and with named fields. On its way to the output a call passes
through methods with parameters of their own, and a field that is named like one of them makes the
call fail. What lies behind the configuration is reached only by events that it admits; there a
value that no line can show makes the call fail as well.
-/
namespace Conformance.Logging

/-- Why a call of a logger fails. -/
inductive CallFault where
  /-- A field has the name of a parameter that is given by its place. -/
  | givenByPlace (method parameter : Text)
  /-- A field has the name of a parameter that is given by its name. -/
  | givenByName (method parameter : Text)
  /-- The field that stands for a record is none. -/
  | notRecord (kindName : Text)
  /-- No line can be made of the event. -/
  | line (fault : LineFault)

namespace CallFault

def message : CallFault → Text
  | .givenByPlace method parameter =>
    method ++ "() got multiple values for argument '" ++ parameter ++ "'"
  | .givenByName method parameter =>
    method ++ "() got multiple values for keyword argument '" ++ parameter ++ "'"
  | .notRecord kindName => "'" ++ kindName ++ "' object has no attribute 'name'"
  | .line fault => fault.message

def className : CallFault → Text
  | .givenByPlace .. | .givenByName .. => "TypeError"
  | .notRecord _ => "AttributeError"
  | .line fault => fault.className

end CallFault

/-- The method of a logger for a severity. -/
def Severity.method : Severity → Text
  | .info => "info"
  | .verbose => "verbose"
  | .debug => "debug"
  | .warning => "warning"
  | .error => "error"

namespace Event

/-- Refuses the first field that has one of the names. -/
def refuse (event : Event) (parameters : List Text) (fault : Text → CallFault) :
    Except CallFault Unit :=
  match event.fields.names.find? parameters.contains with
  | some name => .error (fault name)
  | none => .ok ()

/-- Passes an event to the configuration; an event of an enabled channel takes one step more. -/
def pass (event : Event) : Except CallFault Unit := do
  event.refuse ["self", "event"] (.givenByPlace ("ChannelLogger." ++ event.severity.method))
  if event.severity.isFiltered then
    event.refuse ["level", "method"] (.givenByPlace "ChannelLogger._emit")

/-- Passes an event that is admitted on to the output. -/
def deliver (event : Event) (bound : Named Datum) : Except CallFault Unit := do
  event.refuse ["channel"] (.givenByName ("structlog.stdlib.BoundLogger." ++ event.severity.name))
  event.refuse ["method_name"] (.givenByPlace "BoundLogger._proxy_to_logger")
  match (merge bound event.fields).get? "_record" with
  | none | some .null => pure ()
  | some record => .error (.notRecord record.kindName)

end Event

/-- What a call of a logger adds to the output of the log. -/
def Log.call (log : Log) (stamp : Text) (event : Event) : Except CallFault Text := do
  event.pass
  if log.config.admits event then event.deliver log.bound
  (log.lineOf stamp event).mapError .line

end Conformance.Logging
