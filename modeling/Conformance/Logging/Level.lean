import Conformance.Unicode.BasicCapitals
import Conformance.Unicode.Ranges

/-!
# Levels and channels of a log

A log is silent or tells more and more. What it tells comes from one of four channels, one for each
part of the library. Levels and channels are named freely, with blanks around the name and in any
letter case.
-/
namespace Conformance.Logging

inductive Level where
  | silent
  | info
  | verbose
  | debug
deriving DecidableEq

namespace Level

def all : List Level := [.silent, .info, .verbose, .debug]

/-- How much a level tells. -/
def rank : Level → Nat
  | .silent => 0
  | .info => 1
  | .verbose => 2
  | .debug => 3

def name : Level → Text
  | .silent => "SILENT"
  | .info => "INFO"
  | .verbose => "VERBOSE"
  | .debug => "DEBUG"

/-- The name in small letters. -/
def smallName (level : Level) : Text := level.name.toAsciiLower

/-- The least severity that a level lets through, on the scale of common logs. -/
def threshold : Level → Nat
  | .silent => 60
  | .info => 20
  | .verbose | .debug => 10

/-- Names of severities that stand for the level that lets them through. -/
def severityNames : List Text := ["warning", "error"]

/-- The level of a name; unknown names are silent. -/
def ofName (name : Text) : Level :=
  let trimmed := name.trim Unicode.isBlank
  if severityNames.contains trimmed.toAsciiLower then .info
  else (all.find? fun level => level.name = Unicode.toBasicCapitals trimmed).getD .silent

end Level

inductive Channel where
  | compile
  | load
  | system
  | validate
deriving DecidableEq

namespace Channel

/-- All channels in the order of their names. -/
def all : List Channel := [.compile, .load, .system, .validate]

def name : Channel → Text
  | .compile => "COMPILE"
  | .load => "LOAD"
  | .system => "SYSTEM"
  | .validate => "VALIDATE"

def ofName? (name : Text) : Option Channel :=
  let trimmed := name.trim Unicode.isBlank
  all.find? fun channel => channel.name = Unicode.toBasicCapitals trimmed

/-- The channel of a name; the system's for unknown names. -/
def ofName (name : Text) : Channel := (ofName? name).getD .system

/-- The channels that are named, in the order of all. -/
def ofNames (names : List Text) : List Channel :=
  all.filter fun channel => names.any fun name => ofName? name = some channel

/-- The name of the logger of a channel. -/
def loggerName (channel : Channel) : Text := "jsonguard." ++ channel.name.toAsciiLower

end Channel
end Conformance.Logging
