import Conformance.Logging.Level
import Conformance.Validation.Settings

/-!
# Configuration of a log

A configuration holds the level, the format and the enabled channels. It is set once; later calls
change it only by force. What a call does not give comes from the environment.
-/
namespace Conformance.Logging

structure Config where
  level : Level
  format : Text
  /-- Enabled channels in the order of all. -/
  channels : List Channel
deriving DecidableEq

/-- What a call that configures the log gives. -/
structure Choice where
  level : Option Level := none
  format : Option Text := none
  channels : Option (List Text) := none

namespace Config

/-- The variables that hold a level, a format and a list of channels. -/
def levelVariable : Text := "JSONGUARD_LOG_LEVEL"

def formatVariable : Text := "JSONGUARD_LOG_FORMAT"

def channelsVariable : Text := "JSONGUARD_LOG_CHANNELS"

/-- The configuration before any call. -/
def initial : Config := ⟨.silent, "console", Channel.all⟩

/-- The enabled channels of a list between commas; all of them if it names none. -/
def channelsOfList (list : Text) : List Channel :=
  match Channel.ofNames (Text.splitOn ',' list) with
  | [] => Channel.all
  | named => named

/-- The configuration of an environment. -/
def ofEnvironment (environment : Environment) : Config :=
  { level := ((environment.get? levelVariable).map Level.ofName).getD .silent
    format := (environment.get? formatVariable).getD "console"
    channels := channelsOfList ((environment.get? channelsVariable).getD []) }

/-- The configuration of a call; an empty format counts as not given. -/
def choose (environment : Environment) (choice : Choice) : Config :=
  let base := ofEnvironment environment
  { level := choice.level.getD base.level
    format := (choice.format.filter fun format => !format.isEmpty).getD base.format
    channels := (choice.channels.map Channel.ofNames).getD base.channels }

end Config
end Conformance.Logging
