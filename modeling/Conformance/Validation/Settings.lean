import Conformance.Datum.Basic
import Conformance.Number.Literal

/-!
# Settings of a validation

How deep a walk goes and whether it stops at the first violation. Settings come from a caller or
from the environment; the caller's wins.
-/
namespace Conformance

inductive Mode where
  | collectAll
  | failFast
deriving DecidableEq

namespace Mode

def name : Mode → Text
  | .collectAll => "collect_all"
  | .failFast => "fail_fast"

def ofName? (name : Text) : Option Mode :=
  if name = Mode.collectAll.name then some .collectAll
  else if name = Mode.failFast.name then some .failFast
  else none

end Mode

structure Settings where
  maxDepth : Nat
  mode : Mode
deriving DecidableEq

/-- Why there are no settings. -/
inductive SettingsError where
  | depthNotInteger (given : Datum)
  | depthNegative (given : Int)
  | unknownMode (given : Datum)
  | environmentDepth (given : Text)
  | environmentMode (given : Text)

namespace SettingsError

def message : SettingsError → Text
  | .depthNotInteger given => "max_depth must be an integer, got " ++ given.describe
  | .depthNegative given => "max_depth must be non-negative, got " ++ Text.ofInt given
  | .unknownMode given => given.describe ++ " is not a valid ValidationMode"
  | .environmentDepth given => "JSONGUARD_MAX_DEPTH must be an integer: " ++ given.quoted
  | .environmentMode given => "JSONGUARD_MODE must be collect_all or fail_fast: " ++ given.quoted

end SettingsError

/-- Names with their texts, as a process finds them around it. -/
abbrev Environment := List (Text × Text)

/-- The text of a variable. -/
def Environment.get? (environment : Environment) (name : Text) : Option Text :=
  (environment.find? fun entry => entry.1 = name).map Prod.snd

/-- The text of a variable that is there and not empty. -/
def Environment.nonempty? (environment : Environment) (name : Text) : Option Text :=
  (environment.get? name).filter fun value => !value.isEmpty

namespace Settings

def defaultDepth : Nat := 64

def standard : Settings := ⟨defaultDepth, .collectAll⟩

def readDepth : Datum → Except SettingsError Nat
  | .integer value => if value < 0 then .error (.depthNegative value) else .ok value.toNat
  | given => .error (.depthNotInteger given)

def readMode : Datum → Except SettingsError Mode
  | .text name =>
    match Mode.ofName? name with
    | some mode => .ok mode
    | none => .error (.unknownMode (.text name))
  | given => .error (.unknownMode given)

/-- Settings from given values; what is not given is standard. -/
def ofData (depth mode : Option Datum) : Except SettingsError Settings := do
  let maxDepth ← readDepth (depth.getD (.integer defaultDepth))
  let mode ← readMode (mode.getD (.text Mode.collectAll.name))
  pure ⟨maxDepth, mode⟩

/-- The variable that holds a depth. -/
def depthVariable : Text := "JSONGUARD_MAX_DEPTH"

/-- The variable that holds a mode. -/
def modeVariable : Text := "JSONGUARD_MODE"

/-- A depth from the environment: a whole number typed freely. -/
def depthFrom (environment : Environment) : Except SettingsError Datum :=
  match environment.nonempty? depthVariable with
  | none => .ok (.integer defaultDepth)
  | some raw =>
    match Numeral.parseInt raw with
    | .ok value => .ok (.integer value)
    | .error _ => .error (.environmentDepth raw)

/-- A mode from the environment: blanks around it and capitals do not matter. -/
def modeFrom (environment : Environment) : Except SettingsError Datum :=
  match environment.nonempty? modeVariable with
  | none => .ok (.text Mode.collectAll.name)
  | some raw =>
    match Mode.ofName? (raw.trim Unicode.isBlank).toAsciiLower with
    | some mode => .ok (.text mode.name)
    | none => .error (.environmentMode raw)

/-- Settings from given values, and from the environment for a value that is null or not given. -/
def ofEnvironment (environment : Environment) (depth mode : Datum) :
    Except SettingsError Settings := do
  let depth ← match depth with
    | .null => depthFrom environment
    | given => pure given
  let mode ← match mode with
    | .null => modeFrom environment
    | given => pure given
  ofData (some depth) (some mode)

end Settings
end Conformance
