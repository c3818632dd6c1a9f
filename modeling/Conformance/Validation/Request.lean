import Conformance.Failure
import Conformance.Schema.Compile
import Conformance.Validation.Walk

/-!
# Validation in one call

Schema and instance arrive as JSON or as decoded data; settings are given or come from the
environment. The schema is read and compiled before anything else is looked at.
-/
namespace Conformance.Validation

def readDocument (source : Source) : Except Failure Document :=
  (Document.ofJson source).mapError .document

/-- The document of an input in a notation given by its name. -/
def readNotation (name : Text) (source : Source) : Except Failure Document :=
  match Notation.ofName? name with
  | none => .error (.unknownNotation name)
  | some chosen => (chosen.read source).mapError .document

def readDatum (datum : Datum) : Except Failure Document :=
  (Document.ofDatum datum).mapError fun error => .document (.datum error)

def compile (document : Document) : Except Failure Schema :=
  (Schema.compile document).mapError .compile

/-- The given settings, or those of the environment. -/
def chooseSettings (environment : Environment) (given : Option Settings) :
    Except Failure Settings :=
  match given with
  | some settings => .ok settings
  | none => (Settings.ofEnvironment environment .null .null).mapError .settings

/-- The report of an instance text against a schema text. -/
def validateText (environment : Environment) (given : Option Settings) (schema inst : Source) :
    Except Failure Report := do
  let schema ← compile (← readDocument schema)
  let document ← readDocument inst
  let settings ← chooseSettings environment given
  pure (validate settings schema document)

/-- The report of decoded data against a decoded schema. -/
def validateData (environment : Environment) (given : Option Settings) (schema inst : Datum) :
    Except Failure Report := do
  let schema ← compile (← readDatum schema)
  let settings ← chooseSettings environment given
  let document ← readDatum inst
  pure (validate settings schema document)

end Conformance.Validation
