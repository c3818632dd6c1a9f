import Conformance.Document.OfYaml

/-!
# Notations of documents

A document is written as JSON or as YAML.
-/
namespace Conformance

inductive Notation where
  | json
  | yaml
deriving DecidableEq

namespace Notation

def ofName? (name : Text) : Option Notation :=
  if name = "json" then some .json else if name = "yaml" then some .yaml else none

/-- The document that an input denotes. -/
def read : Notation → Source → Except DocumentError Document
  | .json, source => Document.ofJson source
  | .yaml, source => Document.ofYaml source

end Notation
end Conformance
