import Conformance.Document.OfJson

/-!
# Documents from YAML

The part of YAML that documents can hold: no dates, sets, octets or keys that are not texts.
-/
namespace Conformance.Document

/-- The document that a YAML text denotes. -/
def ofYaml (source : Source) : Except DocumentError Document := do
  let decoded := match source with
    | .text content => Yaml.decode content
    | .bytes content => Yaml.decodeBytes content
  let datum ← decoded.mapError .yaml
  (ofDatum datum).mapError .datum

end Conformance.Document
