import Conformance.Document.Error

/-!
# Documents from JSON

JSON arrives as text or as bytes.
-/
namespace Conformance

/-- Input as it arrives: text, or bytes whose encoding is to be detected. -/
inductive Source where
  | text (content : Text)
  | bytes (content : Bytes)

namespace Document

/-- The document of a JSON datum. -/
def ofJsonDatum (datum : Datum) : Except DocumentError Document :=
  match ofDatum datum with
  | .ok document => .ok document
  | .error .tooDeep => .error .jsonTooDeep
  | .error error => .error (.datum error)

/-- The document that a JSON text denotes. -/
def ofJson (source : Source) : Except DocumentError Document :=
  let decoded := match source with
    | .text content => Json.decode .document content
    | .bytes content => Json.decodeBytes .document content
  match decoded with
  | .error error => .error (.json error)
  | .ok datum => ofJsonDatum datum

end Document
end Conformance
