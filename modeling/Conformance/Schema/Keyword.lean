import Conformance.Text.Basic

/-!
# Keywords of a schema

The keywords that have a meaning, in the order in which a schema is read. All other members of a
schema are passed over.
-/
namespace Conformance

inductive Keyword where
  | type
  | required
  | properties
  | items
  | minLength
  | maxLength
  | minItems
  | maxItems
  | minimum
  | maximum
  | pattern
  | enum
deriving DecidableEq

namespace Keyword

def all : List Keyword :=
  [.type, .required, .properties, .items, .minLength, .maxLength, .minItems, .maxItems,
    .minimum, .maximum, .pattern, .enum]

def name : Keyword → Text
  | .type => "type"
  | .required => "required"
  | .properties => "properties"
  | .items => "items"
  | .minLength => "minLength"
  | .maxLength => "maxLength"
  | .minItems => "minItems"
  | .maxItems => "maxItems"
  | .minimum => "minimum"
  | .maximum => "maximum"
  | .pattern => "pattern"
  | .enum => "enum"

end Keyword
end Conformance
