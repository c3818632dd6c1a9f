import Conformance.Text.Numeral

/-!
# Pointers into documents

A path names the steps from the root of a document: member names and element indices. Its pointer
puts a slash in front of every step; a tilde inside a step is written `~0` and a slash `~1`.

An index is written with all its digits. The limit of 4300 digits, which `Document.ofDatum` has for
keys that are numbers, is left out here.
-/
namespace Conformance

/-- One step of a path. An index read from a stored report may be any whole number. -/
inductive Segment where
  | name (value : Text)
  | index (value : Int)
deriving DecidableEq

abbrev Path := List Segment

namespace Segment

def toText : Segment → Text
  | .name value => value
  | .index value => Text.ofInt value

end Segment

namespace Pointer

/-- A code point inside a step. -/
def escapePoint (c : CodePoint) : Text :=
  if c = '~' then "~0" else if c = '/' then "~1" else [c]

def escape (step : Text) : Text := step.flatMap escapePoint

/-- The pointer of steps given as texts. -/
def ofSteps (steps : List Text) : Text := steps.flatMap fun step => "/" ++ escape step

/-- The pointer of a path; the root has the empty one. -/
def ofPath (path : Path) : Text := ofSteps (path.map Segment.toText)

/-- The pointer as shown to people: the root is a slash. -/
def shown (pointer : Text) : Text := if pointer.isEmpty then "/" else pointer

end Pointer
end Conformance
