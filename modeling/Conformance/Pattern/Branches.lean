import Conformance.Pattern.Regex

/-!
# Joining branches

Branches that begin alike share that beginning, and branches that are single sets are one set. The
joined tree matches what the branches match, except that supplementary letters, which a set of
several items compares as they are, no longer match up to case.
-/
namespace Conformance.Pattern

namespace Regex

/-- Whether two trees are the same set, place or reference. Larger trees are never compared. -/
def sameLeaf : Regex → Regex → Bool
  | .unit a, .unit b => a = b
  | .anchor a, .anchor b => a = b
  | .reference a f, .reference b g => a = b && f = g
  | _, _ => false

/-- The items of a set that a branch consists of, if it is no complement. -/
def setItems? : List Regex → Option CharSet
  | [.unit set] => if set.negated then none else some set
  | _ => none

/-- Adds the items of one set to another of the same folding. -/
def mergeSets (a b : CharSet) : Option CharSet :=
  if a.folding = b.folding then
    some { a with items := a.items ++ b.items.filter fun item => !a.items.contains item }
  else none

/-- One set for branches that are all sets. -/
def oneSet? : List (List Regex) → Option CharSet
  | [] => none
  | [branch] => setItems? branch
  | branch :: rest => do mergeSets (← setItems? branch) (← oneSet? rest)

/-- The branches without a given first item; none if one does not begin with it. -/
def dropFirst? (first : Regex) : List (List Regex) → Option (List (List Regex))
  | [] => some []
  | [] :: _ => none
  | (item :: branch) :: rest =>
    if sameLeaf item first then (dropFirst? first rest).map (branch :: ·) else none

/-- Branches that share no beginning. -/
def choose (branches : List (List Regex)) : List Regex :=
  match oneSet? branches with
  | some set => [.unit set]
  | none => [.choice (branches.map .sequence)]

/-- The sequence that stands for a first branch and others. -/
def joinWith : List Regex → List (List Regex) → List Regex
  | [], others => choose ([] :: others)
  | item :: branch, others =>
    match dropFirst? item others with
    | some others => item :: joinWith branch others
    | none => choose ((item :: branch) :: others)

/-- The sequence that stands for branches in order. -/
def join : List (List Regex) → List Regex
  | [] => []
  | [branch] => branch
  | branch :: others => joinWith branch others

end Regex
end Conformance.Pattern
