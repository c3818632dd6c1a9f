import Conformance.Document.Basic

/-!
# Equality of documents

Documents are structurally equal when their kinds agree at every level, numbers have one value and
objects have the same names with equal values, in any order. `equal` is the equality of the data
itself, position by position, with objects compared structurally; the two agree. Equal documents
have one digest.

Documents are compared to any depth. The limit on recursion, which `Document.ofDatum` has as
`Document.maxNesting`, is left out here.
-/
namespace Conformance.Document

mutual

def structurallyEqual : Document → Document → Bool
  | .null, .null => true
  | .boolean a, .boolean b => a == b
  | .number x, .number y => x.same y
  | .string s, .string t => s = t
  | .array xs, .array ys => elementsEqual xs ys
  | .object xs, .object ys => xs.length = ys.length && membersEqual xs ys
  | _, _ => false

/-- Elements pair by pair; the lengths agree. -/
def elementsEqual : List Document → List Document → Bool
  | [], [] => true
  | x :: xs, y :: ys => structurallyEqual x y && elementsEqual xs ys
  | _, _ => false

/-- Every member of the first object has an equal one of its name in the second. -/
def membersEqual : Named Document → Named Document → Bool
  | [], _ => true
  | (name, value) :: rest, others =>
    (match others.get? name with
      | some other => structurallyEqual value other
      | none => false) && membersEqual rest others

end

mutual

/-- Equality of kind and content, in which only objects leave their order aside. -/
def equal : Document → Document → Bool
  | .null, .null => true
  | .boolean a, .boolean b => a == b
  | .number x, .number y => x.same y
  | .string s, .string t => s = t
  | .array xs, .array ys => equalAll xs ys
  | .object xs, .object ys => structurallyEqual (.object xs) (.object ys)
  | _, _ => false

def equalAll : List Document → List Document → Bool
  | [], [] => true
  | x :: xs, y :: ys => equal x y && equalAll xs ys
  | _, _ => false

end

/-- A number for a text that depends on every code point and its place. -/
def digestText (t : Text) : UInt64 :=
  t.foldl (fun h c => mixHash h (UInt64.ofNat c.toNat)) 7

mutual

/-- A number that equal documents share: it depends on values and names, not on member order. -/
def digest : Document → UInt64
  | .null => 11
  | .boolean b => if b then 13 else 17
  | .number x => mixHash 19 (hash x.units)
  | .string s => mixHash 23 (digestText s)
  | .array elements => mixHash 29 (digestElements elements)
  | .object members => mixHash 31 (digestMembers members)

def digestElements : List Document → UInt64
  | [] => 37
  | element :: rest => mixHash (digest element) (digestElements rest)

def digestMembers : Named Document → UInt64
  | [] => 0
  | (name, value) :: rest => mixHash (digestText name) (digest value) + digestMembers rest

end

/-- How many of two documents a set keeps. -/
def distinctCount (x y : Document) : Nat :=
  if digest x = digest y ∧ equal x y then 1 else 2

end Conformance.Document
