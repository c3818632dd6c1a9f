import Conformance.Text.Basic

/-!
# Nodes of YAML texts

A node is a scalar, a sequence or a mapping, and each has a tag that says what it denotes. The nodes
of a text are numbered, and a collection holds the numbers of its parts. An alias is the number of
the node that it names, so a node may be part of several collections, and even of itself.
-/
namespace Conformance.Yaml

/-- What a node denotes. -/
inductive Tag where
  | null
  | boolean
  | integer
  | real
  | text
  | binary
  | timestamp
  | sequence
  | mapping
  | set
  /-- A sequence of single pairs without a repeated key. -/
  | orderedMap
  /-- A sequence of single pairs. -/
  | pairs
  /-- The key of members that are taken over from other mappings. -/
  | merge
  /-- The key of the member that stands for a whole mapping. -/
  | value
  /-- Nothing that is known. -/
  | unknown
deriving DecidableEq

namespace Tag

/-- What the names of the usual tags begin with. -/
def common : Text := "tag:yaml.org,2002:"

/-- The tags that have a name, with the rest of that name. -/
def names : List (Tag × String) := [
  (.null, "null"), (.boolean, "bool"), (.integer, "int"), (.real, "float"), (.text, "str"),
  (.binary, "binary"), (.timestamp, "timestamp"), (.sequence, "seq"), (.mapping, "map"),
  (.set, "set"), (.orderedMap, "omap"), (.pairs, "pairs"), (.merge, "merge"), (.value, "value")]

def ofName (name : Text) : Tag :=
  match common.after? name with
  | none => .unknown
  | some rest =>
    match names.find? fun entry => Text.ofString entry.2 = rest with
    | some (tag, _) => tag
    | none => .unknown

end Tag

inductive Node where
  | scalar (tag : Tag) (content : Text)
  | sequence (tag : Tag) (items : List Nat)
  | mapping (tag : Tag) (entries : List (Nat × Nat))

instance : Inhabited Node := ⟨.scalar .null []⟩

namespace Node

def tag : Node → Tag
  | .scalar tag _ | .sequence tag _ | .mapping tag _ => tag

/-- The items of a sequence. -/
def items : Node → List Nat
  | .sequence _ items => items
  | .scalar .. | .mapping .. => []

/-- The entries of a mapping. -/
def entries : Node → List (Nat × Nat)
  | .mapping _ entries => entries
  | .scalar .. | .sequence .. => []

end Node

/-- The nodes of a text in the order of their numbers. -/
abbrev Graph := List Node

namespace Graph

/-- The node with a number; an empty scalar if there is none. -/
def node (graph : Graph) (number : Nat) : Node := graph[number]?.getD default

/-- The tag of the node with a number. -/
def tag (graph : Graph) (number : Nat) : Tag := (graph.node number).tag

/-- The nodes after a change of the one with a number. -/
def update (graph : Graph) (number : Nat) (change : Node → Node) : Graph :=
  graph.modify number change

end Graph
end Conformance.Yaml
