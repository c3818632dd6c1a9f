import Conformance.Yaml.Node.OfTokens
import Conformance.Yaml.Value

/-!
# Data from nodes

Each node becomes a datum once, however many collections it is part of. A scalar does so when it is
met, and a collection is entered, and what it holds met, only after all collections that were met
before it. When a text has several faults, the first one that is met counts.

Members of other mappings are taken over first, so a mapping's own members win. This changes the
mappings themselves, and so what is found in them later on, be it through another alias or from
inside. A limit on the nesting of nodes is left out.
-/
namespace Conformance.Yaml

/-- What is made of a node with a tag. -/
inductive Tag.Use where
  | scalar
  | collection
  | nothing
deriving DecidableEq

def Tag.use : Tag → Tag.Use
  | .null | .boolean | .integer | .real | .text | .binary | .timestamp => .scalar
  | .sequence | .mapping | .set | .orderedMap | .pairs => .collection
  | .merge | .value | .unknown => .nothing

namespace Graph

/-! ### Scalars -/

/-- The entry whose value stands for a whole mapping. -/
def valueEntry? (graph : Graph) (entries : List (Nat × Nat)) : Option (Nat × Nat) :=
  entries.find? fun entry => graph.tag entry.1 = .value

/-- The text of a scalar, or of the member that stands for a whole mapping, within so many nodes. -/
def scalarText (graph : Graph) : Nat → Nat → Except Fault Text
  | 0, _ => .error .endless
  | fuel + 1, number =>
    match graph.node number with
    | .scalar _ content => .ok content
    | .sequence .. => .error .malformed
    | .mapping _ entries =>
      match graph.valueEntry? entries with
      | some (_, value) => scalarText graph fuel value
      | none => .error .malformed

/-- The datum of a node with the tag of a scalar. A way through more nodes than there are comes back
to one of them. -/
def readScalar (graph : Graph) (number : Nat) : Except Fault Datum := do
  let content ← graph.scalarText (graph.length + 1) number
  match graph.node number with
  | .mapping .timestamp _ => .error .mappedTimestamp
  | node => node.tag.read content

/-! ### Members taken over -/

/-- Whether an entry takes over the members of its value. -/
def merges (graph : Graph) (entry : Nat × Nat) : Bool := graph.tag entry.1 = .merge

/-- How many entries there are. -/
def entryCount (graph : Graph) : Nat :=
  graph.foldl (fun count node => count + node.entries.length) 0

end Graph

/-- The tag of a key: what stands for the value of a mapping is a text like any other then. -/
def Tag.asKey : Tag → Tag
  | .value => .text
  | tag => tag

def Node.asKey : Node → Node
  | .scalar tag content => .scalar tag.asKey content
  | .sequence tag items => .sequence tag.asKey items
  | .mapping tag entries => .mapping tag.asKey entries

/-- The node with other entries, if it is a mapping. -/
def Node.mapEntries (f : List (Nat × Nat) → List (Nat × Nat)) : Node → Node
  | .mapping tag entries => .mapping tag (f entries)
  | node => node

/-- Makes the keys of a mapping nothing but keys, and puts further members in front of its own. -/
def Graph.settle (graph : Graph) (number : Nat) (taken : List (Nat × Nat)) : Graph :=
  let keyed := (graph.node number).entries.foldl (fun graph (key, _) =>
    graph.update key Node.asKey) graph
  keyed.update number (Node.mapEntries (taken ++ ·))

/-- What has become of a node: a collection holds the numbers of its parts. -/
inductive Made where
  | scalar (datum : Datum)
  /-- A collection that has been met and not entered yet. -/
  | met
  | sequence (items : List Nat)
  | pairs (entries : List (Nat × Nat))
  | mapping (entries : List (Nat × Nat))
  | set

/-- The nodes as they are by now, and what has become of them. -/
structure Making where
  graph : Graph
  /-- From last to first. -/
  made : List (Nat × Made)
  /-- The collections to be entered, in order. -/
  waiting : List Nat

/-- A step of making data. -/
abbrev Maker (α : Type) := StateT Making (Except Fault) α

namespace Maker

def malformed {α : Type} : Maker α := throw .malformed

def node (number : Nat) : Maker Node := do pure ((← get).graph.node number)

def change (f : Graph → Graph) : Maker Unit := modify fun s => { s with graph := f s.graph }

/-- Takes the first entry out of a node that takes over members; gives the value of that entry. -/
def takeMerge (number : Nat) : Maker (Option Nat) := do
  let graph := (← get).graph
  match (graph.node number).entries.find? graph.merges with
  | some (_, source) =>
    change fun graph => graph.update number (Node.mapEntries (List.eraseP graph.merges))
    pure (some source)
  | none => pure none

/-- The members of a mapping, after those that a step takes over. -/
def membersWith (takeOver : Nat → Maker (List (Nat × Nat))) (number : Nat) :
    Maker (List (Nat × Nat)) := do
  match ← node number with
  | .mapping .. =>
    let taken ← takeOver number
    change fun graph => graph.settle number taken
    pure (← node number).entries
  | _ => malformed

/-- The members that the value of a merge key stands for: those of a mapping, or of several, where
the last one comes first. -/
def membersFrom (takeOver : Nat → Maker (List (Nat × Nat))) (source : Nat) :
    Maker (List (Nat × Nat)) := do
  match ← node source with
  | .sequence _ items => do
    let taken ← items.mapM (membersWith takeOver)
    pure taken.reverse.flatten
  | _ => membersWith takeOver source

/-- The members that a mapping takes over, entry by entry. Each step takes an entry away. -/
def takeOver : Nat → Nat → Maker (List (Nat × Nat))
  | 0, _ => malformed
  | fuel + 1, number => do
    match ← takeMerge number with
    | none => pure []
    | some source =>
      let taken ← membersFrom (takeOver fuel) source
      pure (taken ++ (← takeOver fuel number))

/-- The members of a mapping, after those that it takes over. -/
def members (number : Nat) : Maker (List (Nat × Nat)) := do
  membersWith (takeOver ((← get).graph.entryCount + 1)) number

/-! ### Nodes -/

def record (number : Nat) (made : Made) : Maker Unit :=
  modify fun s => { s with made := (number, made) :: s.made }

/-- Meets a node, which may have been met before. -/
def meet (number : Nat) : Maker Unit := do
  let s ← get
  if (s.made.lookup number).isNone then
    match (s.graph.tag number).use with
    | .nothing => malformed
    | .scalar =>
      match s.graph.readScalar number with
      | .ok datum => record number (.scalar datum)
      | .error fault => throw fault
    | .collection =>
      record number .met
      modify fun s => { s with waiting := s.waiting ++ [number] }

/-- Meets key and value of a member. A collection cannot be a key, as keys are looked up. -/
def meetMember (entry : Nat × Nat) : Maker Unit := do
  meet entry.1
  match (← get).made.lookup entry.1 with
  | some (.scalar _) => meet entry.2
  | _ => malformed

/-- Meets the parts of a pair, which is written as a mapping of one entry. -/
def meetPair (number : Nat) : Maker (Nat × Nat) := do
  match ← node number with
  | .mapping _ [(key, value)] =>
    meet key
    meet value
    pure (key, value)
  | _ => malformed

/-- Meets the members of a mapping. -/
def meetMembers (number : Nat) : Maker (List (Nat × Nat)) := do
  let entries ← members number
  entries.forM meetMember
  pure entries

/-- Enters a collection and meets what it holds. -/
def enter (number : Nat) : Maker Unit := do
  match ← node number with
  | .sequence tag items =>
    if tag = .sequence then
      items.forM meet
      record number (.sequence items)
    else if tag = .orderedMap ∨ tag = .pairs then
      record number (.pairs (← items.mapM meetPair))
    else malformed
  | .mapping tag _ =>
    if tag = .mapping ∨ tag = .set then
      let entries ← meetMembers number
      record number (if tag = .set then .set else .mapping entries)
    else malformed
  | .scalar .. => malformed

/-- Enters the collections that wait, up to so many; no collection waits twice. -/
def enterAll : Nat → Maker Unit
  | 0 => pure ()
  | fuel + 1 => do
    match (← get).waiting with
    | [] => pure ()
    | number :: rest =>
      modify fun s => { s with waiting := rest }
      enter number
      enterAll fuel

end Maker

/-- The datum made of a node that stands inside others. -/
def Made.datum (made : List (Nat × Made)) : Nat → List Nat → Nat → Datum
  | 0, _, _ => .enclosing
  | fuel + 1, around, number =>
    let inner := datum made fuel (number :: around)
    if around.contains number then .enclosing
    else
      match made.lookup number with
      | some (.scalar datum) => datum
      | some (.sequence items) => .sequence (items.map inner)
      | some (.pairs entries) =>
        .sequence (entries.map fun (key, value) => .tuple [inner key, inner value])
      | some (.mapping entries) =>
        .ofEntries (entries.map fun (key, value) => (inner key, inner value))
      | some .set => .set
      | some .met | none => .null

/-- Makes a datum of the outermost node, and of all that are met from there. -/
def Maker.makeAll (root : Nat) : Maker Unit := do
  meet root
  enterAll ((← get).graph.length + 1)

/-- The datum that the node with a number denotes. -/
def Graph.toDatum (graph : Graph) (root : Nat) : Except Fault Datum := do
  let ((), s) ← (Maker.makeAll root).run ⟨graph, [], []⟩
  pure (Made.datum s.made (s.made.length + 1) [] root)

/-- The datum that a text denotes; null if it holds no document. -/
def decode (t : Text) : Except Fault Datum := do
  match ← Graph.ofText t with
  | none => pure .null
  | some (graph, root) => graph.toDatum root

/-- The encoding that a byte order mark names, else UTF-8. -/
def detectEncoding : Bytes → Encoding
  | 0xFF :: 0xFE :: _ => .utf16 false
  | 0xFE :: 0xFF :: _ => .utf16 true
  | _ => .utf8

/-- The datum that bytes denote. -/
def decodeBytes (bytes : Bytes) : Except Fault Datum :=
  let decoded := match detectEncoding bytes with
    | .utf8 => Encoding.decodeStrict bytes
    | encoding => Encoding.decodeAt encoding 0 bytes
  match decoded with
  | .ok t => decode t
  | .error _ => .error .malformed

end Conformance.Yaml
