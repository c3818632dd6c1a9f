import Conformance.Yaml.Implicit
import Conformance.Yaml.Token

/-!
# Nodes from tokens

A text holds one document at most. Tokens are read in order without going back; when they run out
before the document is whole, the fault is the one that broke off the tokens.

A node gets its number when it begins, and its anchor names that number from then on, so an alias
inside a collection may mean the collection. No anchor may be given twice.

Each call of the reader takes a token or goes from a node to its content, so three times the number
of tokens bounds the depth of calls.
-/
namespace Conformance.Yaml

/-- What is left of the tokens, what names in them mean, and the nodes so far. -/
structure Composition where
  tokens : List Token
  /-- Why there are no more tokens. -/
  broken : Option Fault
  handles : List (Text × Text)
  anchors : List (Text × Nat)
  graph : Graph

/-- A step of reading nodes. -/
abbrev Composer (α : Type) := StateT Composition (Except Fault) α

namespace Composer

def malformed {α : Type} : Composer α := throw .malformed

/-- The next token; none at the end of the text. -/
def peek : Composer (Option Token) := do
  let s ← get
  match s.tokens, s.broken with
  | token :: _, _ => pure (some token)
  | [], some fault => throw fault
  | [], none => pure none

def drop : Composer Unit := modify fun s => { s with tokens := s.tokens.drop 1 }

/-- Takes the next token if it is the given one. -/
def accept (token : Token) : Composer Bool := do
  if (← peek) = some token then
    drop
    pure true
  else pure false

/-- Takes the next token, which has to be the given one. -/
def expect (token : Token) : Composer Unit := do
  if !(← accept token) then malformed

/-- Whether one of the given tokens comes next. -/
def comesOneOf (tokens : List Token) : Composer Bool := do
  let next ← peek
  pure (tokens.any fun token => next = some token)

/-! ### Properties of nodes -/

/-- Anchor and tag of a node, in either order. -/
structure Properties where
  anchor : Option Text
  tag : Option WrittenTag

def takeAnchor : Composer (Option Text) := do
  match ← peek with
  | some (.anchor name) => drop; pure (some name)
  | _ => pure none

def takeTag : Composer (Option WrittenTag) := do
  match ← peek with
  | some (.tag tag) => drop; pure (some tag)
  | _ => pure none

def takeProperties : Composer Properties := do
  match ← takeAnchor with
  | some anchor => pure ⟨some anchor, ← takeTag⟩
  | none =>
    match ← takeTag with
    | some tag => pure ⟨← takeAnchor, some tag⟩
    | none => pure ⟨none, none⟩

/-- The full name of a tag; none if the tag is left to the form of the node. -/
def tagName (tag : Option WrittenTag) : Composer (Option Text) := do
  match tag with
  | none => pure none
  | some ⟨none, suffix⟩ => pure (if suffix = "!" then none else some suffix)
  | some ⟨some handle, suffix⟩ =>
    match (← get).handles.find? fun entry => entry.1 = handle with
    | some (_, beginning) =>
      let name := beginning ++ suffix
      pure (if name = "!" then none else some name)
    | none => malformed

/-- No anchor may be given twice. -/
def checkAnchor (anchor : Option Text) : Composer Unit := do
  match anchor with
  | none => pure ()
  | some name => if (← get).anchors.any fun entry => entry.1 = name then malformed

/-- The number of the node that an alias stands for. -/
def resolveAlias (name : Text) : Composer Nat := do
  match (← get).anchors.find? fun entry => entry.1 = name with
  | some (_, number) => pure number
  | none => malformed

/-- Adds a node, which its anchor names from then on; gives its number. -/
def add (anchor : Option Text) (node : Node) : Composer Nat := do
  let s ← get
  let number := s.graph.length
  set { s with
    graph := s.graph ++ [node]
    anchors := (anchor.map fun name => (name, number)).toList ++ s.anchors }
  pure number

/-- Adds a collection, and fills it once its parts have been read. -/
def collect {α : Type} (anchor : Option Text) (node : List α → Node) (parts : Composer (List α)) :
    Composer Nat := do
  let number ← add anchor (node [])
  let held ← parts
  modify fun s => { s with graph := s.graph.set number (node held) }
  pure number

def emptyNode : Node := .scalar .null []

/-- A scalar with the tag it is given, or else the tag of its form. -/
def scalarNode (tag : Option Text) (asked : Bool) (content : Text) (plain : Bool) : Node :=
  match tag with
  | some name => .scalar (.ofName name) content
  | none => .scalar (if plain || asked then .ofPlain content else .text) content

/-! ### Nodes -/

/-- Where a node stands, which decides what it may be. -/
inductive Place where
  /-- In a block collection or at the top. -/
  | block
  /-- A key or value of a block mapping, where a sequence need not be indented. -/
  | blockMember
  | flow
deriving DecidableEq

mutual

/-- Reads a node. -/
def takeNode : Nat → Place → Composer Nat
  | 0, _ => malformed
  | fuel + 1, place => do
    match ← peek with
    | some (.alias name) =>
      drop
      resolveAlias name
    | _ =>
      let ⟨anchor, written⟩ ← takeProperties
      let tag ← tagName written
      let next ← peek
      checkAnchor anchor
      let given (usual : Tag) : Tag := (tag.map Tag.ofName).getD usual
      match next with
      | some (.scalar content plain) =>
        drop
        add anchor (scalarNode tag written.isSome content plain)
      | some .flowSequenceStart =>
        drop
        collect anchor (.sequence (given .sequence)) (takeFlowItems fuel true)
      | some .flowMappingStart =>
        drop
        collect anchor (.mapping (given .mapping)) (takeFlowEntries fuel true)
      | _ =>
        if place = .blockMember ∧ next = some .blockEntry then
          collect anchor (.sequence (given .sequence)) (takeBlockItems fuel false)
        else if place ≠ .flow ∧ next = some .blockSequenceStart then
          drop
          collect anchor (.sequence (given .sequence)) (takeBlockItems fuel true)
        else if place ≠ .flow ∧ next = some .blockMappingStart then
          drop
          collect anchor (.mapping (given .mapping)) (takeBlockEntries fuel)
        else if anchor.isSome ∨ written.isSome then
          add anchor (scalarNode tag true [] true)
        else malformed

/-- Reads a node unless one of the given tokens comes next; then it is empty. -/
def takeNodeUnless : Nat → Place → List Token → Composer Nat
  | 0, _, _ => malformed
  | fuel + 1, place, ends => do
    if ← comesOneOf ends then add none emptyNode else takeNode fuel place

/-- Reads the items of a block sequence, to its end mark if it is indented. -/
def takeBlockItems : Nat → Bool → Composer (List Nat)
  | 0, _ => malformed
  | fuel + 1, indented => do
    if ← accept .blockEntry then
      let item ← takeNodeUnless fuel .block
        (if indented then [.blockEntry, .blockEnd] else [.blockEntry, .key, .value, .blockEnd])
      pure (item :: (← takeBlockItems fuel indented))
    else
      if indented then expect .blockEnd
      pure []

/-- Reads the entries of a block mapping and its end mark. -/
def takeBlockEntries : Nat → Composer (List (Nat × Nat))
  | 0 => malformed
  | fuel + 1 => do
    let ends := [.key, .value, .blockEnd]
    if ← accept .key then
      let key ← takeNodeUnless fuel .blockMember ends
      let value ←
        if ← accept .value then takeNodeUnless fuel .blockMember ends else add none emptyNode
      pure ((key, value) :: (← takeBlockEntries fuel))
    else
      expect .blockEnd
      pure []

/-- Reads the items of a flow sequence and its end mark. An item with a key is a mapping of one
entry. -/
def takeFlowItems : Nat → Bool → Composer (List Nat)
  | 0, _ => malformed
  | fuel + 1, first => do
    if ← accept .flowSequenceEnd then pure []
    else
      if !first then expect .flowEntry
      if ← accept .key then
        let entry ← takeFlowEntry fuel .flowSequenceEnd
        let item ← add none (.mapping .mapping [entry])
        pure (item :: (← takeFlowItems fuel false))
      else if ← accept .flowSequenceEnd then pure []
      else
        let item ← takeNode fuel .flow
        pure (item :: (← takeFlowItems fuel false))

/-- Reads the entries of a flow mapping and its end mark. -/
def takeFlowEntries : Nat → Bool → Composer (List (Nat × Nat))
  | 0, _ => malformed
  | fuel + 1, first => do
    if ← accept .flowMappingEnd then pure []
    else
      if !first then expect .flowEntry
      if ← accept .key then
        let entry ← takeFlowEntry fuel .flowMappingEnd
        pure (entry :: (← takeFlowEntries fuel false))
      else if ← accept .flowMappingEnd then pure []
      else
        let key ← takeNode fuel .flow
        let value ← add none emptyNode
        pure ((key, value) :: (← takeFlowEntries fuel false))

/-- Reads key and value in a flow collection with a given end mark. -/
def takeFlowEntry : Nat → Token → Composer (Nat × Nat)
  | 0, _ => malformed
  | fuel + 1, close => do
    let key ← takeNodeUnless fuel .flow [.value, .flowEntry, close]
    let value ←
      if ← accept .value then takeNodeUnless fuel .flow [.flowEntry, close]
      else add none emptyNode
    pure (key, value)

end

/-! ### Documents -/

def standardHandles : List (Text × Text) := [("!", "!"), ("!!", Tag.common)]

/-- Reads directives: one version at most, which is one point something, and each handle once. -/
def takeDirectives : Nat → Bool → List (Text × Text) → Composer (List (Text × Text))
  | 0, _, handles => pure handles
  | fuel + 1, versioned, handles => do
    match ← peek with
    | some (.directive directive) =>
      drop
      match directive with
      | .version major _ =>
        if versioned ∨ major ≠ 1 then malformed
        takeDirectives fuel true handles
      | .tag handle beginning =>
        if handles.any fun entry => entry.1 = handle then malformed
        takeDirectives fuel versioned (handles ++ [(handle, beginning)])
      | .other _ => takeDirectives fuel versioned handles
    | _ => pure handles

/-- Takes the marks that end documents. -/
def dropDocumentEnds : Nat → Composer Unit
  | 0 => pure ()
  | fuel + 1 => do if ← accept .documentEnd then dropDocumentEnds fuel

/-- Whether a token belongs between documents. -/
def isDocumentMark : Token → Bool
  | .directive _ | .documentStart | .documentEnd => true
  | _ => false

/-- Reads the head of a document, directives and a start mark, for which its handles are noted. -/
def takeHead (fuel : Nat) : Composer Unit := do
  let handles ← takeDirectives fuel false []
  modify fun s => { s with handles := handles ++ standardHandles }
  expect .documentStart

/-- The outermost node of a document that begins with directives or a start mark. -/
def takeExplicitDocument (fuel : Nat) : Composer Nat := do
  takeHead fuel
  match ← peek with
  | none => add none emptyNode
  | some token => if isDocumentMark token then add none emptyNode else takeNode fuel .block

/-- The outermost node of the only document; none if the text holds no document. -/
def takeText (fuel : Nat) : Composer (Option Nat) := do
  match ← peek with
  | none => pure none
  | some token =>
    let root ← match token with
      | .directive _ | .documentStart => takeExplicitDocument fuel
      | _ => takeNode fuel .block
    dropDocumentEnds fuel
    match ← peek with
    | none => pure (some root)
    | some _ =>
      -- A second document is refused once its head has been read.
      takeHead fuel
      malformed

end Composer

/-- The nodes of the only document of a text with the number of the outermost one; none if the text
holds no document. -/
def Graph.ofText (t : Text) : Except Fault (Option (Graph × Nat)) :=
  let (tokens, broken) := Token.scan t
  let start : Composition :=
    { tokens, broken, handles := Composer.standardHandles, anchors := [], graph := [] }
  ((Composer.takeText (3 * tokens.length + 3)).run start).map fun (root, composition) =>
    root.map fun number => (composition.graph, number)

end Conformance.Yaml
