import Conformance.Schema.Basic
import Conformance.Schema.Error

/-!
# Schemas from documents

A document denotes a schema when every keyword it knows has a value of the right shape. Keywords are
read in a fixed order, whatever the order of the members, and the first bad one decides. Entries of
`required` that are not strings are passed over. Schemas may be nested to a fixed depth.
-/
namespace Conformance.Schema

/-- The greatest depth of a nested schema. -/
def maxDepth : Nat := 128

/-- A fault at the end of steps given from the last to the first. -/
def refuse {α : Type} (back : List Text) (fault : SchemaFault) : Except CompileError α :=
  .error (.schema ⟨fault, back.reverse⟩)

/-- A fault in the value of a keyword. -/
def refuseShape {α : Type} (back : List Text) (keyword : Keyword) (wanted : Shape) :
    Except CompileError α :=
  refuse (keyword.name :: back) (.wrongShape keyword wanted)

def readKind (back : List Text) : Document → Except CompileError Kind
  | .string name =>
    match Kind.ofName? name with
    | some kind => .ok kind
    | none => refuse (Keyword.type.name :: back) (.unknownType name)
  | _ => refuseShape back .type .string

def readRequired (back : List Text) : Document → Except CompileError (List Text)
  | .array entries => .ok <| entries.filterMap fun entry =>
      match entry with
      | .string name => some name
      | _ => none
  | _ => refuseShape back .required .array

def readCount (back : List Text) (keyword : Keyword) : Document → Except CompileError Nat
  | .number value =>
    if value.isInteger && 0 ≤ value.units then .ok value.toInt.toNat
    else refuseShape back keyword .count
  | _ => refuseShape back keyword .count

def readNumber (back : List Text) (keyword : Keyword) : Document → Except CompileError Binary64
  | .number value => .ok value
  | _ => refuseShape back keyword .number

def readPattern (back : List Text) : Document → Except CompileError Pattern
  | .string source =>
    match Pattern.compile source with
    | .ok pattern => .ok pattern
    | .error error =>
      if error.isSyntax then
        refuse (Keyword.pattern.name :: back) (.invalidPattern source error.message)
      else .error (.pattern error)
  | _ => refuseShape back .pattern .string

def readEnum (back : List Text) : Document → Except CompileError (List Document)
  | .array values => .ok values
  | _ => refuseShape back .enum .array

/-- Reads the value of a keyword if the keyword is there. -/
def optional {α : Type} (members : Named Document) (keyword : Keyword)
    (read : Document → Except CompileError α) : Except CompileError (Option α) :=
  match members.get? keyword.name with
  | none => .ok none
  | some value => (read value).map some

/-- Reads every member with its name, in order, up to the first fault. -/
def readMembers {α : Type} (read : Text → Document → Except CompileError α) :
    Named Document → Except CompileError (Named α)
  | [] => .ok []
  | (name, value) :: rest => do
    let first ← read name value
    let others ← readMembers read rest
    pure ((name, first) :: others)

/-- The bounds of a node. -/
def readBounds (back : List Text) (members : Named Document) : Except CompileError Bounds := do
  let minLength ← optional members .minLength (readCount back .minLength)
  let maxLength ← optional members .maxLength (readCount back .maxLength)
  let minItems ← optional members .minItems (readCount back .minItems)
  let maxItems ← optional members .maxItems (readCount back .maxItems)
  let minimum ← optional members .minimum (readNumber back .minimum)
  let maximum ← optional members .maximum (readNumber back .maximum)
  let pattern ← optional members .pattern (readPattern back)
  let enum ← optional members .enum (readEnum back)
  pure { minLength, maxLength, pattern, minimum, maximum, minItems, maxItems, enum }

/-- Schemas for the members of an object. -/
def readProperties (back : List Text)
    (compile : List Text → Document → Except CompileError Schema) :
    Document → Except CompileError (Named Schema)
  | .object members => readMembers (fun name => compile (name :: Keyword.properties.name :: back))
      members
  | _ => refuseShape back .properties .object

/-- The schema that a document denotes below the given steps, within a number of levels. -/
def compileWithin : (levels : Nat) → (back : List Text) → Document → Except CompileError Schema
  | 0, back, _ => refuse back (.tooDeep maxDepth)
  | _ + 1, _, .boolean true => .ok .anything
  | levels + 1, back, .object members => do
    let kind ← optional members .type (readKind back)
    let required ← optional members .required (readRequired back)
    let properties ← optional members .properties (readProperties back (compileWithin levels))
    let items ← optional members .items (compileWithin levels (Keyword.items.name :: back))
    let bounds ← readBounds back members
    if Keyword.all.any fun keyword => Named.contains members keyword.name then
      pure (.node kind (required.getD []) (properties.getD []) items bounds [])
    else pure .anything
  | _ + 1, back, document => refuse back (.notObject document.kind)

/-- The schema that a document denotes. -/
def compile (document : Document) : Except CompileError Schema :=
  compileWithin (maxDepth + 1) [] document

end Conformance.Schema
