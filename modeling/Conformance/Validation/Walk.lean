import Conformance.Schema.Basic
import Conformance.Validation.Settings

/-!
# Walking a document along a schema

The walk goes depth first, in the order of members and elements. At each value it looks at the
depth, then at the kind, then at required members and at the members or elements below, and last at
the constraints on the value itself. A value of a wrong kind, or one too deep, is not looked into.

The violations found so far are handed from step to step. A run that collects goes to the end; a run
that fails fast stops with its first violation.
-/
namespace Conformance.Validation

/-- The violations found so far, or those with which the run stopped. -/
abbrev Progress := Except (List Violation) (List Violation)

/-- Adds a violation; a run that fails fast stops there. -/
def record (mode : Mode) (found : List Violation) (v : Violation) : Progress :=
  match mode with
  | .collectAll => .ok (found ++ [v])
  | .failFast => .error (found ++ [v])

def depthViolation (path : Path) (depth maxDepth : Nat) : Violation :=
  { path, kind := .depthExceeded
    detail := "nesting depth " ++ Text.ofNat depth ++ " exceeds maximum " ++ Text.ofNat maxDepth
    rule := none, expected := none, actual := none }

def kindViolation (path : Path) (expected actual : Kind) : Violation :=
  { path, kind := .typeMismatch
    detail := "expected " ++ expected.name ++ ", got " ++ actual.name
    rule := some "type", expected := some expected.name, actual := some actual.name }

def missingViolation (path : Path) (name : Text) : Violation :=
  { path := path ++ [.name name], kind := .missingField
    detail := "required field '" ++ name ++ "' is missing"
    rule := some "required", expected := none, actual := none }

def constraintViolation (path : Path) (c : Constraint) (detail : Text) : Violation :=
  { path, kind := c.violationKind, detail, rule := some c.rule, expected := none, actual := none }

/-- Records every required name that the members lack. -/
def walkRequired (mode : Mode) (path : Path) (members : Named Document) :
    List Text → List Violation → Progress
  | [], found => .ok found
  | name :: rest, found =>
    if members.contains name then walkRequired mode path members rest found
    else
      match record mode found (missingViolation path name) with
      | .error stopped => .error stopped
      | .ok found => walkRequired mode path members rest found

/-- Records every constraint that applies to the value and fails on it. -/
def walkConstraints (mode : Mode) (path : Path) (value : Document) :
    List Constraint → List Violation → Progress
  | [], found => .ok found
  | c :: rest, found =>
    if c.accepts value.kind then
      match c.failure? value with
      | none => walkConstraints mode path value rest found
      | some detail =>
        match record mode found (constraintViolation path c detail) with
        | .error stopped => .error stopped
        | .ok found => walkConstraints mode path value rest found
    else walkConstraints mode path value rest found

mutual

/-- Looks at a value at a path and depth. -/
def walk (settings : Settings) (path : Path) (depth : Nat) (schema : Schema) :
    Document → List Violation → Progress
  | value, found =>
    if settings.maxDepth < depth then
      record settings.mode found (depthViolation path depth settings.maxDepth)
    else if schema.acceptsAll then .ok found
    else
      match schema.kind?.filter fun wanted => wanted ≠ value.kind with
      | some wanted => record settings.mode found (kindViolation path wanted value.kind)
      | none =>
        let inner : Progress :=
          match value with
          | .object members =>
            match walkRequired settings.mode path members schema.required found with
            | .error stopped => .error stopped
            | .ok found => walkMembers settings path depth schema members found
          | .array elements =>
            match schema.items? with
            | none => .ok found
            | some items => walkElements settings path depth items 0 elements found
          | _ => .ok found
        match inner with
        | .error stopped => .error stopped
        | .ok found => walkConstraints settings.mode path value schema.constraints found

/-- Looks at the members that have a schema of their own. -/
def walkMembers (settings : Settings) (path : Path) (depth : Nat) (schema : Schema) :
    List (Text × Document) → List Violation → Progress
  | [], found => .ok found
  | (name, value) :: rest, found =>
    match schema.property? name with
    | none => walkMembers settings path depth schema rest found
    | some sub =>
      match walk settings (path ++ [.name name]) (depth + 1) sub value found with
      | .error stopped => .error stopped
      | .ok found => walkMembers settings path depth schema rest found

/-- Looks at the elements from an index on. -/
def walkElements (settings : Settings) (path : Path) (depth : Nat) (items : Schema)
    (index : Nat) : List Document → List Violation → Progress
  | [], found => .ok found
  | value :: rest, found =>
    match walk settings (path ++ [.index index]) (depth + 1) items value found with
    | .error stopped => .error stopped
    | .ok found => walkElements settings path depth items (index + 1) rest found

end

/-- The violations of a document, as many as the mode asks for. -/
def violations (settings : Settings) (schema : Schema) (document : Document) : List Violation :=
  match walk settings [] 0 schema document [] with
  | .ok found => found
  | .error found => found

/-- The report of a document. -/
def validate (settings : Settings) (schema : Schema) (document : Document) : Report :=
  Report.ofViolations (violations settings schema document)

end Conformance.Validation
