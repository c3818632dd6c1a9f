import Conformance.Schema.Constraint

/-!
# Schemas

A schema either accepts anything or is a node with rules: a wanted kind, required members, schemas
for members and elements, bounds on single values, and constraints of the caller. Rules for objects
and arrays matter only to values of that kind. A required name counts once, however often a node
declares it. A node without any rule accepts everything too.
-/
namespace Conformance

/-- Bounds on single values; an absent bound bounds nothing. -/
structure Bounds where
  minLength : Option Nat := none
  maxLength : Option Nat := none
  pattern : Option Pattern := none
  minimum : Option Binary64 := none
  maximum : Option Binary64 := none
  minItems : Option Nat := none
  maxItems : Option Nat := none
  enum : Option (List Document) := none

/-- The bounds that are present, in the order in which they are looked at. -/
def Bounds.constraints (b : Bounds) : List Constraint :=
  (b.minLength.map fun limit : Nat => Constraint.minLength limit).toList
    ++ (b.maxLength.map fun limit : Nat => Constraint.maxLength limit).toList
    ++ (b.pattern.map Constraint.pattern).toList
    ++ (b.minimum.map fun limit => Constraint.minimum (.finite limit)).toList
    ++ (b.maximum.map fun limit => Constraint.maximum (.finite limit)).toList
    ++ (b.minItems.map fun limit : Nat => Constraint.minItems limit).toList
    ++ (b.maxItems.map fun limit : Nat => Constraint.maxItems limit).toList
    ++ (b.enum.map Constraint.enum).toList

inductive Schema where
  | anything
  | node (kind : Option Kind) (required : List Text) (properties : List (Text × Schema))
      (items : Option Schema) (bounds : Bounds) (checks : List Constraint)

namespace Schema

instance : Inhabited Schema := ⟨.anything⟩

def kind? : Schema → Option Kind
  | .anything => none
  | .node kind .. => kind

/-- Names of members that an object must have, each once, in the order of their declaration. -/
def required : Schema → List Text
  | .anything => []
  | .node _ required .. => required.eraseDups

def properties : Schema → Named Schema
  | .anything => []
  | .node _ _ properties .. => properties

def items? : Schema → Option Schema
  | .anything => none
  | .node _ _ _ items .. => items

def bounds : Schema → Bounds
  | .anything => {}
  | .node _ _ _ _ bounds _ => bounds

/-- The caller's own constraints. -/
def checks : Schema → List Constraint
  | .anything => []
  | .node _ _ _ _ _ checks => checks

def property? (s : Schema) (name : Text) : Option Schema := s.properties.get? name

/-- The constraints on the value itself: bounds first, then checks. -/
def constraints (s : Schema) : List Constraint := s.bounds.constraints ++ s.checks

/-- Whether nothing is asked of a value. -/
def acceptsAll (s : Schema) : Bool :=
  s.kind?.isNone && s.required.isEmpty && s.properties.isEmpty && s.items?.isNone
    && s.constraints.isEmpty

/-- The same schema with more checks after its own. -/
def withChecks (s : Schema) (more : List Constraint) : Schema :=
  .node s.kind? s.required s.properties s.items? s.bounds (s.checks ++ more)

end Schema
end Conformance
