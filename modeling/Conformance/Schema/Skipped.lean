import Conformance.Schema.Compile

/-!
# Entries passed over

Entries of `required` that are no strings do no harm; they are only worth a note. Notes are taken in
the order in which a schema is read, up to the fault that stops the reading, if there is one.
-/
namespace Conformance.Schema

/-- An entry of `required` that was passed over, with the pointer to its schema. -/
structure Skipped where
  pointer : Text
  kind : Kind
deriving DecidableEq

/-- The entries passed over in one `required`. -/
def skippedEntries (back : List Text) : Option Document → List Skipped
  | some (.array entries) => entries.filterMap fun entry =>
      match entry with
      | .string _ => none
      | other => some ⟨Pointer.ofSteps back.reverse, other.kind⟩
  | _ => []

/-- Whether reading got through. -/
def succeeded {α : Type} : Except CompileError α → Bool
  | .ok _ => true
  | .error _ => false

/-- Notes of steps in order, up to the first step that fails. -/
def untilFailure : List (List Skipped × Bool) → List Skipped
  | [] => []
  | (notes, fine) :: rest => notes ++ if fine then untilFailure rest else []

/-- The entries passed over below the given steps, within a number of levels. -/
def skippedWithin : (levels : Nat) → (back : List Text) → Document → List Skipped
  | levels + 1, back, .object members =>
    let below : List Text := Keyword.properties.name :: back
    let properties : List (List Skipped × Bool) :=
      match Named.get? members Keyword.properties.name with
      | some (.object schemas) => schemas.map fun (name, schema) =>
          (skippedWithin levels (name :: below) schema,
            succeeded (compileWithin levels (name :: below) schema))
      | some _ => [([], false)]
      | none => []
    let items : List Skipped :=
      match Named.get? members Keyword.items.name with
      | some schema => skippedWithin levels (Keyword.items.name :: back) schema
      | none => []
    untilFailure <| [
        ([], succeeded (optional members .type (readKind back))),
        (skippedEntries back (Named.get? members Keyword.required.name),
          succeeded (optional members .required (readRequired back)))]
      ++ properties ++ [(items, true)]
  | _, _, _ => []

/-- The entries passed over while a document is read as a schema. -/
def skipped (document : Document) : List Skipped := skippedWithin (maxDepth + 1) [] document

end Conformance.Schema
