import Conformance.Proofs.Document.Scalar
import Conformance.Proofs.Report.Stored
import Conformance.Proofs.Schema.WellFormed
import Conformance.Proofs.Validation.Located
import Conformance.Report.Format

/-!
# Reports without surrogates

What a violation tells of scalar documents has no surrogates: names and shown values are taken from
the value or from the schema, and all other words are the program's own. The report can therefore be
written in every format.
-/
namespace Conformance

open Text

/-! ### Constraints -/

/-- The texts that a constraint shows have no surrogates. -/
def Constraint.Scalar : Constraint → Prop
  | .pattern p => p.source.Scalar
  | .enum values => ∀ value ∈ values, value.Scalar
  | .check c => c.name.Scalar ∧ c.message.Scalar
  | _ => True

namespace Constraint

theorem Scalar.rule {c : Constraint} (scalar : c.Scalar) : c.rule.Scalar := by
  cases c with
  | check c => exact scalar.1
  | _ => exact scalar_ofString _

theorem scalar_missed {found limit : Text} (rule subject relation : String)
    (first : found.Scalar) (second : limit.Scalar) :
    (missed rule subject found relation limit).Scalar :=
  (((((scalar_ofString rule).append (scalar_ofString ": ")).append (scalar_ofString subject)).append
    first).append (scalar_ofString relation)).append second

/-- What is wrong with a scalar value is told without surrogates. -/
theorem Scalar.failure {c : Constraint} {value : Document} {detail : Text} (scalar : c.Scalar)
    (held : value.Scalar) (fails : c.failure? value = some detail) : detail.Scalar := by
  -- One case for each constraint: what it shows is put together of the value, of what it asks for
  -- and of words of the program.
  rw [failure?.eq_def] at fails
  split at fails
  · split_ifs at fails
    cases fails
    exact scalar_missed _ _ _ (scalar_ofNat _) (scalar_ofInt _)
  · split_ifs at fails
    cases fails
    exact scalar_missed _ _ _ (scalar_ofNat _) (scalar_ofInt _)
  next p content =>
    split_ifs at fails
    cases fails
    cases held with
    | string own =>
      exact (((scalar_ofString "pattern: ").append own.quoted).append
        (scalar_ofString " does not match ")).append (Text.Scalar.quoted scalar)
  next limit found =>
    split_ifs at fails
    cases fails
    exact scalar_missed _ _ _ found.scalar_formatPlain limit.scalar_formatPlain
  next limit found =>
    split_ifs at fails
    cases fails
    exact scalar_missed _ _ _ found.scalar_formatPlain limit.scalar_formatPlain
  · split_ifs at fails
    cases fails
    exact scalar_missed _ _ _ (scalar_ofNat _) (scalar_ofInt _)
  · split_ifs at fails
    cases fails
    exact scalar_missed _ _ _ (scalar_ofNat _) (scalar_ofInt _)
  next values =>
    split_ifs at fails
    cases fails
    have listed : ∀ part ∈ values.map Document.dump, part.Scalar := fun part member => by
      obtain ⟨shown, present, rfl⟩ := List.mem_map.mp member
      exact (scalar shown present).dump
    exact ((((scalar_ofString "enum: ").append held.dump).append
      (scalar_ofString " is not one of [")).append ((scalar_ofString ", ").join listed)).append
        (scalar_ofString "]")
  next c =>
    split_ifs at fails
    cases fails
    exact (scalar.1.append (scalar_ofString ": ")).append scalar.2
  · cases fails

end Constraint

/-! ### Schemas -/

namespace Schema

end Schema

/-! ### Violations -/

namespace Validation

/-- The names on a path have no surrogates. -/
def ScalarPath (path : Path) : Prop := ∀ name, .name name ∈ path → Text.Scalar name

theorem ScalarPath.concat {path : Path} (scalar : ScalarPath path) {step : Segment}
    (last : ∀ name, step = .name name → name.Scalar) : ScalarPath (path ++ [step]) := by
  intro name member
  rcases List.mem_append.mp member with earlier | here
  · exact scalar name earlier
  · exact last name (List.mem_singleton.mp here).symm

end Validation

end Conformance
