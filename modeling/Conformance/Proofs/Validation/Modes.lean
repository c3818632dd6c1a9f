import Conformance.Proofs.Validation.Findings

/-!
# Collecting and failing fast

Both modes report from one list, the findings at the root: a run that collects reports all of them,
a run that fails fast the first. So the modes agree on whether a document is valid, and what a run
that fails fast reports is never more than one violation.
-/
namespace Conformance

namespace Report

theorem isValid_ofViolations (violations : List Violation) :
    (ofViolations violations).isValid = true ↔ violations = [] := by
  cases violations <;> simp [ofViolations, isValid]

theorem render_of_invalid {r : Report} (invalid : r.isValid = false) :
    r.render = Text.join "\n" (r.violations.map Violation.render) := by
  rw [render, invalid]
  rfl

end Report

namespace Validation

/-- The part of the findings that a mode reports. -/
def reported (mode : Mode) (found : List Violation) : List Violation :=
  match mode with
  | .collectAll => found
  | .failFast => found.take 1

@[simp] theorem reported_eq_nil (mode : Mode) (found : List Violation) :
    reported mode found = [] ↔ found = [] := by
  cases mode <;> simp [reported]

/-- A run reports from the findings at the root as much as its mode asks for. -/
theorem violations_eq_reported (settings : Settings) (schema : Schema) (value : Document) :
    violations settings schema value =
      reported settings.mode (findings settings.maxDepth [] 0 schema value) := by
  rw [violations, walk_eq_resume]
  cases settings.mode with
  | collectAll => rfl
  | failFast => cases findings settings.maxDepth [] 0 schema value <;> rfl

theorem mem_findings_of_mem_violations {settings : Settings} {schema : Schema} {value : Document}
    {v : Violation} (told : v ∈ (validate settings schema value).violations) :
    v ∈ findings settings.maxDepth [] 0 schema value := by
  have reported : (validate settings schema value).violations = violations settings schema value :=
    rfl
  rw [reported, violations_eq_reported] at told
  cases mode : settings.mode with
  | collectAll =>
    rw [mode] at told
    exact told
  | failFast =>
    rw [mode] at told
    exact List.mem_of_mem_take told

/-- The mode has no say in whether a document is valid. -/
theorem isValid_validate (settings : Settings) (schema : Schema) (value : Document) :
    (validate settings schema value).isValid = true ↔
      findings settings.maxDepth [] 0 schema value = [] := by
  rw [validate, Report.isValid_ofViolations, violations_eq_reported, reported_eq_nil]

/-- The status is that of the findings, whatever the mode. -/
theorem status_validate (settings : Settings) (schema : Schema) (value : Document) :
    (validate settings schema value).status =
      if findings settings.maxDepth [] 0 schema value = [] then .valid else .invalid := by
  simp only [validate, Report.ofViolations, violations_eq_reported, List.isEmpty_iff,
    reported_eq_nil]

/-- A run that collects reports the findings at the root, all of them and in their order. -/
theorem collectAll_reports_findings (limit : Nat) (schema : Schema) (value : Document) :
    (validate ⟨limit, .collectAll⟩ schema value).violations =
      findings limit [] 0 schema value :=
  violations_eq_reported ⟨limit, .collectAll⟩ schema value

/-- A run that fails fast reports the first violation of the run that collects, if there is one;
the statuses agree, and an invalid report of it holds exactly one violation. -/
theorem failFast_reports_first (limit : Nat) (schema : Schema) (value : Document) :
    (validate ⟨limit, .failFast⟩ schema value).violations =
        (validate ⟨limit, .collectAll⟩ schema value).violations.take 1
      ∧ (validate ⟨limit, .failFast⟩ schema value).status =
        (validate ⟨limit, .collectAll⟩ schema value).status
      ∧ ((validate ⟨limit, .failFast⟩ schema value).status = .invalid ↔
        (validate ⟨limit, .failFast⟩ schema value).violations.length = 1) := by
  have all : violations ⟨limit, .collectAll⟩ schema value = findings limit [] 0 schema value :=
    violations_eq_reported _ _ _
  have first : violations ⟨limit, .failFast⟩ schema value =
      (findings limit [] 0 schema value).take 1 :=
    violations_eq_reported _ _ _
  simp only [validate, Report.ofViolations, all, first]
  cases findings limit [] 0 schema value with
  | nil => simp
  | cons v rest => simp

end Validation
end Conformance
