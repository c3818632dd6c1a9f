import Conformance.Report.Pointer

/-!
# Reports

The outcome of a validation as data: a status and the violations in the order in which the walk
found them. A report is valid when its status says so; the reports that a validation makes have the
status that their violations call for.
-/
namespace Conformance

inductive ViolationKind where
  | typeMismatch
  | missingField
  | constraintViolation
  | invalidEnumValue
  | depthExceeded
deriving DecidableEq

namespace ViolationKind

def all : List ViolationKind :=
  [.typeMismatch, .missingField, .constraintViolation, .invalidEnumValue, .depthExceeded]

def name : ViolationKind → Text
  | .typeMismatch => "type_mismatch"
  | .missingField => "missing_field"
  | .constraintViolation => "constraint_violation"
  | .invalidEnumValue => "invalid_enum_value"
  | .depthExceeded => "depth_exceeded"

def ofName? (name : Text) : Option ViolationKind := all.find? fun kind => kind.name = name

end ViolationKind

structure Violation where
  path : Path
  kind : ViolationKind
  detail : Text
  /-- The keyword or check that failed. -/
  rule : Option Text
  /-- The wanted kind, for a mismatch of kinds. -/
  expected : Option Text
  /-- The kind found, for a mismatch of kinds. -/
  actual : Option Text
deriving DecidableEq

namespace Violation

def pointer (v : Violation) : Text := Pointer.ofPath v.path

def render (v : Violation) : Text :=
  Pointer.shown v.pointer ++ " : " ++ v.kind.name ++ " : " ++ v.detail

end Violation

inductive Status where
  | valid
  | invalid
deriving DecidableEq

namespace Status

def name : Status → Text
  | .valid => "valid"
  | .invalid => "invalid"

def ofName? (name : Text) : Option Status :=
  if name = Status.valid.name then some .valid
  else if name = Status.invalid.name then some .invalid
  else none

end Status

structure Report where
  version : Text
  status : Status
  violations : List Violation
deriving DecidableEq

namespace Report

/-- The version that new reports carry. -/
def currentVersion : Text := "0.1.0"

/-- The report of a walk: valid when it found nothing. -/
def ofViolations (violations : List Violation) : Report :=
  ⟨currentVersion, if violations.isEmpty then .valid else .invalid, violations⟩

def isValid (r : Report) : Bool := r.status = .valid

/-- The violations at a pointer. -/
def violationsAt (r : Report) (pointer : Text) : List Violation :=
  r.violations.filter fun v => v.pointer = pointer

/-- One line for each violation, or one word. -/
def render (r : Report) : Text :=
  if r.isValid then "valid" else Text.join "\n" (r.violations.map Violation.render)

end Report
end Conformance
