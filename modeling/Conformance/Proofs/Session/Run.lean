import Conformance.Session.Basic

/-!
# Running requests

What a request answers, and the workspace that it leaves, step by step: a request goes on with the
answer of its first step from the workspace that the step left, and stops where a step fails.
-/
namespace Conformance.Session

variable {α β : Type} {w after : Workspace}

theorem run_bind (step : Session α) (next : α → Session β) (w : Workspace) :
    (step >>= next).run w = match step.run w with
      | (.ok a, after) => (next a).run after
      | (.error failure, after) => (.error failure, after) := by
  simp only [run, ExceptT.run_bind, StateT.run_bind]
  cases (ExceptT.run step).run w with
  | mk result after =>
    cases result with
    | ok a => rfl
    | error failure => rfl

/-- A request goes on behind a step that answers. -/
theorem run_bind_of_ok {step : Session α} {next : α → Session β} {a : α}
    (answered : step.run w = (.ok a, after)) : (step >>= next).run w = (next a).run after := by
  rw [run_bind, answered]

/-- A request stops where a step fails. -/
theorem run_bind_of_error {step : Session α} {next : α → Session β} {failure : Failure}
    (failed : step.run w = (.error failure, after)) :
    (step >>= next).run w = (.error failure, after) := by
  rw [run_bind, failed]

@[simp] theorem run_pure (a : α) (w : Workspace) : (pure a : Session α).run w = (.ok a, w) := rfl

@[simp] theorem run_answer (result : Except Failure α) (w : Workspace) :
    (answer result).run w = (result, w) := rfl

@[simp] theorem run_look (view : Workspace → α) (w : Workspace) :
    (look view).run w = (.ok (view w), w) := rfl

@[simp] theorem run_change (next : Workspace → Workspace) (w : Workspace) :
    (change next).run w = (.ok (), next w) := rfl

@[simp] theorem run_inspect (view : FileTree → Except FileError α) (w : Workspace) :
    (inspect view).run w = ((view w.files).mapError .file, w) := rfl

/-- Nothing that an attempt comes to is a failure. -/
@[simp] theorem run_attempt (request : Session α) (w : Workspace) :
    (attempt request).run w = (.ok (request.run w).1, (request.run w).2) := rfl

theorem run_inspect_of_ok {view : FileTree → Except FileError α} {a : α}
    (seen : view w.files = .ok a) : (inspect view).run w = (.ok a, w) := by
  show ((view w.files).mapError Failure.file, w) = _
  rw [seen]
  rfl

theorem run_rearrange_of_ok {next : FileTree → Except FileError FileTree} {files : FileTree}
    (changed : next w.files = .ok files) :
    (rearrange next).run w = (.ok (), { w with files }) := by
  simp only [rearrange, run, ExceptT.run_mk, StateT.run, changed]
  rfl

theorem run_rearrange_of_error {next : FileTree → Except FileError FileTree} {error : FileError}
    (refused : next w.files = .error error) :
    (rearrange next).run w = (.error (.file error), w) := by
  simp only [rearrange, run, ExceptT.run_mk, StateT.run, refused]
  rfl

end Conformance.Session
