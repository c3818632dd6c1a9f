import Conformance.Proofs.Logging.Calls
import Conformance.Proofs.Session.Run
import Conformance.Session.Schemas
import Conformance.Validation.Request

/-!
# What a session loads

What a file of a tree holds, as text, as a document and as a schema, does not depend on the session
that asks. Requests that load leave a workspace with more error output and with more schemas made,
and with nothing else changed. The output is what the log writes of some events; which events these
are does not depend on the log.
-/
namespace Conformance

namespace FileTree

variable (files : FileTree) (path : FilePath)

/-- The text of a file. -/
def textAt : Except Failure Text := do
  let content ← (files.read path).mapError .file
  ((Encoding.decodeStrict content).mapError .undecodable).map Session.unifyLines

/-- The document of a file. -/
def documentAt : Except Failure Document := do
  let content ← files.textAt path
  ((Session.notationOf path).read (.text content)).mapError .document

/-- The schema of a file. -/
def schemaAt : Except Failure Schema := do
  if ← (files.holds path).mapError .file then
    let document ← files.documentAt path
    Validation.compile document
  else .error (.noSchema path.text)

end FileTree

/-- A compiled schema is held as it is. -/
theorem Holding.schema_ofCompiled (serial : Nat) (schema : Schema) :
    (Holding.ofCompiled serial schema).schema = schema := by
  cases schema <;> rfl

/-- What a request that loads leaves behind: error output may have been added and schemas made, and
nothing else has changed. -/
structure Workspace.Grows (w after : Workspace) : Prop where
  files : after.files = w.files
  environment : after.environment = w.environment
  stamp : after.stamp = w.stamp
  log : after.log = w.log
  loaded : after.loaded = w.loaded
  serial : w.serial ≤ after.serial
  output : w.errorOutput <+: after.errorOutput

namespace Workspace.Grows

variable {w middle after : Workspace}

theorem refl (w : Workspace) : w.Grows w :=
  ⟨rfl, rfl, rfl, rfl, rfl, Nat.le_refl _, List.prefix_rfl⟩

theorem trans (first : w.Grows middle) (second : middle.Grows after) : w.Grows after where
  files := second.files.trans first.files
  environment := second.environment.trans first.environment
  stamp := second.stamp.trans first.stamp
  log := second.log.trans first.log
  loaded := second.loaded.trans first.loaded
  serial := Nat.le_trans first.serial second.serial
  output := first.output.trans second.output

theorem note (w : Workspace) (event : Logging.Event) : w.Grows (w.note event) :=
  ⟨rfl, rfl, rfl, rfl, rfl, Nat.le_refl _, List.prefix_append _ _⟩

end Workspace.Grows

/-- What a request that loads leaves behind after it noted events with usual fields: the log wrote of
them what it shows, one after another. -/
structure Workspace.Noted (w : Workspace) (events : List Logging.Event) (after : Workspace) : Prop
    extends w.Grows after where
  usual : ∀ event ∈ events, Logging.Usual event.fields
  written : after.errorOutput = w.errorOutput ++ events.flatMap (w.log.write w.stamp)

namespace Workspace.Noted

variable {w middle after : Workspace} {events later : List Logging.Event}

theorem refl (w : Workspace) : w.Noted [] w where
  toGrows := .refl w
  usual := List.forall_mem_nil _
  written := (List.append_nil _).symm

theorem trans (first : w.Noted events middle) (second : middle.Noted later after) :
    w.Noted (events ++ later) after where
  toGrows := first.toGrows.trans second.toGrows
  usual := List.forall_mem_append.mpr ⟨first.usual, second.usual⟩
  written := by
    rw [second.written, first.written, first.log, first.stamp, List.flatMap_append,
      List.append_assoc]

theorem note {event : Logging.Event} (usual : Logging.Usual event.fields) (w : Workspace) :
    w.Noted [event] (w.note event) where
  toGrows := .note w event
  usual := List.forall_mem_singleton.mpr usual
  written := by
    rw [List.flatMap_singleton]
    rfl

/-- Events noted one after another. -/
theorem foldl_note {α : Type} (event : α → Logging.Event)
    (usual : ∀ item, Logging.Usual (event item).fields) (items : List α) (w : Workspace) :
    w.Noted (items.map event) (items.foldl (fun w item => w.note (event item)) w) := by
  induction items generalizing w with
  | nil => exact refl w
  | cons item rest ih => exact (note (usual item) w).trans (ih _)

end Workspace.Noted

namespace Session

variable {w : Workspace} (path : FilePath)

theorem run_readText_eq (w : Workspace) : (readText path).run w = (w.files.textAt path, w) := by
  rw [readText, run_bind, run_inspect, FileTree.textAt]
  cases w.files.read path with
  | error fault => rfl
  | ok content => rfl

theorem run_readDocument (w : Workspace) :
    (readDocument path).run w = (w.files.documentAt path, w) := by
  rw [readDocument, run_bind, run_readText_eq, FileTree.documentAt]
  cases w.files.textAt path with
  | error failure => rfl
  | ok content => rfl

/-- The entries that are passed over are noted, and no schema is made. -/
theorem exists_noted_skipped (document : Document) : ∃ events, ∀ w, ∃ after,
    (noteSkipped document).run w = (.ok (), after) ∧ w.Noted events after ∧
      after.serial = w.serial := by
  refine ⟨_, fun w => ⟨_, rfl, .foldl_note (fun entry : Schema.Skipped =>
    ⟨.compile, .verbose, "required_entry_skipped",
      [("schema_path", .text entry.pointer), ("entry_kind", .text entry.kind.name)]⟩)
    (fun _ => .of_names ["schema_path", "entry_kind"] rfl (by decide))
    (Schema.skipped document) w, ?_⟩⟩
  generalize Schema.skipped document = entries
  induction entries generalizing w with
  | nil => rfl
  | cons entry rest ih => exact ih _

/-- A schema is compiled as in a single call. -/
theorem exists_noted_compile (document : Document) : ∃ events, ∀ w, ∃ after,
    (compile document).run w =
      ((Validation.compile document).map (Holding.ofCompiled w.serial), after) ∧
        w.Noted events after := by
  obtain ⟨skipped, each⟩ := exists_noted_skipped document
  cases compiled : Schema.compile document with
  | error fault =>
    refine ⟨skipped, fun w => ?_⟩
    obtain ⟨before, passed, noted, -⟩ := each w
    rw [compile, run_bind_of_ok passed, run_bind, run_answer, Validation.compile, compiled]
    exact ⟨before, rfl, noted⟩
  | ok schema =>
    refine ⟨skipped ++ [⟨.compile, .debug, "schema_compiled",
      [("always_true", .boolean schema.acceptsAll),
        ("type", .ofText? (schema.kind?.map Kind.name))]⟩], fun w => ?_⟩
    obtain ⟨before, passed, noted, serial⟩ := each w
    rw [compile, run_bind_of_ok passed, run_bind, run_answer, Validation.compile, compiled,
      ← serial]
    refine ⟨_, rfl, noted.trans ⟨?_, ?_, ?_⟩⟩
    · exact ⟨rfl, rfl, rfl, rfl, rfl, Nat.le_succ _, List.prefix_append _ _⟩
    · exact List.forall_mem_singleton.mpr (.of_names ["always_true", "type"] rfl (by decide))
    · rw [List.flatMap_singleton]
      rfl

/-- A schema is loaded from the file as it stands. -/
theorem exists_noted_loadSchema (files : FileTree) : ∃ events, ∀ w : Workspace, w.files = files →
    ∃ after, (loadSchema path).run w =
      ((files.schemaAt path).map (Holding.ofCompiled w.serial), after) ∧ w.Noted events after := by
  simp only [FileTree.schemaAt]
  cases held : files.holds path with
  | error fault =>
    refine ⟨[], fun w same => ⟨w, ?_, .refl w⟩⟩
    rw [loadSchema, run_bind, run_inspect, same, held]
    rfl
  | ok found =>
    cases found with
    | false =>
      refine ⟨[], fun w same => ⟨w, ?_, .refl w⟩⟩
      rw [loadSchema, run_bind, run_inspect, same, held]
      rfl
    | true =>
      have load (w : Workspace) (same : w.files = files) : (loadSchema path).run w =
          (readDocument path >>= fun document => compile document >>= fun holding =>
            tell .load .info "schema_loaded" [("path", .text path.text)] >>= fun _ =>
              pure holding).run w := by
        rw [loadSchema, run_bind, run_inspect, same, held]
        rfl
      show ∃ events, ∀ w : Workspace, w.files = files → ∃ after, (loadSchema path).run w =
        (((files.documentAt path).bind Validation.compile).map
          (Holding.ofCompiled w.serial), after) ∧ w.Noted events after
      cases read : files.documentAt path with
      | error failure =>
        refine ⟨[], fun w same => ⟨w, ?_, .refl w⟩⟩
        rw [load w same, run_bind, run_readDocument, same, read]
        rfl
      | ok document =>
        obtain ⟨events, each⟩ := exists_noted_compile document
        simp only [Except.bind]
        cases made : Validation.compile document with
        | error failure =>
          refine ⟨events, fun w same => ?_⟩
          obtain ⟨after, compiled, noted⟩ := each w
          rw [made] at compiled
          simp only [load w same, run_bind, run_readDocument, same, read, compiled]
          exact ⟨after, rfl, noted⟩
        | ok schema =>
          refine ⟨events ++ [⟨.load, .info, "schema_loaded", [("path", .text path.text)]⟩],
            fun w same => ?_⟩
          obtain ⟨after, compiled, noted⟩ := each w
          rw [made] at compiled
          simp only [load w same, run_bind, run_readDocument, same, read, compiled]
          exact ⟨_, rfl, noted.trans (.note (.of_names ["path"] rfl (by decide)) after)⟩

theorem run_loadSchema (w : Workspace) :
    ∃ after, (loadSchema path).run w =
      ((w.files.schemaAt path).map (Holding.ofCompiled w.serial), after) ∧ w.Grows after := by
  obtain ⟨_, each⟩ := exists_noted_loadSchema path w.files
  obtain ⟨after, loaded, noted⟩ := each w rfl
  exact ⟨after, loaded, noted.toGrows⟩

end Session
end Conformance
