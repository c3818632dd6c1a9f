import Conformance.Proofs.Command.Noted

/-!
# Whose schema the log tells

A validation binds the name of its schema to the log of the process, before it does anything that
can fail, and nothing takes it away again. A check of a schema binds nothing. So the events of a
validation carry its own schema, and those of a check the schema of the latest validation before it.
-/
namespace Conformance.Command

open Logging

/-- An event with usual fields carries the schema that is bound. -/
theorem get?_schema_members {event : Event} (usual : Usual event.fields) (bound : Named Datum)
    (stamp : Text) : (event.members bound stamp).get? "schema" = bound.get? "schema" := by
  refine get?_merge_of_not_mem (fun held => ?_) bound
  simp only [Named.names, List.map_append, List.mem_append] at held
  rcases held with ((origin | own) | verbosity) | every
  · have apart : Text.ofString "schema" ∉ (["channel"] : List Text) := by decide
    exact apart origin
  · have apart : Text.ofString "schema" ∉ usualNames := by decide
    exact apart (usual own)
  · revert verbosity
    cases event.severity <;> decide
  · have apart : Text.ofString "schema" ∉
        (["event", "level", "logger", "timestamp"] : List Text) := by decide
    exact apart every

/-! ### What is bound -/

/-- The schema that something done before validated with, if it was a validation. -/
def Earlier.validated? : Earlier → Option Text
  | .command arguments _ =>
    match read arguments with
    | .ok (.validate schema _ _) => some schema
    | _ => none
  | .fetch .. | .configure .. => none

/-- The schema of the latest validation among what was done before. -/
def latestValidated (earlier : List Earlier) : Option Text :=
  (earlier.filterMap Earlier.validated?).getLast?

theorem get?_schema_bind_validate (log : Log) (schema inst : Text) (choices : Choices) :
    (log.bind (Request.validate schema inst choices).bound).bound.get? "schema" =
      some (.text schema) := by
  show (Named.insertAll log.bound _).get? "schema" = _
  rw [Named.get?_insertAll]
  rfl

/-- What is done changes the schema that is bound exactly if it is a validation. -/
theorem Earlier.get?_schema (w : Workspace) (earlier : Earlier) :
    (earlier.run w).log.bound.get? "schema" =
      (earlier.validated?.map Datum.text).or (w.log.bound.get? "schema") := by
  obtain ⟨-, -, bound⟩ := earlier.keeps w
  rw [bound]
  cases earlier with
  | command arguments input =>
    rw [Earlier.bound, Earlier.validated?]
    rcases read arguments with _ | _ | _ | ⟨schema, inst, choices⟩ | _
    · rfl
    · rfl
    · rfl
    · exact get?_schema_bind_validate _ schema inst choices
    · rfl
  | fetch path mayUseKept => rfl
  | configure choice force => rfl

/-- After a run the schema of the latest validation is bound, or what was bound before. -/
theorem get?_schema_foldl (earlier : List Earlier) (w : Workspace) :
    (earlier.foldl Earlier.run w).log.bound.get? "schema" =
      ((latestValidated earlier).map Datum.text).or (w.log.bound.get? "schema") := by
  induction earlier generalizing w with
  | nil => rfl
  | cons first rest ih =>
    rw [List.foldl_cons, ih, first.get?_schema, latestValidated, latestValidated]
    cases known : first.validated? with
    | none => rw [List.filterMap_cons_none known]; rfl
    | some schema =>
      rw [List.filterMap_cons_some known, List.getLast?_cons]
      cases (rest.filterMap Earlier.validated?).getLast? <;> rfl

/-! ### What a command notes -/

/-- A line is answered, notes events and prints in one way, whatever it chooses for the log and
whatever was done before. All events of a validation carry its own schema. Those of a check carry
the schema of the latest validation before, or none if there was none. -/
theorem events_carry_latest_validated (files : FileTree) (environment : Environment) (input : Input)
    (reading : Except UsageError Request) :
    ∃ result events told, ∀ (start : Workspace) (earlier : List Earlier) (arguments : List Text),
      start.files = files → SameSettings start.environment environment →
        start.log.bound.get? "schema" = none → (read arguments).map Request.quiet = reading →
          let now := earlier.foldl Earlier.run start
          ∃ after, (Command.run arguments input).run now = (result, after)
            ∧ Leaves now events told after
            ∧ ∀ event ∈ events,
              let carried := (event.members after.log.bound after.stamp).get? "schema"
              (∀ schema inst choices, reading = .ok (.validate schema inst choices) →
                carried = some (.text schema)) ∧
              ∀ schema choices, reading = .ok (.checkSchema schema choices) →
                carried = (latestValidated earlier).map .text := by
  obtain ⟨result, events, told, each⟩ := exists_bound_run files environment input reading
  refine ⟨result, events, told, fun start earlier arguments same settings free known => ?_⟩
  obtain ⟨files_eq, environment_eq⟩ := keeps_foldl earlier start
  obtain ⟨after, ran, leaves⟩ := each (earlier.foldl Earlier.run start) arguments
    (files_eq.trans same) (environment_eq ▸ settings) known
  refine ⟨after, ran, leaves.toLeaves, fun event noticed => ?_⟩
  rw [get?_schema_members (leaves.usual event noticed), leaves.bound]
  constructor
  · rintro schema inst choices rfl
    exact get?_schema_bind_validate _ schema inst choices
  · rintro schema choices rfl
    show (earlier.foldl Earlier.run start).log.bound.get? "schema" = _
    rw [get?_schema_foldl, free, Option.or_none]

/-- A directory with two schemas, which are instances too. -/
def twoSchemas : FileTree :=
  ⟨["", "work"], [(["", "work", "a.json"], .file [0x74, 0x72, 0x75, 0x65]),
    (["", "work", "b.json"], .file [0x74, 0x72, 0x75, 0x65])]⟩

/-- All that a check notes carries the schema of the validation before. -/
theorem events_carry_latest_validated_check :
    let start : Workspace := .initial twoSchemas [] "now"
    let before : Earlier := .command ["validate", "a.json", "a.json"] (.ok [])
    let line : List Text := ["check-schema", "b.json", "--log-level", "info"]
    latestValidated [before] = some "a.json" ∧ ∃ result events told after,
      (Command.run line (.ok [])).run (before.run start) = (result, after)
        ∧ Leaves (before.run start) events told after
        ∧ ∀ event ∈ events,
          (event.members after.log.bound after.stamp).get? "schema" = some (.text "a.json") := by
  intro start before line
  have latest : latestValidated [before] = some "a.json" := by rfl
  obtain ⟨result, events, told, each⟩ := events_carry_latest_validated twoSchemas start.environment
    (.ok []) ((read line).map Request.quiet)
  obtain ⟨after, ran, leaves, carry⟩ := each start [before] line rfl ⟨rfl, rfl⟩ rfl rfl
  refine ⟨latest, result, events, told, after, ran, leaves, fun event noticed => ?_⟩
  obtain ⟨schema, choices, known⟩ : ∃ schema choices,
      (read line).map Request.quiet = .ok (.checkSchema schema choices) := ⟨_, _, rfl⟩
  rw [(carry event noticed).2 schema choices known, latest]
  rfl

/-- A check of a schema that holds tells two events. -/
theorem run_check_twoSchemas (w : Workspace) (same : w.files = twoSchemas) :
    let after := ((runCheckSchema "b.json").run w).2
    after.log = w.log ∧ after.errorOutput = w.errorOutput ++
      w.log.write w.stamp ⟨.compile, .debug, "schema_compiled",
        [("always_true", .boolean true), ("type", .null)]⟩ ++
      w.log.write w.stamp ⟨.load, .info, "schema_loaded", [("path", .text "b.json")]⟩ := by
  obtain ⟨files, environment, stamp, log, loaded, serial, errorOutput⟩ := w
  subst same
  exact ⟨rfl, rfl⟩

/-- The only line of a check is that of an event with the schema of the validation before. -/
theorem check_tells_schema_of_validation :
    let before : Earlier := .command ["validate", "a.json", "a.json"] (.ok [])
    let now := before.run (.initial twoSchemas [] "now")
    let line : List Text := ["check-schema", "b.json", "--log-level", "info"]
    let after := ((Command.run line (.ok [])).run now).2
    let event : Event := ⟨.load, .info, "schema_loaded", [("path", .text "b.json")]⟩
    now.errorOutput = []
      ∧ (∃ shown : Text, event.line "console" after.log.bound "now" = .ok shown
        ∧ after.errorOutput = shown ++ "\n")
      ∧ (event.members after.log.bound "now").get? "schema" = some (.text "a.json") := by
  intro before now line after event
  let log : Log := ⟨⟨.info, "console", Channel.all⟩, true, [("schema", .text "a.json")],
    Level.info.threshold⟩
  have silent : now.errorOutput = [] := by decide +kernel
  have configured : (Command.run line (.ok [])).run now =
      (runCheckSchema "b.json").run { now with log } := by rfl
  obtain ⟨kept, told⟩ := run_check_twoSchemas { now with log } rfl
  have texts : ∀ field ∈ event.fields, Presentable "console" field.2 :=
    List.forall_mem_singleton.mpr (presentable_text _ "b.json")
  obtain ⟨shown, made⟩ : ∃ shown, event.line "console" log.bound "now" = .ok shown :=
    exists_line (presentable_members (List.forall_mem_singleton.mpr (presentable_text _ "a.json"))
      texts _)
  -- The log shows the second event only.
  have second : log.lineOf "now" event = .ok (shown ++ "\n") := by
    rw [Log.lineOf_of_shows (.inl rfl) ((Config.admits_iff _ _).mp (by decide))]
    exact congrArg (Except.map _) made
  rw [show after = _ from congrArg Prod.snd configured, kept, told, silent]
  refine ⟨rfl, ⟨shown, made, ?_⟩, by rfl⟩
  show log.write "now" event = _
  rw [Log.write, second]
  rfl

end Conformance.Command
