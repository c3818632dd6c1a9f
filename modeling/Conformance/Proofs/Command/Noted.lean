import Conformance.Proofs.Command.Exit
import Conformance.Proofs.Command.LogOptions
import Conformance.Proofs.Session.EntryPoints
import Conformance.Proofs.Session.Logged

/-!
# What commands note

A command notes the same events and ends in the same way whatever the log makes of them: the log is
configured and bound before anything is looked at, and it is only written to from then on. What was
done before, to the log and to the schemas that are kept, has no part in it.
-/
namespace Conformance.Command

/-! ### What a command leaves behind -/

/-- What a command leaves behind that noted events and then printed a text: the log, as the command
set it, wrote of the events what it shows. -/
structure Leaves (w : Workspace) (events : List Logging.Event) (told : Text) (after : Workspace) :
    Prop where
  files : after.files = w.files
  environment : after.environment = w.environment
  ordinary : ∀ event ∈ events, Logging.Ordinary event.fields
  written : after.errorOutput =
    w.errorOutput ++ events.flatMap (after.log.write after.stamp) ++ told

/-- What a command leaves behind that noted usual events while the log had some fields bound. -/
structure LeavesBound (w : Workspace) (bound : Named Datum) (events : List Logging.Event)
    (told : Text) (after : Workspace) : Prop extends Leaves w events told after where
  usual : ∀ event ∈ events, Logging.Usual event.fields
  bound : after.log.bound = bound

namespace LeavesBound

variable {w after : Workspace} {bound : Named Datum} {events : List Logging.Event} {told : Text}

/-- A text is printed behind what the log wrote. -/
theorem print (noted : w.Noted events after) (told : Text) :
    LeavesBound w w.log.bound events told (after.print told) where
  files := noted.files
  environment := noted.environment
  ordinary := fun event noticed => (noted.usual event noticed).ordinary
  written := by
    show after.errorOutput ++ told =
      w.errorOutput ++ events.flatMap (after.log.write after.stamp) ++ told
    rw [noted.written, noted.log, noted.stamp]
  usual := noted.usual
  bound := congrArg Logging.Log.bound noted.log

theorem of_noted (noted : w.Noted events after) : LeavesBound w w.log.bound events [] after := by
  rw [← Session.print_nil after]
  exact print noted []

/-- It does not matter which log was there before. -/
theorem of_log {log : Logging.Log} (leaves : LeavesBound { w with log } bound events told after) :
    LeavesBound w bound events told after :=
  ⟨⟨leaves.files, leaves.environment, leaves.ordinary, leaves.written⟩, leaves.usual, leaves.bound⟩

/-- The event that a command notes when it gives up. -/
def failureEvent (event : Text) (failure : Failure) : Logging.Event :=
  ⟨.system, .error, event,
    [("error", .text failure.message), ("error_type", .text failure.className)]⟩

/-- Giving up is one event more, and a line. -/
theorem giveUp (noted : w.Noted events after) (event : Text) (failure : Failure) :
    ∃ last, (giveUp event failure).run after = (.ok .unusable, last) ∧
      LeavesBound w w.log.bound (events ++ [failureEvent event failure])
        ("error: " ++ failure.message ++ "\n") last :=
  ⟨_, rfl, .print (noted.trans (.note (.of_names ["error", "error_type"] rfl (by decide)) after)) _⟩

end LeavesBound

/-! ### Commands -/

/-- How a check of a schema ends, what it notes and what it prints. -/
theorem exists_noted_runCheckSchema (files : FileTree) (schema : Text) :
    ∃ result events told, ∀ w : Workspace, w.files = files →
      ∃ after, (runCheckSchema schema).run w = (result, after) ∧
        LeavesBound w w.log.bound events told after := by
  obtain ⟨events, each⟩ := Session.exists_noted_loadSchema (FilePath.ofText schema) files
  have attempted (w : Workspace) (same : w.files = files) : ∃ after,
      (Session.attempt (Session.loadSchema (FilePath.ofText schema))).run w =
        (.ok ((files.schemaAt (FilePath.ofText schema)).map (Holding.ofCompiled w.serial)), after) ∧
          w.Noted events after := by
    obtain ⟨after, loaded, noted⟩ := each w same
    exact ⟨after, by rw [Session.run_attempt, loaded], noted⟩
  cases found : files.schemaAt (FilePath.ofText schema) with
  | ok made =>
    refine ⟨.ok (.fine ("ok: " ++ schema ++ "\n")), events, [], fun w same => ?_⟩
    obtain ⟨after, tried, noted⟩ := attempted w same
    rw [found] at tried
    rw [runCheckSchema, Session.run_bind_of_ok tried]
    exact ⟨after, rfl, .of_noted noted⟩
  | error failure =>
    by_cases caught : failure.family = .files ∨ failure.family = .inputs
    · refine ⟨.ok .unusable, events ++ [LeavesBound.failureEvent "schema_check_failed" failure],
        "error: " ++ failure.message ++ "\n", fun w same => ?_⟩
      obtain ⟨after, tried, noted⟩ := attempted w same
      obtain ⟨last, gave, leaves⟩ := LeavesBound.giveUp noted "schema_check_failed" failure
      rw [found] at tried
      refine ⟨last, ?_, leaves⟩
      rw [runCheckSchema, Session.run_bind_of_ok tried, ← gave]
      rcases caught with family | family
      · simp only [Except.map, family]
      · simp only [Except.map, family]
    · refine ⟨.error failure, events, [], fun w same => ?_⟩
      obtain ⟨after, tried, noted⟩ := attempted w same
      rw [found] at tried
      refine ⟨after, ?_, .of_noted noted⟩
      rw [runCheckSchema, Session.run_bind_of_ok tried]
      cases family : failure.family with
      | files => exact absurd (.inl family) caught
      | inputs => exact absurd (.inr family) caught
      | values | unforeseen =>
        simp only [Except.map, family]
        rfl

/-- An answer that is only turned into another leaves the workspace as it is. -/
theorem run_answer_pure {α β : Type} (result : Except Failure α) (f : α → β) (w : Workspace) :
    (Session.answer result >>= fun a => pure (f a)).run w = (result.map f, w) := by
  rw [Session.run_bind, Session.run_answer]
  cases result <;> rfl

/-- The outcome of a validation that has all it needs: a report that cannot be shown is a failure. -/
def Prepared.outcome (prepared : Prepared) (format : ReportFormat) : Except Failure Outcome :=
  let report := Validation.validate prepared.settings prepared.schema prepared.document
  ((report.dump format).mapError .unwritable).map fun shown =>
    (if report.isValid then Outcome.fine else Outcome.invalid) (shown ++ "\n")

theorem exists_noted_showReport (format : ReportFormat) (prepared : Prepared) :
    ∃ events, ∀ w, ∃ after, (showReport format prepared).run w = (prepared.outcome format, after) ∧
      w.Noted events after := by
  obtain ⟨events, each⟩ := Session.exists_noted_validate prepared.settings prepared.schema
    prepared.document
  refine ⟨events, fun w => ?_⟩
  obtain ⟨after, validated, noted⟩ := each w
  refine ⟨after, ?_, noted⟩
  rw [showReport, Session.run_bind_of_ok validated, Session.dump]
  exact run_answer_pure _ _ after

/-- How a validation goes on with what it found. -/
def conclude (format : ReportFormat) : Except Failure Prepared → Session Outcome
  | .ok prepared => showReport format prepared
  | .error failure =>
    if failure.family = .unforeseen then Session.answer (.error failure)
    else giveUp "validate_failed" failure

/-- How a validation ends, what it notes and what it prints, with the name of its schema bound. Of
the environment only the settings that are chosen matter. -/
theorem exists_noted_runValidate (files : FileTree) (chosen : Except Failure Settings)
    (input : Input) (schema inst : Text) (choices : Choices) :
    ∃ result events told, ∀ w : Workspace, w.files = files →
      chosenSettings w.environment choices = chosen →
        ∃ after, (runValidate input schema inst choices).run w = (result, after) ∧
          LeavesBound w (w.log.bind [("schema", .text schema)]).bound events told after := by
  obtain ⟨events, each⟩ := exists_noted_prepare files chosen input schema inst choices
  obtain ⟨prepared, known⟩ : ∃ prepared, ∀ w : Workspace, w.files = files →
      chosenSettings w.environment choices = chosen →
        preparedAt w input schema inst choices = prepared :=
    ⟨_, fun w same found => by rw [preparedAt, same, found]⟩
  -- The name of the schema is bound for the log alone.
  have started (w : Workspace) (same : w.files = files)
      (found : chosenSettings w.environment choices = chosen) : ∃ after,
      ({ w with log := w.log.bind [("schema", .text schema)] } : Workspace).Noted events after ∧
        (runValidate input schema inst choices).run w =
          (conclude choices.format prepared).run after := by
    obtain ⟨after, looked, noted⟩ := each
      { w with log := w.log.bind [("schema", .text schema)] } same found
    rw [known { w with log := w.log.bind [("schema", .text schema)] } same found] at looked
    refine ⟨after, noted, ?_⟩
    rw [runValidate, Session.run_bind_of_ok (Session.run_change _ w), Session.run_bind,
      Session.run_attempt, looked]
    cases prepared <;> rfl
  cases prepared with
  | ok prepared =>
    obtain ⟨later, shown⟩ := exists_noted_showReport choices.format prepared
    refine ⟨prepared.outcome choices.format, events ++ later, [], fun w same found => ?_⟩
    obtain ⟨after, noted, ran⟩ := started w same found
    obtain ⟨last, ended, more⟩ := shown after
    exact ⟨last, ran.trans ended, (LeavesBound.of_noted (noted.trans more)).of_log⟩
  | error failure =>
    by_cases family : failure.family = .unforeseen
    · refine ⟨.error failure, events, [], fun w same found => ?_⟩
      obtain ⟨after, noted, ran⟩ := started w same found
      rw [conclude, if_pos family] at ran
      exact ⟨after, ran, (LeavesBound.of_noted noted).of_log⟩
    · refine ⟨.ok .unusable, events ++ [LeavesBound.failureEvent "validate_failed" failure],
        "error: " ++ failure.message ++ "\n", fun w same found => ?_⟩
      obtain ⟨after, noted, ran⟩ := started w same found
      rw [conclude, if_neg family] at ran
      obtain ⟨last, gave, leaves⟩ := LeavesBound.giveUp noted "validate_failed" failure
      exact ⟨last, ran.trans gave, leaves.of_log⟩

/-! ### Command lines -/

/-- Environments that agree on the settings of a validation. -/
structure SameSettings (a b : Environment) : Prop where
  depth : a.get? Settings.depthVariable = b.get? Settings.depthVariable
  mode : a.get? Settings.modeVariable = b.get? Settings.modeVariable

theorem SameSettings.chosenSettings_eq {a b : Environment} (same : SameSettings a b)
    (choices : Choices) : chosenSettings a choices = chosenSettings b choices := by
  have depth : Settings.depthFrom a = Settings.depthFrom b := by
    rw [Settings.depthFrom, Environment.nonempty?, same.depth]
    rfl
  have mode : Settings.modeFrom a = Settings.modeFrom b := by
    rw [Settings.modeFrom, Environment.nonempty?, same.mode]
    rfl
  simp only [chosenSettings, Settings.ofEnvironment, depth, mode]

/-- A command goes on with a log that was configured for it, with the same fields bound. -/
theorem run_configureLog (choices : Choices) (next : Session Outcome) (w : Workspace) :
    ∃ log : Logging.Log, log.bound = w.log.bound ∧
      (configureLog choices >>= fun _ => next).run w = next.run { w with log } := by
  rw [configureLog, Session.run_bind_of_ok (Session.run_change _ w)]
  exact ⟨_, Setting.bound_apply w.log ⟨w.environment, _, true⟩, rfl⟩

/-- The fields that a request binds. -/
def Request.bound : Request → Named Datum
  | .validate schema _ _ => [("schema", .text schema)]
  | .checkSchema _ _ | .help _ | .version => []

/-- How a request is answered and what it notes, whatever it chooses for the log. -/
theorem exists_noted_perform (files : FileTree) (environment : Environment) (input : Input)
    (request : Request) : ∃ result events told, ∀ (w : Workspace) (asked : Request),
      w.files = files → SameSettings w.environment environment → asked.quiet = request →
        ∃ after, (perform input asked).run w = (result, after) ∧
          LeavesBound w (w.log.bind request.bound).bound events told after := by
  cases request with
  | help page =>
    refine ⟨.ok (.fine page.help), [], [], ?_⟩
    rintro w (_ | _ | _ | _) - - ⟨⟩
    exact ⟨w, rfl, .of_noted (.refl w)⟩
  | version =>
    refine ⟨.ok (.fine versionLine), [], [], ?_⟩
    rintro w (_ | _ | _ | _) - - ⟨⟩
    exact ⟨w, rfl, .of_noted (.refl w)⟩
  | validate schema inst choices =>
    obtain ⟨result, events, told, each⟩ := exists_noted_runValidate files
      (chosenSettings environment choices) input schema inst choices
    refine ⟨result, events, told, ?_⟩
    rintro w (_ | _ | ⟨_, _, given⟩ | _) same settings ⟨⟩
    obtain ⟨log, bound, line⟩ := run_configureLog given (runValidate input schema inst given) w
    obtain ⟨after, ran, leaves⟩ := each { w with log } same (settings.chosenSettings_eq given.quiet)
    rw [Logging.Log.bind, bound] at leaves
    exact ⟨after, line.trans ran, leaves.of_log⟩
  | checkSchema schema choices =>
    obtain ⟨result, events, told, each⟩ := exists_noted_runCheckSchema files schema
    refine ⟨result, events, told, ?_⟩
    rintro w (_ | _ | _ | ⟨_, given⟩) same - ⟨⟩
    obtain ⟨log, bound, line⟩ := run_configureLog given (runCheckSchema schema) w
    obtain ⟨after, ran, leaves⟩ := each { w with log } same
    rw [bound] at leaves
    exact ⟨after, line.trans ran, leaves.of_log⟩

/-- The fields that a line binds, by how it is read. -/
def boundBy : Except UsageError Request → Named Datum
  | .ok request => request.bound
  | .error _ => []

/-- What is chosen for the log is not bound. -/
theorem boundBy_quiet (reading : Except UsageError Request) :
    boundBy (reading.map Request.quiet) = boundBy reading := by
  rcases reading with fault | _ | _ | _ | _ <;> rfl

/-- How a line is answered and what is noted, with what is bound by then, whatever the line chooses
for the log. -/
theorem exists_bound_run (files : FileTree) (environment : Environment) (input : Input)
    (reading : Except UsageError Request) :
    ∃ result events told, ∀ (w : Workspace) (arguments : List Text), w.files = files →
      SameSettings w.environment environment → (read arguments).map Request.quiet = reading →
        ∃ after, (Command.run arguments input).run w = (result, after) ∧
          LeavesBound w (w.log.bind (boundBy reading)).bound events told after := by
  cases reading with
  | error fault =>
    refine ⟨.ok .unusable, [], fault.message ++ "\n", fun w arguments _ _ known => ?_⟩
    cases refused : read arguments with
    | ok request =>
      rw [refused] at known
      cases known
    | error error =>
      rw [refused] at known
      cases known
      rw [Command.run, refused]
      exact ⟨_, rfl, .print (.refl w) _⟩
  | ok request =>
    obtain ⟨result, events, told, each⟩ := exists_noted_perform files environment input request
    refine ⟨result, events, told, fun w arguments same settings known => ?_⟩
    obtain ⟨asked, read, quiet⟩ := map_eq_ok_iff.mp known
    rw [Command.run, read]
    exact each w asked same settings quiet

/-- How a line is answered and what is noted, whatever the line chooses for the log. -/
theorem exists_noted_run (files : FileTree) (environment : Environment) (input : Input)
    (reading : Except UsageError Request) :
    ∃ result events told, ∀ (w : Workspace) (arguments : List Text), w.files = files →
      SameSettings w.environment environment → (read arguments).map Request.quiet = reading →
        ∃ after, (Command.run arguments input).run w = (result, after) ∧
          Leaves w events told after := by
  obtain ⟨result, events, told, each⟩ := exists_bound_run files environment input reading
  refine ⟨result, events, told, fun w arguments same settings known => ?_⟩
  obtain ⟨after, ran, leaves⟩ := each w arguments same settings known
  exact ⟨after, ran, leaves.toLeaves⟩

/-! ### What was done before -/

/-- What may be done before a command in the same process. -/
inductive Earlier where
  | command (arguments : List Text) (input : Input)
  | fetch (path : FilePath) (mayUseKept : Bool)
  | configure (choice : Logging.Choice) (force : Bool)

/-- The workspace after it. -/
def Earlier.run (w : Workspace) : Earlier → Workspace
  | .command arguments input => ((Command.run arguments input).run w).2
  | .fetch path mayUseKept => ((Session.fetchSchema path mayUseKept).run w).2
  | .configure choice force => { w with log := w.log.configure w.environment choice force }

/-- The fields that are bound by it. -/
def Earlier.bound : Earlier → Named Datum
  | .command arguments _ => boundBy (read arguments)
  | .fetch .. | .configure .. => []

/-- One thing done before touches neither the files nor the environment. -/
theorem Earlier.keeps (w : Workspace) (earlier : Earlier) :
    (earlier.run w).files = w.files ∧ (earlier.run w).environment = w.environment ∧
      (earlier.run w).log.bound = (w.log.bind earlier.bound).bound := by
  cases earlier with
  | command arguments input =>
    obtain ⟨_, _, _, each⟩ := exists_bound_run w.files w.environment input
      ((read arguments).map Request.quiet)
    obtain ⟨after, ran, leaves⟩ := each w arguments rfl ⟨rfl, rfl⟩ rfl
    rw [Earlier.run, ran, Earlier.bound, ← boundBy_quiet]
    exact ⟨leaves.files, leaves.environment, leaves.bound⟩
  | fetch path mayUseKept =>
    rw [Earlier.run]
    cases located : w.files.resolve path with
    | error stuck =>
      rw [Session.run_fetchSchema_lost located]
      exact ⟨rfl, rfl, rfl⟩
    | ok place =>
      by_cases hit : mayUseKept = true ∧ ∃ holding, Session.kept w place = some holding
      · obtain ⟨rfl, holding, held⟩ := hit
        rw [Session.run_fetchSchema_kept located held]
        exact ⟨rfl, rfl, rfl⟩
      · have missed : mayUseKept = true → Session.kept w place = none := fun may =>
          Option.eq_none_iff_forall_ne_some.mpr fun holding held => hit ⟨may, holding, held⟩
        obtain ⟨loaded, grows, ran⟩ := Session.run_fetchSchema_load located missed
        rw [ran]
        cases w.files.schemaAt (.ofLocation place) with
        | ok schema => exact ⟨grows.files, grows.environment, congrArg Logging.Log.bound grows.log⟩
        | error failure =>
          exact ⟨grows.files, grows.environment, congrArg Logging.Log.bound grows.log⟩
  | configure choice force =>
    exact ⟨rfl, rfl, Setting.bound_apply w.log ⟨w.environment, choice, force⟩⟩

theorem keeps_foldl (earlier : List Earlier) (w : Workspace) :
    (earlier.foldl Earlier.run w).files = w.files ∧
      (earlier.foldl Earlier.run w).environment = w.environment := by
  induction earlier generalizing w with
  | nil => exact ⟨rfl, rfl⟩
  | cons first rest ih =>
    obtain ⟨files, environment⟩ := ih (first.run w)
    obtain ⟨files', environment', -⟩ := first.keeps w
    exact ⟨files.trans files', environment.trans environment'⟩

/-- The option that silences the log. -/
def silencing : List Text := ["--log-level", Logging.Level.silent.smallName]

theorem logOption_silencing : ∀ option ∈ [silencing], LogOption option :=
  List.forall_mem_singleton.mpr (.apart List.mem_cons_self (by decide) (.level .silent)
    fun _ => sortArgument_plain (.inl (by decide)))

/-- A command with its arguments has one answer, one list of events and one text to print for all
options for the log, however they are spelt and wherever they are put between the arguments, for all
workspaces with the same files and settings, whatever their log and the schemas that they keep, and
after whatever was done in them before. The log writes what it shows of the events to the error
output, and nothing else depends on it. -/
theorem log_leaves_outcome (files : FileTree) (environment : Environment) (input : Input)
    {page : Page} (command : page ∈ Page.commands) {front back : List Text}
    (before : ∀ t ∈ front, t ≠ "--") :
    ∃ result events told, ∀ (start : Workspace) (earlier : List Earlier)
      (options : List (List Text)), start.files = files →
        SameSettings start.environment environment → (∀ option ∈ options, LogOption option) →
        (options = [] → Cut page front back) →
          let now := earlier.foldl Earlier.run start
          ∃ after, (Command.run (page.commandName :: (front ++ options.flatten ++ back)) input).run
              now = (result, after) ∧ Leaves now events told after := by
  -- Any line with some option for the log will do to say how all the lines are read.
  obtain ⟨result, events, told, each⟩ := exists_noted_run files environment input
    ((read (page.commandName :: (front ++ [silencing].flatten ++ back))).map Request.quiet)
  refine ⟨result, events, told, fun start earlier options same settings known placed => ?_⟩
  obtain ⟨files_eq, environment_eq⟩ := keeps_foldl earlier start
  exact each _ _ (files_eq.trans same) (environment_eq ▸ settings)
    (read_around command before known logOption_silencing placed nofun)

/-- A directory with a schema that accepts anything and an instance. -/
def shed : FileTree :=
  ⟨["", "work"], [(["", "work", "s.json"], .file [0x7B, 0x7D]),
    (["", "work", "i.json"], .file [0x31])]⟩

/-- The files of the directory as arguments. -/
def shedFiles : List Text := ["s.json", "i.json"]

theorem log_leaves_outcome_shed :
    (Page.validate ∈ Page.commands ∧ ∀ t ∈ shedFiles, t ≠ "--") ∧
    ∀ (start : Workspace) (earlier : List Earlier) (options : List (List Text)),
      start.files = shed → SameSettings start.environment [] →
      (∀ option ∈ options, LogOption option) → (options = [] → Cut .validate shedFiles []) →
        ((Command.run ("validate" :: (shedFiles ++ options.flatten ++ [])) (.ok [])).run
          (earlier.foldl Earlier.run start)).1 = .ok (.fine "valid\n") := by
  have command : Page.validate ∈ Page.commands := by decide
  have before : ∀ t ∈ shedFiles, t ≠ "--" := by decide
  refine ⟨⟨command, before⟩, ?_⟩
  obtain ⟨result, events, told, each⟩ :=
    @log_leaves_outcome shed [] (.ok []) .validate command shedFiles [] before
  -- One run shows what the answer is.
  obtain ⟨last, answered, -⟩ :=
    each (.initial shed [] []) [] [silencing] rfl ⟨rfl, rfl⟩ logOption_silencing nofun
  have evaluated : ((Command.run ("validate" :: (shedFiles ++ [silencing].flatten ++ []))
      (.ok [])).run (.initial shed [] [])).1.toOption = some (.fine "valid\n") := by
    decide +kernel
  have known : result = .ok (.fine "valid\n") := by
    rw [← toOption_eq_some_iff, ← evaluated]
    exact (congrArg (fun ran => ran.1.toOption) answered).symm
  intro start earlier options same settings chosen placed
  obtain ⟨after, ran, -⟩ := each start earlier options same settings chosen placed
  rw [← known]
  exact congrArg Prod.fst ran

end Conformance.Command
