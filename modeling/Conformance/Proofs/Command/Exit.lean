import Conformance.Command.Run
import Conformance.Proofs.Command.Arguments
import Conformance.Proofs.Session.Loading
import Mathlib.Tactic.SplitIfs

/-!
# How commands end

A validation ends with a code whenever its files can be read or not, its inputs are malformed or a
value does not fit; only what nobody foresees goes through to the caller. A check of a schema lets
values that do not fit go through as well, such as bytes that are no text.
-/
namespace Conformance.Command

variable {w : Workspace}

/-- The request ends with an outcome. -/
def Ends (request : Session Outcome) (w : Workspace) (outcome : Outcome) : Prop :=
  ∃ after, request.run w = (.ok outcome, after)

/-- The request ends with code 2 and nothing on the output. The error output ends with what could
not be used, behind what the log tells of it. -/
def Refuses (request : Session Outcome) (w : Workspace) (failure : Failure) : Prop :=
  ∃ after logged, request.run w = (.ok .unusable, after) ∧ after.errorOutput =
    w.errorOutput ++ logged ++ (Text.ofString "error: " ++ failure.message ++ Text.ofString "\n")

/-- The failure goes through to the caller. -/
def Escapes (request : Session Outcome) (w : Workspace) (failure : Failure) : Prop :=
  ∃ after, request.run w = (.error failure, after)

theorem refuses_giveUp {before : Workspace} (output : w.errorOutput <+: before.errorOutput)
    (event : Text) (failure : Failure) {request : Session Outcome}
    (last : request.run w = (giveUp event failure).run before) : Refuses request w failure := by
  obtain ⟨earlier, same⟩ := output
  have told : ∃ line after, (giveUp event failure).run before = (.ok .unusable, after) ∧
      after.errorOutput = before.errorOutput ++ line ++
        (Text.ofString "error: " ++ failure.message ++ Text.ofString "\n") :=
    ⟨_, _, rfl, rfl⟩
  obtain ⟨line, after, ended, told⟩ := told
  refine ⟨after, earlier ++ line, last.trans ended, ?_⟩
  rw [told, ← same, List.append_assoc w.errorOutput]

/-! ### Checking a schema -/

/-- How a check of a schema ends. -/
theorem run_runCheckSchema (schema : Text) (w : Workspace) :
    match w.files.schemaAt (FilePath.ofText schema) with
    | .ok _ => Ends (runCheckSchema schema) w (.fine ("ok: " ++ schema ++ "\n"))
    | .error failure =>
      (failure.family = .files ∨ failure.family = .inputs →
        Refuses (runCheckSchema schema) w failure) ∧
      (failure.family = .values ∨ failure.family = .unforeseen →
        Escapes (runCheckSchema schema) w failure) := by
  obtain ⟨loaded, load, grows⟩ := Session.run_loadSchema (FilePath.ofText schema) w
  -- The attempt answers with the failure, and the family of the failure says what comes next.
  have attempted : (Session.attempt (Session.loadSchema (FilePath.ofText schema))).run w =
      (.ok ((w.files.schemaAt (FilePath.ofText schema)).map (Holding.ofCompiled w.serial)),
        loaded) := by
    rw [Session.run_attempt, load]
  cases outcome : w.files.schemaAt (FilePath.ofText schema) with
  | ok made =>
    rw [outcome] at attempted
    exact ⟨loaded, by rw [runCheckSchema, Session.run_bind_of_ok attempted]; rfl⟩
  | error failure =>
    have failed : (Session.attempt (Session.loadSchema (FilePath.ofText schema))).run w =
        (.ok (.error failure), loaded) := by
      rw [attempted, outcome]
      rfl
    constructor
    · intro family
      have next : (runCheckSchema schema).run w =
          (giveUp "schema_check_failed" failure).run loaded := by
        rw [runCheckSchema, Session.run_bind_of_ok failed]
        rcases family with family | family
        · simp only [family]
        · simp only [family]
      exact refuses_giveUp grows.output _ _ next
    · intro family
      have next : (runCheckSchema schema).run w =
          (Session.answer (.error failure) : Session Outcome).run loaded := by
        rw [runCheckSchema, Session.run_bind_of_ok failed]
        rcases family with family | family
        · simp only [family]
        · simp only [family]
      exact ⟨loaded, next⟩

/-! ### Validating -/

/-- The settings that a command comes to. -/
def chosenSettings (environment : Environment) (choices : Choices) : Except Failure Settings :=
  (Settings.ofEnvironment environment ((choices.maxDepth.map Datum.integer).getD .null)
    (if choices.failFast then .text Mode.failFast.name else .null)).mapError .settings

theorem run_settingsOf (choices : Choices) (w : Workspace) :
    (settingsOf choices).run w = (chosenSettings w.environment choices, w) := rfl

/-- The document of an instance: of a file, or of the standard input for a hyphen. -/
def instanceAt (files : FileTree) (input : Input) (source : Text) : Except Failure Document :=
  if source = "-" then do
    let content ← input.mapError .undecodable
    Validation.readDocument (.text content)
  else files.documentAt (FilePath.ofText source)

theorem run_readInstance (input : Input) (source : Text) (w : Workspace) :
    (readInstance input source).run w = (instanceAt w.files input source, w) := by
  rw [readInstance, instanceAt]
  split_ifs
  · rw [Session.run_bind, Session.run_answer]
    cases input with
    | error fault => rfl
    | ok content => rfl
  · exact Session.run_readDocument _ w

/-- All that a validation needs, in the order in which it is looked for. -/
def preparedAt (w : Workspace) (input : Input) (schema inst : Text) (choices : Choices) :
    Except Failure Prepared := do
  let settings ← chosenSettings w.environment choices
  let schema ← w.files.schemaAt (FilePath.ofText schema)
  let document ← instanceAt w.files input inst
  pure ⟨settings, schema, document⟩

/-- What a validation finds, and the events that it notes on the way. -/
theorem exists_noted_prepare (files : FileTree) (chosen : Except Failure Settings) (input : Input)
    (schema inst : Text) (choices : Choices) : ∃ events, ∀ w : Workspace, w.files = files →
      chosenSettings w.environment choices = chosen →
        ∃ after, (prepare input schema inst choices).run w =
          (preparedAt w input schema inst choices, after) ∧ w.Noted events after := by
  cases chosen with
  | error failure =>
    refine ⟨[], fun w _ found => ⟨w, ?_, .refl w⟩⟩
    rw [prepare, preparedAt, Session.run_bind, run_settingsOf, found]
    rfl
  | ok settings =>
    obtain ⟨events, each⟩ := Session.exists_noted_loadSchema (FilePath.ofText schema) files
    refine ⟨events, fun w same found => ?_⟩
    obtain ⟨loaded, load, noted⟩ := each w same
    have read := run_readInstance input inst loaded
    rw [noted.files, same] at read
    rw [prepare, preparedAt, Session.run_bind, run_settingsOf, found, same]
    show ∃ after, (Session.loadSchema (FilePath.ofText schema) >>= fun holding =>
      readInstance input inst >>= fun document =>
        pure (Prepared.mk settings holding.schema document)).run w =
        ((files.schemaAt (FilePath.ofText schema)).bind fun schema =>
          (instanceAt files input inst).bind fun document =>
            .ok (Prepared.mk settings schema document), after) ∧ w.Noted events after
    rw [Session.run_bind, load]
    cases files.schemaAt (FilePath.ofText schema) with
    | error failure => exact ⟨loaded, rfl, noted⟩
    | ok made =>
      simp only [Except.map, Except.bind]
      rw [Session.run_bind, read]
      cases instanceAt files input inst with
      | error failure => exact ⟨loaded, rfl, noted⟩
      | ok document => exact ⟨loaded, by simp only [Holding.schema_ofCompiled]; rfl, noted⟩

theorem run_prepare (input : Input) (schema inst : Text) (choices : Choices) (w : Workspace) :
    ∃ after, (prepare input schema inst choices).run w =
      (preparedAt w input schema inst choices, after) ∧ w.Grows after := by
  obtain ⟨_, each⟩ := exists_noted_prepare w.files (chosenSettings w.environment choices) input
    schema inst choices
  obtain ⟨after, prepared, noted⟩ := each w rfl rfl
  exact ⟨after, prepared, noted.toGrows⟩

/-- With good settings a schema that cannot be loaded is what is found missing. -/
theorem preparedAt_of_schemaAt_error {input : Input} {schema inst : Text} {choices : Choices}
    {settings : Settings} {failure : Failure}
    (good : chosenSettings w.environment choices = .ok settings)
    (failed : w.files.schemaAt (FilePath.ofText schema) = .error failure) :
    preparedAt w input schema inst choices = .error failure := by
  rw [preparedAt, good, failed]
  rfl

/-- How a validation ends for which something cannot be used. -/
theorem run_runValidate_error {input : Input} {schema inst : Text} {choices : Choices}
    {failure : Failure} (w : Workspace)
    (failed : preparedAt w input schema inst choices = .error failure) :
    (failure.family ≠ .unforeseen → Refuses (runValidate input schema inst choices) w failure) ∧
    (failure.family = .unforeseen → Escapes (runValidate input schema inst choices) w failure) := by
  -- Binding the name of the schema is for the log alone.
  have bound (log : Logging.Log) : preparedAt { w with log } input schema inst choices =
      .error failure := failed
  obtain ⟨after, prepared, grows⟩ := run_prepare input schema inst choices
    { w with log := w.log.bind [("schema", .text schema)] }
  rw [bound] at prepared
  have output : w.errorOutput <+: after.errorOutput := grows.output
  have next : (runValidate input schema inst choices).run w =
      (if failure.family = .unforeseen then Session.answer (.error failure)
        else giveUp "validate_failed" failure).run after := by
    rw [runValidate, Session.run_bind_of_ok (Session.run_change _ w), Session.run_bind,
      Session.run_attempt, prepared]
  constructor
  · intro family
    rw [if_neg family] at next
    exact refuses_giveUp output _ _ next
  · intro family
    rw [if_pos family] at next
    exact ⟨after, next⟩

/-! ### Command lines -/

/-- A check of a schema is run with a log configured for it. -/
theorem run_checkSchema_line {schema : Text} (plain : Plain schema) (input : Input)
    (w : Workspace) : ∃ log, (Command.run ["check-schema", schema] input).run w =
      (runCheckSchema schema).run { w with log } := by
  rw [Command.run, read_checkSchema plain]
  exact ⟨_, rfl⟩

/-- A validation is run with a log configured for it. -/
theorem run_validate_line {arguments : List Text} {schema inst : Text} {choices : Choices}
    (known : Command.read arguments = .ok (.validate schema inst choices)) (input : Input)
    (w : Workspace) : ∃ log, (Command.run arguments input).run w =
      (runValidate input schema inst choices).run { w with log } := by
  rw [Command.run, known]
  exact ⟨_, rfl⟩

/-- A check of a schema ends with code 0 exactly if the schema can be loaded, and with code 2 if its
file cannot be read or it is malformed; values that do not fit go through to the caller. A
validation with good settings ends with code 2 for such values too. -/
theorem exit_on_schema (w : Workspace) (input : Input) :
    (∀ schema, Plain schema →
      match w.files.schemaAt (FilePath.ofText schema) with
      | .ok _ => Ends (Command.run ["check-schema", schema] input) w
          (.fine ("ok: " ++ schema ++ "\n"))
      | .error failure =>
        (failure.family = .files ∨ failure.family = .inputs →
          Refuses (Command.run ["check-schema", schema] input) w failure) ∧
        (failure.family = .values ∨ failure.family = .unforeseen →
          Escapes (Command.run ["check-schema", schema] input) w failure)) ∧
    ∀ schema inst settings failure, Plain schema → Plain inst →
      Settings.ofEnvironment w.environment .null .null = .ok settings →
      w.files.schemaAt (FilePath.ofText schema) = .error failure →
        (failure.family ≠ .unforeseen →
          Refuses (Command.run ["validate", schema, inst] input) w failure) ∧
        (failure.family = .unforeseen →
          Escapes (Command.run ["validate", schema, inst] input) w failure) := by
  constructor
  · intro schema plain
    obtain ⟨log, line⟩ := run_checkSchema_line plain input w
    have ends := run_runCheckSchema schema { w with log }
    simp only [Ends, Refuses, Escapes, line]
    exact ends
  · intro schema inst settings failure first second good failed
    obtain ⟨log, line⟩ := run_validate_line (read_validateFiles first second) input w
    have chosen : chosenSettings w.environment {} = .ok settings :=
      congrArg (Except.mapError Failure.settings) good
    have prepared : preparedAt { w with log } input schema inst {} = .error failure :=
      preparedAt_of_schemaAt_error chosen failed
    have ends := run_runValidate_error { w with log } prepared
    simp only [Refuses, Escapes, line]
    exact ends

/-- A directory with one file, which holds a byte that starts no text. -/
def strayByte : Workspace :=
  .initial ⟨["", "work"], [(["", "work", "s.json"], .file [0xFF])]⟩ [] []

/-- A check of that file lets the failure through that a validation answers with code 2. -/
theorem stray_byte_escapes : ∃ failure : Failure, failure.family = .values ∧
    strayByte.files.schemaAt (FilePath.ofText "s.json") = .error failure ∧
    (∀ input, Refuses (Command.run ["validate", "s.json", "s.json"] input) strayByte failure) ∧
    ∀ input, ¬Refuses (Command.run ["check-schema", "s.json"] input) strayByte failure := by
  have plain : Plain "s.json" := .inl (by decide)
  have undecodable : ∃ error, strayByte.files.schemaAt (FilePath.ofText "s.json") =
      .error (.undecodable error) := ⟨_, by rfl⟩
  obtain ⟨error, failed⟩ := undecodable
  refine ⟨.undecodable error, rfl, failed, fun input => ?_, fun input => ?_⟩
  · obtain ⟨log, line⟩ := run_validate_line (read_validateFiles plain plain) input strayByte
    have chosen : chosenSettings strayByte.environment {} = .ok Settings.standard := rfl
    have prepared : preparedAt { strayByte with log } input "s.json" "s.json" {} =
        .error (.undecodable error) := preparedAt_of_schemaAt_error chosen failed
    have ends := run_runValidate_error { strayByte with log } prepared
    simp only [Refuses, line]
    exact ends.1 nofun
  · obtain ⟨log, line⟩ := run_checkSchema_line plain input strayByte
    have ends := run_runCheckSchema "s.json" { strayByte with log }
    rw [show ({ strayByte with log } : Workspace).files = strayByte.files from rfl, failed] at ends
    obtain ⟨after, escaped⟩ := ends.2 (.inl rfl)
    rintro ⟨_, _, refused, _⟩
    rw [line, escaped] at refused
    cases refused

end Conformance.Command
