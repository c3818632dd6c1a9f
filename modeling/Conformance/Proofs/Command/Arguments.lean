import Conformance.Command.Arguments
import Conformance.Proofs.Step

/-!
# Command lines that are read as meant

A command line of the usual shape, with the arguments of a command in front and its options behind,
is read as the request that it spells. What stands for a file must not look like an option.
-/
namespace Conformance.Command

/-- An argument that cannot be taken for an option: it starts with no hyphen, or is one. -/
def Plain (t : Text) : Prop := t.head? ≠ some ('-' : CodePoint) ∨ t.length = 1

variable {page : Page} {t : Text} {rest : List Text}

theorem sortArgument_plain (plain : Plain t) : sortArgument page t = .ok .plain := if_pos plain

theorem Plain.ne_separator (plain : Plain t) : t ≠ "--" := by
  rintro rfl
  rcases plain with other | short
  · exact other rfl
  · cases short

theorem sortArguments_cons {token : Token} (other : t ≠ "--")
    (sorted : sortArgument page t = .ok token) (rest : List Text) :
    sortArguments page (t :: rest) = (sortArguments page rest).map ((t, token) :: ·) := by
  rw [sortArguments, if_neg other, sorted]
  cases sortArguments page rest <;> rfl

theorem sortArguments_cons_plain (plain : Plain t) (rest : List Text) :
    sortArguments page (t :: rest) = (sortArguments page rest).map ((t, .plain) :: ·) :=
  sortArguments_cons plain.ne_separator (sortArgument_plain plain) rest

/-- Arguments of which each one can be sorted are all sorted. -/
theorem exists_sortArguments {arguments : List Text}
    (each : ∀ t ∈ arguments, t ≠ "--" ∧ ∃ token, sortArgument page t = .ok token) :
    ∃ tokens, sortArguments page arguments = .ok tokens ∧ tokens.map Prod.fst = arguments := by
  induction arguments with
  | nil => exact ⟨[], rfl, rfl⟩
  | cons t rest ih =>
    obtain ⟨⟨other, token, sorted⟩, later⟩ := List.forall_mem_cons.mp each
    obtain ⟨tokens, known, same⟩ := ih later
    refine ⟨(t, token) :: tokens, ?_, ?_⟩
    · rw [sortArguments_cons other sorted, known]
      rfl
    · rw [List.map_cons, same]

/-- The name of a command leaves the rest of the line to that command. -/
theorem read_command (page : Page) {name : Text} {request : Request} (plain : Plain name)
    (found : findCommand name = .ok page)
    (each : ∀ t ∈ rest, t ≠ "--" ∧ ∃ token, sortArgument .main t = .ok token)
    (read : readCommand page rest = .ok (request, [])) :
    Command.read (name :: rest) = .ok request := by
  obtain ⟨tokens, sorted, same⟩ := exists_sortArguments each
  have first : sortArguments .main (name :: rest) = .ok ((name, .plain) :: tokens) := by
    rw [sortArguments_cons_plain plain, sorted]
    rfl
  have main : readMain ((name, .plain) :: tokens) = .ok (request, []) := by
    rw [readMain, found, same]
    exact read
  have reading : ((sortArguments .main (name :: rest)).mapError Ending.fault >>= readMain) =
      .ok (request, []) :=
    bind_eq_ok_iff.mpr ⟨_, mapError_eq_ok_iff.mpr first, main⟩
  rw [Command.read, reading]

/-- What is left of a command line behind the name of a command, where each argument is sorted. -/
theorem readCommand_of_take {arguments : List Text} {tokens : List (Text × Token)}
    {progress : Progress} (sorted : sortArguments page arguments = .ok tokens)
    (taken : takeArguments page tokens { wanted := page.arguments } = .ok progress)
    (complete : progress.wanted = []) :
    readCommand page arguments =
      .ok (requestOf page progress.taken progress.choices, progress.unknown) := by
  refine bind_eq_ok_iff.mpr ⟨_, mapError_eq_ok_iff.mpr sorted, ?_⟩
  refine bind_eq_ok_iff.mpr ⟨_, taken, ?_⟩
  simp only [complete]
  rfl

theorem sorted_plain (plain : Plain t) : t ≠ "--" ∧ ∃ token, sortArgument page t = .ok token :=
  ⟨plain.ne_separator, _, sortArgument_plain plain⟩

/-- A check of a schema is read from its two words. -/
theorem read_checkSchema {schema : Text} (plain : Plain schema) :
    Command.read ["check-schema", schema] = .ok (.checkSchema schema {}) := by
  refine read_command .checkSchema (.inl (by decide)) rfl
    (List.forall_mem_singleton.mpr (sorted_plain plain)) ?_
  have sorted : sortArguments .checkSchema [schema] = .ok [(schema, .plain)] := by
    rw [sortArguments_cons_plain plain]
    rfl
  exact readCommand_of_take sorted rfl rfl

/-- A validation is read from its three words. -/
theorem read_validateFiles {schema inst : Text} (first : Plain schema) (second : Plain inst) :
    Command.read ["validate", schema, inst] = .ok (.validate schema inst {}) := by
  refine read_command .validate (.inl (by decide)) rfl (List.forall_mem_cons.mpr
    ⟨sorted_plain first, List.forall_mem_singleton.mpr (sorted_plain second)⟩) ?_
  have sorted : sortArguments .validate [schema, inst] =
      .ok [(schema, .plain), (inst, .plain)] := by
    rw [sortArguments_cons_plain first, sortArguments_cons_plain second]
    rfl
  exact readCommand_of_take sorted rfl rfl

/-- An argument of a validation that is taken for no option, also before it is known to be meant for
that command. -/
structure Positional (t : Text) : Prop where
  outer : ∃ token, sortArgument .main t = .ok token
  inner : sortArgument .validate t = .ok .plain

theorem Plain.positional (plain : Plain t) : Positional t :=
  ⟨⟨_, sortArgument_plain plain⟩, sortArgument_plain plain⟩

theorem Positional.ne_separator (positional : Positional t) : t ≠ "--" := by
  rintro rfl
  cases positional.inner

theorem Positional.sorted (positional : Positional t) :
    t ≠ "--" ∧ ∃ token, sortArgument .main t = .ok token :=
  ⟨positional.ne_separator, positional.outer⟩

end Conformance.Command
