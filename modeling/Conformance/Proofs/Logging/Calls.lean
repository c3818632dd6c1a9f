import Conformance.Logging.Call
import Conformance.Proofs.Document.Members

/-!
# What calls of a logger write

A configuration shows an event by its channel and its severity, and the gate that is set with the
configuration lets all of these through. A call with ordinary fields writes the line of the event if
the configuration shows it, and nothing else; it fails only if no line can be made.
-/
namespace Conformance.Logging

variable {config : Config} {event : Event} {log : Log} {stamp : Text}

/-! ### What is shown -/

/-- Whether a configuration shows the events of a channel with a severity. -/
def Config.Shows (config : Config) (channel : Channel) : Severity → Prop
  | .info => Level.info.rank ≤ config.level.rank ∧ channel ∈ config.channels
  | .verbose => Level.verbose.rank ≤ config.level.rank ∧ channel ∈ config.channels
  | .debug => Level.debug.rank ≤ config.level.rank ∧ channel ∈ config.channels
  | .warning | .error => Level.silent.rank < config.level.rank

theorem Config.admits_iff (config : Config) (event : Event) :
    config.admits event = true ↔ config.Shows event.channel event.severity := by
  obtain ⟨channel, severity, name, fields⟩ := event
  rw [admits, Bool.and_eq_true, decide_eq_true_iff]
  cases severity with
  | info | verbose | debug => simp [Shows, Severity.level, Severity.isFiltered]
  | warning | error =>
    -- The least level that shows an event is the next one above silence.
    simp only [Shows, Severity.isFiltered, Bool.not_false, Bool.true_or, and_true]
    exact Iff.rfl

/-- The gate of a level lets through what the level shows. -/
theorem Level.threshold_le_weight {level : Level} {severity : Severity}
    (shown : severity.level.rank ≤ level.rank) : level.threshold ≤ severity.weight := by
  revert shown
  cases level <;> cases severity <;> decide

theorem Config.threshold_le_weight (admitted : config.admits event = true) :
    config.level.threshold ≤ event.severity.weight := by
  rw [admits, Bool.and_eq_true, decide_eq_true_iff] at admitted
  exact Level.threshold_le_weight admitted.1

/-- The gate stands where the level of the configuration wants it, unless nothing is shown at all. -/
def Log.Gated (log : Log) : Prop :=
  log.gate = log.config.level.threshold ∨ log.config.level = .silent

/-- Nothing is shown by a silent configuration. -/
theorem Config.not_shows_of_silent (silent : config.level = .silent) (channel : Channel)
    (severity : Severity) : ¬config.Shows channel severity := by
  cases severity <;> simp [Shows, silent, Level.rank]

/-- The gate never holds back an event that the configuration admits. -/
theorem Log.Gated.gate_le (gated : log.Gated) (admitted : log.config.admits event = true) :
    log.gate ≤ event.severity.weight := by
  rcases gated with gate | silent
  · rw [gate]
    exact Config.threshold_le_weight admitted
  · exact absurd ((Config.admits_iff _ _).mp admitted) (Config.not_shows_of_silent silent _ _)

theorem Log.lineOf_of_shows (gated : log.Gated)
    (shown : log.config.Shows event.channel event.severity) :
    log.lineOf stamp event =
      (event.line log.config.format log.bound stamp).map fun line : Text => line ++ "\n" := by
  have admitted := (Config.admits_iff _ _).mpr shown
  rw [lineOf, if_pos admitted]
  simp only [if_pos (gated.gate_le admitted)]

/-- Members without a name leave what is bound under it. -/
theorem get?_merge_of_not_mem {members : Named Datum} {name : Text}
    (absent : name ∉ members.names) (bound : Named Datum) :
    (Event.merge bound members).get? name = bound.get? name := by
  have reversed : name ∉ Named.names members.reverse := by
    rwa [Named.names, List.map_reverse, List.mem_reverse]
  show (Named.insertAll bound members).get? name = _
  rw [Named.get?_insertAll, (Named.get?_eq_none_iff _ _).mpr reversed]
  rfl

/-! ### Ordinary fields -/

/-- The parameters of the methods of a logger. -/
def ownNames : List Text := ["event", "level", "method", "channel"]

/-- Names that ask for the trace of an error or of a call. -/
def traceNames : List Text := ["exc_info", "stack_info", "stack", "exception"]

/-- Names that a call needs for itself on its way to the output. -/
def wayNames : List Text := ["self", "method_name", "_record"]

/-- No field has a name that means something to the loggers. -/
def Ordinary (fields : Named Datum) : Prop :=
  ∀ name ∈ fields.names, name ∉ ownNames ++ traceNames ++ wayNames

namespace Ordinary

theorem refuse (ordinary : Ordinary event.fields) {parameters : List Text}
    (known : parameters ⊆ ownNames ++ traceNames ++ wayNames) (fault : Text → CallFault) :
    event.refuse parameters fault = .ok () := by
  have absent : event.fields.names.find? parameters.contains = none := by
    rw [List.find?_eq_none]
    intro name member taken
    exact ordinary name member (known (List.contains_iff_mem.mp taken))
  rw [Event.refuse, absent]

theorem pass (ordinary : Ordinary event.fields) : event.pass = .ok () := by
  rw [Event.pass, ordinary.refuse (by decide)]
  cases event.severity.isFiltered with
  | true => exact ordinary.refuse (by decide) _
  | false => rfl

theorem get?_merge (ordinary : Ordinary event.fields) {bound : Named Datum}
    (free : bound.get? "_record" = none) :
    (Event.merge bound event.fields).get? "_record" = none := by
  rw [get?_merge_of_not_mem (fun member => ordinary _ member (by decide)), free]

theorem deliver (ordinary : Ordinary event.fields) {bound : Named Datum}
    (free : bound.get? "_record" = none) : event.deliver bound = .ok () := by
  rw [Event.deliver, ordinary.refuse (by decide), ordinary.refuse (by decide),
    ordinary.get?_merge free]
  rfl

/-- A call with ordinary fields writes the line of the event, unless none can be made. -/
theorem call (ordinary : Ordinary event.fields) (free : log.bound.get? "_record" = none)
    (stamp : Text) : log.call stamp event = (log.lineOf stamp event).mapError .line := by
  rw [Log.call, ordinary.pass]
  cases log.config.admits event with
  | true =>
    rw [if_pos rfl, ordinary.deliver free]
    rfl
  | false => rfl

end Ordinary

/-! ### Fields of the library's own events -/

/-- The names of the fields that the library notes of its own. -/
def usualNames : List Text := [
  "path", "schema_path", "entry_kind", "always_true", "type", "mode", "max_depth", "pointer",
  "kind", "rule", "status", "errors", "error", "error_type"]

/-- No field has a name that the library does not note of its own. -/
def Usual (fields : Named Datum) : Prop := fields.names ⊆ usualNames

namespace Usual

/-- The names alone decide whether fields are usual. -/
theorem of_names {fields : Named Datum} (names : List Text) (same : fields.names = names)
    (known : names ⊆ usualNames) : Usual fields := by
  rw [Usual, same]
  exact known

theorem ordinary {fields : Named Datum} (usual : Usual fields) : Ordinary fields := by
  have apart : ∀ name ∈ usualNames, name ∉ ownNames ++ traceNames ++ wayNames := by decide
  exact fun name member => apart name (usual member)

end Usual
end Conformance.Logging
