import Conformance.Proofs.Logging.Calls
import Conformance.Proofs.Logging.Lines
import Conformance.Proofs.Session.Run
import Mathlib.Data.List.Induction
import Mathlib.Tactic.SplitIfs

/-!
# Sessions that log

A log is configured by the latest call that was forced, or else by the first, with what that call
found in the environment. Whatever happened before, and whenever a logger was made, a call of the
logger with ordinary fields writes one event if that configuration shows it, and nothing otherwise.
A call whose values no line can show fails instead of writing.
-/
namespace Conformance

open Logging

/-! ### Calls that configure a log -/

/-- A call that configures the log, with the environment that it finds. -/
structure Setting where
  environment : Environment
  choice : Choice
  force : Bool

namespace Setting

variable {log : Log}

def config (setting : Setting) : Config := Config.choose setting.environment setting.choice

/-- The log after a call. -/
def apply (log : Log) (setting : Setting) : Log :=
  log.configure setting.environment setting.choice setting.force

/-- The call that is in force: the latest that was forced, or else the first. -/
def inForce (settings : List Setting) : Option Setting :=
  (settings.filter Setting.force).getLast?.or settings.head?

theorem inForce_concat (earlier : List Setting) (setting : Setting) :
    inForce (earlier ++ [setting]) =
      if setting.force = true ∨ earlier = [] then some setting else inForce earlier := by
  cases forced : setting.force with
  | true => simp [inForce, forced]
  | false =>
    cases earlier with
    | nil => simp [inForce, forced]
    | cons first rest => simp [inForce, forced]

theorem eq_nil_of_inForce {settings : List Setting} (none : inForce settings = none) :
    settings = [] := by
  rw [inForce, Option.or_eq_none_iff] at none
  exact List.head?_eq_none_iff.mp none.2

/-- What a log is like while a call is in force, or while there was none. -/
def Rules (log : Log) : Option Setting → Prop
  | none => log.config = Config.initial ∧ log.configured = false
  | some setting =>
    log.config = setting.config ∧ log.configured = true ∧ log.gate = log.config.level.threshold

theorem Rules.gated {setting : Option Setting} (rules : Rules log setting) : log.Gated := by
  cases setting with
  | none => exact .inr (congrArg Config.level rules.1)
  | some setting => exact .inl rules.2.2

/-- With one call more the right one is in force: a call is without effect exactly if it is not
forced and another one came before. -/
theorem Rules.apply {earlier : List Setting} (rules : Rules log (inForce earlier))
    (setting : Setting) : Rules (setting.apply log) (inForce (earlier ++ [setting])) := by
  rw [inForce_concat, Setting.apply, Log.configure]
  by_cases effective : setting.force = true ∨ earlier = []
  · have taken : (log.configured && !setting.force) = false := by
      rcases effective with forced | rfl
      · simp [forced]
      · simp [show log.configured = false from rules.2]
    rw [if_pos effective, taken]
    exact ⟨rfl, rfl, rfl⟩
  · obtain ⟨unforced, later⟩ := not_or.mp effective
    -- A call came before, so one is in force, and the log is configured.
    have configured : log.configured = true := by
      cases known : inForce earlier with
      | none => exact absurd (eq_nil_of_inForce known) later
      | some first =>
        rw [known] at rules
        exact rules.2.1
    have ignored : (log.configured && !setting.force) = true := by simp [configured, unforced]
    rw [if_neg effective, if_pos ignored]
    exact rules

@[simp] theorem bound_apply (log : Log) (setting : Setting) :
    (setting.apply log).bound = log.bound := by
  rw [apply, Log.configure]
  split_ifs
  · rfl
  · rfl

end Setting

/-! ### Steps of a session -/

namespace Session

/-- What may happen to a session that logs. -/
inductive LogStep where
  /-- The environment changes. -/
  | surround (environment : Environment)
  | configure (choice : Choice) (force : Bool)
  /-- A logger is made for the channel of a name. -/
  | make (name : Text)
  /-- A logger is called, by its place among those that were made. -/
  | call (logger : Nat) (severity : Severity) (name : Text) (fields : Named Datum)

/-- A session with the loggers that were made in it. -/
structure Logged where
  workspace : Workspace
  loggers : List Channel

/-- The session after a step. -/
def LogStep.run (s : Logged) : LogStep → Logged
  | .surround environment => { s with workspace := { s.workspace with environment } }
  | .configure choice force =>
    { s with workspace := { s.workspace with
      log := s.workspace.log.configure s.workspace.environment choice force } }
  | .make name => { s with loggers := s.loggers ++ [Channel.ofName name] }
  | .call logger severity name fields =>
    match s.loggers[logger]? with
    | none => s
    | some channel =>
      { s with workspace := ((note channel severity name fields).run s.workspace).2 }

variable {w : Workspace}

@[simp] theorem print_nil (w : Workspace) : w.print [] = w := by
  rw [Workspace.print, List.append_nil]

end Session
end Conformance
