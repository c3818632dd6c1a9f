import Conformance.Proofs.Command.Exit
import Conformance.Proofs.Session.EntryPoints

/-!
# Validation agrees with itself

A single call on texts, a single call on their data, a session that loads files and a command line
come to one report, or they all refuse the inputs as malformed in the same way. The command shows
that report and ends with its code.
-/
namespace Conformance

namespace Settings

theorem readDepth_natCast (levels : Nat) : readDepth (.integer levels) = .ok levels := by
  rw [readDepth, if_neg (Int.not_lt.mpr (Int.natCast_nonneg levels)), Int.toNat_natCast]

theorem readMode_name (mode : Mode) : readMode (.text mode.name) = .ok mode := by
  cases mode with
  | collectAll => rfl
  | failFast => rfl

/-- Settings that are spelled out as data are read back. -/
theorem ofData_eq (settings : Settings) :
    ofData (some (.integer settings.maxDepth)) (some (.text settings.mode.name)) = .ok settings :=
  bind_eq_ok_iff.mpr ⟨_, readDepth_natCast settings.maxDepth,
    bind_eq_ok_iff.mpr ⟨_, readMode_name settings.mode, rfl⟩⟩

end Settings

namespace Command

/-! ### What a command line chooses -/

/-- The options of a command line come to the settings, together with the environment. -/
structure Chooses (environment : Environment) (depth : Text) (failFast : Bool)
    (settings : Settings) : Prop where
  positional : Positional depth
  depth : Numeral.parseInt depth = .ok (settings.maxDepth : Int)
  mode : if failFast then settings.mode = .failFast
    else Settings.modeFrom environment = .ok (.text settings.mode.name)

theorem Chooses.chosenSettings {environment : Environment} {depth : Text} {failFast : Bool}
    {settings : Settings} (chooses : Chooses environment depth failFast settings)
    (format : ReportFormat) : chosenSettings environment
      { maxDepth := some (settings.maxDepth : Int), failFast, format } = .ok settings := by
  obtain ⟨_, _, mode⟩ := chooses
  refine mapError_eq_ok_iff.mpr ?_
  cases failFast with
  | true =>
    have made := settings.ofData_eq
    rw [show settings.mode = .failFast from mode] at made
    exact made
  | false =>
    show (Settings.modeFrom environment >>= fun mode =>
      Settings.ofData (some (.integer settings.maxDepth)) (some mode)) = .ok settings
    exact bind_eq_ok_iff.mpr ⟨_, mode, settings.ofData_eq⟩

/-- The instance is in a file, or it comes on the standard input for a hyphen. -/
inductive Gives (files : FileTree) (input : Input) : Text → Text → Prop where
  | file {source t : Text} (stored : files.Stores (FilePath.ofText source) t) :
      Gives files input source t
  | input {t : Text} (typed : input = .ok t ∨ input = .ok (Session.unifyLines t)) :
      Gives files input "-" t

variable {w : Workspace} {input : Input} {schema inst : Text} {choices : Choices}

theorem Gives.instanceAt {files : FileTree} {source t : Text} {outcome : Except Text Document}
    (gives : Gives files input source t)
    (plain : ComesTo (Validation.readDocument (.text t)) outcome)
    (unified : ComesTo (Validation.readDocument (.text (Session.unifyLines t))) outcome) :
    ComesTo (instanceAt files input source) outcome := by
  cases gives with
  | file stored =>
    have other : source ≠ "-" := by
      rintro rfl
      cases stored.suffixed
    rw [Command.instanceAt, if_neg other, stored.documentAt]
    exact unified
  | input typed =>
    rw [Command.instanceAt, if_pos rfl]
    rcases typed with rfl | rfl
    · exact plain
    · exact unified

/-- The report of what was prepared, settings included. -/
def Prepared.report (prepared : Prepared) : Report :=
  Validation.validate prepared.settings prepared.schema prepared.document

open Json

open Document Json.Grammar

/-- A schema that wants a string. -/
def wanted : Text := "\x7b\"type\":\"string\"\x7d"

/-- A directory with a schema that accepts anything, in a file that is spelled like an option. -/
def dashed : Workspace :=
  .initial ⟨["", "work"], [(["", "work", "-s.json"], .file [0x74, 0x72, 0x75, 0x65]),
    (["", "work", "i.json"], .file [0x31])]⟩ [] []

end Command
end Conformance
