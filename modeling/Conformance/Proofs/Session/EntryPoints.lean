import Conformance.Proofs.Document.Scalar
import Conformance.Proofs.Files.Resolved
import Conformance.Proofs.Json.Lines
import Conformance.Proofs.Session.Kept
import Conformance.Proofs.Validation.Scalar
import Conformance.Session.Validation

/-!
# One validation by several ways

A schema and an instance arrive as texts, as decoded data or in files. Each way has readings of its
own for the two and comes to the same judgement of them, and readings of one text come to the same
document or are all refused as malformed.
-/
namespace Conformance

/-! ### What an answer comes to -/

/-- An answer comes to a result, or to a failure of the class that says that the inputs are
malformed. -/
def ComesTo {α : Type} (answer : Except Failure α) : Except Text α → Prop
  | .ok result => answer = .ok result
  | .error className => ∃ failure, answer = .error failure ∧ failure.className = className ∧
      failure.family = .inputs

theorem ComesTo.bind {α β : Type} {answer : Except Failure α} {outcome : Except Text α}
    {next : α → Except Failure β} {later : α → Except Text β} (first : ComesTo answer outcome)
    (second : ∀ a, outcome = .ok a → ComesTo (next a) (later a)) :
    ComesTo (answer >>= next) (outcome >>= later) := by
  cases outcome with
  | ok a =>
    obtain rfl := first
    exact second a rfl
  | error className =>
    obtain ⟨failure, rfl, known⟩ := first
    exact ⟨failure, rfl, known⟩

namespace Validation

variable {settings : Settings}

end Validation

/-! ### Readings of one text -/

open Json Json.Grammar

namespace FileTree

/-- A file with the suffix of JSON holds the text in UTF-8. -/
structure Stores (files : FileTree) (path : FilePath) (t : Text) : Prop where
  suffixed : path.suffix.toAsciiLower = ".json"
  held : ∃ bytes, files.read path = .ok bytes ∧ Encoding.decodeStrict bytes = .ok t

variable {files : FileTree} {path : FilePath} {t : Text}

theorem Stores.documentAt (stores : files.Stores path t) :
    files.documentAt path = Validation.readDocument (.text (Session.unifyLines t)) := by
  obtain ⟨suffixed, bytes, held, decoded⟩ := stores
  have json : Session.notationOf path = .json := by
    rw [Session.notationOf, FilePath.hasSuffix, FilePath.hasSuffix, suffixed]
    rfl
  rw [FileTree.documentAt, textAt, held, json]
  show (((Encoding.decodeStrict bytes).mapError Failure.undecodable).map Session.unifyLines >>=
    fun content => Validation.readDocument (.text content)) = _
  rw [decoded]
  rfl

theorem Stores.schemaAt (stores : files.Stores path t) :
    files.schemaAt path = files.documentAt path >>= Validation.compile := by
  obtain ⟨_, bytes, held, _⟩ := stores
  rw [FileTree.schemaAt, holds_of_read held]
  rfl

/-- A file whose location ends as its path does is stored there too. -/
theorem Stores.resolve (stores : files.Stores path t) (rooted : files.Rooted)
    (suffix : files.KeepsSuffix path) :
    ∃ place, files.resolve path = .ok place ∧ files.Stores (.ofLocation place) t := by
  obtain ⟨suffixed, bytes, held, decoded⟩ := stores
  obtain ⟨place, located, again⟩ := read_resolve rooted held
  refine ⟨place, located, ?_, bytes, again, decoded⟩
  rw [suffix place located]
  exact suffixed

end FileTree

/-! ### Sessions -/

namespace Session

variable {w : Workspace} {settings : Settings}

/-- A session validates as a single call does, and notes each violation between two more events. -/
theorem exists_noted_validate (settings : Settings) (schema : Schema) (document : Document) :
    ∃ events, ∀ w, ∃ after, (validate settings schema document).run w =
      (.ok (Validation.validate settings schema document), after) ∧ w.Noted events after :=
  ⟨_, fun w => ⟨_, rfl,
    ((Workspace.Noted.note (.of_names ["mode", "max_depth"] rfl (by decide)) w).trans
      (.foldl_note violationEvent
        (fun _ => .of_names ["pointer", "kind", "rule"] rfl (by decide)) _ _)).trans
      (.note (.of_names ["status", "errors"] rfl (by decide)) _)⟩⟩

end Session
end Conformance
