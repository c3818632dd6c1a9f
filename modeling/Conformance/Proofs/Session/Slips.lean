import Conformance.Proofs.Document.Slip
import Conformance.Proofs.Session.EntryPoints

/-!
# Schemas in YAML that fail for no fault of theirs

A schema in YAML, given as a text or loaded from a file that can be read, fails as a malformed input
unless its text has a slip or a pattern in it cannot be built.
-/
namespace Conformance

open Document

variable {t : Text}

namespace Failure

/-- A fault of a document is one of inputs exactly if it is a syntax error. -/
theorem family_document_iff {error : DocumentError} :
    (Failure.document error).family = .inputs ↔
      (Failure.document error).className = "DocumentSyntaxError" := by
  cases error with
  | json | jsonTooDeep => exact iff_of_true rfl rfl
  | yaml fault =>
    by_cases plain : fault = .malformed
    · subst plain
      exact iff_of_true rfl rfl
    · obtain ⟨name, family⟩ := yamlClass_of_ne plain
      exact iff_of_false family name
  | datum error =>
    cases error with
    | tooDeep | keyTooLong => exact iff_of_false nofun (by decide)
    | notFinite | outOfRange | keyNotText | unsupported => exact iff_of_true rfl rfl

/-- How a schema in YAML fails other than as a malformed input. -/
inductive Strays (t : Text) : Failure → Prop where
  | document {error : DocumentError} (failed : ofYaml (.text t) = .error error)
      (slip : Slip t error) : Strays t (.document error)
  /-- A pattern asks for too much or for flags that exclude each other. -/
  | pattern {document : Document} {error : Pattern.Error} (read : ofYaml (.text t) = .ok document)
      (refused : Schema.compile document = .error (.pattern error)) :
      Strays t (.compile (.pattern error))

end Failure

namespace Validation

theorem readNotation_yaml (t : Text) :
    readNotation "yaml" (.text t) = (ofYaml (.text t)).mapError .document := by
  have name : Notation.ofName? "yaml" = some .yaml := by decide +kernel
  rw [readNotation, name]
  rfl

/-- A schema text in YAML fails as a malformed input unless it strays. -/
theorem family_ne_iff_strays {failure : Failure}
    (failed : readNotation "yaml" (.text t) >>= compile = .error failure) :
    failure.family ≠ .inputs ↔ failure.Strays t := by
  rw [readNotation_yaml] at failed
  cases read : ofYaml (.text t) with
  | error error =>
    rw [read] at failed
    cases failed
    rw [Ne, Failure.family_document_iff, ← Ne, className_ne_iff_slip read]
    constructor
    · exact .document read
    · rintro (⟨_, slip⟩ | _)
      exact slip
  | ok document =>
    rw [read] at failed
    have refused : (Schema.compile document).mapError Failure.compile = .error failure := failed
    cases compiled : Schema.compile document with
    | ok schema =>
      rw [compiled] at refused
      cases refused
    | error error =>
      rw [compiled] at refused
      cases refused
      cases error with
      | schema error =>
        refine iff_of_false (fun other => other rfl) ?_
        rintro ⟨⟩
      | pattern error =>
        refine iff_of_true ?_ (.pattern read compiled)
        cases error <;> exact nofun

end Validation

namespace FileTree

variable {files : FileTree} {path : FilePath}

/-- A schema file in YAML that can be read is compiled as its text is. -/
theorem schemaAt_yaml (held : files.textAt path = .ok t)
    (yaml : Session.notationOf path = .yaml) :
    files.schemaAt path = Validation.readNotation "yaml" (.text t) >>= Validation.compile := by
  rw [Validation.readNotation_yaml]
  cases read : files.read path with
  | error error =>
    rw [textAt, read] at held
    cases held
  | ok bytes =>
    rw [schemaAt, holds_of_read read, documentAt, held, yaml]
    rfl

end FileTree

namespace Session

/-- A YAML text that is no document fails with a syntax error unless it has a slip, and a schema in
YAML, given as a text or in a file that can be read, fails as a malformed input unless it strays. -/
theorem syntax_error_unless_slip (t : Text) :
    (∀ error, ofYaml (.text t) = .error error →
      ((Failure.document error).className ≠ "DocumentSyntaxError" ↔ Slip t error)) ∧
    (∀ failure, Validation.readNotation "yaml" (.text t) >>= Validation.compile = .error failure →
      (failure.family ≠ .inputs ↔ failure.Strays t)) ∧
    ∀ (w after : Workspace) (path : FilePath) (failure : Failure),
      w.files.textAt path = .ok t → notationOf path = .yaml →
      (loadSchema path).run w = (.error failure, after) →
      (failure.family ≠ .inputs ↔ failure.Strays t) := by
  refine ⟨fun error failed => className_ne_iff_slip failed,
    fun failure failed => Validation.family_ne_iff_strays failed,
    fun w after path failure held yaml loaded => ?_⟩
  obtain ⟨later, ran, -⟩ := run_loadSchema path w
  rw [loaded, FileTree.schemaAt_yaml held yaml] at ran
  exact Validation.family_ne_iff_strays (map_eq_error_iff.mp (congrArg Prod.fst ran).symm)

/-- A date that no calendar has, as a schema. -/
def thirteenth : Text := "2024-13-45"

/-- A workspace with that schema in it. -/
def cabinet : Workspace :=
  .initial ⟨["", "home"], [(["", "home", "s.yaml"], .file "2024-13-45".toUTF8.toList)]⟩ [] ""

theorem decode_thirteenth : Yaml.decode thirteenth = .error (.calendar .month) := by
  have known : (Yaml.decode thirteenth).map (fun _ => ()) = .error (.calendar .month) := by
    decide +kernel
  exact map_eq_error_iff.mp known

theorem ofYaml_thirteenth :
    ofYaml (.text thirteenth) = .error (.yaml (.calendar .month)) := by
  rw [ofYaml_text, decode_thirteenth]
  rfl

theorem textAt_cabinet : cabinet.files.textAt (.ofText "s.yaml") = .ok thirteenth := by
  have held : cabinet.files.read (.ofText "s.yaml") = .ok "2024-13-45".toUTF8.toList := by
    decide +kernel
  have decoded : Encoding.decodeStrict "2024-13-45".toUTF8.toList = .ok thirteenth := by
    decide +kernel
  have lines : unifyLines thirteenth = thirteenth := by decide +kernel
  rw [FileTree.textAt, held]
  show ((Encoding.decodeStrict "2024-13-45".toUTF8.toList).mapError Failure.undecodable).map
    unifyLines = _
  rw [decoded]
  exact congrArg Except.ok lines

/-- The date is a slip, as a document, as a schema text and in a file. -/
theorem syntax_error_unless_slip_thirteenth :
    Slip thirteenth (.yaml (.calendar .month)) ∧
      (Failure.document (.yaml (.calendar .month))).Strays thirteenth ∧
      ∃ after, (loadSchema (.ofText "s.yaml")).run cabinet =
          (.error (.document (.yaml (.calendar .month))), after) ∧
        (Failure.document (.yaml (.calendar .month))).family ≠ .inputs := by
  obtain ⟨document, text, file⟩ := syntax_error_unless_slip thirteenth
  have compiled : Validation.readNotation "yaml" (.text thirteenth) >>= Validation.compile =
      .error (.document (.yaml (.calendar .month))) := by
    rw [Validation.readNotation_yaml, ofYaml_thirteenth]
    rfl
  have yaml : notationOf (.ofText "s.yaml") = .yaml := by decide +kernel
  obtain ⟨after, ran, -⟩ := run_loadSchema (.ofText "s.yaml") cabinet
  rw [FileTree.schemaAt_yaml textAt_cabinet yaml, compiled] at ran
  have strays := (text _ compiled).mp nofun
  exact ⟨(document _ ofYaml_thirteenth).mp (by decide), strays, after, ran,
    (file cabinet after _ _ textAt_cabinet yaml ran).mpr strays⟩

/-- A word that is tagged as a whole number fails with another class than that of syntax errors. -/
theorem tagged_word_escapes :
    ofYaml (.text "!!int abc") = .error (.yaml (.numeral (.notInteger 10 "abc"))) ∧
      (Failure.document (.yaml (.numeral (.notInteger 10 "abc")))).className = "ValueError" ∧
      Text.ofString "ValueError" ≠ "DocumentSyntaxError" := by
  have known : (Yaml.decode "!!int abc").map (fun _ => ()) =
      .error (.numeral (.notInteger 10 "abc")) := by
    decide +kernel
  refine ⟨?_, rfl, by decide +kernel⟩
  rw [ofYaml_text, map_eq_error_iff.mp known]
  rfl

end Session
end Conformance
