import Conformance.Proofs.Document.Representable
import Conformance.Proofs.Yaml.Compose
import Conformance.Proofs.Yaml.Making

/-!
# Which failures of YAML texts are no syntax errors

A YAML text that is no document should be refused with a syntax error. What the notation itself has
to say against a text, and what documents have to say against a datum, is one. What turns up while
values are made is not: each such slip is listed here, with the place in the text where it happens.
-/
namespace Conformance.Document

open Yaml

variable {t : Text} {error : DocumentError}

/-- What makes a YAML text fail with another class than that of syntax errors. -/
inductive Slip (t : Text) : DocumentError → Prop where
  /-- An escape names no code point, or a number of a version has too many digits. -/
  | flawed {fault : Fault} (failed : Graph.ofText t = .error fault) (flaw : Flaw t fault)
      (other : fault ≠ .malformed) : Slip t (.yaml fault)
  /-- A node that is met is read as a scalar that it is not. -/
  | misread {graph : Graph} {root number : Nat} {fault : Fault}
      (composed : Graph.ofText t = .ok (some (graph, root))) (met : graph.Met root number)
      (misread : graph.Misread number fault) : Slip t (.yaml fault)
  /-- A key that is no text has a number in it with too many digits to be shown. -/
  | key {datum node : Datum} (decoded : decode t = .ok datum) (inside : Datum.Inside node datum)
      (wrong : node.Wrong .keyTooLong) : Slip t (.datum .keyTooLong)
  /-- The datum is nested too deeply, or contains itself. -/
  | depth {datum : Datum} (decoded : decode t = .ok datum) (deep : ¬datum.Within maxNesting) :
      Slip t (.datum .tooDeep)

/-- The class of a fault of the notation is that of syntax errors for plain malformation only. -/
theorem yamlClass_of_ne {fault : Fault} (other : fault ≠ .malformed) :
    (Failure.yamlClass fault).1 ≠ "DocumentSyntaxError" ∧
      (Failure.yamlClass fault).2 ≠ .inputs := by
  have others : ∀ name ∈ ["ValueError", "OverflowError", "IndexError", "KeyError", "AttributeError",
      "TypeError", "RecursionError"], Text.ofString name ≠ "DocumentSyntaxError" := by
    decide +kernel
  have value := others "ValueError" (by decide)
  cases fault with
  | malformed => exact absurd rfl other
  | noCodePoint number =>
    rw [Failure.yamlClass]
    split
    · exact ⟨value, nofun⟩
    · exact ⟨others "OverflowError" (by decide), nofun⟩
  | numeral | calendar => exact ⟨value, nofun⟩
  | emptyNumeral => exact ⟨others "IndexError" (by decide), nofun⟩
  | notBoolean => exact ⟨others "KeyError" (by decide), nofun⟩
  | notTimestamp => exact ⟨others "AttributeError" (by decide), nofun⟩
  | mappedTimestamp => exact ⟨others "TypeError" (by decide), nofun⟩
  | endless => exact ⟨others "RecursionError" (by decide), nofun⟩

/-- A slip is no syntax error. -/
theorem Slip.className_ne (slip : Slip t error) :
    (Failure.document error).className ≠ "DocumentSyntaxError" := by
  cases slip with
  | flawed _ _ other => exact (yamlClass_of_ne other).1
  | misread _ _ misread => exact (yamlClass_of_ne misread.ne_malformed).1
  | key | depth => decide

theorem ofYaml_text (t : Text) :
    ofYaml (.text t) = ((decode t).mapError DocumentError.yaml).bind fun datum =>
      (ofDatum datum).mapError .datum := rfl

/-- A text that fails for another reason than its syntax has a slip. -/
theorem slip_of_className_ne (failed : ofYaml (.text t) = .error error)
    (other : (Failure.document error).className ≠ "DocumentSyntaxError") : Slip t error := by
  rw [ofYaml_text] at failed
  cases decoded : decode t with
  | error fault =>
    rw [decoded] at failed
    cases failed
    have other : fault ≠ .malformed := by
      rintro rfl
      exact other rfl
    rw [decode] at decoded
    rcases bind_eq_error_iff.mp decoded with unread | ⟨_ | ⟨graph, root⟩, composed, unread⟩
    · exact .flawed unread (flaw_of_ofText unread) other
    · cases unread
    · obtain ⟨number, met, misread⟩ := Graph.exists_misread_of_toDatum other unread
      exact .misread composed met misread
  | ok datum =>
    rw [decoded] at failed
    have failed : (ofDatum datum).mapError DocumentError.datum = .error error := failed
    cases refused : ofDatum datum with
    | ok document =>
      rw [refused] at failed
      cases failed
    | error fault =>
      rw [refused] at failed
      cases failed
      rcases exists_wrong_or_tooDeep refused with ⟨node, inside, wrong⟩ | ⟨rfl, deep⟩
      · rcases className_of_wrong wrong with syntactic | ⟨rfl, _⟩
        · exact absurd syntactic other
        · exact .key decoded inside wrong
      · exact .depth decoded deep

/-- A YAML text fails for another reason than its syntax exactly if it has a slip. -/
theorem className_ne_iff_slip (failed : ofYaml (.text t) = .error error) :
    (Failure.document error).className ≠ "DocumentSyntaxError" ↔ Slip t error :=
  ⟨slip_of_className_ne failed, Slip.className_ne⟩

end Conformance.Document
