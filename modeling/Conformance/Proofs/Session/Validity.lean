import Conformance.Proofs.Json.Clean
import Conformance.Proofs.Session.Loading
import Conformance.Proofs.Validation.Modes
import Conformance.Session.Reports

/-!
# Reports that are valid

The status of a report and its violations are stored side by side. A validation gives its report the
status that its violations call for, and a report with that status is shown as valid exactly if it
has no violation. A stored report has the status that its text names: reading takes the status and
the violations each for itself, so a report that was read is consistent only if its text was.
-/
namespace Conformance

/-! ### What is shown -/

namespace Violation

theorem space_mem_render (v : Violation) : CodePoint.ofChar ' ' ∈ v.render :=
  List.mem_append_left _ (List.mem_append_left _ (List.mem_append_left _
    (List.mem_append_right _ List.mem_cons_self)))

end Violation

theorem Status.ofName?_eq_valid_iff (name : Text) : ofName? name = some valid ↔ name = "valid" := by
  simp only [ofName?]
  split_ifs with first second
  · exact ⟨fun _ => first, fun _ => rfl⟩
  · exact ⟨nofun, fun same => absurd same first⟩
  · exact ⟨nofun, fun same => absurd same first⟩

namespace Report

/-- The status is the one that the violations call for. -/
def Consistent (r : Report) : Prop := r.isValid = true ↔ r.violations = []

/-- Only a valid report is shown by one word: every line for a violation has spaces in it. -/
theorem render_eq_valid_iff (r : Report) : r.render = "valid" ↔ r.isValid = true := by
  constructor
  · intro shown
    by_contra other
    rw [render_of_invalid (Bool.eq_false_iff.mpr other)] at shown
    cases found : r.violations with
    | nil =>
      rw [found] at shown
      cases shown
    | cons v rest =>
      have spaced : CodePoint.ofChar ' ' ∈ Text.join "\n" (r.violations.map Violation.render) := by
        rw [found, List.map_cons]
        cases rest with
        | nil => exact v.space_mem_render
        | cons next rest =>
          rw [List.map_cons, Json.join_cons_cons]
          exact List.mem_append_left _ v.space_mem_render
      rw [shown] at spaced
      revert spaced
      decide
  · intro valid
    rw [render, if_pos valid]

/-! ### What is read -/

variable {α β : Type}

theorem both_eq_ok_iff {first : Part α} {second : Part β} {a : α} {b : β} :
    both first second = .ok (a, b) ↔ first = .ok a ∧ second = .ok b := by
  cases first <;> cases second <;> simp [both]

theorem length_of_readItems {read : Path → Datum → Part α} {place : Path} {index : Nat}
    {items : List Datum} {values : List α} (done : readItems read place index items = .ok values) :
    values.length = items.length := by
  induction items generalizing index values with
  | nil =>
    cases done
    rfl
  | cons item rest ih =>
    obtain ⟨⟨first, others⟩, parts, rfl⟩ := map_eq_ok_iff.mp done
    rw [List.length_cons, List.length_cons, ih (both_eq_ok_iff.mp parts).2]

/-- A status that is read is the one whose name stands there. -/
theorem status_of_readField {entries : List (Datum × Datum)} {status : Status}
    (done : readField (readName Status.ofName?) required [] entries "status" = .ok status) :
    status = .valid ↔ Datum.lookup? "status" entries = some (.text "valid") := by
  rw [readField] at done
  cases found : Datum.lookup? "status" entries with
  | none =>
    rw [found] at done
    cases done
  | some named =>
    rw [found] at done
    cases named with
    | text name =>
      simp only [readName] at done
      rw [Option.some.injEq, Datum.text.injEq]
      split at done
      next value known =>
        cases done
        rw [← Option.some_inj, ← known, Status.ofName?_eq_valid_iff]
      · cases done
    | _ => cases done

/-- A report is read without violations if none are listed. -/
theorem violations_of_readField {entries : List (Datum × Datum)} {violations : List Violation}
    (done : readField readViolations (fun _ => .ok []) [] entries "errors" = .ok violations) :
    violations = [] ↔ ∀ listed, Datum.lookup? "errors" entries = some listed →
      listed = .sequence [] := by
  rw [readField] at done
  cases found : Datum.lookup? "errors" entries with
  | none =>
    rw [found] at done
    cases done
    exact ⟨fun _ => nofun, fun _ => rfl⟩
  | some listed =>
    rw [found] at done
    cases listed with
    | sequence items =>
      have length := length_of_readItems done
      rw [← List.length_eq_zero_iff, length, List.length_eq_zero_iff]
      simp
    | _ => cases done

/-- The text is an object with the members. -/
inductive Stored : Source → List (Datum × Datum) → Prop where
  | text {content : Text} {entries : List (Datum × Datum)}
      (decoded : Json.decode .report content = .ok (.mapping entries)) :
      Stored (.text content) entries
  | bytes {bytes : Bytes} {content : Text} {entries : List (Datum × Datum)}
      (read : Encoding.decodeStrict bytes = .ok content)
      (decoded : Json.decode .report content = .ok (.mapping entries)) :
      Stored (.bytes bytes) entries

/-- The members of a stored report name it valid exactly if they list no violations. -/
def NamedRightly (entries : List (Datum × Datum)) : Prop :=
  Datum.lookup? "status" entries = some (.text "valid") ↔
    ∀ listed, Datum.lookup? "errors" entries = some listed → listed = .sequence []

theorem consistent_of_ofDatum {datum : Datum} {r : Report} (done : ofDatum datum = .ok r) :
    ∃ entries, datum = .mapping entries ∧ (r.Consistent ↔ NamedRightly entries) := by
  cases datum with
  | mapping entries =>
    obtain ⟨⟨version, status, violations⟩, parts, rfl⟩ := map_eq_ok_iff.mp done
    obtain ⟨_, parts⟩ := both_eq_ok_iff.mp parts
    obtain ⟨named, listed⟩ := both_eq_ok_iff.mp parts
    refine ⟨entries, rfl, ?_⟩
    rw [Consistent, NamedRightly, ← status_of_readField named, ← violations_of_readField listed,
      isValid, decide_eq_true_iff]
  | _ => cases done

theorem consistent_of_decode {content : Text} {r : Report}
    (done : (match Json.decode .report content with
      | .error _ => wrong [] .json
      | .ok datum => ofDatum datum) = .ok r) :
    ∃ entries, Json.decode .report content = .ok (.mapping entries) ∧
      (r.Consistent ↔ NamedRightly entries) := by
  cases decoded : Json.decode .report content with
  | error fault =>
    rw [decoded] at done
    cases done
  | ok datum =>
    rw [decoded] at done
    obtain ⟨entries, rfl, named⟩ := consistent_of_ofDatum done
    exact ⟨entries, rfl, named⟩

/-- A report that was read is consistent exactly if its text names it rightly. -/
theorem consistent_of_ofJson {source : Source} {r : Report} (done : ofJson source = .ok r) :
    ∃ entries, Stored source entries ∧ (r.Consistent ↔ NamedRightly entries) := by
  cases source with
  | text content =>
    simp only [ofJson] at done
    split_ifs at done
    · cases done
    · obtain ⟨entries, decoded, named⟩ := consistent_of_decode done
      exact ⟨entries, .text decoded, named⟩
  | bytes bytes =>
    simp only [ofJson] at done
    cases read : Encoding.decodeStrict bytes with
    | error fault =>
      rw [read] at done
      cases done
    | ok content =>
      rw [read] at done
      obtain ⟨entries, decoded, named⟩ := consistent_of_decode done
      exact ⟨entries, .bytes read decoded, named⟩

end Report

/-! ### What is handed out -/

namespace Session

/-- A report that is loaded is read from the text of its file. -/
theorem ofJson_of_loadReport {w after : Workspace} {path : FilePath} {r : Report}
    (loaded : (loadReport path).run w = (.ok r, after)) :
    ∃ content, w.files.textAt path = .ok content ∧ Report.ofJson (.text content) = .ok r := by
  rw [loadReport] at loaded
  cases format : ReportFormat.forPath path with
  | text =>
    simp only [format, run_answer] at loaded
    cases loaded
  | json =>
    simp only [format, run_bind, run_readText_eq] at loaded
    cases held : w.files.textAt path with
    | error failure =>
      rw [held] at loaded
      cases loaded
    | ok content =>
      simp only [held, run_answer, Prod.mk.injEq] at loaded
      exact ⟨content, rfl, mapError_eq_ok_iff.mp loaded.1⟩

/-- A report that is made of violations, as a validation makes it, has the status that they call for;
one that is read, from a text or from a file, has it exactly if the text names it rightly. A
consistent report is shown as valid exactly if it has no violations, and else by a line for each of
them. -/
theorem reports_consistent (w : Workspace) (r : Report) :
    (∀ violations, r = Report.ofViolations violations → r.Consistent) ∧
    (∀ settings schema document, r = Validation.validate settings schema document →
      r.Consistent) ∧
    (∀ source, Report.ofJson source = .ok r →
      ∃ entries, Report.Stored source entries ∧ (r.Consistent ↔ Report.NamedRightly entries)) ∧
    (∀ path after, (loadReport path).run w = (.ok r, after) →
      ∃ content entries, w.files.textAt path = .ok content ∧
        Report.Stored (.text content) entries ∧
          (r.Consistent ↔ Report.NamedRightly entries)) ∧
    (r.Consistent → (r.render = "valid" ↔ r.violations = []) ∧
      (r.violations ≠ [] → r.render = Text.join "\n" (r.violations.map Violation.render))) := by
  refine ⟨?_, ?_, fun _ => Report.consistent_of_ofJson, fun path after loaded => ?_,
    fun consistent => ⟨?_, fun found => ?_⟩⟩
  · rintro violations rfl
    exact Report.isValid_ofViolations violations
  · rintro settings schema document rfl
    exact Report.isValid_ofViolations _
  · obtain ⟨content, held, read⟩ := ofJson_of_loadReport loaded
    obtain ⟨entries, stored, named⟩ := Report.consistent_of_ofJson read
    exact ⟨content, entries, held, stored, named⟩
  · exact (Report.render_eq_valid_iff r).trans consistent
  · exact Report.render_of_invalid (Bool.eq_false_iff.mpr fun valid => found (consistent.mp valid))

/-- A stored report that is named valid and lists a violation. -/
def mislabelled : Text :=
  "\x7b\"status\":\"valid\",\"errors\":[\x7b\"kind\":\"type_mismatch\",\"detail\":\"x\"\x7d]\x7d"

theorem mislabelled_shown_valid : ∃ r, Report.ofJson (.text mislabelled) = .ok r ∧
    r.violations.length = 1 ∧ r.isValid = true ∧ r.render = "valid" := by
  have read : (Report.ofJson (.text mislabelled)).toOption =
      some ⟨Report.currentVersion, .valid, [⟨[], .typeMismatch, "x", none, none, none⟩]⟩ := by
    decide +kernel
  exact ⟨_, toOption_eq_some_iff.mp read, rfl, rfl, rfl⟩

end Session
end Conformance
