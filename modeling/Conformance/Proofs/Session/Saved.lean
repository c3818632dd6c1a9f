import Conformance.Proofs.Session.Reports
import Conformance.Proofs.Text.Scalar
import Conformance.Validation.Request

/-!
# All or nothing

A report that is saved is written whole, or no file changes. That holds of JSON, which is refused
before the file is opened. It fails of one sort of text alone: a text with a surrogate is found to
have no UTF-8 once the file has been emptied for it.
-/
namespace Conformance.Session

variable {r : Report} {path : FilePath} {w : Workspace}

/-! ### Reports that are not saved -/

/-- A report that has no JSON is refused before any file is touched. -/
theorem run_saveReport_of_unwritable {error : EncodeError}
    (refused : r.dump (.forPath path) = .error error) :
    (saveReport r path).run w = (.error (.unwritable error), w) := by
  have failed : (dump r (.forPath path)).run w = (.error (.unwritable error), w) := by
    rw [dump, run_answer, refused]
    rfl
  rw [saveReport, run_bind_of_error failed]

/-- Where no file can be written nothing changes, whatever is to be written. -/
theorem run_saveReport_of_not_writable {content : Text}
    (written : r.dump (.forPath path) = .ok content) (closed : ¬w.files.Writable path) :
    ∃ failure, (saveReport r path).run w = (.error failure, w) := by
  have refused (bytes : Bytes) : ∃ error, w.files.write path bytes = .error error := by
    cases stored : w.files.write path bytes with
    | ok after => exact absurd (FileTree.writable_of_write stored) closed
    | error error => exact ⟨error, rfl⟩
  rw [saveReport, run_bind_of_ok (run_dump_of_ok written)]
  cases Encoding.encodeStrict (content ++ "\n") with
  | ok bytes =>
    obtain ⟨error, stopped⟩ := refused bytes
    exact ⟨.file error, run_bind_of_error (run_rearrange_of_error stopped)⟩
  | error fault =>
    obtain ⟨error, stopped⟩ := refused []
    exact ⟨.file error, run_bind_of_error (run_rearrange_of_error stopped)⟩

/-- A text that has no UTF-8 leaves an empty file. -/
theorem run_saveReport_of_unencodable {content : Text} {error : EncodeError} {files : FileTree}
    (written : r.dump (.forPath path) = .ok content)
    (fault : Encoding.encodeStrict (content ++ "\n") = .error error)
    (emptied : w.files.write path [] = .ok files) :
    (saveReport r path).run w = (.error (.unencodable error), { w with files }) := by
  have placed : (rearrange fun files => files.write path []).run w = (.ok (), { w with files }) :=
    run_rearrange_of_ok emptied
  rw [saveReport, run_bind_of_ok (run_dump_of_ok written)]
  simp only [fault]
  rw [run_bind_of_ok placed]
  rfl

/-! ### All or nothing -/

/-- The report is in the file, in the format that the path asks for and with a line feed behind it,
and all else stands as it stood; or saving has failed and everything stands as it stood. -/
inductive AllOrNothing (r : Report) (path : FilePath) (before : FileTree) :
    Except Failure ReportFormat → FileTree → Prop where
  | all {content : Text} {bytes : Bytes} {after : FileTree}
      (written : r.dump (.forPath path) = .ok content)
      (encoded : Encoding.encodeStrict (content ++ "\n") = .ok bytes)
      (rewritten : before.Rewritten after path bytes) :
      AllOrNothing r path before (.ok (.forPath path)) after
  | nothing {failure : Failure} {after : FileTree} (same : after.entry? = before.entry?) :
      AllOrNothing r path before (.error failure) after

/-- The report is to be saved as text, its text has no UTF-8, and the file can be written and is not
empty already. -/
structure Spoils (r : Report) (path : FilePath) (files : FileTree) : Prop where
  text : ReportFormat.forPath path = .text
  unencodable : ¬r.render.Scalar
  writable : files.Writable path
  filled : files.read path ≠ .ok []

/-- JSON that is written has UTF-8, so nothing that is saved as JSON spoils a file. -/
theorem spoils_iff {content : Text} (written : r.dump (.forPath path) = .ok content)
    (files : FileTree) :
    Spoils r path files ↔ ¬content.Scalar ∧ files.Writable path ∧ files.read path ≠ .ok [] := by
  cases format : ReportFormat.forPath path with
  | text =>
    rw [format] at written
    cases written
    constructor
    · rintro ⟨-, unencodable, writable, filled⟩
      exact ⟨unencodable, writable, filled⟩
    · rintro ⟨unencodable, writable, filled⟩
      exact ⟨format, unencodable, writable, filled⟩
  | json =>
    rw [format] at written
    have scalar : content.Scalar := fun c member => (Report.clean_toJson written c member).2
    constructor
    · intro spoils
      rw [spoils.text] at format
      cases format
    · rintro ⟨unencodable, -⟩
      exact absurd scalar unencodable

theorem not_spoils_of_unwritable {error : EncodeError}
    (refused : r.dump (.forPath path) = .error error) (files : FileTree) :
    ¬Spoils r path files := by
  intro spoils
  rw [spoils.text] at refused
  cases refused

/-- A line has UTF-8 exactly if what stands on it has. -/
theorem exists_encodeStrict_line {content : Text} :
    (∃ bytes, Encoding.encodeStrict (content ++ "\n") = .ok bytes) ↔ content.Scalar := by
  constructor
  · rintro ⟨bytes, encoded⟩
    exact (Text.scalar_append.mp (Encoding.encodeStrict_eq_ok_iff.mp encoded).1).1
  · intro scalar
    have line : Text.Scalar (content ++ "\n") := scalar.append (Text.scalar_ofString "\n")
    exact ⟨_, Encoding.encodeStrict_eq_ok_iff.mpr ⟨line, rfl⟩⟩

/-- Saving is all or nothing unless it spoils a file. It succeeds exactly if the file can be written
and what is to be written has UTF-8. A file that it spoils is left empty. -/
theorem save_all_or_nothing (r : Report) (path : FilePath) (w : Workspace) :
    ∃ outcome after, (saveReport r path).run w = (outcome, { w with files := after })
      ∧ (AllOrNothing r path w.files outcome after ↔ ¬Spoils r path w.files)
      ∧ (outcome = .ok (.forPath path) ↔ w.files.Writable path ∧
        ∃ content, r.dump (.forPath path) = .ok content ∧ content.Scalar)
      ∧ (Spoils r path w.files → ∃ error, outcome = .error (.unencodable error) ∧
        w.files.Rewritten after path []) := by
  cases written : r.dump (.forPath path) with
  | error error =>
    have whole : ¬Spoils r path w.files := not_spoils_of_unwritable written w.files
    refine ⟨_, w.files, run_saveReport_of_unwritable written, ?_, ?_,
      fun spoils => (whole spoils).elim⟩
    · exact iff_of_true (.nothing rfl) whole
    · simp
  | ok content =>
    rw [spoils_iff written]
    by_cases writable : w.files.Writable path
    · cases encoded : Encoding.encodeStrict (content ++ "\n") with
      | ok bytes =>
        have scalar : content.Scalar := exists_encodeStrict_line.mp ⟨bytes, encoded⟩
        obtain ⟨after, stored, rewritten⟩ := FileTree.exists_rewritten writable bytes
        refine ⟨_, after, run_saveReport written encoded stored, ?_, ?_,
          fun spoils => (spoils.1 scalar).elim⟩
        · exact iff_of_true (.all written encoded rewritten) fun spoils => spoils.1 scalar
        · exact iff_of_true rfl ⟨writable, content, rfl, scalar⟩
      | error error =>
        have surrogates : ¬content.Scalar := by
          rw [← exists_encodeStrict_line, encoded]
          exact not_exists_ok error
        obtain ⟨after, emptied, rewritten⟩ := FileTree.exists_rewritten writable []
        refine ⟨_, after, run_saveReport_of_unencodable written encoded emptied, ?_, ?_,
          fun _ => ⟨error, rfl, rewritten⟩⟩
        · constructor
          · rintro (_ | same) ⟨-, -, filled⟩
            exact filled (rewritten.entry?_eq_iff.mp same)
          · intro whole
            refine .nothing (rewritten.entry?_eq_iff.mpr ?_)
            by_contra filled
            exact whole ⟨surrogates, writable, filled⟩
        · simp [surrogates]
    · obtain ⟨failure, failed⟩ := run_saveReport_of_not_writable written writable
      refine ⟨_, w.files, failed, ?_, ?_, fun spoils => (writable spoils.2.1).elim⟩
      · exact iff_of_true (.nothing rfl) fun spoils => writable spoils.2.1
      · simp [writable]

/-- A surrogate without its other half. -/
def unpaired : CodePoint := .ofNat 0xD800

/-- A workspace with an earlier report in it. -/
def desk : Workspace :=
  .initial ⟨["", "home"], [(["", "home", "r.txt"], .file "valid\n".toUTF8.toList)]⟩ [] ""

/-- A report that cannot be encoded leaves nothing of the earlier one. -/
theorem earlier_report_lost :
    ∃ schema, Schema.compile (.object [("required", .array [.string [unpaired]])]) = .ok schema ∧
      ∃ error files,
        let report := Validation.validate .standard schema (.object [])
        let path := FilePath.ofText "r.txt"
        (saveReport report path).run desk = (.error (.unencodable error), { desk with files })
          ∧ desk.files.read path = .ok "valid\n".toUTF8.toList
          ∧ files.read path = .ok []
          ∧ ¬AllOrNothing report path desk.files (.error (.unencodable error)) files := by
  refine ⟨_, rfl, _, _, rfl, by decide +kernel, by decide +kernel, ?_⟩
  rintro (_ | same)
  exact absurd (congrFun same ["", "home", "r.txt"]) (by decide +kernel)

end Conformance.Session
