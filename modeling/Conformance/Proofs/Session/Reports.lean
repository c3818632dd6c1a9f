import Conformance.Proofs.Files.Tree
import Conformance.Proofs.Json.Lines
import Conformance.Proofs.Report.Stored
import Conformance.Proofs.Session.Run
import Conformance.Session.Reports

/-!
# Reports that are saved and loaded

A report is saved with a line feed behind its JSON. The text that is read back from the file is the
one that was written: it has UTF-8, and no line of it ends in a way that reading replaces. So a
report survives the way through a file as it survives the way through a text.
-/
namespace Conformance.Session

variable {w : Workspace} {path : FilePath}

theorem run_readText {bytes : Bytes} {t : Text} (held : w.files.read path = .ok bytes)
    (decoded : Encoding.decodeStrict bytes = .ok t) :
    (readText path).run w = (.ok (unifyLines t), w) := by
  have seen : (inspect fun files => files.read path).run w = (.ok bytes, w) :=
    run_inspect_of_ok held
  rw [readText, run_bind_of_ok seen, run_answer, decoded]
  rfl

theorem run_dump_of_ok {r : Report} {format : ReportFormat} {content : Text}
    (written : r.dump format = .ok content) : (dump r format).run w = (.ok content, w) := by
  rw [dump, run_answer, written]
  rfl

theorem run_saveReport {r : Report} {content : Text} {bytes : Bytes} {files : FileTree}
    (written : r.dump (.forPath path) = .ok content)
    (encoded : Encoding.encodeStrict (content ++ "\n") = .ok bytes)
    (stored : w.files.write path bytes = .ok files) :
    (saveReport r path).run w = (.ok (.forPath path), { w with files }) := by
  have placed : (rearrange fun files => files.write path bytes).run w = (.ok (), { w with files }) :=
    run_rearrange_of_ok stored
  rw [saveReport, run_bind_of_ok (run_dump_of_ok written)]
  simp only [encoded]
  rw [run_bind_of_ok placed, run_pure]

theorem run_loadReport {r : Report} {content : Text} (json : ReportFormat.forPath path = .json)
    (held : (readText path).run w = (.ok content, w))
    (read : Report.ofJson (.text content) = .ok r) :
    (loadReport path).run w = (.ok r, w) := by
  rw [loadReport]
  simp only [json]
  rw [run_bind_of_ok held, run_answer, read]
  rfl

/-- A report that can be stored reads back as it was, out of its JSON in any layout and out of a
file whose suffix asks for JSON. -/
theorem report_reads_back {r : Report} (storable : r.Storable) :
    (∀ indent, ∃ content, r.toJson indent = .ok content ∧
      Report.ofJson (.text content) = .ok r) ∧
    ∀ (w : Workspace) (path : FilePath), path.suffix.toAsciiLower = Text.ofString ".json" →
      w.files.Writable path →
        ∃ after, (saveReport r path).run w = (.ok .json, after) ∧
          (loadReport path).run after = (.ok r, after) := by
  constructor
  · intro indent
    have nothing : Json.Layout [] := List.forall_mem_nil _
    have read := Report.ofJson_of_toJson storable (Report.toJson_eq storable indent) nothing
    rw [List.append_nil] at read
    exact ⟨_, Report.toJson_eq storable indent, read⟩
  · intro w path suffix writable
    have json : ReportFormat.forPath path = .json := if_pos (decide_eq_true suffix)
    have written := Report.toJson_eq storable Report.defaultIndent
    -- From here on all that matters of the text is that it was written and reads back.
    generalize Json.write (Report.jsonStyle Report.defaultIndent) 0 r.toDatum = content at written
    -- The line feed at the end is clean, and it is space to the reader.
    have feed : Json.Layout "\n" := List.forall_mem_singleton.mpr (.inl rfl)
    have clean : ∀ c ∈ content ++ "\n", Json.Clean c :=
      List.forall_mem_append.mpr ⟨Report.clean_toJson written, feed.clean⟩
    have encoded := Encoding.encodeStrict_eq_ok_iff.mpr
      ⟨fun c member => (clean c member).2, rfl⟩
    obtain ⟨files, stored, rewritten⟩ := FileTree.exists_rewritten writable
      ((content ++ "\n").flatMap Encoding.utf8Bytes)
    have loaded := run_readText (w := { w with files }) rewritten.held
      (Encoding.decodeStrict_of_encodeStrict encoded)
    rw [unifyLines_eq_self fun c member => (clean c member).1] at loaded
    have saved : (saveReport r path).run w = (.ok .json, { w with files }) := by
      rw [← json]
      exact run_saveReport (by rw [json]; exact written) encoded stored
    exact ⟨_, saved, run_loadReport json loaded (Report.ofJson_of_toJson storable written feed)⟩

/-- A report whose texts need escapes of every sort, with a name that is spelled like an index. -/
def awkward : Report where
  version := "\"1\\0\""
  status := .invalid
  violations := [
    ⟨[.name "7", .index 7, .name ""], .constraintViolation,
      ["\t", "\r\n", "\x01\x1f", "é", "𝄞"].flatMap Text.ofString, some "", none, none⟩,
    ⟨[], .depthExceeded, "", none, some "null", some "[\x7b,:]"⟩]

/-- A workspace with a directory in it. -/
def shelf : Workspace :=
  .initial ⟨["", "home"], [(["", "home", "out"], .directory)]⟩ [] ""

theorem report_reads_back_awkward :
    awkward.Storable ∧ shelf.files.Writable (.ofText "./out/a.JSON") ∧
    (∃ content, awkward.toJson none = .ok content ∧ Report.ofJson (.text content) = .ok awkward) ∧
    ∃ after, (saveReport awkward (.ofText "./out/a.JSON")).run shelf = (.ok .json, after) ∧
      (loadReport (.ofText "./out/a.JSON")).run after = (.ok awkward, after) := by
  have storable : awkward.Storable := by
    refine ⟨by decide +kernel, fun v member index present => ?_⟩
    have seven : index = 7 := by
      simp only [awkward, List.mem_cons, List.not_mem_nil, or_false] at member
      rcases member with rfl | rfl
      · simpa using present
      · simp at present
    rw [seven]
    decide
  have writable : shelf.files.Writable (.ofText "./out/a.JSON") :=
    ⟨["", "home", "out", "a.JSON"], none, by rfl, by decide⟩
  obtain ⟨texts, files⟩ := report_reads_back storable
  exact ⟨storable, writable, texts none, files shelf _ rfl writable⟩

end Conformance.Session
