import Conformance.Proofs.Json.Clean
import Conformance.Proofs.Step
import Conformance.Report.OfJson
import Conformance.Report.ToJson

/-!
# Stored reports read back

Every field of a report is written, a missing text as null, so nothing is left to the defaults of
the reader: the datum of a report denotes that report. A name in a path is written as a string and
an index as a number, which keeps them apart even where a name is spelled like a number. A report
nests four levels deep, so its text can be read whenever its texts and its indices can.
-/
namespace Conformance

/-! ### The datum of a report -/

theorem ViolationKind.ofName?_name (kind : ViolationKind) : ofName? kind.name = some kind := by
  cases kind <;> decide

theorem Status.ofName?_name (status : Status) : ofName? status.name = some status := by
  cases status <;> decide

namespace Report

theorem readItems_map {α : Type} {read : Path → Datum → Part α} {toDatum : α → Datum}
    (reads : ∀ place item, read place (toDatum item) = .ok item) (place : Path) (index : Nat)
    (items : List α) : readItems read place index (items.map toDatum) = .ok items := by
  induction items generalizing index with
  | nil => rfl
  | cons item rest ih =>
    rw [List.map_cons, readItems, reads, ih]
    rfl

theorem readSegment_toDatum (place : Path) (step : Segment) :
    readSegment place step.toDatum = .ok step := by
  cases step with
  | name value => rfl
  | index value => rfl

theorem readOptionalText_ofText? (place : Path) (t : Option Text) :
    readOptionalText place (Datum.ofText? t) = .ok t := by
  cases t with
  | none => rfl
  | some value => rfl

theorem readName_text {α : Type} {ofName? : Text → Option α} {name : Text} {value : α}
    (known : ofName? name = some value) (place : Path) :
    readName ofName? place (.text name) = .ok value := by
  simp only [readName, known]

theorem readField_of_lookup? {α : Type} {read : Path → Datum → Part α} {absent : Path → Part α}
    {place : Path} {entries : List (Datum × Datum)} {name : Text} {datum : Datum} {value : α}
    (found : Datum.lookup? name entries = some datum)
    (reads : ∀ place, read place datum = .ok value) :
    readField read absent place entries name = .ok value := by
  rw [readField, found]
  exact reads _

theorem both_ok {α β : Type} {first : Part α} {second : Part β} {a : α} {b : β}
    (left : first = .ok a) (right : second = .ok b) : both first second = .ok (a, b) := by
  rw [left, right]
  rfl

theorem readViolation_toDatum (place : Path) (v : Violation) :
    readViolation place v.toDatum = .ok v := by
  have path (at_ : Path) : readPath at_ (.sequence (v.path.map Segment.toDatum)) = .ok v.path :=
    readItems_map readSegment_toDatum at_ 0 v.path
  have text (t : Option Text) (at_ : Path) := readOptionalText_ofText? at_ t
  refine map_eq_ok_iff.mpr ⟨(v.path, v.kind, v.detail, v.rule, v.expected, v.actual), ?_, rfl⟩
  refine both_ok (readField_of_lookup? rfl path) ?_
  refine both_ok (readField_of_lookup? rfl (readName_text v.kind.ofName?_name)) ?_
  refine both_ok (readField_of_lookup? rfl fun _ => rfl) ?_
  refine both_ok (readField_of_lookup? rfl (text v.rule)) ?_
  exact both_ok (readField_of_lookup? rfl (text v.expected))
    (readField_of_lookup? rfl (text v.actual))

/-- A report is what its datum denotes. -/
theorem ofDatum_toDatum (r : Report) : ofDatum r.toDatum = .ok r := by
  have violations (place : Path) :
      readViolations place (.sequence (r.violations.map Violation.toDatum)) = .ok r.violations :=
    readItems_map readViolation_toDatum place 0 r.violations
  refine map_eq_ok_iff.mpr ⟨(r.version, r.status, r.violations), ?_, rfl⟩
  refine both_ok (readField_of_lookup? rfl fun _ => rfl) ?_
  exact both_ok (readField_of_lookup? rfl (readName_text r.status.ofName?_name))
    (readField_of_lookup? rfl violations)

end Report

/-! ### The text of a report -/

open Json

/-- No text of the report has a surrogate, and no index in it has more digits than a number may be
written with. -/
structure Report.Storable (r : Report) : Prop where
  scalar : ∀ t ∈ r.texts, ∀ c ∈ t, c.isSurrogate = false
  short : ∀ v ∈ r.violations, ∀ index : Int, .index index ∈ v.path →
    (Text.ofNat index.natAbs).length ≤ maxIntegerDigits

theorem legible_text {levels : Nat} {t : Text} (scalar : ∀ c ∈ t, c.isSurrogate = false) :
    Legible .report levels (.text t) :=
  .text (.inr scalar)

theorem legible_ofText? {levels : Nat} {t : Option Text}
    (scalar : ∀ content ∈ t.toList, ∀ c ∈ content, c.isSurrogate = false) :
    Legible .report levels (Datum.ofText? t) := by
  cases t with
  | none => exact .null
  | some content => exact legible_text (scalar content (List.mem_singleton.mpr rfl))

/-- The members of a violation that is written. -/
def Violation.members (v : Violation) : List (Text × Datum) := [
  ("path", .sequence (v.path.map Segment.toDatum)), ("kind", .text v.kind.name),
  ("detail", .text v.detail), ("rule", .ofText? v.rule), ("expected", .ofText? v.expected),
  ("actual", .ofText? v.actual)]

theorem Violation.toDatum_eq (v : Violation) : v.toDatum = .mapping (v.members.map entry) := rfl

theorem Violation.scalar_names (v : Violation) :
    ∀ member ∈ v.members, ∀ c ∈ member.1, c.isSurrogate = false := by
  have held : ∀ name ∈ (["path", "kind", "detail", "rule", "expected", "actual"] : List Text),
      ∀ c ∈ name, c.isSurrogate = false := by
    decide
  exact fun member present => held _ (List.mem_map_of_mem present)

/-- The members of a report that is written. -/
def Report.members (r : Report) : List (Text × Datum) := [
  ("version", .text r.version), ("status", .text r.status.name),
  ("errors", .sequence (r.violations.map Violation.toDatum))]

theorem Report.toDatum_eq (r : Report) : r.toDatum = .mapping (r.members.map entry) := rfl

theorem Report.scalar_names (r : Report) :
    ∀ member ∈ r.members, ∀ c ∈ member.1, c.isSurrogate = false := by
  have held : ∀ name ∈ (["version", "status", "errors"] : List Text),
      ∀ c ∈ name, c.isSurrogate = false := by
    decide
  exact fun member present => held _ (List.mem_map_of_mem present)

theorem Violation.legible {v : Violation} (levels : Nat)
    (scalar : ∀ t ∈ v.texts, ∀ c ∈ t, c.isSurrogate = false)
    (short : ∀ index : Int, .index index ∈ v.path →
      (Text.ofNat index.natAbs).length ≤ maxIntegerDigits) :
    Legible .report (levels + 2) v.toDatum := by
  simp only [Violation.texts, List.forall_mem_append] at scalar
  obtain ⟨⟨⟨⟨names, detail⟩, rule⟩, expected⟩, actual⟩ := scalar
  have path : Legible .report (levels + 1) (.sequence (v.path.map Segment.toDatum)) := by
    refine .sequence fun item member => ?_
    obtain ⟨step, present, rfl⟩ := List.mem_map.mp member
    cases step with
    | name value => exact legible_text (names value (List.mem_filterMap.mpr ⟨_, present, rfl⟩))
    | index value => exact .integer (short value present)
  have kind : ∀ c ∈ v.kind.name, c.isSurrogate = false := by cases v.kind <;> decide
  have distinct : (["path", "kind", "detail", "rule", "expected", "actual"] : List Text).Nodup := by
    decide
  rw [toDatum_eq]
  refine .mapping distinct (fun member present => .inr (v.scalar_names member present)) ?_
  simp only [members, List.forall_mem_cons]
  exact ⟨path, legible_text kind, legible_text (detail v.detail (List.mem_singleton.mpr rfl)),
    legible_ofText? rule, legible_ofText? expected, legible_ofText? actual, List.forall_mem_nil _⟩

/-- A violation without surrogates is written with clean code points. -/
theorem Violation.clean_write {v : Violation} {style : Style} (plain : style.Plain)
    (scalar : ∀ t ∈ v.texts, ∀ c ∈ t, c.isSurrogate = false) (level : Nat) :
    ∀ c ∈ write style level v.toDatum, Clean c := by
  simp only [Violation.texts, List.forall_mem_append] at scalar
  obtain ⟨⟨⟨⟨names, detail⟩, rule⟩, expected⟩, actual⟩ := scalar
  have path : ∀ c ∈ write style (level + 1) (.sequence (v.path.map Segment.toDatum)), Clean c := by
    refine clean_sequence plain fun item member => ?_
    obtain ⟨step, present, rfl⟩ := List.mem_map.mp member
    cases step with
    | name value =>
      exact clean_text plain (names value (List.mem_filterMap.mpr ⟨_, present, rfl⟩)) _
    | index value => exact clean_ofInt value
  have kind : ∀ c ∈ v.kind.name, c.isSurrogate = false := by cases v.kind <;> decide
  have optional {t : Option Text}
      (own : ∀ content ∈ t.toList, ∀ c ∈ content, c.isSurrogate = false) :
      ∀ c ∈ write style (level + 1) (Datum.ofText? t), Clean c := by
    cases t with
    | none => exact (by decide : ∀ c ∈ Text.ofString "null", Clean c)
    | some content => exact clean_text plain (own content (List.mem_singleton.mpr rfl)) _
  rw [toDatum_eq]
  refine clean_mapping plain v.scalar_names ?_
  simp only [members, List.forall_mem_cons]
  exact ⟨path, clean_text plain kind _, clean_text plain (detail v.detail
    (List.mem_singleton.mpr rfl)) _, optional rule, optional expected, optional actual,
    List.forall_mem_nil _⟩

namespace Report

variable {r : Report}

theorem legible (storable : r.Storable) (levels : Nat) :
    Legible .report (levels + 4) r.toDatum := by
  obtain ⟨version, texts⟩ := List.forall_mem_cons.mp storable.scalar
  have violations :
      Legible .report (levels + 3) (.sequence (r.violations.map Violation.toDatum)) := by
    refine .sequence fun item member => ?_
    obtain ⟨v, present, rfl⟩ := List.mem_map.mp member
    exact v.legible levels (fun t within => texts t (List.mem_flatMap.mpr ⟨v, present, within⟩))
      (storable.short v present)
  have status : ∀ c ∈ r.status.name, c.isSurrogate = false := by cases r.status <;> decide
  have distinct : (["version", "status", "errors"] : List Text).Nodup := by decide
  rw [toDatum_eq]
  refine .mapping distinct (fun member present => .inr (r.scalar_names member present)) ?_
  simp only [members, List.forall_mem_cons]
  exact ⟨legible_text version, legible_text status, violations, List.forall_mem_nil _⟩

theorem plain_jsonStyle (indent : Option Nat) : (jsonStyle indent).Plain := by
  cases indent with
  | none => exact plain_compact
  | some width => exact plain_indented width

/-- What is written for a report without surrogates, and for no other. -/
theorem toJson_eq_ok_iff {indent : Option Nat} {content : Text} :
    r.toJson indent = .ok content ↔
      (∀ t ∈ r.texts, ∀ c ∈ t, c.isSurrogate = false) ∧
        write (jsonStyle indent) 0 r.toDatum = content := by
  rw [← Encoding.firstUnencodable_eq_none_iff, toJson]
  cases Encoding.firstUnencodable r.texts with
  | none => simp
  | some error => simp

/-- What is written for a storable report. -/
theorem toJson_eq (storable : r.Storable) (indent : Option Nat) :
    r.toJson indent = .ok (write (jsonStyle indent) 0 r.toDatum) :=
  toJson_eq_ok_iff.mpr ⟨storable.scalar, rfl⟩

theorem clean_toJson {indent : Option Nat} {content : Text}
    (written : r.toJson indent = .ok content) : ∀ c ∈ content, Clean c := by
  obtain ⟨scalar, rfl⟩ := toJson_eq_ok_iff.mp written
  have plain := plain_jsonStyle indent
  obtain ⟨version, texts⟩ := List.forall_mem_cons.mp scalar
  have status : ∀ c ∈ r.status.name, c.isSurrogate = false := by cases r.status <;> decide
  rw [toDatum_eq]
  refine clean_mapping plain r.scalar_names ?_
  simp only [members, List.forall_mem_cons]
  refine ⟨clean_text plain version _, clean_text plain status _, ?_, List.forall_mem_nil _⟩
  refine clean_sequence plain fun item member => ?_
  obtain ⟨v, present, rfl⟩ := List.mem_map.mp member
  exact v.clean_write plain (fun t within => texts t (List.mem_flatMap.mpr ⟨v, present, within⟩)) _

/-- A stored report is the one that was written, also with space behind it. -/
theorem ofJson_of_toJson (storable : r.Storable) {indent : Option Nat} {content layout : Text}
    (written : r.toJson indent = .ok content) (space : Layout layout) :
    ofJson (.text (content ++ layout)) = .ok r := by
  have clean := List.forall_mem_append.mpr ⟨clean_toJson written, space.clean⟩
  have scalar : (content ++ layout).any CodePoint.isSurrogate = false :=
    List.any_eq_false.mpr fun c member => by simp [(clean c member).2]
  rw [toJson_eq storable] at written
  cases written
  have decoded : decode .report (write (jsonStyle indent) 0 r.toDatum ++ layout) =
      .ok r.toDatum :=
    decode_write (plain_jsonStyle indent) (legible storable 196) 0 space.blank
  simp only [ofJson, scalar, decoded, Bool.false_eq_true, if_false]
  exact ofDatum_toDatum r

end Report
end Conformance
