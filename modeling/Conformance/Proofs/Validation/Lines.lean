import Conformance.Proofs.Document.Representable
import Conformance.Proofs.Text.Lines
import Conformance.Proofs.Validation.Apart
import Conformance.Proofs.Validation.Located

/-!
# Lines of a report

A report that is shown as text has a line for each violation and one more for each line feed in the
names that its violations show: the names on their paths, and once more the name of a member that is
missing. Names are shown as they are. Whatever else a violation shows stands on one line: strings
and patterns are quoted, and the values of an enumeration are JSON.
-/
namespace Conformance

open Text

/-! ### Names that are shown -/

/-- The names among the steps of a path. -/
def Path.names (path : Path) : List Text :=
  path.filterMap fun step =>
    match step with
    | .name name => some name
    | .index _ => none

namespace Path

theorem mem_names {path : Path} {name : Text} : name ∈ names path ↔ .name name ∈ path := by
  rw [names, List.mem_filterMap]
  constructor
  · rintro ⟨step, present, named⟩
    cases step with
    | name value =>
      cases named
      exact present
    | index _ => cases named
  · exact fun present => ⟨_, present, rfl⟩

@[simp] theorem names_concat_name (path : Path) (name : Text) :
    names (path ++ [.name name]) = names path ++ [name] := List.filterMap_append

end Path

/-- How many line feeds there are in texts. -/
def Text.feeds (texts : List Text) : Nat := (texts.map (List.count feed)).sum

namespace Text

theorem feeds_cons (t : Text) (texts : List Text) :
    feeds (t :: texts) = t.count feed + feeds texts := rfl

@[simp] theorem feeds_append (first second : List Text) :
    feeds (first ++ second) = feeds first + feeds second := by
  rw [feeds, List.map_append, List.sum_append]
  rfl

theorem feeds_eq_zero_iff {texts : List Text} : feeds texts = 0 ↔ ∀ t ∈ texts, t.OneLine := by
  simp only [feeds, List.sum_eq_zero_iff, List.forall_mem_map, oneLine_iff]

/-- A text falls into the lines of its parts. -/
theorem length_flatMap_lines (parts : List Text) :
    (parts.flatMap lines).length = parts.length + feeds parts := by
  induction parts with
  | nil => rfl
  | cons part others ih =>
    have own : part.lines.length = part.count feed + 1 := length_splitOn feed part
    rw [List.flatMap_cons, List.length_append, ih, own, feeds_cons, List.length_cons]
    omega

/-- Parts are the lines of their text exactly if none of them has a line feed. -/
theorem flatMap_lines_eq_iff {parts : List Text} :
    parts.flatMap lines = parts ↔ feeds parts = 0 := by
  constructor
  · intro same
    have length := length_flatMap_lines parts
    rw [same] at length
    omega
  · intro none
    calc parts.flatMap lines
        = parts.flatMap fun part => [part] :=
          List.flatMap_congr fun part member => (feeds_eq_zero_iff.mp none part member).lines_eq
      _ = parts := List.flatMap_singleton' parts

end Text

namespace Violation

/-- The names in the line of a violation: those on its path, and the last one of them again if it
is the name of a missing member. -/
def namesShown (v : Violation) : List Text :=
  Path.names v.path ++ if v.kind = .missingField then (Path.names v.path).getLast?.toList else []

theorem mem_namesShown {v : Violation} {name : Text} :
    name ∈ v.namesShown ↔ .name name ∈ v.path := by
  rw [namesShown, List.mem_append, ← Path.mem_names, or_iff_left_iff_imp]
  split
  · exact fun last => List.mem_of_getLast? (Option.mem_toList.mp last)
  · exact nofun

end Violation

/-! ### Pointers -/

namespace Pointer

/-- Escapes neither add line feeds nor take any away. -/
theorem count_feed_escape (step : Text) : (escape step).count feed = step.count feed := by
  induction step with
  | nil => rfl
  | cons c step ih =>
    have point : (escapePoint c).count feed = [c].count feed := by
      rw [escapePoint]
      split_ifs with tilde slash
      · rw [tilde]
        rfl
      · rw [slash]
        rfl
      · rfl
    rw [escape, List.flatMap_cons, List.count_append, point, ← escape, ih, ← List.count_append]
    rfl

theorem count_feed_ofPath (path : Path) : (ofPath path).count feed = feeds (Path.names path) := by
  induction path with
  | nil => rfl
  | cons step path ih =>
    have own : (ofPath (step :: path)).count feed =
        (step.toText).count feed + (ofPath path).count feed := by
      have apart : slash ≠ feed := by decide
      rw [ofPath, List.map_cons, ofSteps_cons, List.count_cons_of_ne apart, List.count_append,
        count_feed_escape]
      rfl
    rw [own, ih]
    cases step with
    | name name => rfl
    | index index =>
      have none : (Segment.toText (.index index)).count feed = 0 :=
        oneLine_iff.mp (oneLine_ofInt index)
      rw [none, Nat.zero_add]
      rfl

theorem count_feed_shown (pointer : Text) : (shown pointer).count feed = pointer.count feed := by
  rw [shown]
  split_ifs with root
  · rw [List.isEmpty_iff.mp root]
    rfl
  · rfl

end Pointer

/-! ### Words of a violation -/

theorem Kind.oneLine_name (kind : Kind) : kind.name.OneLine := by
  cases kind <;> decide

theorem ViolationKind.oneLine_name (kind : ViolationKind) : kind.name.OneLine := by
  cases kind <;> decide

/-- What is wrong with a value is told on one line, unless the caller's own words tell it. -/
theorem Constraint.oneLine_failure {c : Constraint} {value : Document} {detail : Text}
    (bound : ∀ check, c ≠ .check check) (fails : c.failure? value = some detail) :
    detail.OneLine := by
  have missed {rule subject found relation limit : Text} (words : OneLine (rule ++ ": " ++ subject))
      (first : found.OneLine) (between : relation.OneLine) (last : limit.OneLine) :
      OneLine (missed rule subject found relation limit) :=
    ((words.append first).append between).append last
  rw [failure?.eq_def] at fails
  split at fails
  · split_ifs at fails
    cases fails
    exact missed (by decide) (oneLine_ofNat _) (by decide) (oneLine_ofInt _)
  · split_ifs at fails
    cases fails
    exact missed (by decide) (oneLine_ofNat _) (by decide) (oneLine_ofInt _)
  next p content =>
    split_ifs at fails
    cases fails
    exact ((OneLine.append (by decide) (oneLine_quoted content)).append (by decide)).append
      (oneLine_quoted p.source)
  next limit found =>
    split_ifs at fails
    cases fails
    exact missed (by decide) found.oneLine_formatPlain (by decide) limit.oneLine_formatPlain
  next limit found =>
    split_ifs at fails
    cases fails
    exact missed (by decide) found.oneLine_formatPlain (by decide) limit.oneLine_formatPlain
  · split_ifs at fails
    cases fails
    exact missed (by decide) (oneLine_ofNat _) (by decide) (oneLine_ofInt _)
  · split_ifs at fails
    cases fails
    exact missed (by decide) (oneLine_ofNat _) (by decide) (oneLine_ofInt _)
  next values =>
    split_ifs at fails
    cases fails
    have listed : OneLine (join ", " (values.map Document.dump)) :=
      OneLine.join (by decide) fun part member => by
        obtain ⟨shown, _, rfl⟩ := List.mem_map.mp member
        exact shown.oneLine_dump
    exact (((OneLine.append (by decide) value.oneLine_dump).append (by decide)).append
      listed).append (by decide)
  next check => exact absurd rfl (bound check)
  · cases fails

namespace Validation

/-! ### Lines of violations -/

/-- The line of a violation has the line feeds of its pointer and of its detail. -/
theorem count_feed_render (v : Violation) :
    v.render.count feed = feeds (Path.names v.path) + v.detail.count feed := by
  have words : (Text.ofString " : ").count feed = 0 := by decide
  have kind : v.kind.name.count feed = 0 := oneLine_iff.mp v.kind.oneLine_name
  rw [Violation.render, List.count_append, List.count_append, List.count_append,
    List.count_append, words, kind, Pointer.count_feed_shown, Violation.pointer,
    Pointer.count_feed_ofPath]
  omega

/-- A violation that tells on one line what is wrong shows line feeds only in its path. -/
theorem count_feed_render_of_oneLine {v : Violation} (present : v.kind ≠ .missingField)
    (detail : v.detail.OneLine) : v.render.count feed = feeds v.namesShown := by
  rw [count_feed_render, oneLine_iff.mp detail, Violation.namesShown, if_neg present,
    List.append_nil, Nat.add_zero]

theorem count_feed_render_missing (path : Path) (name : Text) :
    (missingViolation path name).render.count feed =
      feeds (missingViolation path name).namesShown := by
  have before : (Text.ofString "required field '").count feed = 0 := by decide
  have behind : (Text.ofString "' is missing").count feed = 0 := by decide
  have named : Path.names (missingViolation path name).path = Path.names path ++ [name] :=
    Path.names_concat_name path name
  have kind : (missingViolation path name).kind = .missingField := rfl
  have detail : (missingViolation path name).detail =
      "required field '" ++ name ++ "' is missing" := rfl
  rw [count_feed_render, Violation.namesShown, named, if_pos kind, List.getLast?_concat, detail,
    List.count_append, List.count_append, before, behind]
  simp only [feeds_append]
  -- The name stands twice in the line, at the end of the pointer and in the detail.
  have again : feeds (some name).toList = name.count feed := Nat.add_zero _
  have own : feeds [name] = name.count feed := Nat.add_zero _
  omega

/-- A violation that comes of a schema without checks shows line feeds only in its names. -/
theorem count_feed_render_of_found {limit depth : Nat} {path : Path} {schema : Schema}
    {value : Document} {v : Violation} (found : Found limit path depth schema value v)
    (unchecked : schema.Unchecked) : v.render.count feed = feeds v.namesShown := by
  induction found with
  | tooDeep deep =>
    refine count_feed_render_of_oneLine (fun same => by cases same) ?_
    exact ((OneLine.append (by decide) (oneLine_ofNat _)).append (by decide)).append
      (oneLine_ofNat _)
  | wrongKind _ _ _ =>
    refine count_feed_render_of_oneLine (fun same => by cases same) ?_
    exact ((OneLine.append (by decide) (Kind.oneLine_name _)).append (by decide)).append
      (Kind.oneLine_name _)
  | missing _ _ _ => exact count_feed_render_missing _ _
  | @broken _ _ schema _ rule _ _ asked _ fails =>
    -- Without checks the rules are those of the bounds, whose words stand on one line.
    have bound (check : Check) : rule ≠ .check check := by
      rw [Schema.constraints, unchecked.checks_eq, List.append_nil] at asked
      exact Bounds.ne_check_of_mem_constraints asked check
    have present : rule.violationKind ≠ .missingField := by
      cases rule <;> intro same <;> cases same
    exact count_feed_render_of_oneLine present (Constraint.oneLine_failure bound fails)
  | member _ _ asked _ ih =>
    obtain ⟨_, inProperties, _⟩ := unchecked
    exact ih (inProperties _ _ asked)
  | element _ asked _ ih =>
    obtain ⟨_, _, inItems⟩ := unchecked
    exact ih (inItems _ asked)

/-! ### Line feeds of violations together -/

variable {violations : List Violation}

theorem feeds_render (each : ∀ v ∈ violations, v.render.count feed = feeds v.namesShown) :
    feeds (violations.map Violation.render) = feeds (violations.flatMap Violation.namesShown) := by
  induction violations with
  | nil => rfl
  | cons v others ih =>
    obtain ⟨first, later⟩ := List.forall_mem_cons.mp each
    rw [List.map_cons, feeds_cons, List.flatMap_cons, feeds_append, first, ih later]

/-- The names that violations show have no line feed exactly if those on their paths have none. -/
theorem feeds_namesShown_eq_zero_iff : feeds (violations.flatMap Violation.namesShown) = 0 ↔
    ∀ v ∈ violations, ∀ name, .name name ∈ v.path → name.OneLine := by
  simp only [feeds_eq_zero_iff, List.forall_mem_flatMap, ← Violation.mem_namesShown]

/-! ### Where names come from -/

end Validation

/-- An object of the document, at any level, has a member of the name. -/
def Document.HasName (document : Document) (name : Text) : Prop :=
  ∃ members, Document.Inside (.object members) document ∧ name ∈ Named.names members

/-- The schema, or one inside it, requires a member of the name. -/
inductive Schema.Requires : Schema → Text → Prop where
  | here {schema : Schema} {name : Text} (asked : name ∈ schema.required) : Requires schema name
  | property {schema sub : Schema} {key name : Text} (asked : schema.property? key = some sub)
      (inside : Requires sub name) : Requires schema name
  | items {schema sub : Schema} {name : Text} (asked : schema.items? = some sub)
      (inside : Requires sub name) : Requires schema name

namespace Validation

/-- The names on the path of a violation are members of the value or required by the schema. -/
theorem name_of_found {limit depth : Nat} {path : Path} {schema : Schema} {value : Document}
    {v : Violation} (found : Found limit path depth schema value v) {name : Text}
    (shown : .name name ∈ v.path) :
    .name name ∈ path ∨ value.HasName name ∨ schema.Requires name := by
  induction found with
  | tooDeep _ | wrongKind _ _ _ | broken _ _ _ _ => exact .inl shown
  | missing _ asked _ =>
    rcases List.mem_append.mp shown with before | last
    · exact .inl before
    · cases List.mem_singleton.mp last
      exact .inr (.inr (.here asked))
  | @member _ _ _ _ members _ _ _ present asked _ ih =>
    rcases ih shown with onPath | ⟨inner, inside, named⟩ | required
    · rcases List.mem_append.mp onPath with before | last
      · exact .inl before
      · cases List.mem_singleton.mp last
        exact .inr (.inl ⟨members, .here _, List.mem_map_of_mem present⟩)
    · exact .inr (.inl ⟨inner, .member present inside, named⟩)
    · exact .inr (.inr (.property asked required))
  | element _ asked _ ih =>
    rcases ih shown with onPath | ⟨inner, inside, named⟩ | required
    · rcases List.mem_append.mp onPath with before | last
      · exact .inl before
      · cases List.mem_singleton.mp last
    · exact .inr (.inl ⟨inner, .element (List.getElem_mem _) inside, named⟩)
    · exact .inr (.inr (.items asked required))

/-! ### Lines of reports -/

/-- An invalid report falls into the lines of its violations. -/
theorem lines_render_of_invalid {r : Report} (invalid : r.isValid = false)
    (told : r.violations ≠ []) :
    r.render.lines = (r.violations.map Violation.render).flatMap lines := by
  rw [Report.render_of_invalid invalid, lines_join fun none => told (List.map_eq_nil_iff.mp none)]

variable {asked : Document} {schema : Schema}

/-- The text of an invalid report against a compiled schema has a line for each violation and one
more for each line feed in the names that its violations show. So every violation has exactly one
line, which shows its pointer, its kind and its detail, if there is no line feed in the names on
the paths, and only then; whatever else the schema and the document hold has no say in it. -/
theorem line_of_each_violation (compiled : Schema.compile asked = .ok schema) (settings : Settings)
    (document : Document) (invalid : (validate settings schema document).isValid = false) :
    let report := validate settings schema document
    let lines := report.render.lines
    let shown := report.violations.map fun v =>
      Pointer.shown v.pointer ++ " : " ++ v.kind.name ++ " : " ++ v.detail
    lines = shown.flatMap Text.lines ∧
    lines.length = report.violations.length + Text.feeds (report.violations.flatMap
      Violation.namesShown) ∧
    (lines = shown ↔ ∀ v ∈ report.violations, ∀ name, .name name ∈ v.path → name.OneLine) ∧
    (lines.length = report.violations.length ↔ lines = shown) ∧
    ((∀ name, document.HasName name ∨ schema.Requires name → name.OneLine) → lines = shown) := by
  intro report lines shown
  have told : report.violations ≠ [] := fun none => by
    have valid : report.isValid = true := (Report.isValid_ofViolations _).mpr none
    rw [valid] at invalid
    cases invalid
  have found {v : Violation} (listed : v ∈ report.violations) :
      Found settings.maxDepth [] 0 schema document v :=
    found_of_mem_findings (mem_findings_of_mem_violations listed)
  have unchecked := Schema.unchecked_of_compile compiled
  have parted : lines = shown.flatMap Text.lines := lines_render_of_invalid invalid told
  have feeds_eq : feeds shown = feeds (report.violations.flatMap Violation.namesShown) :=
    feeds_render fun v listed => count_feed_render_of_found (found listed) unchecked
  have length : lines.length = report.violations.length +
      feeds (report.violations.flatMap Violation.namesShown) := by
    rw [parted, length_flatMap_lines, feeds_eq, List.length_map]
  -- Nothing is added to the lines exactly if none of the names has a line feed.
  have same_iff : lines = shown ↔ feeds (report.violations.flatMap Violation.namesShown) = 0 := by
    rw [parted, ← feeds_eq]
    exact flatMap_lines_eq_iff
  have clear_iff := same_iff.trans feeds_namesShown_eq_zero_iff
  refine ⟨parted, length, clear_iff, ?_, fun clear => clear_iff.mpr fun v listed name present => ?_⟩
  · rw [same_iff, length]
    omega
  · exact clear name ((name_of_found (found listed) present).resolve_left nofun)

/-- A schema with line feeds in a pattern, in an enumeration and in a required name. -/
def poem : Document :=
  .object [("required", .array [.string "last\nline"]), ("properties", .object [
    ("first", .object [("pattern", .string "^\n$")]),
    ("second", .object [("enum", .array [.string "\n"])])])]

/-- Two members that do not fit, with line feeds in them, and none of the required name. -/
def draft : Document := .object [("first", .string "a\nb"), ("second", .string "\n\n")]

theorem line_of_each_violation_draft :
    ∃ schema, Schema.compile poem = .ok schema
      ∧ (validate .standard schema draft).isValid = false
      ∧ (validate .standard schema draft).violations.map Violation.path =
        [[.name "last\nline"], [.name "first"], [.name "second"]]
      ∧ (validate .standard schema draft).render.lines.length = 5 := by
  obtain ⟨schema, compiled⟩ : ∃ schema, Schema.compile poem = .ok schema := ⟨_, rfl⟩
  have invalid : (validate .standard schema draft).isValid = false := by
    cases compiled
    decide +kernel
  have paths : (validate .standard schema draft).violations.map Violation.path =
      [[.name "last\nline"], [.name "first"], [.name "second"]] := by
    cases compiled
    decide +kernel
  have names : Text.feeds ((validate .standard schema draft).violations.flatMap
      Violation.namesShown) = 2 := by
    cases compiled
    decide +kernel
  obtain ⟨-, length, -⟩ := line_of_each_violation compiled .standard draft invalid
  rw [names, ← List.length_map Violation.path, paths] at length
  exact ⟨schema, compiled, invalid, paths, length⟩

/-- A schema for a member with a line feed in its name. -/
def verses : Document :=
  .object [("properties", .object [("a\nb", .object [("type", .string "string")])])]

/-- One violation has two lines, since the name in its pointer is shown as it is. -/
theorem name_breaks_line :
    ∃ schema, Schema.compile verses = .ok schema
      ∧ (validate .standard schema (.object [("a\nb", .null)])).violations.length = 1
      ∧ (validate .standard schema (.object [("a\nb", .null)])).render.lines =
        ["/a", "b : type_mismatch : expected string, got null"] := by
  obtain ⟨schema, compiled⟩ : ∃ schema, Schema.compile verses = .ok schema := ⟨_, rfl⟩
  refine ⟨schema, compiled, ?_, ?_⟩
  · cases compiled
    decide +kernel
  · cases compiled
    decide +kernel

end Validation
end Conformance
