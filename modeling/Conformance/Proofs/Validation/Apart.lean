import Conformance.Proofs.Schema.WellFormed
import Conformance.Proofs.Validation.Visits

/-!
# Violations of one report are apart

No two violations of a report are for the same rule at the same place, and nothing is reported at or
below a place with a wrong kind, with too much depth or with no value at all.

Violations in different parts of a value are apart because their paths part at the value. A name that
is missing is no name of a part, so the same holds of it. What the rules say of the value itself has
a shorter path than either, and each rule speaks only once: the bounds of a schema are one for each
keyword. Checks of a caller may repeat a rule, so schemas are taken without them.
-/
namespace Conformance

/-- Nothing is looked at where a violation of this kind stands. -/
def Violation.IsFinal (v : Violation) : Prop :=
  v.kind = .typeMismatch ∨ v.kind = .depthExceeded ∨ v.kind = .missingField

/-- Two violations are not for one rule at one place, and neither of them lies at or below the other
if that one is final. -/
structure Violation.Apart (v w : Violation) : Prop where
  distinct : v.path = w.path → v.rule ≠ w.rule
  afterFirst : v.IsFinal → ¬v.path <+: w.path
  afterSecond : w.IsFinal → ¬w.path <+: v.path

/-- No caller has added checks, at any level. -/
inductive Schema.Unchecked : Schema → Prop where
  | intro {schema : Schema} (own : schema.checks = [])
      (inProperties : ∀ name sub, schema.property? name = some sub → Unchecked sub)
      (inItems : ∀ sub, schema.items? = some sub → Unchecked sub) : Unchecked schema

namespace Schema

theorem Unchecked.checks_eq {schema : Schema} (unchecked : schema.Unchecked) :
    schema.checks = [] := by
  obtain ⟨own, _, _⟩ := unchecked
  exact own

theorem Unchecked.part {schema : Schema} (unchecked : schema.Unchecked) {value : Document}
    {part : Validation.Part} (present : part ∈ Validation.parts schema value) :
    part.schema.Unchecked := by
  obtain ⟨_, inProperties, inItems⟩ := unchecked
  rcases Validation.schema_of_mem_parts present with ⟨name, asked⟩ | asked
  · exact inProperties name part.schema asked
  · exact inItems part.schema asked

theorem unchecked_of_mirrors {depth : Nat} {document : Document} (formed : WellFormed depth document)
    {schema : Schema} (mirrors : Mirrors document schema) : schema.Unchecked := by
  induction formed generalizing schema with
  | anything =>
    cases mirrors
    exact .intro rfl (fun _ _ asked => by cases asked) (fun _ asked => by cases asked)
  | node _ _ _ _ inProperties inItems =>
    cases mirrors with
    | node own properties items =>
      refine .intro own.checks (fun name sub asked => ?_) (fun sub asked => ?_)
      · obtain ⟨schemas, d, given, listed, mirrored⟩ :=
          exists_mirrored_property own properties asked
        exact inProperties schemas given (name, d) listed mirrored
      · obtain ⟨d, given, mirrored⟩ := exists_mirrored_items items asked
        exact inItems d given mirrored

theorem unchecked_of_compile {document : Document} {schema : Schema}
    (compiled : compile document = .ok schema) : schema.Unchecked :=
  unchecked_of_mirrors (wellFormed_of_compile compiled) (mirrors_of_compileWithin compiled)

theorem required_nodup (schema : Schema) : schema.required.Nodup := by
  cases schema with
  | anything => exact .nil
  | node => exact Named.eraseDups_nodup _

end Schema

/-- Each bound has a rule of its own. -/
theorem Bounds.rules_nodup (bounds : Bounds) :
    (bounds.constraints.map Constraint.rule).Nodup := by
  have single {α : Type} (given : Option α) (make : α → Constraint) (name : Text)
      (named : ∀ a, (make a).rule = name) :
      ((given.map make).toList.map Constraint.rule).Sublist [name] := by
    cases given with
    | none => exact List.nil_sublist _
    | some a => simp [named]
  have all : (bounds.constraints.map Constraint.rule).Sublist
      ([Keyword.minLength.name] ++ [Keyword.maxLength.name] ++ [Keyword.pattern.name]
        ++ [Keyword.minimum.name] ++ [Keyword.maximum.name] ++ [Keyword.minItems.name]
        ++ [Keyword.maxItems.name] ++ [Keyword.enum.name]) := by
    simp only [Bounds.constraints, List.map_append]
    refine .append (.append (.append (.append (.append (.append (.append ?_ ?_) ?_) ?_) ?_) ?_) ?_)
      ?_
    all_goals exact single _ _ _ fun _ => rfl
  exact all.nodup (by decide)

namespace Validation

/-! ### When violations are apart -/

theorem apart_of_steps {path : Path} {step other : Segment} {v w : Violation}
    (differ : step ≠ other) (first : path ++ [step] <+: v.path)
    (second : path ++ [other] <+: w.path) : v.Apart w where
  distinct same := absurd (step_eq_of_prefixes first (same ▸ second)) differ
  afterFirst _ inside := differ (step_eq_of_prefixes (first.trans inside) second)
  afterSecond _ inside := differ (step_eq_of_prefixes first (second.trans inside))

theorem not_isFinal_constraintViolation (path : Path) (rule : Constraint) (detail : Text) :
    ¬(constraintViolation path rule detail).IsFinal := by
  rcases violationKind_cases rule with kind | kind
  · simp [Violation.IsFinal, constraintViolation, kind]
  · simp [Violation.IsFinal, constraintViolation, kind]

/-- A violation inside a value is apart from a broken rule of the value itself. -/
theorem apart_of_rule {path : Path} {step : Segment} {v w : Violation} {schema : Schema}
    {value : Document} (below : path ++ [step] <+: v.path) (own : w ∈ ruleFindings path schema value) :
    v.Apart w := by
  obtain ⟨rule, _, detail, _, rfl⟩ := mem_ruleFindings own
  have longer := below.length_le
  rw [List.length_append, List.length_singleton] at longer
  have here : (constraintViolation path rule detail).path = path := rfl
  refine ⟨fun same => ?_, fun _ inside => ?_, fun final => ?_⟩
  · rw [same, here] at longer
    omega
  · have shorter := inside.length_le
    rw [here] at shorter
    omega
  · exact absurd final (not_isFinal_constraintViolation path rule detail)

/-! ### Violations of one value -/

/-- Without checks of a caller a value breaks each rule once. -/
theorem ruleFindings_apart {schema : Schema} (unchecked : schema.checks = []) (path : Path)
    (value : Document) : (ruleFindings path schema value).Pairwise Violation.Apart := by
  have rules : schema.constraints.Pairwise fun first second => first.rule ≠ second.rule := by
    rw [Schema.constraints, unchecked, List.append_nil]
    exact List.pairwise_map.mp schema.bounds.rules_nodup
  rw [ruleFindings, Schema.rulesOn_eq, List.pairwise_filterMap]
  refine (rules.filter _).imp fun {first second} other v told w told' => ?_
  obtain ⟨detail, _, rfl⟩ := Option.map_eq_some_iff.mp told
  obtain ⟨detail', _, rfl⟩ := Option.map_eq_some_iff.mp told'
  exact ⟨fun _ same => other (Option.some.inj same),
    fun final => absurd final (not_isFinal_constraintViolation path first detail),
    fun final => absurd final (not_isFinal_constraintViolation path second detail')⟩

/-- No name is missing twice. -/
theorem absences_apart (path : Path) (schema : Schema) (value : Document) :
    (absences path schema value).Pairwise Violation.Apart := by
  cases value with
  | object members =>
    rw [absences, missingFindings, List.pairwise_map]
    refine (schema.required_nodup.filter _).imp fun {name other} differ => ?_
    exact apart_of_steps (fun same => differ (Segment.name.inj same)) (List.prefix_refl _)
      (List.prefix_refl _)
  | _ => exact .nil

/-- A missing name is apart from whatever is found in a part, which has another name. -/
theorem apart_of_absence {limit : Nat} {path : Path} {depth : Nat} {schema : Schema}
    {value : Document} {v w : Violation} (absent : v ∈ absences path schema value) {part : Part}
    (present : part ∈ parts schema value)
    (inside : w ∈ findings limit (path ++ [part.step]) depth part.schema part.value) :
    v.Apart w := by
  obtain ⟨members, name, rfl, lacks, rfl⟩ := mem_absences absent
  refine apart_of_steps (fun same => ?_) (List.prefix_refl _) (prefix_of_mem_findings inside)
  rcases mem_parts present with ⟨_, equal, member, listed, step, _, _⟩ | ⟨_, equal, _⟩
  · cases equal
    rw [step] at same
    cases Segment.name.inj same
    have there := (Named.contains_iff members member.1).mpr ⟨member.2, listed⟩
    rw [there] at lacks
    cases lacks
  · cases equal

/-- The findings of a value are apart from each other. -/
theorem findings_apart (value : Document.Proper) {schema : Schema} (unchecked : schema.Unchecked)
    (limit : Nat) (path : Path) (depth : Nat) :
    (findings limit path depth schema value).Pairwise Violation.Apart := by
  induction value using proper_induction generalizing schema path depth with
  | step value ih =>
    rw [findings_eq]
    split
    · exact List.pairwise_singleton ..
    split
    · exact List.pairwise_singleton ..
    have inParts : ((parts schema value).flatMap fun part =>
        findings limit (path ++ [part.step]) (depth + 1) part.schema part.value).Pairwise
          Violation.Apart := by
      refine List.pairwise_flatMap.mpr ⟨fun part present => ?_, ?_⟩
      · exact ih schema part present (unchecked.part present) _ _
      · refine (List.pairwise_map.mp (steps_nodup value schema)).imp ?_
        intro first second differ v found w found'
        exact apart_of_steps differ (prefix_of_mem_findings found) (prefix_of_mem_findings found')
    rw [partFindings_eq]
    refine List.pairwise_append.mpr ⟨List.pairwise_append.mpr ⟨absences_apart path schema value.1,
      inParts, ?_⟩, ruleFindings_apart unchecked.checks_eq path value, ?_⟩
    · intro v absent w found
      obtain ⟨part, present, inside⟩ := List.mem_flatMap.mp found
      exact apart_of_absence absent present inside
    · intro v found w broken
      rcases List.mem_append.mp found with absent | found
      · obtain ⟨_, name, _, _, rfl⟩ := mem_absences absent
        exact apart_of_rule (List.prefix_refl _) broken
      · obtain ⟨part, _, inside⟩ := List.mem_flatMap.mp found
        exact apart_of_rule (prefix_of_mem_findings inside) broken

/-! ### Violations of a report -/

/-- Any two violations in the report of a run that collects are apart, for a schema that was
compiled or to which at least no caller has added checks. -/
theorem collectAll_violations_apart {schema : Schema}
    (plain : (∃ document, Schema.compile document = .ok schema) ∨ schema.Unchecked)
    (value : Document.Proper) (limit : Nat) :
    (validate ⟨limit, .collectAll⟩ schema value).violations.Pairwise Violation.Apart := by
  have unchecked : schema.Unchecked := by
    rcases plain with ⟨document, compiled⟩ | unchecked
    · exact Schema.unchecked_of_compile compiled
    · exact unchecked
  have reported : (validate ⟨limit, .collectAll⟩ schema value).violations =
      findings limit [] 0 schema value := violations_eq_reported ⟨limit, .collectAll⟩ schema value
  rw [reported]
  exact findings_apart value unchecked limit [] 0

/-- A schema that requires a name twice, and a pattern beside an empty enumeration. -/
def strict : Document :=
  .object [("required", .array [.string "b", .string "b", .string "c"]),
    ("properties", .object [
      ("a", .object [("pattern", .string "z"), ("enum", .array [])])])]

theorem collectAll_violations_apart_strict :
    ∃ schema, Schema.compile strict = .ok schema
      ∧ (validate ⟨1, .collectAll⟩ schema (.object [("a", .string "xy")])).violations.length = 4
      ∧ (validate ⟨1, .collectAll⟩ schema (.object [("a", .string "xy")])).violations.Pairwise
          Violation.Apart := by
  obtain ⟨schema, compiled⟩ : ∃ schema, Schema.compile strict = .ok schema := ⟨_, rfl⟩
  refine ⟨schema, compiled, ?_, collectAll_violations_apart (.inl ⟨strict, compiled⟩)
    ⟨.object [("a", .string "xy")], by decide⟩ 1⟩
  cases compiled
  decide +kernel

end Validation
end Conformance
