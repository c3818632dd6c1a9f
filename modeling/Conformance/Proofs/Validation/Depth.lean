import Conformance.Proofs.Validation.Conforms
import Conformance.Proofs.Validation.Visits

/-!
# Limits on the depth of a walk

A limit only cuts off. Under a smaller limit a walk reports what it reports under a larger one about
values within the smaller limit, in the same order, and one violation in place of whatever lies below
a value one level past the limit. Both are shown for two runs side by side, value by value: the runs
agree at every value within the smaller limit, and at the first one past it the run with the smaller
limit ends.

A compiled schema sets a limit of its own. Each step of a walk goes down one level of the schema, and
the levels of a document that compiles are bounded, so that no walk comes deeper than that and limits
beyond it make no difference.
-/
namespace Conformance.Validation

open Schema

/-! ### Smaller and larger limits -/

/-- What a run under a limit finds, apart from values that are too deep, is what a run under a larger
limit finds about the values within the smaller one. -/
theorem filter_findings_of_le {limit limit' : Nat} (le : limit ≤ limit') {value : Document}
    {path : Path} {depth : Nat} (steps : path.length = depth) (bounded : depth ≤ limit + 1)
    (schema : Schema) :
    ((findings limit path depth schema value).filter fun v => v.kind ≠ .depthExceeded) =
      (findings limit' path depth schema value).filter fun v => v.node.length ≤ limit := by
  induction value using part_induction generalizing path depth schema with
  | step value ih =>
    by_cases deep : limit < depth
    · -- Past the limit the larger run finds nothing that counts, as all of it lies at least here.
      have beyond : ((findings limit' path depth schema value).filter fun v =>
          v.node.length ≤ limit) = [] := by
        refine List.filter_eq_nil_iff.mpr fun v found => ?_
        have deeper := length_le_of_mem_visits (node_mem_visits found)
        simp only [decide_eq_true_eq]
        omega
      rw [beyond, findings_eq, if_pos deep]
      rfl
    · have reached : ¬limit' < depth := by omega
      rw [findings_eq, findings_eq, if_neg deep, if_neg reached]
      cases schema.kind?.filter fun wanted => wanted ≠ value.kind with
      | some wanted =>
        have here : path.length ≤ limit := by omega
        simp [kindViolation, Violation.node, here]
      | none =>
        have own {vs : List Violation}
            (among : ∀ v ∈ vs, v ∈ absences path schema value ∨ v ∈ ruleFindings path schema value) :
            (vs.filter fun v => v.kind ≠ .depthExceeded) =
              vs.filter fun v => v.node.length ≤ limit := by
          refine List.filter_congr fun v listed => ?_
          obtain ⟨here, kind⟩ := own_of_mem (among v listed)
          have within : v.node.length ≤ limit := by rw [here]; omega
          simp [kind, within]
        simp only [partFindings_eq, List.filter_append, List.filter_flatMap,
          own fun v => .inl, own fun v => .inr]
        congr 2
        apply List.flatMap_congr
        intro part present
        exact ih schema part present (by simp [steps]) (by omega) part.schema

/-- A run under a limit finds values too deep where a run under a larger limit, or the same one,
visits values one level past the limit: these and no others, each once and in the same order. -/
theorem tooDeep_findings_of_le {limit limit' : Nat} (le : limit ≤ limit') {value : Document}
    {path : Path} {depth : Nat} (steps : path.length = depth) (bounded : depth ≤ limit + 1)
    (schema : Schema) :
    ((findings limit path depth schema value).filter fun v =>
        v.kind = .depthExceeded).map Violation.path =
      (visits limit' path depth schema value).filter fun there => there.length = limit + 1 := by
  induction value using part_induction generalizing path depth schema with
  | step value ih =>
    by_cases deep : limit < depth
    · -- Here is the only value at its depth, and nothing below it is that high.
      obtain ⟨below, visited, deeper⟩ := visits_eq_cons limit' path depth schema value
      have here : path.length = limit + 1 := by omega
      have nothing : (below.filter fun there => there.length = limit + 1) = [] := by
        refine List.filter_eq_nil_iff.mpr fun there inside => ?_
        have longer := deeper there inside
        simp only [decide_eq_true_eq]
        omega
      have kept : ((path :: below).filter fun there => there.length = limit + 1) = [path] := by
        rw [List.filter_cons, if_pos (decide_eq_true here), nothing]
      rw [findings_eq, if_pos deep, visited, kept]
      rfl
    · have reached : ¬limit' < depth := by omega
      have here : path.length ≠ limit + 1 := by omega
      rw [findings_eq, visits_eq, if_neg deep, if_neg reached, List.filter_cons,
        if_neg (by simpa using here)]
      cases schema.kind?.filter fun wanted => wanted ≠ value.kind with
      | some wanted => rfl
      | none =>
        have own {vs : List Violation}
            (among : ∀ v ∈ vs, v ∈ absences path schema value ∨ v ∈ ruleFindings path schema value) :
            (vs.filter fun v => v.kind = .depthExceeded) = [] := by
          refine List.filter_eq_nil_iff.mpr fun v listed => ?_
          simpa using (own_of_mem (among v listed)).2
        simp only [partFindings_eq, List.filter_append, List.filter_flatMap, own fun v => .inl,
          own fun v => .inr, List.nil_append, List.append_nil, List.map_flatMap]
        apply List.flatMap_congr
        intro part present
        exact ih schema part present (by simp [steps]) (by omega) part.schema

/-- No path is more than one step longer than the limit, and paths to values too deep all are. -/
theorem length_of_mem_findings {limit : Nat} {value : Document} {path : Path} {depth : Nat}
    {schema : Schema} {v : Violation} (steps : path.length = depth) (bounded : depth ≤ limit + 1)
    (found : v ∈ findings limit path depth schema value) :
    v.path.length ≤ limit + 1 ∧ (v.kind = .depthExceeded → v.path.length = limit + 1) := by
  by_cases deep : v.kind = .depthExceeded
  · have listed : v ∈ (findings limit path depth schema value).filter fun v =>
        v.kind = .depthExceeded := List.mem_filter.mpr ⟨found, decide_eq_true deep⟩
    have placed := List.mem_map_of_mem (f := Violation.path) listed
    rw [tooDeep_findings_of_le le_rfl steps bounded, List.mem_filter, decide_eq_true_eq] at placed
    exact ⟨placed.2.le, fun _ => placed.2⟩
  · have listed : v ∈ (findings limit path depth schema value).filter fun v =>
        v.kind ≠ .depthExceeded := List.mem_filter.mpr ⟨found, decide_eq_true deep⟩
    rw [filter_findings_of_le le_rfl steps bounded, List.mem_filter, decide_eq_true_eq] at listed
    have within := v.length_path_le
    exact ⟨by omega, fun equal => absurd equal deep⟩

/-- What a run under a limit leaves without findings a run under a larger one does too. -/
theorem findings_eq_nil_of_le {limit limit' : Nat} (le : limit ≤ limit') {value : Document}
    {path : Path} {depth : Nat} {schema : Schema}
    (quiet : findings limit path depth schema value = []) :
    findings limit' path depth schema value = [] := by
  induction value using part_induction generalizing path depth schema with
  | step value ih =>
    rw [findings_eq_nil_iff, partFindings_eq, List.append_eq_nil_iff, List.flatMap_eq_nil_iff]
      at quiet ⊢
    obtain ⟨reached, kind, ⟨present, inside⟩, rules⟩ := quiet
    exact ⟨reached.trans le, kind,
      ⟨present, fun part listed => ih schema part listed (inside part listed)⟩, rules⟩

/-- A smaller limit truncates the report of a run that collects. Without the violations for depth it
holds the violations of the larger limit that are about values within the smaller one, in their order;
and there is one violation for depth for each value that the run under the larger limit visits one
level past the smaller limit, and no other. So no path is longer than that, and what is valid under
the smaller limit is valid under the larger one. -/
theorem collectAll_truncates (value : Document.Proper) (schema : Schema) {limit limit' : Nat}
    (le : limit ≤ limit') :
    ((validate ⟨limit, .collectAll⟩ schema value).violations.filter fun v =>
          v.kind ≠ .depthExceeded) =
        ((validate ⟨limit', .collectAll⟩ schema value).violations.filter fun v =>
          v.node.length ≤ limit)
      ∧ ((validate ⟨limit, .collectAll⟩ schema value).violations.filter fun v =>
            v.kind = .depthExceeded).map Violation.path =
          ((visits limit' [] 0 schema value).filter fun path => path.length = limit + 1)
      ∧ (visits limit' [] 0 schema value).Nodup
      ∧ (∀ v ∈ (validate ⟨limit, .collectAll⟩ schema value).violations,
          v.path.length ≤ limit + 1 ∧ (v.kind = .depthExceeded → v.path.length = limit + 1))
      ∧ ((validate ⟨limit, .collectAll⟩ schema value).isValid = true →
          (validate ⟨limit', .collectAll⟩ schema value).isValid = true) := by
  have reported (limit : Nat) : (validate ⟨limit, .collectAll⟩ schema value).violations =
      findings limit [] 0 schema value := violations_eq_reported ⟨limit, .collectAll⟩ schema value
  have root : ([] : Path).length = 0 := rfl
  have start : 0 ≤ limit + 1 := Nat.zero_le _
  simp only [reported, isValid_validate]
  exact ⟨filter_findings_of_le le root start schema, tooDeep_findings_of_le le root start schema,
    visits_nodup value limit' [] 0 schema, fun v found => length_of_mem_findings root start found,
    findings_eq_nil_of_le le⟩

/-- Lists two levels below a member, and a member of a wrong kind after it. -/
def attic : Document.Proper :=
  ⟨.object [("a", .array [.array [.null], .null]), ("b", .null)], by decide⟩

/-- A schema for all levels of the attic, and for one member more. -/
def atticSchema : Schema :=
  let numbers : Schema := .node none [] [] (some (.node (some .number) [] [] none {} [])) {} []
  .node none ["c"] [("a", .node none [] [] (some numbers) {} []),
    ("b", .node (some .string) [] [] none {} [])] none {} []

/-- Read off the run that goes one level deep: what the run that goes three levels deep reports of
those levels, and the two values that it visits at the next one. -/
theorem collectAll_truncates_attic :
    1 ≤ 3
      ∧ ((validate ⟨3, .collectAll⟩ atticSchema attic).violations.filter fun v =>
          v.node.length ≤ 1) = [missingViolation [] "c", kindViolation [.name "b"] .string .null]
      ∧ ((visits 3 [] 0 atticSchema attic).filter fun path => path.length = 2) =
          [[.name "a", .index 0], [.name "a", .index 1]] := by
  have le : 1 ≤ 3 := by decide
  obtain ⟨kept, cut, _⟩ := collectAll_truncates attic atticSchema le
  refine ⟨le, ?_, ?_⟩
  · rw [← kept]
    decide
  · rw [← cut]
    decide

/-! ### The limit of a compiled schema -/

/-- A walk along a schema that mirrors a well-formed document goes no deeper than schemas may be
nested, whatever the value and however deep the walk may go. -/
theorem length_visits_le_of_mirrors {depth : Nat} {document : Document}
    (formed : WellFormed depth document) {schema : Schema} (mirrors : Mirrors document schema)
    {limit : Nat} {path there : Path} {value : Document} (steps : path.length = depth)
    (visited : there ∈ visits limit path depth schema value) : there.length ≤ Schema.maxDepth := by
  -- The induction is on the document of the schema: each step down the value is one down there.
  induction formed generalizing schema path value with
  | anything reached =>
    cases mirrors
    rcases mem_visits visited with rfl | ⟨part, present, _⟩
    · rw [steps]
      exact reached
    · rcases schema_of_mem_parts present with ⟨_, asked⟩ | asked
      · cases asked
      · cases asked
  | @node depth rules reached shaped properties items inProperties inItems =>
    rcases mem_visits visited with rfl | ⟨part, present, inside⟩
    · rw [steps]
      exact reached
    · have longer : (path ++ [part.step]).length = depth + 1 := by simp [steps]
      cases mirrors with
      | node own properties items =>
        rcases schema_of_mem_parts present with ⟨name, asked⟩ | asked
        · obtain ⟨schemas, d, given, listed, mirrored⟩ :=
            exists_mirrored_property own properties asked
          exact inProperties schemas given (name, d) listed mirrored longer inside
        · obtain ⟨d, given, mirrored⟩ := exists_mirrored_items items asked
          exact inItems d given mirrored longer inside

/-- No walk along a compiled schema goes deeper than schemas may be nested. So no limit from there on
is ever exceeded, and all of them give the same report of every value in either mode. -/
theorem compiled_bounds_walk {document : Document} {schema : Schema}
    (compiled : Schema.compile document = .ok schema) {limit : Nat}
    (enough : Schema.maxDepth ≤ limit) (mode : Mode) (value : Document) :
    (∀ path ∈ visits limit [] 0 schema value, path.length ≤ Schema.maxDepth)
      ∧ (∀ v ∈ (validate ⟨limit, mode⟩ schema value).violations, v.kind ≠ .depthExceeded)
      ∧ validate ⟨limit, mode⟩ schema value = validate ⟨Schema.maxDepth, mode⟩ schema value := by
  have root : ([] : Path).length = 0 := rfl
  have within (limit : Nat) : ∀ path ∈ visits limit [] 0 schema value,
      path.length ≤ Schema.maxDepth := fun _ =>
    length_visits_le_of_mirrors (wellFormed_of_compile compiled)
      (mirrors_of_compileWithin compiled) root
  have unlimited {limit : Nat} (enough : Schema.maxDepth ≤ limit) :
      ∀ v ∈ findings limit [] 0 schema value, v.kind ≠ .depthExceeded := by
    intro v found deep
    have visited := within limit v.node (node_mem_visits found)
    have cut := (length_of_mem_findings root (Nat.zero_le _) found).2 deep
    have here : v.node = v.path := if_neg (by simp [deep])
    rw [here] at visited
    omega
  have same : findings limit [] 0 schema value = findings Schema.maxDepth [] 0 schema value := by
    calc findings limit [] 0 schema value
        = (findings limit [] 0 schema value).filter fun v => v.node.length ≤ Schema.maxDepth :=
          (List.filter_eq_self.mpr fun v found =>
            decide_eq_true (within limit v.node (node_mem_visits found))).symm
      _ = (findings Schema.maxDepth [] 0 schema value).filter fun v => v.kind ≠ .depthExceeded :=
          (filter_findings_of_le enough root (Nat.zero_le _) schema).symm
      _ = findings Schema.maxDepth [] 0 schema value :=
          List.filter_eq_self.mpr fun v found => decide_eq_true (unlimited le_rfl v found)
  refine ⟨within limit, fun v told => ?_, ?_⟩
  · exact unlimited enough v (mem_findings_of_mem_violations told)
  · rw [validate, validate, violations_eq_reported, violations_eq_reported, same]

/-- A list where a colour should be: the value is nested deeper than the schema for it. -/
def swatch : Document := .object [("colours", .array [.array [.string "red"]])]

theorem compiled_bounds_walk_swatch :
    ∃ schema, Schema.compile palette = .ok schema ∧ Schema.maxDepth ≤ 500
      ∧ (∀ path ∈ visits 500 [] 0 schema swatch, path.length ≤ Schema.maxDepth)
      ∧ (validate ⟨500, .failFast⟩ schema swatch).violations.map Violation.path =
          [[.name "colours", .index 0]]
      ∧ validate ⟨500, .failFast⟩ schema swatch =
          validate ⟨Schema.maxDepth, .failFast⟩ schema swatch := by
  obtain ⟨schema, compiled⟩ : ∃ schema, Schema.compile palette = .ok schema := ⟨_, rfl⟩
  have enough : Schema.maxDepth ≤ 500 := by decide
  obtain ⟨bounded, _, same⟩ := compiled_bounds_walk compiled enough .failFast swatch
  refine ⟨schema, compiled, enough, bounded, ?_, same⟩
  cases compiled
  decide

end Conformance.Validation
