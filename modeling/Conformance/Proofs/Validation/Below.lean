import Conformance.Proofs.Validation.Visits

/-!
# Walks below a path

A walk knows of the place of its value only the path, the depth and what was found before. None of
the three bears on what it finds. A walk from the root under a limit and one below a path, under a
limit that is larger by the depth of that path, go through the value alike: they find the same
violations, the second one with the path in front.

Only the words for a value that is too deep tell the two apart, since they show a depth and a limit.
Such a value is always one level past the limit, so the limit alone determines these words too.
-/
namespace Conformance.Validation

/-- What is said of a value one level past a limit. -/
def tooDeepDetail (limit : Nat) : Text :=
  "nesting depth " ++ Text.ofNat (limit + 1) ++ " exceeds maximum " ++ Text.ofNat limit

/-- A violation of a walk from the root as a walk of the same value tells it that starts below a
path under a limit. -/
def below (path : Path) (limit : Nat) (v : Violation) : Violation :=
  { v with
    path := path ++ v.path
    detail := if v.kind = .depthExceeded then tooDeepDetail limit else v.detail }

section Violations

variable (path inner : Path) (limit : Nat)

/-! A violation is moved by its path alone, unless it is about depth. -/

theorem below_of_ne {v w : Violation} (kind : v.kind ≠ .depthExceeded)
    (moved : w = { v with path := path ++ v.path }) : below path limit v = w := by
  rw [below, if_neg kind, moved]

theorem below_depthViolation (depth other : Nat) :
    below path limit (depthViolation inner depth other) =
      depthViolation (path ++ inner) (limit + 1) limit := rfl

theorem below_kindViolation (wanted actual : Kind) :
    below path limit (kindViolation inner wanted actual) =
      kindViolation (path ++ inner) wanted actual := by
  apply below_of_ne
  · simp [kindViolation]
  · rfl

theorem below_missingViolation (name : Text) :
    below path limit (missingViolation inner name) = missingViolation (path ++ inner) name := by
  apply below_of_ne
  · simp [missingViolation]
  · simp [missingViolation]

theorem below_constraintViolation (rule : Constraint) (detail : Text) :
    below path limit (constraintViolation inner rule detail) =
      constraintViolation (path ++ inner) rule detail := by
  apply below_of_ne
  · rcases violationKind_cases rule with kind | kind <;> simp [constraintViolation, kind]
  · rfl

variable (schema : Schema) (value : Document)

theorem map_below_absences :
    (absences inner schema value).map (below path limit) =
      absences (path ++ inner) schema value := by
  cases value with
  | object members =>
    simp [absences, missingFindings, Function.comp_def, below_missingViolation]
  | _ => rfl

theorem map_below_ruleFindings :
    (ruleFindings inner schema value).map (below path limit) =
      ruleFindings (path ++ inner) schema value := by
  simp [ruleFindings, List.map_filterMap, Function.comp_def, below_constraintViolation]

end Violations

/-- The findings below a path are those from the root with the path in front. -/
theorem findings_below (front : Path) (more : Nat) {limit depth : Nat} (bounded : depth ≤ limit + 1)
    (path : Path) (schema : Schema) (value : Document) :
    findings (limit + more) (front ++ path) (depth + more) schema value =
      (findings limit path depth schema value).map (below front (limit + more)) := by
  -- Path and depth vary with the value, and the distance between the two walks stays as it is.
  induction value using part_induction generalizing path depth schema with
  | step value ih =>
    rw [findings_eq, findings_eq]
    by_cases deep : limit < depth
    · obtain rfl : depth = limit + 1 := by omega
      have beyond : limit + more < limit + 1 + more := by omega
      have next : limit + 1 + more = limit + more + 1 := by omega
      rw [if_pos deep, if_pos beyond, next, List.map_singleton, below_depthViolation]
    · have reached : ¬limit + more < depth + more := by omega
      rw [if_neg deep, if_neg reached]
      -- A value of the wrong kind is told alone; else its own findings and those in its parts.
      cases schema.kind?.filter fun wanted => wanted ≠ value.kind with
      | some wanted => simp [below_kindViolation]
      | none =>
        simp only [partFindings_eq, List.map_append, List.map_flatMap, map_below_absences,
          map_below_ruleFindings]
        congr 2
        apply List.flatMap_congr
        intro part present
        -- A part lies one step further in both walks.
        have within : depth + 1 ≤ limit + 1 := by omega
        have inside := ih schema part present within (path ++ [part.step]) part.schema
        rwa [← List.append_assoc, Nat.add_right_comm] at inside

/-- Whatever is found to be too deep is told in the same words. -/
theorem detail_of_tooDeep {limit depth : Nat} (bounded : depth ≤ limit + 1) {path : Path}
    {schema : Schema} {value : Document} {v : Violation}
    (found : v ∈ findings limit path depth schema value) (deep : v.kind = .depthExceeded) :
    v.detail = tooDeepDetail limit := by
  -- The walk is moved to where it is, so every finding is the image of one.
  have still := findings_below [] 0 bounded path schema value
  simp only [Nat.add_zero, List.nil_append] at still
  rw [still] at found
  obtain ⟨w, _, rfl⟩ := List.mem_map.mp found
  exact if_pos deep

/-- A run that collects finds in a value the same wherever the value hangs. It keeps what was found
before and appends what a run from the root finds in the value alone under the limit that is left,
with the path in front of every path. Only the depth and the limit that are shown for a value too
deep are those of the whole run. -/
theorem walk_independent_of_place {limit depth : Nat} (within : depth ≤ limit) (path : Path)
    (schema : Schema) (value : Document) :
    ∃ alone, walk ⟨limit - depth, .collectAll⟩ [] 0 schema value [] = .ok alone ∧
      (∀ found, walk ⟨limit, .collectAll⟩ path depth schema value found =
        .ok (found ++ alone.map (below path limit))) ∧
      ∀ v ∈ alone, v.kind = .depthExceeded → v.detail = tooDeepDetail (limit - depth) := by
  refine ⟨findings (limit - depth) [] 0 schema value, ?_, fun found => ?_, ?_⟩
  · rw [walk_eq_resume]
    rfl
  · have moved := findings_below path depth (Nat.zero_le (limit - depth + 1)) [] schema value
    rw [Nat.sub_add_cancel within, List.append_nil, Nat.zero_add] at moved
    rw [walk_eq_resume, moved]
    rfl
  · intro v found
    exact detail_of_tooDeep (Nat.zero_le _) found

/-- Three boxes, one inside the other, without any label. -/
def boxes : Document := .object [("box", .object [("box", .object [])])]

/-- The two outer boxes must have labels. -/
def boxesSchema : Schema :=
  .node none ["label"] [("box", .node none ["label"] [("box", .node (some .object) [] [] none {} [])]
    none {} [])] none {} []

theorem walk_independent_of_place_boxes :
    2 ≤ 3 ∧ ∃ alone, walk ⟨1, .collectAll⟩ [] 0 boxesSchema boxes [] = .ok alone ∧
      alone.map Violation.path =
        [[.name "label"], [.name "box", .name "label"], [.name "box", .name "box"]] ∧
      ∀ found, walk ⟨3, .collectAll⟩ [.name "shelf", .index 0] 2 boxesSchema boxes found =
        .ok (found ++ alone.map (below [.name "shelf", .index 0] 3)) := by
  have within : 2 ≤ 3 := by decide
  obtain ⟨alone, walked, moved, _⟩ :=
    walk_independent_of_place within [.name "shelf", .index 0] boxesSchema boxes
  refine ⟨within, alone, walked, ?_, moved⟩
  have known : walk ⟨1, .collectAll⟩ [] 0 boxesSchema boxes [] =
      .ok (violations ⟨1, .collectAll⟩ boxesSchema boxes) := by rfl
  rw [Except.ok.inj (walked.symm.trans known)]
  decide

end Conformance.Validation
