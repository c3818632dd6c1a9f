import Conformance.Proofs.Document.Structure
import Conformance.Validation.Walk
import Mathlib.Data.List.FinRange

/-!
# What a walk finds

`findings` lists the violations of a value without a walk: the list of a container is made of the
lists of its parts, nothing is handed on from one part to the next, no mode stops it and no schema
is passed over for being empty.

`walk_eq_resume` ties the walk to that list for both modes at once. A run that collects appends the
whole list to what was found before; a run that fails fast stops with its first entry. Both are
`resume`, which splits over concatenation, so that the steps of the walk can be taken one by one.
-/
namespace Conformance

/-- The bounds that look at values of a kind, in the order of the report. -/
def Bounds.on (b : Bounds) : Kind → List Constraint
  | .string =>
    (b.minLength.map fun limit : Nat => Constraint.minLength limit).toList
      ++ (b.maxLength.map fun limit : Nat => Constraint.maxLength limit).toList
      ++ (b.pattern.map Constraint.pattern).toList
  | .number =>
    (b.minimum.map fun limit => Constraint.minimum (.finite limit)).toList
      ++ (b.maximum.map fun limit => Constraint.maximum (.finite limit)).toList
  | .array =>
    (b.minItems.map fun limit : Nat => Constraint.minItems limit).toList
      ++ (b.maxItems.map fun limit : Nat => Constraint.maxItems limit).toList
  | _ => []

/-- No bound is a check of the caller. -/
theorem Bounds.ne_check_of_mem_constraints {bounds : Bounds} {rule : Constraint}
    (member : rule ∈ bounds.constraints) (check : Check) : rule ≠ .check check := by
  rintro rfl
  simp [Bounds.constraints] at member

/-- The rules on values of a kind: its bounds, the enumeration, and the caller's own. -/
def Schema.rulesOn (s : Schema) (kind : Kind) : List Constraint :=
  s.bounds.on kind ++ (s.bounds.enum.map Constraint.enum).toList
    ++ s.checks.filter fun check => check.accepts kind

/-- Of rules of one sort all or none look at a kind. -/
private theorem filter_accepts {α : Type} (rule : α → Constraint) {looked : Option Kind}
    (sort : ∀ a, (rule a).appliesTo = looked) (kind : Kind) (given : Option α) :
    ((given.map rule).toList.filter fun c => c.accepts kind) =
      if looked = none ∨ looked = some kind then (given.map rule).toList else [] := by
  cases given with
  | none => simp only [Option.map_none, Option.toList_none, List.filter_nil, ite_self]
  | some a =>
    simp only [Option.map_some, Option.toList_some, List.filter_cons, List.filter_nil,
      Constraint.accepts, sort a]
    cases looked with
    | none => simp only [true_or, if_true]
    | some wanted => simp only [reduceCtorEq, Option.some.injEq, false_or, decide_eq_true_eq]

/-- The rules on a kind are those of all rules that look at it, in the same order. -/
theorem Schema.rulesOn_eq (s : Schema) (kind : Kind) :
    s.rulesOn kind = s.constraints.filter fun rule => rule.accepts kind := by
  have minLength := filter_accepts (fun limit : Nat => .minLength limit)
    (fun _ => rfl) kind s.bounds.minLength
  have maxLength := filter_accepts (fun limit : Nat => .maxLength limit)
    (fun _ => rfl) kind s.bounds.maxLength
  have pattern := filter_accepts .pattern (fun _ => rfl) kind s.bounds.pattern
  have minimum := filter_accepts (fun limit => .minimum (.finite limit))
    (fun _ => rfl) kind s.bounds.minimum
  have maximum := filter_accepts (fun limit => .maximum (.finite limit))
    (fun _ => rfl) kind s.bounds.maximum
  have minItems := filter_accepts (fun limit : Nat => .minItems limit)
    (fun _ => rfl) kind s.bounds.minItems
  have maxItems := filter_accepts (fun limit : Nat => .maxItems limit)
    (fun _ => rfl) kind s.bounds.maxItems
  have enum := filter_accepts .enum (fun _ => rfl) kind s.bounds.enum
  simp only [Schema.constraints, Bounds.constraints, List.filter_append, minLength, maxLength,
    pattern, minimum, maximum, minItems, maxItems, enum]
  cases kind <;> simp [Schema.rulesOn, Bounds.on]

namespace Validation

/-! ### The findings of a value -/

/-- A violation for each required name that the members lack. -/
def missingFindings (path : Path) (schema : Schema) (members : Named Document) : List Violation :=
  (schema.required.filter fun name => !members.contains name).map (missingViolation path)

/-- A violation for each rule that the value itself breaks. -/
def ruleFindings (path : Path) (schema : Schema) (value : Document) : List Violation :=
  (schema.rulesOn value.kind).filterMap fun rule =>
    (rule.failure? value).map (constraintViolation path rule)

/-- The violations of a value at a path and depth, in the order of the report. -/
def findings (limit : Nat) (path : Path) (depth : Nat) (schema : Schema) (value : Document) :
    List Violation :=
  if limit < depth then [depthViolation path depth limit]
  else
    match schema.kind?.filter fun wanted => wanted ≠ value.kind with
    | some wanted => [kindViolation path wanted value.kind]
    | none =>
      (match value with
        | .object members =>
          missingFindings path schema members ++ members.flatMap fun member =>
            match schema.property? member.1 with
            | some sub => findings limit (path ++ [.name member.1]) (depth + 1) sub member.2
            | none => []
        | .array elements =>
          match schema.items? with
          | some items => (List.finRange elements.length).flatMap fun index =>
              findings limit (path ++ [.index index.val]) (depth + 1) items (elements.get index)
          | none => []
        | _ => [])
      ++ ruleFindings path schema value
termination_by value
decreasing_by
  · have smaller := List.sizeOf_lt_of_mem ‹member ∈ members›
    rcases member with ⟨name, inner⟩
    simp only [Prod.mk.sizeOf_spec] at smaller
    simp only [Document.object.sizeOf_spec]
    omega
  · have smaller : sizeOf (elements.get index) < sizeOf elements :=
      List.sizeOf_lt_of_mem (List.getElem_mem index.isLt)
    simp only [Document.array.sizeOf_spec]
    omega

/-- The violations of the members or elements of a value. -/
def partFindings (limit : Nat) (path : Path) (depth : Nat) (schema : Schema) :
    Document → List Violation
  | .object members =>
    missingFindings path schema members ++ members.flatMap fun member =>
      match schema.property? member.1 with
      | some sub => findings limit (path ++ [.name member.1]) (depth + 1) sub member.2
      | none => []
  | .array elements =>
    match schema.items? with
    | some items => (List.finRange elements.length).flatMap fun index =>
        findings limit (path ++ [.index index.val]) (depth + 1) items (elements.get index)
    | none => []
  | _ => []

theorem findings_eq (limit : Nat) (path : Path) (depth : Nat) (schema : Schema)
    (value : Document) :
    findings limit path depth schema value =
      if limit < depth then [depthViolation path depth limit]
      else
        match schema.kind?.filter fun wanted => wanted ≠ value.kind with
        | some wanted => [kindViolation path wanted value.kind]
        | none => partFindings limit path depth schema value ++ ruleFindings path schema value := by
  rw [findings.eq_def]
  cases value <;> rfl

/-! ### How a run goes on -/

/-- What a run has after more violations: all of them, or the first, with which it stopped. -/
def resume (mode : Mode) (found more : List Violation) : Progress :=
  match mode, more with
  | .collectAll, more => .ok (found ++ more)
  | .failFast, [] => .ok found
  | .failFast, first :: _ => .error (found ++ [first])

@[simp] theorem resume_nil (mode : Mode) (found : List Violation) :
    resume mode found [] = .ok found := by
  cases mode with
  | collectAll => simp only [resume, List.append_nil]
  | failFast => rfl

theorem resume_singleton (mode : Mode) (found : List Violation) (v : Violation) :
    resume mode found [v] = record mode found v := by
  cases mode <;> rfl

/-- Going on is done piece by piece, unless a piece stops the run. -/
theorem resume_append (mode : Mode) (found first second : List Violation) :
    resume mode found (first ++ second) =
      match resume mode found first with
      | .error stopped => .error stopped
      | .ok found => resume mode found second := by
  cases mode with
  | collectAll => simp only [resume, List.append_assoc]
  | failFast => cases first <;> rfl

/-! ### The walk -/

theorem walkRequired_eq_resume (mode : Mode) (path : Path) (members : Named Document)
    (names : List Text) (found : List Violation) :
    walkRequired mode path members names found =
      resume mode found
        ((names.filter fun name => !members.contains name).map (missingViolation path)) := by
  induction names generalizing found with
  | nil => simp only [walkRequired, List.filter_nil, List.map_nil, resume_nil]
  | cons name rest ih =>
    rw [walkRequired]
    by_cases present : members.contains name = true
    · simp only [present, if_true, List.filter_cons, Bool.not_true, Bool.false_eq_true,
        if_false, ih]
    · simp only [Bool.not_eq_true] at present
      simp only [present, List.filter_cons, Bool.not_false, if_true, List.map_cons,
        Bool.false_eq_true, if_false]
      -- The first violation is split off; the run may stop with it.
      rw [← List.singleton_append, resume_append, resume_singleton]
      cases record mode found (missingViolation path name) with
      | error stopped => rfl
      | ok found => exact ih found

theorem walkConstraints_eq_resume (mode : Mode) (path : Path) (value : Document)
    (rules : List Constraint) (found : List Violation) :
    walkConstraints mode path value rules found =
      resume mode found ((rules.filter fun rule => rule.accepts value.kind).filterMap fun rule =>
        (rule.failure? value).map (constraintViolation path rule)) := by
  induction rules generalizing found with
  | nil => simp only [walkConstraints, List.filter_nil, List.filterMap_nil, resume_nil]
  | cons rule rest ih =>
    rw [walkConstraints]
    by_cases applies : rule.accepts value.kind = true
    · rw [if_pos applies, List.filter_cons, if_pos applies, List.filterMap_cons]
      cases rule.failure? value with
      | none => exact ih found
      | some detail =>
        simp only [Option.map_some]
        rw [← List.singleton_append, resume_append, resume_singleton]
        cases record mode found (constraintViolation path rule detail) with
        | error stopped => rfl
        | ok found => exact ih found
    · rw [if_neg applies, List.filter_cons, if_neg applies]
      exact ih found

/-- The walk of the members or elements of a value. -/
def walkParts (settings : Settings) (path : Path) (depth : Nat) (schema : Schema)
    (value : Document) (found : List Violation) : Progress :=
  match value with
  | .object members =>
    match walkRequired settings.mode path members schema.required found with
    | .error stopped => .error stopped
    | .ok found => walkMembers settings path depth schema members found
  | .array elements =>
    match schema.items? with
    | none => .ok found
    | some items => walkElements settings path depth items 0 elements found
  | _ => .ok found

theorem walk_eq (settings : Settings) (path : Path) (depth : Nat) (schema : Schema)
    (value : Document) (found : List Violation) :
    walk settings path depth schema value found =
      if settings.maxDepth < depth then
        record settings.mode found (depthViolation path depth settings.maxDepth)
      else if schema.acceptsAll then .ok found
      else
        match schema.kind?.filter fun wanted => wanted ≠ value.kind with
        | some wanted => record settings.mode found (kindViolation path wanted value.kind)
        | none =>
          match walkParts settings path depth schema value found with
          | .error stopped => .error stopped
          | .ok found => walkConstraints settings.mode path value schema.constraints found := by
  cases value <;> rfl

/-- A schema that asks for nothing finds nothing in a value that is not too deep. -/
theorem findings_of_acceptsAll {schema : Schema} (quiet : schema.acceptsAll = true)
    {limit depth : Nat} (reached : ¬limit < depth) (path : Path) (value : Document) :
    findings limit path depth schema value = [] := by
  simp only [Schema.acceptsAll, Bool.and_eq_true, Option.isNone_iff_eq_none,
    List.isEmpty_iff] at quiet
  obtain ⟨⟨⟨⟨kind, required⟩, properties⟩, items⟩, constraints⟩ := quiet
  have parts : partFindings limit path depth schema value = [] := by
    cases value <;> simp [partFindings, missingFindings, Schema.property?, required, properties,
      items]
  have rules : ruleFindings path schema value = [] := by
    simp [ruleFindings, Schema.rulesOn_eq, constraints]
  simp [findings_eq, reached, kind, parts, rules]

/-- A walk goes on with the findings of the value once the walk of its parts does so. -/
theorem walk_eq_resume_of_parts {settings : Settings} {path : Path} {depth : Nat}
    {schema : Schema} {value : Document} {found : List Violation}
    (parts : walkParts settings path depth schema value found =
      resume settings.mode found (partFindings settings.maxDepth path depth schema value)) :
    walk settings path depth schema value found =
      resume settings.mode found (findings settings.maxDepth path depth schema value) := by
  rw [walk_eq]
  -- The cases are those of the walk; the findings have no case for a schema that asks for nothing.
  by_cases deep : settings.maxDepth < depth
  · rw [findings_eq, if_pos deep, if_pos deep, resume_singleton]
  · rw [if_neg deep]
    by_cases quiet : schema.acceptsAll = true
    · rw [if_pos quiet, findings_of_acceptsAll quiet deep, resume_nil]
    · rw [if_neg quiet, findings_eq, if_neg deep]
      cases schema.kind?.filter fun wanted => wanted ≠ value.kind with
      | some wanted => exact (resume_singleton _ _ _).symm
      | none =>
        simp only [resume_append, parts]
        cases resume settings.mode found
            (partFindings settings.maxDepth path depth schema value) with
        | error stopped => rfl
        | ok found =>
          simp only [walkConstraints_eq_resume, ruleFindings, Schema.rulesOn_eq]

/-- The walk of members goes on with the findings of those that have a schema. -/
theorem walkMembers_eq_resume {settings : Settings} {path : Path} {depth : Nat} {schema : Schema}
    (members : Named Document)
    (inner : ∀ member ∈ members, ∀ path depth schema found,
      walk settings path depth schema member.2 found =
        resume settings.mode found (findings settings.maxDepth path depth schema member.2))
    (found : List Violation) :
    walkMembers settings path depth schema members found =
      resume settings.mode found (members.flatMap fun member =>
        match schema.property? member.1 with
        | some sub =>
          findings settings.maxDepth (path ++ [.name member.1]) (depth + 1) sub member.2
        | none => []) := by
  induction members generalizing found with
  | nil => rw [walkMembers, List.flatMap_nil, resume_nil]
  | cons member rest ih =>
    obtain ⟨name, value⟩ := member
    have others := ih fun member later => inner member (List.mem_cons_of_mem _ later)
    rw [walkMembers, List.flatMap_cons, resume_append]
    cases schema.property? name with
    | none => simp only [resume_nil, others]
    | some sub =>
      simp only [inner (name, value) List.mem_cons_self]
      cases resume settings.mode found
          (findings settings.maxDepth (path ++ [.name name]) (depth + 1) sub value) with
      | error stopped => rfl
      | ok found => exact others found

/-- The walk of elements from an index on goes on with their findings. -/
theorem walkElements_eq_resume {settings : Settings} {path : Path} {depth : Nat} {items : Schema}
    (elements : List Document)
    (inner : ∀ element ∈ elements, ∀ path depth schema found,
      walk settings path depth schema element found =
        resume settings.mode found (findings settings.maxDepth path depth schema element))
    (start : Nat) (found : List Violation) :
    walkElements settings path depth items start elements found =
      resume settings.mode found ((List.finRange elements.length).flatMap fun index =>
        findings settings.maxDepth (path ++ [.index (start + index.val : Nat)]) (depth + 1) items
          (elements.get index)) := by
  induction elements generalizing start found with
  | nil => simp [walkElements]
  | cons element rest ih =>
    have others := ih fun element later => inner element (List.mem_cons_of_mem _ later)
    rw [walkElements, inner element List.mem_cons_self]
    simp only [List.length_cons, List.finRange_succ, List.flatMap_cons, List.flatMap_map,
      resume_append, Fin.val_zero, Fin.val_succ, List.get_cons_zero, List.get_cons_succ',
      Nat.add_zero]
    cases resume settings.mode found
        (findings settings.maxDepth (path ++ [.index start]) (depth + 1) items element) with
    | error stopped => rfl
    | ok found =>
      -- The later elements stand one place further on than in the list of their own.
      have later := others (start + 1) found
      simp only [Nat.add_assoc, Nat.add_comm 1] at later
      exact later

/-- A walk goes on with the findings of the value, in either mode. -/
theorem walk_eq_resume (settings : Settings) (value : Document) (path : Path) (depth : Nat)
    (schema : Schema) (found : List Violation) :
    walk settings path depth schema value found =
      resume settings.mode found (findings settings.maxDepth path depth schema value) := by
  -- What was found before must vary too: every part goes on from what the parts before it left.
  induction value generalizing path depth schema found with
  | null | boolean _ | number _ | string _ =>
    apply walk_eq_resume_of_parts
    exact (resume_nil settings.mode found).symm
  | array elements ih =>
    apply walk_eq_resume_of_parts
    simp only [walkParts, partFindings]
    cases schema.items? with
    | none => exact (resume_nil settings.mode found).symm
    | some items =>
      simp only [walkElements_eq_resume elements ih, Nat.zero_add]
  | object members ih =>
    apply walk_eq_resume_of_parts
    simp only [walkParts, partFindings, missingFindings, resume_append, walkRequired_eq_resume]
    cases resume settings.mode found
        ((schema.required.filter fun name => !Named.contains members name).map
          (missingViolation path)) with
    | error stopped => rfl
    | ok found => exact walkMembers_eq_resume members ih found

end Validation
end Conformance
