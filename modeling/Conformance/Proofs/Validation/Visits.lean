import Conformance.Proofs.Document.Names
import Conformance.Proofs.Validation.Modes

/-!
# Where a walk goes

The parts of a value are its members or elements that have a schema; they are what a walk enters
next. With them the findings of a value have one equation for objects and arrays alike, and what is
shown of a value from its parts holds of every value.

`visits` lists the paths of all values that a walk looks at, in the order in which it comes to them,
those that are too deep included. Every violation is about a value that is visited.
-/
namespace Conformance

/-- The path of the value that a violation is about: the object itself where a member is missing. -/
def Violation.node (v : Violation) : Path :=
  if v.kind = .missingField then v.path.dropLast else v.path

theorem Violation.node_prefix (v : Violation) : v.node <+: v.path := by
  rw [node]
  split
  · exact List.dropLast_prefix v.path
  · exact List.prefix_refl v.path

/-- A path goes at most one step past the value that the violation is about. -/
theorem Violation.length_path_le (v : Violation) : v.path.length ≤ v.node.length + 1 := by
  rw [node]
  split
  · rw [List.length_dropLast]
    omega
  · exact Nat.le_succ _

namespace Validation

/-! ### Parts -/

/-- A member or an element, with the step that leads to it and the schema for it. -/
structure Part where
  step : Segment
  schema : Schema
  value : Document

/-- The members or elements that have a schema, in the order in which a walk enters them. -/
def parts (schema : Schema) : Document → List Part
  | .object members => members.filterMap fun member =>
      (schema.property? member.1).map fun sub => ⟨.name member.1, sub, member.2⟩
  | .array elements =>
    match schema.items? with
    | some items => (List.finRange elements.length).map fun index =>
        ⟨.index index.val, items, elements.get index⟩
    | none => []
  | _ => []

theorem mem_parts {schema : Schema} {value : Document} {part : Part}
    (present : part ∈ parts schema value) :
    (∃ members, value = .object members ∧ ∃ member ∈ members,
        part.step = .name member.1 ∧ part.value = member.2
          ∧ schema.property? member.1 = some part.schema)
      ∨ ∃ elements, value = .array elements ∧ ∃ index : Fin elements.length,
        part.step = .index index.val ∧ part.value = elements.get index
          ∧ schema.items? = some part.schema := by
  cases value with
  | object members =>
    obtain ⟨member, listed, asked⟩ := List.mem_filterMap.mp present
    obtain ⟨sub, found, rfl⟩ := Option.map_eq_some_iff.mp asked
    exact .inl ⟨members, rfl, member, listed, rfl, rfl, found⟩
  | array elements =>
    rw [parts] at present
    split at present
    next items asked =>
      obtain ⟨index, _, rfl⟩ := List.mem_map.mp present
      exact .inr ⟨elements, rfl, index, rfl, rfl, asked⟩
    next => cases present
  | _ => cases present

/-- The schema of a part is one of those inside the schema of the value. -/
theorem schema_of_mem_parts {schema : Schema} {value : Document} {part : Part}
    (present : part ∈ parts schema value) :
    (∃ name, schema.property? name = some part.schema) ∨ schema.items? = some part.schema := by
  rcases mem_parts present with ⟨_, _, member, _, _, _, asked⟩ | ⟨_, _, _, _, _, asked⟩
  · exact .inl ⟨member.1, asked⟩
  · exact .inr asked

theorem sizeOf_part_lt {schema : Schema} {value : Document} {part : Part}
    (present : part ∈ parts schema value) : sizeOf part.value < sizeOf value := by
  rcases mem_parts present with ⟨members, rfl, member, listed, _, same, _⟩ |
    ⟨elements, rfl, index, _, same, _⟩
  · have smaller := List.sizeOf_lt_of_mem listed
    rcases member with ⟨name, inner⟩
    simp only [Prod.mk.sizeOf_spec] at smaller
    simp only [same, Document.object.sizeOf_spec]
    omega
  · have smaller : sizeOf (elements.get index) < sizeOf elements :=
      List.sizeOf_lt_of_mem (List.getElem_mem index.isLt)
    simp only [same, Document.array.sizeOf_spec]
    omega

/-- What passes from the parts of a value to the value holds of every value. -/
@[elab_as_elim]
theorem part_induction {motive : Document → Prop}
    (step : ∀ value, (∀ schema, ∀ part ∈ parts schema value, motive part.value) → motive value)
    (value : Document) : motive value :=
  step value fun _ part _ => part_induction step part.value
termination_by sizeOf value
decreasing_by exact sizeOf_part_lt ‹_›

/-- No two parts of a value are reached by the same step. -/
theorem steps_nodup (value : Document.Proper) (schema : Schema) :
    ((parts schema value).map Part.step).Nodup := by
  obtain ⟨value, named⟩ := value
  rw [List.Nodup, List.pairwise_map]
  cases value with
  | object members =>
    have distinct := List.pairwise_map.mp named.distinct_names
    rw [parts, List.pairwise_filterMap]
    refine distinct.imp fun {first second} other a made b made' same => ?_
    obtain ⟨_, _, rfl⟩ := Option.map_eq_some_iff.mp made
    obtain ⟨_, _, rfl⟩ := Option.map_eq_some_iff.mp made'
    exact other (Segment.name.inj same)
  | array elements =>
    rw [parts]
    split
    · rw [List.pairwise_map]
      refine (List.nodup_finRange elements.length).imp fun {i j} other same => other ?_
      exact Fin.ext (Int.ofNat.inj (Segment.index.inj same))
    · exact .nil
  | _ => exact .nil

/-- The parts of a value with distinct names have distinct names too. -/
theorem wellNamed_part {schema : Schema} {value : Document.Proper} {part : Part}
    (present : part ∈ parts schema value) : part.value.WellNamed := by
  obtain ⟨value, named⟩ := value
  rcases mem_parts present with ⟨members, rfl, member, listed, _, same, _⟩ |
    ⟨elements, rfl, index, _, same, _⟩
  · rw [same]
    exact named.of_mem_object listed
  · rw [same]
    exact named.of_mem_array (List.getElem_mem index.isLt)

/-- What passes from the parts of a value to the value holds of every value with distinct names. -/
@[elab_as_elim]
theorem proper_induction {motive : Document.Proper → Prop}
    (step : ∀ value : Document.Proper, (∀ schema part, (present : part ∈ parts schema value) →
      motive ⟨part.value, wellNamed_part present⟩) → motive value)
    (value : Document.Proper) : motive value := by
  obtain ⟨value, named⟩ := value
  induction value using part_induction with
  | step value ih => exact step ⟨value, named⟩ fun schema part present => ih schema part present _

/-! ### Findings from parts -/

theorem violationKind_cases (rule : Constraint) :
    rule.violationKind = .constraintViolation ∨ rule.violationKind = .invalidEnumValue := by
  cases rule <;> simp [Constraint.violationKind]

theorem mem_ruleFindings {path : Path} {schema : Schema} {value : Document} {v : Violation}
    (found : v ∈ ruleFindings path schema value) :
    ∃ rule ∈ schema.constraints, ∃ detail, rule.failure? value = some detail
      ∧ v = constraintViolation path rule detail := by
  rw [ruleFindings, List.mem_filterMap] at found
  obtain ⟨rule, listed, fails⟩ := found
  rw [Schema.rulesOn_eq, List.mem_filter] at listed
  obtain ⟨detail, failed, rfl⟩ := Option.map_eq_some_iff.mp fails
  exact ⟨rule, listed.1, detail, failed, rfl⟩

/-- A violation for each member that is missing from a value, if it is an object. -/
def absences (path : Path) (schema : Schema) : Document → List Violation
  | .object members => missingFindings path schema members
  | _ => []

theorem mem_absences {path : Path} {schema : Schema} {value : Document} {v : Violation}
    (found : v ∈ absences path schema value) :
    ∃ members name, value = .object members ∧ Named.contains members name = false
      ∧ v = missingViolation path name := by
  cases value with
  | object members =>
    obtain ⟨name, listed, rfl⟩ := List.mem_map.mp found
    rw [List.mem_filter, Bool.not_eq_true'] at listed
    exact ⟨members, name, rfl, listed.2, rfl⟩
  | _ => cases found

/-- Missing members and broken rules are about the value itself, and neither is a lack of depth. -/
theorem own_of_mem {path : Path} {schema : Schema} {value : Document} {v : Violation}
    (found : v ∈ absences path schema value ∨ v ∈ ruleFindings path schema value) :
    v.node = path ∧ v.kind ≠ .depthExceeded := by
  rcases found with absent | broken
  · obtain ⟨_, name, _, _, rfl⟩ := mem_absences absent
    exact ⟨List.dropLast_concat, by simp [missingViolation]⟩
  · obtain ⟨rule, _, detail, _, rfl⟩ := mem_ruleFindings broken
    rcases violationKind_cases rule with kind | kind
    · simp [Violation.node, constraintViolation, kind]
    · simp [Violation.node, constraintViolation, kind]

private theorem flatMap_filterMap {α β γ : Type} (f : α → Option β) (g : β → List γ)
    (items : List α) : (items.filterMap f).flatMap g =
      items.flatMap fun item => match f item with
        | some image => g image
        | none => [] := by
  induction items with
  | nil => rfl
  | cons item rest ih =>
    rw [List.filterMap_cons, List.flatMap_cons]
    cases f item with
    | none => exact ih
    | some image => rw [List.flatMap_cons, ih]

/-- What is found in the parts of a value comes after the members that it lacks. -/
theorem partFindings_eq (limit : Nat) (path : Path) (depth : Nat) (schema : Schema)
    (value : Document) :
    partFindings limit path depth schema value =
      absences path schema value ++ (parts schema value).flatMap fun part =>
        findings limit (path ++ [part.step]) (depth + 1) part.schema part.value := by
  cases value with
  | object members =>
    rw [partFindings, absences, parts, flatMap_filterMap]
    congr 1
    apply List.flatMap_congr
    intro member _
    cases schema.property? member.1 <;> rfl
  | array elements =>
    simp only [partFindings, absences, parts, List.nil_append]
    cases schema.items? with
    | none => rfl
    | some items => rw [List.flatMap_map]
  | _ => rfl

/-! ### Visits -/

/-- The paths of the values at which a walk looks, in its order. It goes on below a value that is
neither too deep nor of a wrong kind. -/
def visits (limit : Nat) (path : Path) (depth : Nat) (schema : Schema) (value : Document) :
    List Path :=
  path ::
    if limit < depth then []
    else
      match schema.kind?.filter fun wanted => wanted ≠ value.kind with
      | some _ => []
      | none => (parts schema value).attach.flatMap fun part =>
          visits limit (path ++ [part.val.step]) (depth + 1) part.val.schema part.val.value
termination_by value
decreasing_by exact sizeOf_part_lt part.property

theorem visits_eq (limit : Nat) (path : Path) (depth : Nat) (schema : Schema) (value : Document) :
    visits limit path depth schema value =
      path ::
        if limit < depth then []
        else
          match schema.kind?.filter fun wanted => wanted ≠ value.kind with
          | some _ => []
          | none => (parts schema value).flatMap fun part =>
              visits limit (path ++ [part.step]) (depth + 1) part.schema part.value := by
  -- The definition attaches the membership only to show that parts are smaller.
  have attached (f : Part → List Path) :
      (parts schema value).attach.flatMap (fun part => f part.val) =
        (parts schema value).flatMap f := by
    rw [← List.flatMap_map, List.attach_map_subtype_val]
  rw [visits]
  split
  · rfl
  · split
    · rfl
    · rw [attached fun part =>
        visits limit (path ++ [part.step]) (depth + 1) part.schema part.value]

/-- A value that is visited is the first one, or it is visited from a part of it. -/
theorem mem_visits {limit : Nat} {path there : Path} {depth : Nat} {schema : Schema}
    {value : Document} (visited : there ∈ visits limit path depth schema value) :
    there = path ∨ ∃ part ∈ parts schema value,
      there ∈ visits limit (path ++ [part.step]) (depth + 1) part.schema part.value := by
  rw [visits_eq] at visited
  rcases List.mem_cons.mp visited with here | below
  · exact .inl here
  · split at below
    · cases below
    · split at below
      · cases below
      · exact .inr (List.mem_flatMap.mp below)

theorem prefix_of_mem_visits {limit : Nat} {value : Document} {path there : Path} {depth : Nat}
    {schema : Schema} (visited : there ∈ visits limit path depth schema value) :
    path <+: there := by
  induction value using part_induction generalizing path depth schema with
  | step value ih =>
    rcases mem_visits visited with rfl | ⟨part, present, inside⟩
    · exact List.prefix_refl there
    · exact (List.prefix_append path [part.step]).trans (ih schema part present inside)

theorem length_le_of_mem_visits {limit : Nat} {value : Document} {path there : Path} {depth : Nat}
    {schema : Schema} (visited : there ∈ visits limit path depth schema value) :
    path.length ≤ there.length :=
  (prefix_of_mem_visits visited).length_le

/-- After the value itself only values with longer paths are visited. -/
theorem visits_eq_cons (limit : Nat) (path : Path) (depth : Nat) (schema : Schema)
    (value : Document) :
    ∃ below, visits limit path depth schema value = path :: below
      ∧ ∀ there ∈ below, path.length < there.length := by
  refine ⟨_, visits_eq limit path depth schema value, fun there inside => ?_⟩
  split at inside
  · cases inside
  · split at inside
    · cases inside
    · obtain ⟨part, _, inside⟩ := List.mem_flatMap.mp inside
      have longer := length_le_of_mem_visits inside
      rw [List.length_append, List.length_singleton] at longer
      exact longer

/-- Every violation is about a value that is visited. -/
theorem node_mem_visits {limit : Nat} {value : Document} {path : Path} {depth : Nat}
    {schema : Schema} {v : Violation} (found : v ∈ findings limit path depth schema value) :
    v.node ∈ visits limit path depth schema value := by
  induction value using part_induction generalizing path depth schema with
  | step value ih =>
    rw [visits_eq]
    rw [findings_eq] at found
    split at found
    · cases List.mem_singleton.mp found
      exact List.mem_cons_self
    next reached =>
      rw [if_neg reached]
      cases other : schema.kind?.filter fun wanted => wanted ≠ value.kind with
      | some wanted =>
        rw [other] at found
        cases List.mem_singleton.mp found
        exact List.mem_cons_self
      | none =>
        rw [other, partFindings_eq, List.append_assoc, List.mem_append, List.mem_append] at found
        -- What is found beside the parts is about the value itself.
        rcases found with absent | inside | broken
        · rw [(own_of_mem (.inl absent)).1]
          exact List.mem_cons_self
        · obtain ⟨part, present, inside⟩ := List.mem_flatMap.mp inside
          apply List.mem_cons_of_mem
          exact List.mem_flatMap.mpr ⟨part, present, ih schema part present inside⟩
        · rw [(own_of_mem (.inr broken)).1]
          exact List.mem_cons_self

/-- A violation lies at or below the value at which it was found. -/
theorem prefix_of_mem_findings {limit : Nat} {value : Document} {path : Path} {depth : Nat}
    {schema : Schema} {v : Violation} (found : v ∈ findings limit path depth schema value) :
    path <+: v.path :=
  (prefix_of_mem_visits (node_mem_visits found)).trans v.node_prefix

/-- Two ways on from a path that lead to one place begin with the same step. -/
theorem step_eq_of_prefixes {path there : Path} {step other : Segment}
    (first : path ++ [step] <+: there) (second : path ++ [other] <+: there) : step = other := by
  have same : path ++ [step] <+: path ++ [other] :=
    List.prefix_of_prefix_length_le first second (by simp)
  simpa using (List.prefix_append_right_inj path).mp same

/-- No value is visited twice. -/
theorem visits_nodup (value : Document.Proper) (limit : Nat) (path : Path) (depth : Nat)
    (schema : Schema) : (visits limit path depth schema value).Nodup := by
  induction value using proper_induction generalizing path depth schema with
  | step value ih =>
    have below : ((parts schema value).flatMap fun part =>
        visits limit (path ++ [part.step]) (depth + 1) part.schema part.value).Nodup := by
      rw [List.Nodup, List.pairwise_flatMap]
      refine ⟨fun part present => ih schema part present _ _ _, ?_⟩
      -- Paths below two parts part at the step to them.
      refine (List.pairwise_map.mp (steps_nodup value schema)).imp ?_
      rintro first second other there visited _ visited' rfl
      exact other
        (step_eq_of_prefixes (prefix_of_mem_visits visited) (prefix_of_mem_visits visited'))
    rw [visits_eq]
    split
    · exact List.nodup_singleton path
    · split
      · exact List.nodup_singleton path
      · refine List.nodup_cons.mpr ⟨fun again => ?_, below⟩
        obtain ⟨part, _, inside⟩ := List.mem_flatMap.mp again
        have longer := length_le_of_mem_visits inside
        rw [List.length_append, List.length_singleton] at longer
        omega

end Validation
end Conformance
