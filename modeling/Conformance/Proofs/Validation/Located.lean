import Conformance.Proofs.Document.Names
import Conformance.Proofs.Report.Pointer
import Conformance.Proofs.Schema.Readers
import Conformance.Proofs.Validation.Modes

/-!
# What a violation tells

The path of a violation leads through the value and its schema at once: a name to a member and the
schema for it, an index to an element and the schema of elements. What the violation says is true of
the value and the schema at the end, and the pointer of the path leads to that value.

`Found` lists the origins of a violation, one for each place where the walk records one and one for
each way down. Everything that is shown of violations is shown by induction on their origin.
-/
namespace Conformance

namespace Validation

/-! ### Ways down -/

/-- The value and the schema to which a path leads from a value and a schema. -/
def descend? : Path → Document → Schema → Option (Document × Schema)
  | [], value, schema => some (value, schema)
  | .name name :: rest, .object members, schema =>
    (Named.get? members name).bind fun inner =>
      (schema.property? name).bind fun sub => descend? rest inner sub
  | .index (.ofNat index) :: rest, .array elements, schema =>
    elements[index]?.bind fun inner =>
      schema.items?.bind fun items => descend? rest inner items
  | _ :: _, _, _ => none

/-- The pointer of a path leads to the value to which the path leads. -/
theorem at?_of_descend? {path : Path} {value inner : Document} {schema sub : Schema}
    (led : descend? path value schema = some (inner, sub)) :
    value.at? (path.map Segment.toText) = some inner := by
  induction path generalizing value schema with
  | nil =>
    cases led
    rfl
  | cons segment rest ih =>
    -- Only a name into an object and an index into an array lead anywhere.
    cases segment with
    | name name =>
      cases value with
      | object members =>
        obtain ⟨first, found, led⟩ := Option.bind_eq_some_iff.mp led
        obtain ⟨property, _, led⟩ := Option.bind_eq_some_iff.mp led
        have step : Document.child? (Segment.toText (.name name)) (.object members) = some first :=
          found
        rw [List.map_cons, Document.at?, step, Option.bind_some]
        exact ih led
      | _ => cases led
    | index position =>
      cases position with
      | ofNat index =>
        cases value with
        | array elements =>
          obtain ⟨first, found, led⟩ := Option.bind_eq_some_iff.mp led
          obtain ⟨items, _, led⟩ := Option.bind_eq_some_iff.mp led
          have numeral : Segment.toText (.index (.ofNat index)) = Text.ofNat index := rfl
          have step : Document.child? (Segment.toText (.index (.ofNat index))) (.array elements) =
              some first := by
            rw [numeral, Document.child?, Pointer.index?_ofNat]
            exact found
          rw [List.map_cons, Document.at?, step, Option.bind_some]
          exact ih led
        | _ => cases led
      | negSucc _ => cases led

theorem resolve?_of_descend? {path : Path} {value inner : Document} {schema sub : Schema}
    (led : descend? path value schema = some (inner, sub)) :
    value.resolve? (Pointer.ofPath path) = some inner := by
  rw [Pointer.ofPath, Document.resolve?_ofSteps]
  exact at?_of_descend? led

/-! ### Origins of violations -/

/-- A violation comes of a value at a path and depth, or of one below it. -/
inductive Found (limit : Nat) : Path → Nat → Schema → Document → Violation → Prop where
  | tooDeep {path : Path} {depth : Nat} {schema : Schema} {value : Document}
      (deep : limit < depth) : Found limit path depth schema value (depthViolation path depth limit)
  | wrongKind {path : Path} {depth : Nat} {schema : Schema} {value : Document} {wanted : Kind}
      (reached : depth ≤ limit) (asked : schema.kind? = some wanted)
      (other : wanted ≠ value.kind) :
      Found limit path depth schema value (kindViolation path wanted value.kind)
  | missing {path : Path} {depth : Nat} {schema : Schema} {members : Named Document} {name : Text}
      (reached : depth ≤ limit) (asked : name ∈ schema.required)
      (absent : members.contains name = false) :
      Found limit path depth schema (.object members) (missingViolation path name)
  | broken {path : Path} {depth : Nat} {schema : Schema} {value : Document} {rule : Constraint}
      {detail : Text} (reached : depth ≤ limit) (asked : rule ∈ schema.constraints)
      (applies : rule.accepts value.kind = true) (fails : rule.failure? value = some detail) :
      Found limit path depth schema value (constraintViolation path rule detail)
  | member {path : Path} {depth : Nat} {schema sub : Schema} {members : Named Document}
      {member : Text × Document} {v : Violation} (reached : depth ≤ limit)
      (present : member ∈ members) (asked : schema.property? member.1 = some sub)
      (inside : Found limit (path ++ [.name member.1]) (depth + 1) sub member.2 v) :
      Found limit path depth schema (.object members) v
  | element {path : Path} {depth : Nat} {schema items : Schema} {elements : List Document}
      {index : Fin elements.length} {v : Violation} (reached : depth ≤ limit)
      (asked : schema.items? = some items)
      (inside : Found limit (path ++ [.index index.val]) (depth + 1) items (elements.get index) v) :
      Found limit path depth schema (.array elements) v

/-- The violations of a value apart from those of its parts have their origin in it. -/
theorem found_of_mem_ruleFindings {limit depth : Nat} {path : Path} {schema : Schema}
    {value : Document} {v : Violation} (reached : depth ≤ limit)
    (found : v ∈ ruleFindings path schema value) : Found limit path depth schema value v := by
  rw [ruleFindings, List.mem_filterMap] at found
  obtain ⟨rule, listed, fails⟩ := found
  rw [Schema.rulesOn_eq, List.mem_filter] at listed
  obtain ⟨detail, failed, rfl⟩ := Option.map_eq_some_iff.mp fails
  exact .broken reached listed.1 listed.2 failed

theorem found_of_mem_missingFindings {limit depth : Nat} {path : Path} {schema : Schema}
    {members : Named Document} {v : Violation} (reached : depth ≤ limit)
    (found : v ∈ missingFindings path schema members) :
    Found limit path depth schema (.object members) v := by
  rw [missingFindings, List.mem_map] at found
  obtain ⟨name, listed, rfl⟩ := found
  rw [List.mem_filter, Bool.not_eq_true'] at listed
  exact .missing reached listed.1 listed.2

/-- Findings have their origin in the value once those of its parts do. -/
theorem found_of_parts {limit depth : Nat} {path : Path} {schema : Schema} {value : Document}
    {v : Violation} (found : v ∈ findings limit path depth schema value)
    (parts : depth ≤ limit → v ∈ partFindings limit path depth schema value →
      Found limit path depth schema value v) : Found limit path depth schema value v := by
  rw [findings_eq] at found
  split at found
  next deep =>
    cases List.mem_singleton.mp found
    exact .tooDeep deep
  next reached =>
    have reached : depth ≤ limit := Nat.le_of_not_lt reached
    split at found
    next wanted asked =>
      cases List.mem_singleton.mp found
      obtain ⟨asked, other⟩ := Option.filter_eq_some_iff.mp asked
      exact .wrongKind reached asked (of_decide_eq_true other)
    next =>
      rcases List.mem_append.mp found with inside | own
      · exact parts reached inside
      · exact found_of_mem_ruleFindings reached own

/-- Every finding has an origin. -/
theorem found_of_mem_findings {limit : Nat} {value : Document} {v : Violation} {path : Path}
    {depth : Nat} {schema : Schema} (found : v ∈ findings limit path depth schema value) :
    Found limit path depth schema value v := by
  induction value generalizing path depth schema with
  | null | boolean _ | number _ | string _ =>
    exact found_of_parts found fun _ nothing => by cases nothing
  | array elements ih =>
    refine found_of_parts found fun reached inside => ?_
    rw [partFindings] at inside
    split at inside
    next items asked =>
      obtain ⟨index, _, inside⟩ := List.mem_flatMap.mp inside
      exact .element reached asked (ih _ (List.getElem_mem index.isLt) inside)
    next => cases inside
  | object members ih =>
    refine found_of_parts found fun reached inside => ?_
    rcases List.mem_append.mp inside with missing | inside
    · exact found_of_mem_missingFindings reached missing
    · obtain ⟨member, present, inside⟩ := List.mem_flatMap.mp inside
      split at inside
      next sub asked => exact .member reached present asked (ih member present inside)
      next => cases inside

/-! ### Violations are true -/

/-- What a violation says of the value and the schema at the end of a path. The path is that of the
violation, except that a missing member is looked for in the object around it. -/
def Tells (limit : Nat) (path : Path) (value : Document) (schema : Schema) (v : Violation) : Prop :=
  match v.kind with
  | .depthExceeded => v.path = path ∧ path.length = limit + 1
  | .typeMismatch =>
    v.path = path ∧ v.rule = some "type" ∧ ∃ wanted, schema.kind? = some wanted
      ∧ wanted ≠ value.kind
      ∧ v.expected = some wanted.name ∧ v.actual = some value.kind.name ∧ v.expected ≠ v.actual
  | .missingField =>
    ∃ members name, v.path = path ++ [.name name] ∧ value = .object members
      ∧ name ∈ schema.required ∧ ∀ inner, (name, inner) ∉ members
  | .constraintViolation | .invalidEnumValue =>
    v.path = path ∧ ∃ rule ∈ schema.constraints, rule.accepts value.kind = true
      ∧ v.rule = some rule.rule ∧ v.kind = rule.violationKind
      ∧ rule.failure? value = some v.detail

/-- The path of a violation leads to a value and a schema of which it is true. -/
def Accounted (limit : Nat) (path : Path) (value : Document) (schema : Schema) (v : Violation) :
    Prop :=
  ∃ rest inner sub, descend? rest value schema = some (inner, sub)
    ∧ Tells limit (path ++ rest) inner sub v

theorem Accounted.here {limit : Nat} {path : Path} {value : Document} {schema : Schema}
    {v : Violation} (tells : Tells limit path value schema v) :
    Accounted limit path value schema v := by
  refine ⟨[], value, schema, rfl, ?_⟩
  rw [List.append_nil]
  exact tells

theorem Accounted.member {limit : Nat} {path : Path} {members : Named Document} {name : Text}
    {value : Document} {schema sub : Schema} {v : Violation}
    (found : members.get? name = some value) (asked : schema.property? name = some sub)
    (inside : Accounted limit (path ++ [.name name]) value sub v) :
    Accounted limit path (.object members) schema v := by
  obtain ⟨rest, inner, innermost, led, tells⟩ := inside
  refine ⟨.name name :: rest, inner, innermost, ?_, ?_⟩
  · rw [descend?, found, Option.bind_some, asked, Option.bind_some]
    exact led
  · rw [← List.append_cons] at tells
    exact tells

theorem Accounted.element {limit : Nat} {path : Path} {elements : List Document}
    {index : Fin elements.length} {schema items : Schema} {v : Violation}
    (asked : schema.items? = some items)
    (inside : Accounted limit (path ++ [.index index.val]) (elements.get index) items v) :
    Accounted limit path (.array elements) schema v := by
  obtain ⟨rest, inner, innermost, led, tells⟩ := inside
  have found : elements[index.val]? = some (elements.get index) :=
    List.getElem?_eq_getElem index.isLt
  refine ⟨.index index.val :: rest, inner, innermost, ?_, ?_⟩
  · -- An index on a path is an integer, so the equation for natural ones does not show by itself.
    change (elements[index.val]?.bind fun inner => schema.items?.bind fun items =>
      descend? rest inner items) = some (inner, innermost)
    rw [found, Option.bind_some, asked, Option.bind_some]
    exact led
  · rw [← List.append_cons] at tells
    exact tells

/-- A rule that a value breaks is reported truly, whichever of the two kinds of report it has. -/
theorem tells_constraintViolation {limit : Nat} {path : Path} {value : Document} {schema : Schema}
    {rule : Constraint} {detail : Text} (asked : rule ∈ schema.constraints)
    (applies : rule.accepts value.kind = true) (fails : rule.failure? value = some detail) :
    Tells limit path value schema (constraintViolation path rule detail) := by
  have told : (constraintViolation path rule detail).path = path
      ∧ ∃ rule' ∈ schema.constraints, rule'.accepts value.kind = true
        ∧ (constraintViolation path rule detail).rule = some rule'.rule
        ∧ (constraintViolation path rule detail).kind = rule'.violationKind
        ∧ rule'.failure? value = some (constraintViolation path rule detail).detail :=
    ⟨rfl, rule, asked, applies, rfl, rfl, fails⟩
  -- Which of the two kinds it is depends on the rule alone; both say the same.
  cases rule <;> exact told

/-- A violation is accounted for by its origin. Steps and depth grow together, so a value is at most
one step deeper than the limit. -/
theorem accounted_of_found {limit depth : Nat} {path : Path} {schema : Schema} {value : Document}
    {v : Violation} (found : Found limit path depth schema value v) (named : value.WellNamed)
    (steps : path.length = depth) (bounded : depth ≤ limit + 1) :
    Accounted limit path value schema v := by
  induction found with
  | @tooDeep path depth _ _ deep =>
    have length : path.length = limit + 1 := by omega
    exact .here ⟨rfl, length⟩
  | @wrongKind _ _ schema value wanted _ asked other =>
    have differ : some wanted.name ≠ some value.kind.name :=
      fun same => other (Kind.name_injective (Option.some.inj same))
    exact .here ⟨rfl, rfl, wanted, asked, other, rfl, rfl, differ⟩
  | @missing _ _ _ members name _ asked absent =>
    have nowhere (inner : Document) : (name, inner) ∉ members := fun present => by
      rw [(Named.contains_iff members name).mpr ⟨inner, present⟩] at absent
      cases absent
    -- The missing member has no value, so the path ends at the object around it.
    exact .here ⟨members, name, rfl, rfl, asked, nowhere⟩
  | broken _ asked applies fails =>
    exact .here (tells_constraintViolation asked applies fails)
  | @member path depth _ _ members member _ reached present asked _ ih =>
    have found := (Named.get?_eq_some_iff named.distinct_names member.1 member.2).mpr present
    have longer : (path ++ [Segment.name member.1]).length = depth + 1 := by
      rw [List.length_append, List.length_singleton, steps]
    have inside := ih (named.of_mem_object present) longer (Nat.succ_le_succ reached)
    exact .member found asked inside
  | @element path depth _ _ elements index _ reached asked _ ih =>
    have longer : (path ++ [Segment.index index.val]).length = depth + 1 := by
      rw [List.length_append, List.length_singleton, steps]
    have inside := ih (named.of_mem_array (List.getElem_mem index.isLt)) longer
      (Nat.succ_le_succ reached)
    exact .element asked inside

/-- Kinds are told only where kinds differ. -/
theorem kindless_of_found {limit depth : Nat} {path : Path} {schema : Schema} {value : Document}
    {v : Violation} (found : Found limit path depth schema value v)
    (other : v.kind ≠ .typeMismatch) : v.expected = none ∧ v.actual = none := by
  induction found with
  | tooDeep _ | missing _ _ _ | broken _ _ _ _ => exact ⟨rfl, rfl⟩
  | wrongKind _ _ _ => exact absurd rfl other
  | member _ _ _ _ ih | element _ _ _ ih => exact ih other

/-! ### Reports are true -/

/-- Every violation in a report is true of the value and the schema to which its path leads, and the
pointer of that path leads to the same value. -/
theorem violations_tell (value : Document.Proper) (settings : Settings) (schema : Schema)
    {v : Violation} (told : v ∈ (validate settings schema value).violations) :
    (∃ path inner sub, descend? path value schema = some (inner, sub)
        ∧ value.1.resolve? (Pointer.ofPath path) = some inner
        ∧ Tells settings.maxDepth path inner sub v)
      ∧ (v.kind ≠ .typeMismatch → v.expected = none ∧ v.actual = none) := by
  have listed : v ∈ findings settings.maxDepth [] 0 schema value :=
    mem_findings_of_mem_violations told
  have found := found_of_mem_findings listed
  refine ⟨?_, kindless_of_found found⟩
  obtain ⟨path, inner, sub, led, tells⟩ :=
    accounted_of_found found value.2 rfl (Nat.zero_le (settings.maxDepth + 1))
  exact ⟨path, inner, sub, led, resolve?_of_descend? led, tells⟩

/-- A list below a name that a pointer must escape, and in it a member named like an index. -/
def shelf : Document.Proper :=
  ⟨.object [("a/b~", .array [.null, .object [("0", .string "x")]])], by decide⟩

/-- A member named like an index must be a number here. -/
def shelfSchema : Schema :=
  let numbered : Schema := .node none [] [("0", .node (some .number) [] [] none {} [])] none {} []
  .node none [] [("a/b~", .node none [] [] (some numbered) {} [])] none {} []

theorem violations_tell_shelf :
    kindViolation [.name "a/b~", .index 1, .name "0"] .number .string ∈
        (validate .standard shelfSchema shelf).violations
      ∧ ∃ path inner sub, descend? path shelf shelfSchema = some (inner, sub)
        ∧ shelf.1.resolve? (Pointer.ofPath path) = some inner
        ∧ Tells Settings.standard.maxDepth path inner sub
          (kindViolation [.name "a/b~", .index 1, .name "0"] .number .string) := by
  have reported : (validate .standard shelfSchema shelf).violations =
      [kindViolation [.name "a/b~", .index 1, .name "0"] .number .string] := by decide
  have told := List.mem_singleton_self
    (kindViolation [.name "a/b~", .index 1, .name "0"] .number .string)
  rw [← reported] at told
  exact ⟨told, (violations_tell shelf .standard shelfSchema told).1⟩

end Validation
end Conformance
