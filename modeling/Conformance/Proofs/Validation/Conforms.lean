import Conformance.Proofs.Schema.WellFormed
import Conformance.Proofs.Validation.Modes

/-!
# A direct reading of schemas

`Conforms` reads a schema and a value side by side, both as documents. It knows of no compiled
schema, no violations and no order: a keyword that is there asks something of a value of its kind,
and schemas inside the keywords ask the same of the parts of the value.

The findings of a compiled schema are empty exactly for the values that conform to the document it
mirrors. One level of this is a lemma for each keyword; the parts are reached by induction over the
value.
-/
namespace Conformance.Validation

open Schema

/-! ### What keywords ask of a value -/

/-- The value keeps within the bounds that the keywords state for its kind. -/
structure WithinBounds (rules : Named Document) (value : Document) : Prop where
  minLength : Given rules .minLength fun d =>
    ∃ n, Counts d n ∧ ∀ text, value = .string text → n ≤ text.length
  maxLength : Given rules .maxLength fun d =>
    ∃ n, Counts d n ∧ ∀ text, value = .string text → text.length ≤ n
  minItems : Given rules .minItems fun d =>
    ∃ n, Counts d n ∧ ∀ elements, value = .array elements → n ≤ elements.length
  maxItems : Given rules .maxItems fun d =>
    ∃ n, Counts d n ∧ ∀ elements, value = .array elements → elements.length ≤ n
  minimum : Given rules .minimum fun d =>
    ∃ limit, d = .number limit ∧ ∀ x, value = .number x → limit.value ≤ x.value
  maximum : Given rules .maximum fun d =>
    ∃ limit, d = .number limit ∧ ∀ x, value = .number x → x.value ≤ limit.value
  pattern : Given rules .pattern fun d =>
    ∃ p, Spells d p ∧ ∀ text, value = .string text → p.search text = true
  enum : Given rules .enum fun d =>
    ∃ values, d = .array values ∧ ∃ other ∈ values, value.structurallyEqual other = true

/-- The value is as the keywords of one node ask; schemas inside it are left aside. -/
structure Permits (rules : Named Document) (value : Document) : Prop where
  type : Given rules .type fun d => d = .string value.kind.name
  required : ∀ members, value = .object members →
    ∀ name ∈ declared rules, ∃ inner, (name, inner) ∈ members
  bounds : WithinBounds rules value

/-- A value at a depth conforms to a document read as a schema. -/
inductive Conforms (limit : Nat) : Nat → Document → Document → Prop where
  | anything {depth : Nat} {value : Document} (reached : depth ≤ limit) :
      Conforms limit depth (.boolean true) value
  | node {depth : Nat} {rules : Named Document} {value : Document} (reached : depth ≤ limit)
      (permits : Permits rules value)
      (members : ∀ members, value = .object members → ∀ member ∈ members,
        ∀ sub, (subschemas rules).get? member.1 = some sub →
          Conforms limit (depth + 1) sub member.2)
      (elements : ∀ elements, value = .array elements → ∀ element ∈ elements,
        ∀ sub, rules.get? Keyword.items.name = some sub →
          Conforms limit (depth + 1) sub element) :
      Conforms limit depth (.object rules) value

/-! ### Single rules -/

section Rules

attribute [local simp] Constraint.failure?

variable (value : Document)

theorem minLength_passes_iff (n : Nat) :
    (Constraint.minLength n).failure? value = none ↔
      ∀ text, value = .string text → n ≤ text.length := by
  cases value <;> simp

theorem maxLength_passes_iff (n : Nat) :
    (Constraint.maxLength n).failure? value = none ↔
      ∀ text, value = .string text → text.length ≤ n := by
  cases value <;> simp

theorem minItems_passes_iff (n : Nat) :
    (Constraint.minItems n).failure? value = none ↔
      ∀ elements, value = .array elements → n ≤ elements.length := by
  cases value <;> simp

theorem maxItems_passes_iff (n : Nat) :
    (Constraint.maxItems n).failure? value = none ↔
      ∀ elements, value = .array elements → elements.length ≤ n := by
  cases value <;> simp

theorem minimum_passes_iff (limit : Binary64) :
    (Constraint.minimum (.finite limit)).failure? value = none ↔
      ∀ x, value = .number x → limit.value ≤ x.value := by
  cases value <;> simp [Extended.less, Binary64.less_iff]

theorem maximum_passes_iff (limit : Binary64) :
    (Constraint.maximum (.finite limit)).failure? value = none ↔
      ∀ x, value = .number x → x.value ≤ limit.value := by
  cases value <;> simp [Extended.less, Binary64.less_iff]

theorem pattern_passes_iff (p : Pattern) :
    (Constraint.pattern p).failure? value = none ↔
      ∀ text, value = .string text → p.search text = true := by
  cases value <;> simp

theorem enum_passes_iff (values : List Document) :
    (Constraint.enum values).failure? value = none ↔
      ∃ other ∈ values, value.structurallyEqual other = true := by
  simp

end Rules

/-! ### One node -/

/-- A keyword asks of a value what the thing that was read from it asks. -/
private theorem given_iff {α : Type} {R : Document → α → Prop} {rules : Named Document}
    {keyword : Keyword} {held : Option α} (unique : ∀ d a b, R d a → R d b → a = b)
    (read : Option.Rel R (rules.get? keyword.name) held) (asked : α → Prop) :
    (∀ a ∈ held, asked a) ↔ Given rules keyword fun d => ∃ a, R d a ∧ asked a := by
  rw [Given]
  -- Only the pair of what is there and what was read matters, not the node it comes from.
  generalize rules.get? keyword.name = given at read ⊢
  cases read with
  | none => simp
  | @some d a related =>
    simp only [Option.mem_some_iff, forall_eq', Option.some.injEq]
    constructor
    · intro holds
      exact ⟨a, related, holds⟩
    · rintro ⟨b, again, holds⟩
      rwa [unique d a b related again]

private theorem forall_mem_map_toList {α : Type} (rule : α → Constraint) (held : Option α)
    (passes : Constraint → Prop) :
    (∀ c ∈ (held.map rule).toList, passes c) ↔ ∀ a ∈ held, passes (rule a) := by
  cases held <;> simp

/-- The rules from the bounds of a node pass exactly the values within what its keywords state. -/
theorem bounds_pass_iff {rules : Named Document} {bounds : Bounds}
    (mirrors : MirrorsBounds rules bounds) (value : Document) :
    (∀ rule ∈ bounds.constraints, rule.failure? value = none) ↔ WithinBounds rules value := by
  have counts : ∀ d m n, Counts d m → Counts d n → m = n := fun _ _ _ => Counts.unique
  have spells : ∀ d p q, Spells d p → Spells d q → p = q := fun _ _ _ => Spells.unique
  have numbers : ∀ (d : Document) x y, d = .number x → d = .number y → x = y :=
    fun _ _ _ first second => Document.number.inj (first.symm.trans second)
  have arrays : ∀ (d : Document) xs ys, d = .array xs → d = .array ys → xs = ys :=
    fun _ _ _ first second => Document.array.inj (first.symm.trans second)
  simp only [Bounds.constraints, List.forall_mem_append, forall_mem_map_toList,
    minLength_passes_iff, maxLength_passes_iff, pattern_passes_iff, minimum_passes_iff,
    maximum_passes_iff, minItems_passes_iff, maxItems_passes_iff, enum_passes_iff,
    given_iff counts mirrors.minLength, given_iff counts mirrors.maxLength,
    given_iff spells mirrors.pattern, given_iff numbers mirrors.minimum,
    given_iff numbers mirrors.maximum, given_iff counts mirrors.minItems,
    given_iff counts mirrors.maxItems, given_iff arrays mirrors.enum]
  constructor
  · rintro ⟨⟨⟨⟨⟨⟨⟨minLength, maxLength⟩, pattern⟩, minimum⟩, maximum⟩, minItems⟩, maxItems⟩, enum⟩
    exact ⟨minLength, maxLength, minItems, maxItems, minimum, maximum, pattern, enum⟩
  · rintro ⟨minLength, maxLength, minItems, maxItems, minimum, maximum, pattern, enum⟩
    exact ⟨⟨⟨⟨⟨⟨⟨minLength, maxLength⟩, pattern⟩, minimum⟩, maximum⟩, minItems⟩, maxItems⟩, enum⟩

/-- What fails on a value looks at values of its kind, unless it is a check of the caller's. -/
theorem accepts_of_fails {rule : Constraint} (bound : ∀ check, rule ≠ .check check)
    {value : Document} (fails : rule.failure? value ≠ none) :
    rule.accepts value.kind = true := by
  cases rule with
  | check check => exact absurd rfl (bound check)
  | enum values => rfl
  | _ => cases value <;> first | rfl | exact absurd rfl fails

/-- Without checks of the caller's, a value breaks no rule if all bounds pass it, whatever kind of
value they look at. -/
theorem ruleFindings_eq_nil_iff {schema : Schema} (plain : schema.checks = []) (path : Path)
    (value : Document) :
    ruleFindings path schema value = [] ↔
      ∀ rule ∈ schema.bounds.constraints, rule.failure? value = none := by
  simp only [ruleFindings, List.filterMap_eq_nil_iff, Option.map_eq_none_iff, Schema.rulesOn_eq,
    Schema.constraints, plain, List.append_nil, List.mem_filter, and_imp]
  constructor
  · intro passes rule member
    -- A rule that is passed over for the kind of the value cannot fail on it either.
    by_contra fails
    exact fails
      (passes rule member (accepts_of_fails (Bounds.ne_check_of_mem_constraints member) fails))
  · intro passes rule member _
    exact passes rule member

/-- Nothing is missing when the members carry all names that the node declares. -/
theorem missingFindings_eq_nil_iff {rules : Named Document} {schema : Schema}
    (mirrors : MirrorsNode rules schema) (path : Path) (members : Named Document) :
    missingFindings path schema members = [] ↔
      ∀ name ∈ declared rules, ∃ inner, (name, inner) ∈ members := by
  simp only [missingFindings, List.map_eq_nil_iff, List.filter_eq_nil_iff, Bool.not_eq_true',
    Bool.not_eq_false, mirrors.required, List.mem_eraseDups, Named.contains_iff]

/-- The kind is the one that is asked for, if one is. -/
theorem kind_passes_iff {rules : Named Document} {schema : Schema}
    (mirrors : MirrorsNode rules schema) (kind : Kind) :
    (∀ wanted ∈ schema.kind?, wanted = kind) ↔
      Given rules .type fun d => d = .string kind.name := by
  -- Two kinds never share a name, so the text tells which kind was read.
  have kinds : ∀ (d : Document) (a b : Kind), d = .string a.name → d = .string b.name → a = b := by
    rintro _ a b rfl same
    have found := (Kind.ofName?_eq_some_iff a.name b).mpr (Document.string.inj same)
    rw [(Kind.ofName?_eq_some_iff a.name a).mpr rfl] at found
    exact Option.some.inj found
  simp only [given_iff kinds mirrors.kind, exists_eq_right]

/-- A value has no findings when it is not too deep, its kind is wanted, its parts have no findings
and its rules pass. -/
theorem findings_eq_nil_iff (limit : Nat) (path : Path) (depth : Nat) (schema : Schema)
    (value : Document) :
    findings limit path depth schema value = [] ↔
      depth ≤ limit ∧ (∀ wanted ∈ schema.kind?, wanted = value.kind)
        ∧ partFindings limit path depth schema value = []
        ∧ ruleFindings path schema value = [] := by
  rw [findings_eq]
  by_cases deep : limit < depth
  · simp [deep]
  · have reached : depth ≤ limit := Nat.le_of_not_lt deep
    rw [if_neg deep]
    cases wanted : schema.kind? with
    | none => simp [reached]
    | some kind =>
      by_cases same : kind = value.kind
      · simp [reached, same, Option.filter_some]
      · simp [same, Option.filter_some]

/-! ### The parts of a value -/

/-- The schema that accepts anything finds nothing in a value that is not too deep. -/
theorem findings_anything_iff (limit : Nat) (path : Path) (depth : Nat) (value : Document) :
    findings limit path depth .anything value = [] ↔
      Conforms limit depth (.boolean true) value := by
  constructor
  · intro quiet
    exact .anything ((findings_eq_nil_iff ..).mp quiet).1
  · intro conforms
    cases conforms with
    | anything reached => exact findings_of_acceptsAll rfl (Nat.not_lt.mpr reached) path value

/-- A node agrees with its document on a value if it does so on the parts of the value. -/
theorem findings_node_iff {rules : Named Document} {schema : Schema} {limit : Nat} {path : Path}
    {depth : Nat} {value : Document} (own : MirrorsNode rules schema)
    (parts : partFindings limit path depth schema value = [] ↔
      (∀ members, value = .object members →
          ∀ name ∈ declared rules, ∃ inner, (name, inner) ∈ members)
        ∧ (∀ members, value = .object members → ∀ member ∈ members,
          ∀ sub, (subschemas rules).get? member.1 = some sub →
            Conforms limit (depth + 1) sub member.2)
        ∧ ∀ elements, value = .array elements → ∀ element ∈ elements,
          ∀ sub, rules.get? Keyword.items.name = some sub →
            Conforms limit (depth + 1) sub element) :
    findings limit path depth schema value = [] ↔ Conforms limit depth (.object rules) value := by
  rw [findings_eq_nil_iff, kind_passes_iff own, parts, ruleFindings_eq_nil_iff own.checks,
    bounds_pass_iff own.bounds]
  constructor
  · rintro ⟨reached, type, ⟨required, members, elements⟩, bounds⟩
    exact .node reached ⟨type, required, bounds⟩ members elements
  · intro conforms
    cases conforms with
    | node reached permits members elements =>
      exact ⟨reached, permits.type, ⟨permits.required, members, elements⟩, permits.bounds⟩

/-- A part that may have a schema has no findings when it conforms to the document of that schema,
if there is one. -/
private theorem part_eq_nil_iff {limit : Nat} {path : Path} {depth : Nat} {value : Document}
    (agrees : ∀ {d sub}, Mirrors d sub →
      (findings limit path depth sub value = [] ↔ Conforms limit depth d value))
    {given : Option Document} {held : Option Schema} (mirrors : Option.Rel Mirrors given held) :
    (∀ sub ∈ held, findings limit path depth sub value = []) ↔
      ∀ d, given = some d → Conforms limit depth d value := by
  cases mirrors with
  | none => simp
  | some mirrored => simp [agrees mirrored]

theorem memberFindings_eq_nil_iff (limit : Nat) (path : Path) (depth : Nat) (schema : Schema)
    (members : Named Document) :
    partFindings limit path depth schema (.object members) = [] ↔
      missingFindings path schema members = []
        ∧ ∀ member ∈ members, ∀ sub ∈ schema.property? member.1,
          findings limit (path ++ [.name member.1]) (depth + 1) sub member.2 = [] := by
  rw [partFindings, List.append_eq_nil_iff, List.flatMap_eq_nil_iff]
  apply and_congr_right'
  apply forall₂_congr
  intro member _
  cases schema.property? member.1 <;> simp

theorem elementFindings_eq_nil_iff (limit : Nat) (path : Path) (depth : Nat) (schema : Schema)
    (elements : List Document) :
    partFindings limit path depth schema (.array elements) = [] ↔
      ∀ index : Fin elements.length, ∀ sub ∈ schema.items?,
        findings limit (path ++ [.index index.val]) (depth + 1) sub (elements.get index) = [] := by
  rw [partFindings]
  cases schema.items? <;> simp

/-- The findings of a schema are empty exactly for the values that conform to its document. -/
theorem findings_eq_nil_iff_conforms {document : Document} {schema : Schema}
    (mirrors : Mirrors document schema) (limit : Nat) (path : Path) (depth : Nat)
    (value : Document) :
    findings limit path depth schema value = [] ↔ Conforms limit depth document value := by
  -- The schema changes from a value to its parts, and with it the document that it mirrors.
  induction value generalizing document schema path depth with
  | null | boolean _ | number _ | string _ =>
    cases mirrors with
    | anything => exact findings_anything_iff ..
    | node own => exact findings_node_iff own (by simp [partFindings])
  | array elements ih =>
    cases mirrors with
    | anything => exact findings_anything_iff ..
    | @node rules _ own _ items =>
      apply findings_node_iff own
      have each (index : Fin elements.length) :
          (∀ sub ∈ schema.items?,
            findings limit (path ++ [.index index.val]) (depth + 1) sub (elements.get index) = []) ↔
          ∀ sub, rules.get? Keyword.items.name = some sub →
            Conforms limit (depth + 1) sub (elements.get index) :=
        part_eq_nil_iff (fun mirrored => ih _ (List.getElem_mem index.isLt) mirrored _ _) items
      simp only [elementFindings_eq_nil_iff, each, reduceCtorEq, IsEmpty.forall_iff,
        implies_true, true_and, Document.array.injEq, forall_eq']
      constructor
      · intro conform element member
        obtain ⟨index, bound, rfl⟩ := List.getElem_of_mem member
        exact conform ⟨index, bound⟩
      · intro conform index
        exact conform _ (List.getElem_mem index.isLt)
  | object members ih =>
    cases mirrors with
    | anything => exact findings_anything_iff ..
    | node own properties _ =>
      apply findings_node_iff own
      have held (name : Text) := Named.rel_get? own.names properties name
      simp only [memberFindings_eq_nil_iff, missingFindings_eq_nil_iff own,
        Document.object.injEq, forall_eq', reduceCtorEq, IsEmpty.forall_iff, implies_true, and_true]
      apply and_congr_right'
      apply forall₂_congr
      intro member present
      exact part_eq_nil_iff (fun mirrored => ih member present mirrored _ _) (held member.1)

/-! ### Compiling, then validating -/

/-- Whether a document is valid for a compiled schema can be read off the two documents. -/
theorem isValid_iff_conforms {document : Document} {schema : Schema}
    (compiled : Schema.compile document = .ok schema) (settings : Settings) (value : Document) :
    (validate settings schema value).isValid = true ↔
      Conforms settings.maxDepth 0 document value := by
  rw [isValid_validate]
  exact findings_eq_nil_iff_conforms (mirrors_of_compileWithin compiled) ..

/-- An object that must have colours, each of them one of two. -/
def palette : Document :=
  .object [("type", .string "object"), ("required", .array [.string "colours"]),
    ("properties", .object [("colours", .object [("type", .string "array"),
      ("items", .object [("enum", .array [.string "red", .string "blue"])])])])]

/-- Compiled, the palette takes one list of colours and refuses another, as its document says. -/
theorem isValid_iff_conforms_palette :
    ∃ schema, Schema.compile palette = .ok schema
      ∧ Conforms 2 0 palette (.object [("colours", .array [.string "blue", .string "red"])])
      ∧ ¬Conforms 2 0 palette (.object [("colours", .array [.string "blue", .string "grey"])]) :=
  ⟨_, rfl, (isValid_iff_conforms rfl ⟨2, .collectAll⟩ _).mp (by decide),
    fun conforms => absurd
      ((isValid_iff_conforms rfl ⟨2, .failFast⟩ _).mpr conforms) (by decide)⟩

end Conformance.Validation
