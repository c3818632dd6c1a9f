import Conformance.Proofs.Schema.Readers

/-!
# Well-formed schemas and what they denote

`WellFormed` says of a document alone, keyword by keyword, when it is a schema. `Mirrors` says of a
document and a schema that they hold the same at every level. A document compiles exactly when it is
well formed, and what comes of it mirrors it.

Both are shown along the levels of nesting that the compiler may still use. They and the depth of a
document add up to one more than the greatest depth, so that the last level is spent exactly where a
document is too deep to be well formed.
-/
namespace Conformance.Schema

/-! ### Documents that are schemas -/

/-- If the keyword is there, its value has the shape. -/
def Given (rules : Named Document) (keyword : Keyword) (shape : Document → Prop) : Prop :=
  ∀ d, rules.get? keyword.name = some d → shape d

/-- Every keyword of a node has a value of its shape; schemas inside it are left aside. -/
structure Shaped (rules : Named Document) : Prop where
  type : Given rules .type fun d => ∃ kind : Kind, d = .string kind.name
  required : Given rules .required fun d => ∃ entries, d = .array entries
  properties : Given rules .properties fun d => ∃ schemas, d = .object schemas
  minLength : Given rules .minLength fun d => ∃ n, Counts d n
  maxLength : Given rules .maxLength fun d => ∃ n, Counts d n
  minItems : Given rules .minItems fun d => ∃ n, Counts d n
  maxItems : Given rules .maxItems fun d => ∃ n, Counts d n
  minimum : Given rules .minimum fun d => ∃ x, d = .number x
  maximum : Given rules .maximum fun d => ∃ x, d = .number x
  pattern : Given rules .pattern fun d => ∃ p, Spells d p
  enum : Given rules .enum fun d => ∃ values, d = .array values

/-- A document at a depth is a schema. -/
inductive WellFormed : Nat → Document → Prop where
  | anything {depth : Nat} (reached : depth ≤ maxDepth) : WellFormed depth (.boolean true)
  | node {depth : Nat} {rules : Named Document} (reached : depth ≤ maxDepth)
      (shaped : Shaped rules)
      (properties : ∀ schemas, rules.get? Keyword.properties.name = some (.object schemas) →
        ∀ member ∈ schemas, WellFormed (depth + 1) member.2)
      (items : ∀ d, rules.get? Keyword.items.name = some d → WellFormed (depth + 1) d) :
      WellFormed depth (.object rules)

/-! ### Schemas that hold what a document says -/

/-- The bounds are those of the keywords, and absent where the keyword is. -/
structure MirrorsBounds (rules : Named Document) (bounds : Bounds) : Prop where
  minLength : Option.Rel Counts (rules.get? Keyword.minLength.name) bounds.minLength
  maxLength : Option.Rel Counts (rules.get? Keyword.maxLength.name) bounds.maxLength
  minItems : Option.Rel Counts (rules.get? Keyword.minItems.name) bounds.minItems
  maxItems : Option.Rel Counts (rules.get? Keyword.maxItems.name) bounds.maxItems
  minimum : Option.Rel (fun d x => d = .number x) (rules.get? Keyword.minimum.name) bounds.minimum
  maximum : Option.Rel (fun d x => d = .number x) (rules.get? Keyword.maximum.name) bounds.maximum
  pattern : Option.Rel Spells (rules.get? Keyword.pattern.name) bounds.pattern
  enum : Option.Rel (fun d values => d = .array values) (rules.get? Keyword.enum.name) bounds.enum

/-- The names that a node declares to be required, with repetitions. -/
def declared (rules : Named Document) : List Text :=
  match rules.get? Keyword.required.name with
  | some (.array entries) => texts entries
  | _ => []

/-- The schemas for members that a node holds, by name. -/
def subschemas (rules : Named Document) : Named Document :=
  match rules.get? Keyword.properties.name with
  | some (.object schemas) => schemas
  | _ => []

/-- The schema holds what the keywords of one node say; schemas inside it are left aside. -/
structure MirrorsNode (rules : Named Document) (schema : Schema) : Prop where
  kind : Option.Rel (fun d kind => d = .string (Kind.name kind))
    (rules.get? Keyword.type.name) schema.kind?
  required : schema.required = (declared rules).eraseDups
  names : schema.properties.names = (subschemas rules).names
  bounds : MirrorsBounds rules schema.bounds
  checks : schema.checks = []

/-- The schema holds what the document says, at every level. -/
inductive Mirrors : Document → Schema → Prop where
  | anything : Mirrors (.boolean true) .anything
  | node {rules : Named Document} {schema : Schema} (own : MirrorsNode rules schema)
      (properties : List.Forall₂ Mirrors (subschemas rules).values schema.properties.values)
      (items : Option.Rel Mirrors (rules.get? Keyword.items.name) schema.items?) :
      Mirrors (.object rules) schema

/-! ### Schemas inside a schema -/

theorem mem_of_subschemas {rules : Named Document} {name : Text} {d : Document}
    (found : (subschemas rules).get? name = some d) :
    ∃ schemas, rules.get? Keyword.properties.name = some (.object schemas) ∧
      (name, d) ∈ schemas := by
  rw [subschemas] at found
  split at found
  next schemas there => exact ⟨schemas, there, Named.mem_of_get? found⟩
  next => cases found

/-- The schema of a property mirrors the document under its name. -/
theorem exists_mirrored_property {rules : Named Document} {schema sub : Schema} {name : Text}
    (own : MirrorsNode rules schema)
    (properties : List.Forall₂ Mirrors (subschemas rules).values schema.properties.values)
    (asked : schema.property? name = some sub) :
    ∃ schemas d, rules.get? Keyword.properties.name = some (.object schemas) ∧ (name, d) ∈ schemas
      ∧ Mirrors d sub := by
  rcases Named.rel_cases (Named.rel_get? own.names properties name) with
    ⟨_, absent⟩ | ⟨d, _, given, found, mirrors⟩
  · cases absent.symm.trans asked
  · cases found.symm.trans asked
    obtain ⟨schemas, held, listed⟩ := mem_of_subschemas given
    exact ⟨schemas, d, held, listed, mirrors⟩

theorem exists_mirrored_items {rules : Named Document} {schema sub : Schema}
    (items : Option.Rel Mirrors (rules.get? Keyword.items.name) schema.items?)
    (asked : schema.items? = some sub) :
    ∃ d, rules.get? Keyword.items.name = some d ∧ Mirrors d sub := by
  rcases Named.rel_cases items with ⟨_, absent⟩ | ⟨d, _, given, found, mirrors⟩
  · cases absent.symm.trans asked
  · cases found.symm.trans asked
    exact ⟨d, given, mirrors⟩

/-! ### One level of compilation -/

theorem readBounds_eq_ok_iff (back : List Text) (rules : Named Document) (bounds : Bounds) :
    readBounds back rules = .ok bounds ↔ MirrorsBounds rules bounds := by
  simp only [readBounds, bind_eq_ok_iff, pure_eq_ok_iff, optional_eq_ok_iff, readCount_eq_ok_iff,
    readNumber_eq_ok_iff, readPattern_eq_ok_iff, readEnum_eq_ok_iff]
  constructor
  · rintro ⟨_, minLength, _, maxLength, _, minItems, _, maxItems, _, minimum, _, maximum, _,
      pattern, _, enum, rfl⟩
    exact ⟨minLength, maxLength, minItems, maxItems, minimum, maximum, pattern, enum⟩
  · rintro ⟨minLength, maxLength, minItems, maxItems, minimum, maximum, pattern, enum⟩
    exact ⟨_, minLength, _, maxLength, _, minItems, _, maxItems, _, minimum, _, maximum, _,
      pattern, _, enum, rfl⟩

theorem readProperties_eq_ok_iff (back : List Text)
    (compile : List Text → Document → Except CompileError Schema) (d : Document)
    (named : Named Schema) :
    readProperties back compile d = .ok named ↔
      ∃ schemas, d = .object schemas ∧
        List.Forall₂ (fun member entry => entry.1 = member.1 ∧
          compile (member.1 :: Keyword.properties.name :: back) member.2 = .ok entry.2)
          schemas named := by
  cases d with
  | object schemas =>
    simp only [readProperties, readMembers_eq_ok_iff, Document.object.injEq, exists_eq_left']
  | _ => simp [readProperties, refuseShape, refuse]

/-- The schema of a node whose keywords have been read. -/
def assemble (rules : Named Document) (kind : Option Kind) (required : Option (List Text))
    (properties : Option (Named Schema)) (items : Option Schema) (bounds : Bounds) : Schema :=
  if Keyword.all.any fun keyword => Named.contains rules keyword.name then
    .node kind (required.getD []) (properties.getD []) items bounds []
  else .anything

theorem compileWithin_object_eq_ok_iff (levels : Nat) (back : List Text)
    (rules : Named Document) (schema : Schema) :
    compileWithin (levels + 1) back (.object rules) = .ok schema ↔
      ∃ kind required properties items bounds,
        Option.Rel (fun d kind => d = .string (Kind.name kind))
          (rules.get? Keyword.type.name) kind
        ∧ Option.Rel (fun d names => ∃ entries, d = .array entries ∧ names = texts entries)
          (rules.get? Keyword.required.name) required
        ∧ Option.Rel (fun d named => readProperties back (compileWithin levels) d = .ok named)
          (rules.get? Keyword.properties.name) properties
        ∧ Option.Rel (fun d sub => compileWithin levels (Keyword.items.name :: back) d = .ok sub)
          (rules.get? Keyword.items.name) items
        ∧ MirrorsBounds rules bounds
        ∧ schema = assemble rules kind required properties items bounds := by
  simp only [compileWithin, bind_eq_ok_iff, optional_eq_ok_iff, readKind_eq_ok_iff,
    readRequired_eq_ok_iff, readBounds_eq_ok_iff]
  constructor
  · rintro ⟨kind, kindRead, required, requiredRead, properties, propertiesRead, items, itemsRead,
      bounds, boundsRead, made⟩
    refine ⟨kind, required, properties, items, bounds, kindRead, requiredRead, propertiesRead,
      itemsRead, boundsRead, ?_⟩
    rw [assemble]
    split at made
    · next known => rw [if_pos known]; exact pure_eq_ok_iff.mp made
    · next unknown => rw [if_neg unknown]; exact pure_eq_ok_iff.mp made
  · rintro ⟨kind, required, properties, items, bounds, kindRead, requiredRead, propertiesRead,
      itemsRead, boundsRead, rfl⟩
    refine ⟨kind, kindRead, required, requiredRead, properties, propertiesRead, items, itemsRead,
      bounds, boundsRead, ?_⟩
    rw [assemble]
    split <;> rfl

/-! ### What comes of compilation mirrors the document -/

theorem absent_of_unknown {rules : Named Document}
    (unknown : ¬(Keyword.all.any fun keyword => Named.contains rules keyword.name) = true)
    (keyword : Keyword) : rules.get? keyword.name = none := by
  have listed : keyword ∈ Keyword.all := by cases keyword <;> decide
  -- A keyword with a value would have been found by the search that found none.
  by_contra present
  apply unknown
  rw [List.any_eq_true]
  exact ⟨keyword, listed, Option.isSome_iff_ne_none.mpr present⟩

/-- A document without any known keyword is mirrored by the schema that accepts anything. -/
theorem mirrors_anything_of_unknown {rules : Named Document}
    (unknown : ¬(Keyword.all.any fun keyword => Named.contains rules keyword.name) = true) :
    Mirrors (.object rules) .anything := by
  have absent := absent_of_unknown unknown
  have bounds : MirrorsBounds rules anything.bounds := by
    constructor <;> rw [absent] <;> exact .none
  refine .node ⟨?_, ?_, ?_, bounds, rfl⟩ ?_ ?_
  · rw [absent]; exact .none
  · rw [declared, absent]; rfl
  · rw [subschemas, absent]; rfl
  · rw [subschemas, absent]; exact .nil
  · rw [absent]; exact .none

/-- A schema put together from parts that mirror the keywords mirrors the node. -/
theorem mirrors_assemble {rules : Named Document} {kind : Option Kind}
    {required : Option (List Text)} {properties : Option (Named Schema)} {items : Option Schema}
    {bounds : Bounds}
    (kindRead : Option.Rel (fun d kind => d = .string (Kind.name kind))
      (rules.get? Keyword.type.name) kind)
    (requiredRead : Option.Rel (fun d names => ∃ entries, d = .array entries ∧
      names = texts entries) (rules.get? Keyword.required.name) required)
    (propertiesRead : Option.Rel (fun d named => ∃ schemas, d = .object schemas ∧
      Named.names named = Named.names schemas ∧
      List.Forall₂ Mirrors (Named.values schemas) (Named.values named))
      (rules.get? Keyword.properties.name) properties)
    (itemsRead : Option.Rel Mirrors (rules.get? Keyword.items.name) items)
    (boundsRead : MirrorsBounds rules bounds) :
    Mirrors (.object rules) (assemble rules kind required properties items bounds) := by
  rw [assemble]
  split
  · have requiredHeld : (required.getD []).eraseDups = (declared rules).eraseDups := by
      rw [declared]
      generalize rules.get? Keyword.required.name = given at requiredRead ⊢
      cases requiredRead with
      | none => rfl
      | some held =>
        obtain ⟨entries, rfl, rfl⟩ := held
        rfl
    have propertiesHeld : (properties.getD []).names = (subschemas rules).names ∧
        List.Forall₂ Mirrors (subschemas rules).values (properties.getD []).values := by
      rw [subschemas]
      generalize rules.get? Keyword.properties.name = given at propertiesRead ⊢
      cases propertiesRead with
      | none => exact ⟨rfl, .nil⟩
      | some held =>
        obtain ⟨schemas, rfl, names, values⟩ := held
        exact ⟨names, values⟩
    exact .node ⟨kindRead, requiredHeld, propertiesHeld.1, boundsRead, rfl⟩ propertiesHeld.2
      itemsRead
  · next unknown => exact mirrors_anything_of_unknown unknown

/-- Members compiled one by one keep their names, and mirror them value by value. -/
theorem mirrors_members {schemas : Named Document} {named : Named Schema}
    (compile : Text → Document → Except CompileError Schema)
    (mirrors : ∀ name d sub, compile name d = .ok sub → Mirrors d sub)
    (compiled : List.Forall₂ (fun member entry => entry.1 = member.1 ∧
      compile member.1 member.2 = .ok entry.2) schemas named) :
    named.names = schemas.names ∧ List.Forall₂ Mirrors schemas.values named.values := by
  induction compiled with
  | nil => exact ⟨rfl, .nil⟩
  | cons head _ ih =>
    obtain ⟨names, values⟩ := ih
    obtain ⟨same, read⟩ := head
    constructor
    · simp only [Named.names, List.map_cons, same] at names ⊢
      rw [names]
    · exact .cons (mirrors _ _ _ read) values

/-- Whatever the levels left, a compiled schema mirrors its document. -/
theorem mirrors_of_compileWithin {levels : Nat} {back : List Text} {d : Document}
    {schema : Schema} (compiled : compileWithin levels back d = .ok schema) :
    Mirrors d schema := by
  -- Both ways down, by members and by elements, spend one level, so one hypothesis serves both.
  induction levels generalizing back d schema with
  | zero => simp [compileWithin, refuse] at compiled
  | succ levels ih =>
    cases d with
    | boolean value =>
      cases value with
      | false => simp [compileWithin, refuse] at compiled
      | true =>
        cases compiled
        exact .anything
    | object rules =>
      obtain ⟨kind, required, properties, items, bounds, kindRead, requiredRead, propertiesRead,
        itemsRead, boundsRead, rfl⟩ := (compileWithin_object_eq_ok_iff ..).mp compiled
      refine mirrors_assemble kindRead requiredRead (Named.rel_imp ?_ propertiesRead)
        (Named.rel_imp (fun _ _ inner => ih inner) itemsRead) boundsRead
      intro value named read
      obtain ⟨schemas, rfl, inner⟩ := (readProperties_eq_ok_iff ..).mp read
      exact ⟨schemas, rfl, mirrors_members
        (fun name => compileWithin levels (name :: Keyword.properties.name :: back))
        (fun _ _ _ read => ih read) inner⟩
    | _ => simp [compileWithin, refuse] at compiled

/-! ### What compiles is well formed, and nothing else -/

/-- An optional value can be read exactly when it can be read if it is there. -/
private theorem exists_rel_iff {α β : Type} {R : α → β → Prop} (given : Option α) :
    (∃ result, Option.Rel R given result) ↔ ∀ a, given = some a → ∃ b, R a b := by
  constructor
  · rintro ⟨result, related⟩ a rfl
    cases related with
    | some held => exact ⟨_, held⟩
  · intro reads
    cases given with
    | none => exact ⟨none, .none⟩
    | some a =>
      obtain ⟨b, held⟩ := reads a rfl
      exact ⟨some b, .some held⟩

/-- Members can be compiled together exactly when each can be compiled by itself. -/
private theorem exists_members_iff (compile : Text → Document → Except CompileError Schema)
    (schemas : Named Document) :
    (∃ named : Named Schema, List.Forall₂ (fun member entry => entry.1 = member.1 ∧
        compile member.1 member.2 = .ok entry.2) schemas named) ↔
      ∀ member ∈ schemas, ∃ schema, compile member.1 member.2 = .ok schema := by
  induction schemas with
  | nil => simp
  | cons member rest ih =>
    simp only [List.forall_mem_cons, ← ih]
    constructor
    · rintro ⟨named, related⟩
      cases related with
      | cons head tail => exact ⟨⟨_, head.2⟩, _, tail⟩
    · rintro ⟨⟨schema, read⟩, named, related⟩
      exact ⟨(member.1, schema) :: named, .cons ⟨rfl, read⟩ related⟩

/-- The bounds of well-shaped keywords can be read. -/
theorem Shaped.exists_bounds {rules : Named Document} (shaped : Shaped rules) :
    ∃ bounds, MirrorsBounds rules bounds := by
  obtain ⟨minLength, minLengthRead⟩ := (exists_rel_iff _).mpr shaped.minLength
  obtain ⟨maxLength, maxLengthRead⟩ := (exists_rel_iff _).mpr shaped.maxLength
  obtain ⟨minItems, minItemsRead⟩ := (exists_rel_iff _).mpr shaped.minItems
  obtain ⟨maxItems, maxItemsRead⟩ := (exists_rel_iff _).mpr shaped.maxItems
  obtain ⟨minimum, minimumRead⟩ := (exists_rel_iff _).mpr shaped.minimum
  obtain ⟨maximum, maximumRead⟩ := (exists_rel_iff _).mpr shaped.maximum
  obtain ⟨pattern, patternRead⟩ := (exists_rel_iff _).mpr shaped.pattern
  obtain ⟨enum, enumRead⟩ := (exists_rel_iff _).mpr shaped.enum
  exact ⟨{ minLength, maxLength, pattern, minimum, maximum, minItems, maxItems, enum },
    ⟨minLengthRead, maxLengthRead, minItemsRead, maxItemsRead, minimumRead, maximumRead,
      patternRead, enumRead⟩⟩

/-- What was read from the keywords of a node shows that their values have the shapes. -/
theorem shaped_of_read {rules : Named Document} {kind : Option Kind}
    {required : Option (List Text)} {bounds : Bounds}
    (kindRead : Option.Rel (fun d kind => d = .string (Kind.name kind))
      (rules.get? Keyword.type.name) kind)
    (requiredRead : Option.Rel (fun d names => ∃ entries, d = .array entries ∧
      names = texts entries) (rules.get? Keyword.required.name) required)
    (properties : Given rules .properties fun d => ∃ schemas, d = .object schemas)
    (boundsRead : MirrorsBounds rules bounds) : Shaped rules where
  type := (exists_rel_iff _).mp ⟨_, kindRead⟩
  required := by
    intro d found
    obtain ⟨_, entries, held, _⟩ := (exists_rel_iff _).mp ⟨_, requiredRead⟩ d found
    exact ⟨entries, held⟩
  properties := properties
  minLength := (exists_rel_iff _).mp ⟨_, boundsRead.minLength⟩
  maxLength := (exists_rel_iff _).mp ⟨_, boundsRead.maxLength⟩
  minItems := (exists_rel_iff _).mp ⟨_, boundsRead.minItems⟩
  maxItems := (exists_rel_iff _).mp ⟨_, boundsRead.maxItems⟩
  minimum := (exists_rel_iff _).mp ⟨_, boundsRead.minimum⟩
  maximum := (exists_rel_iff _).mp ⟨_, boundsRead.maximum⟩
  pattern := (exists_rel_iff _).mp ⟨_, boundsRead.pattern⟩
  enum := (exists_rel_iff _).mp ⟨_, boundsRead.enum⟩

/-- A node compiles when its keywords have their shapes and the schemas inside it compile. -/
theorem exists_compiled_object_iff (levels : Nat) (back : List Text) (rules : Named Document) :
    (∃ schema, compileWithin (levels + 1) back (.object rules) = .ok schema) ↔
      Shaped rules
        ∧ (∀ schemas, rules.get? Keyword.properties.name = some (.object schemas) →
            ∀ member ∈ schemas, ∃ schema,
              compileWithin levels (member.1 :: Keyword.properties.name :: back) member.2 =
                .ok schema)
        ∧ ∀ d, rules.get? Keyword.items.name = some d →
            ∃ schema, compileWithin levels (Keyword.items.name :: back) d = .ok schema := by
  simp only [compileWithin_object_eq_ok_iff, readProperties_eq_ok_iff]
  constructor
  · rintro ⟨schema, kind, required, properties, items, bounds, kindRead, requiredRead,
      propertiesRead, itemsRead, boundsRead, rfl⟩
    have propertiesShape := (exists_rel_iff _).mp ⟨_, propertiesRead⟩
    have objects : Given rules .properties fun d => ∃ schemas, d = .object schemas := by
      intro d found
      obtain ⟨_, schemas, held, _⟩ := propertiesShape d found
      exact ⟨schemas, held⟩
    refine ⟨shaped_of_read kindRead requiredRead objects boundsRead, ?_,
      (exists_rel_iff _).mp ⟨_, itemsRead⟩⟩
    intro schemas found
    obtain ⟨named, _, held, related⟩ := propertiesShape _ found
    cases held
    exact (exists_members_iff
      (fun name => compileWithin levels (name :: Keyword.properties.name :: back)) _).mp
      ⟨named, related⟩
  · -- Conversely a result is read from each keyword, and the schema is put together from them.
    rintro ⟨shaped, properties, items⟩
    obtain ⟨kind, kindRead⟩ := (exists_rel_iff _).mpr shaped.type
    obtain ⟨bounds, boundsRead⟩ := shaped.exists_bounds
    obtain ⟨sub, itemsRead⟩ := (exists_rel_iff _).mpr items
    have requiredShape : ∀ d, rules.get? Keyword.required.name = some d →
        ∃ names entries, d = .array entries ∧ names = texts entries := by
      intro d found
      obtain ⟨entries, held⟩ := shaped.required d found
      exact ⟨_, entries, held, rfl⟩
    obtain ⟨required, requiredRead⟩ := (exists_rel_iff _).mpr requiredShape
    have propertiesShape : ∀ d, rules.get? Keyword.properties.name = some d →
        ∃ (named : Named Schema) (schemas : Named Document), d = .object schemas ∧
          List.Forall₂ (fun member entry => entry.1 = member.1 ∧
            compileWithin levels (member.1 :: Keyword.properties.name :: back) member.2 =
              .ok entry.2) schemas named := by
      intro d found
      obtain ⟨schemas, rfl⟩ := shaped.properties d found
      obtain ⟨named, related⟩ := (exists_members_iff
        (fun name => compileWithin levels (name :: Keyword.properties.name :: back)) _).mpr
        (properties schemas found)
      exact ⟨named, schemas, rfl, related⟩
    obtain ⟨named, propertiesRead⟩ := (exists_rel_iff _).mpr propertiesShape
    exact ⟨_, kind, required, named, sub, bounds, kindRead, requiredRead, propertiesRead,
      itemsRead, boundsRead, rfl⟩

/-- With as many levels left as the depth of the document allows, it compiles exactly when it is
well formed. -/
theorem exists_compileWithin_iff {levels depth : Nat} (sum : levels + depth = maxDepth + 1)
    (back : List Text) (d : Document) :
    (∃ schema, compileWithin levels back d = .ok schema) ↔ WellFormed depth d := by
  induction levels generalizing depth back d with
  | zero =>
    -- No level is left exactly when the depth is past the greatest, whatever stands there.
    constructor
    · rintro ⟨schema, compiled⟩
      simp [compileWithin, refuse] at compiled
    · intro formed
      cases formed <;> omega
  | succ levels ih =>
    have reached : depth ≤ maxDepth := by omega
    have next : levels + (depth + 1) = maxDepth + 1 := by omega
    cases d with
    | boolean value =>
      cases value with
      | true => exact ⟨fun _ => .anything reached, fun _ => ⟨.anything, rfl⟩⟩
      | false =>
        simp only [compileWithin, refuse, reduceCtorEq, exists_false, false_iff]
        intro formed
        cases formed
    | object rules =>
      simp only [exists_compiled_object_iff, ih next]
      constructor
      · rintro ⟨shaped, properties, items⟩
        exact .node reached shaped properties items
      · intro formed
        cases formed with
        | node _ shaped properties items => exact ⟨shaped, properties, items⟩
    | _ =>
      simp only [compileWithin, refuse, reduceCtorEq, exists_false, false_iff]
      intro formed
      cases formed

theorem wellFormed_of_compile {d : Document} {schema : Schema} (compiled : compile d = .ok schema) :
    WellFormed 0 d := by
  have sum : maxDepth + 1 + 0 = maxDepth + 1 := rfl
  exact (exists_compileWithin_iff sum [] d).mp ⟨schema, compiled⟩

/-- A document compiles exactly when it is well formed, and what comes of it mirrors it at every
level. -/
theorem compile_iff_wellFormed_and_mirrors (d : Document) :
    ((∃ schema, compile d = .ok schema) ↔ WellFormed 0 d)
      ∧ ∀ schema, compile d = .ok schema → Mirrors d schema := by
  have sum : maxDepth + 1 + 0 = maxDepth + 1 := rfl
  exact ⟨exists_compileWithin_iff sum [] d, fun _ compiled => mirrors_of_compileWithin compiled⟩

end Conformance.Schema
