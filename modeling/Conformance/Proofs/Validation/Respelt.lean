import Conformance.Proofs.Document.Dump
import Conformance.Proofs.Schema.Pruned
import Conformance.Proofs.Validation.Modes

/-!
# Respelt schemas

Two documents that say the same as schemas may order their members differently, spell their numbers
differently and hold members without a meaning. What is compiled from them gives the same report of
every value, texts and order included.

The schemas themselves differ in the order of properties, the signs of zeros in bounds and the
values of enumerations. So rules are compared by what they say of a value (`Constraint.Agree`), and
schemas level by level through what is asked of them (`AgreeNode`).
-/
namespace Conformance

open Document (Alike)

/-! ### Rules that agree -/

/-- The rules look at the same values and say the same of each. -/
structure Constraint.Agree (r r' : Constraint) : Prop where
  rule : r.rule = r'.rule
  kind : r.violationKind = r'.violationKind
  applies : r.appliesTo = r'.appliesTo
  fails : ∀ value, r.failure? value = r'.failure? value

namespace Constraint.Agree

theorem refl (r : Constraint) : Agree r r := ⟨rfl, rfl, rfl, fun _ => rfl⟩

theorem accepts_eq {r r' : Constraint} (agree : Agree r r') (kind : Kind) :
    r.accepts kind = r'.accepts kind := by
  rw [Constraint.accepts, Constraint.accepts, agree.applies]

/-- Limits of one value bound alike, from below and from above. -/
theorem limit {x y : Binary64} (same : x.same y = true) :
    Agree (.minimum (.finite x)) (.minimum (.finite y))
      ∧ Agree (.maximum (.finite x)) (.maximum (.finite y)) := by
  have shown : Extended.formatPlain (.finite x) = Extended.formatPlain (.finite y) :=
    Binary64.formatPlain_of_same same
  refine ⟨⟨rfl, rfl, rfl, fun value => ?below⟩, ⟨rfl, rfl, rfl, fun value => ?above⟩⟩
  case below =>
    cases value with
    | number z => rw [failure?, failure?, (Extended.less_of_same same _).2, shown]
    | _ => rfl
  case above =>
    cases value with
    | number z => rw [failure?, failure?, (Extended.less_of_same same _).1, shown]
    | _ => rfl

theorem enum {values values' : List Document} (alike : List.Forall₂ Alike values values') :
    Agree (.enum values) (.enum values') := by
  refine ⟨rfl, rfl, rfl, fun value => ?_⟩
  have found : values.any value.structurallyEqual = values'.any value.structurallyEqual := by
    induction alike with
    | nil => rfl
    | cons first _ ih =>
      rw [List.any_cons, List.any_cons, ih, Document.structurallyEqual_congr_right value first]
  have shown : values.map Document.dump = values'.map Document.dump :=
    Document.map_eq_of_forall₂ (alike.imp fun _ _ held => Document.dump_congr held)
  rw [failure?, failure?, found, shown]

end Constraint.Agree

/-- Bounds of one value each, as far as they say anything of values. -/
structure Bounds.Agree (b c : Bounds) : Prop where
  minLength : b.minLength = c.minLength
  maxLength : b.maxLength = c.maxLength
  pattern : b.pattern = c.pattern
  minimum : Option.Rel (fun x y => Binary64.same x y = true) b.minimum c.minimum
  maximum : Option.Rel (fun x y => Binary64.same x y = true) b.maximum c.maximum
  minItems : b.minItems = c.minItems
  maxItems : b.maxItems = c.maxItems
  enum : Option.Rel (List.Forall₂ Alike) b.enum c.enum

theorem forall₂_toList {α β : Type} {f : α → Constraint} {g : β → Constraint} {a : Option α}
    {b : Option β} (related : Option.Rel (fun x y => (f x).Agree (g y)) a b) :
    List.Forall₂ Constraint.Agree (a.map f).toList (b.map g).toList := by
  cases related with
  | none => exact .nil
  | some held => exact .cons held .nil

/-- Bounds that agree are rules that agree, in the same order. -/
theorem Bounds.Agree.constraints {b c : Bounds} (agree : b.Agree c) :
    List.Forall₂ Constraint.Agree b.constraints c.constraints := by
  have steady (rules : List Constraint) : List.Forall₂ Constraint.Agree rules rules :=
    List.forall₂_same.mpr fun rule _ => .refl rule
  rw [Bounds.constraints, Bounds.constraints, agree.minLength, agree.maxLength, agree.pattern,
    agree.minItems, agree.maxItems]
  refine List.rel_append (List.rel_append (List.rel_append (List.rel_append
    (List.rel_append (steady _) ?minimum) ?maximum) (steady _)) (steady _)) ?enum
  case minimum =>
    exact forall₂_toList (Named.rel_imp (fun _ _ same => (Constraint.Agree.limit same).1)
      agree.minimum)
  case maximum =>
    exact forall₂_toList (Named.rel_imp (fun _ _ same => (Constraint.Agree.limit same).2)
      agree.maximum)
  case enum =>
    exact forall₂_toList (Named.rel_imp (fun _ _ alike => .enum alike) agree.enum)

/-! ### Schemas that agree -/

namespace Schema

/-- The schemas mirror documents that say the same. -/
def Respelt (s t : Schema) : Prop :=
  ∃ d e, Mirrors d s ∧ Mirrors e t ∧ SameRules d e

/-- The schemas ask the same of a value; what they ask of its parts is respelt. -/
structure AgreeNode (s t : Schema) : Prop where
  kind : s.kind? = t.kind?
  required : s.required = t.required
  rules : List.Forall₂ Constraint.Agree s.constraints t.constraints
  property : ∀ name, Option.Rel Respelt (s.property? name) (t.property? name)
  items : Option.Rel Respelt s.items? t.items?

theorem texts_congr {xs ys : List Document} (alike : List.Forall₂ Alike xs ys) :
    texts xs = texts ys := by
  induction alike with
  | nil => rfl
  | cons first _ ih =>
    cases first with
    | string value => exact congrArg (value :: ·) ih
    | _ => exact ih

theorem declared_congr {rules others : Named Document}
    (same : SameRules (.object rules) (.object others)) : declared rules = declared others := by
  have related : Option.Rel Alike _ _ := same.keyword .required
  rw [declared, declared]
  rcases Named.rel_cases related with ⟨absent, lacking⟩ | ⟨v, w, found, there, alike⟩
  · rw [absent, lacking]
  · rw [found, there]
    cases alike with
    | array each => exact texts_congr each
    | _ => rfl

/-- Bounds that mirror documents that say the same agree. -/
theorem agree_of_mirrorsBounds {rules others : Named Document}
    (same : SameRules (.object rules) (.object others)) {b c : Bounds}
    (left : MirrorsBounds rules b) (right : MirrorsBounds others c) : b.Agree c := by
  have count {keyword : Keyword} {m n : Option Nat}
      (alike : Option.Rel Alike (rules.get? keyword.name) (others.get? keyword.name))
      (first : Option.Rel Counts (rules.get? keyword.name) m)
      (second : Option.Rel Counts (others.get? keyword.name) n) : m = n :=
    Named.eq_of_rel (Named.rel_square alike first second fun _ _ _ _ held counts counts' =>
      (counts_congr held counts).unique counts')
  have number {keyword : Keyword} {x y : Option Binary64}
      (alike : Option.Rel Alike (rules.get? keyword.name) (others.get? keyword.name))
      (first : Option.Rel (fun d x => d = .number x) (rules.get? keyword.name) x)
      (second : Option.Rel (fun d y => d = .number y) (others.get? keyword.name) y) :
      Option.Rel (fun x y => Binary64.same x y = true) x y := by
    refine Named.rel_square alike first second ?_
    rintro _ _ x y held rfl rfl
    cases held with
    | number equal => exact equal
  constructor
  case minLength => exact count (same.keyword .minLength) left.minLength right.minLength
  case maxLength => exact count (same.keyword .maxLength) left.maxLength right.maxLength
  case minItems => exact count (same.keyword .minItems) left.minItems right.minItems
  case maxItems => exact count (same.keyword .maxItems) left.maxItems right.maxItems
  case minimum => exact number (same.keyword .minimum) left.minimum right.minimum
  case maximum => exact number (same.keyword .maximum) left.maximum right.maximum
  case pattern =>
    have alike : Option.Rel Alike _ _ := same.keyword .pattern
    exact Named.eq_of_rel (Named.rel_square alike left.pattern right.pattern
      fun _ _ _ _ held spells spells' => (spells_congr held spells).unique spells')
  case enum =>
    have alike : Option.Rel Alike _ _ := same.keyword .enum
    refine Named.rel_square alike left.enum right.enum ?_
    rintro _ _ xs ys held rfl rfl
    cases held with
    | array each => exact each

/-- Respelt schemas ask the same of a value. -/
theorem Respelt.node {s t : Schema} (respelt : Respelt s t) : AgreeNode s t := by
  obtain ⟨d, e, left, right, same⟩ := respelt
  cases left with
  | anything =>
    rw [same.eq_true] at right
    cases right
    exact ⟨rfl, rfl, .nil, fun _ => .none, .none⟩
  | @node rules _ own properties items =>
    obtain ⟨others, rfl⟩ := same.exists_object
    cases right with
    | @node _ _ own' properties' items' =>
      constructor
      case kind =>
        have alike : Option.Rel Alike _ _ := same.keyword .type
        refine Named.eq_of_rel (Named.rel_square alike own.kind own'.kind ?_)
        rintro _ _ kind kind' held rfl rfl
        exact Kind.name_injective held.string_eq
      case required => rw [own.required, own'.required, declared_congr same]
      case rules =>
        -- No compiled schema has checks of the caller, so the bounds are all there is.
        rw [constraints, constraints, own.checks, own'.checks, List.append_nil, List.append_nil]
        exact (agree_of_mirrorsBounds same own.bounds own'.bounds).constraints
      case property =>
        intro name
        have first := Named.rel_get? own.names properties name
        have second := Named.rel_get? own'.names properties' name
        exact Named.rel_square (same.subschemas name) first second
          fun d e s t inner mirrors mirrors' => ⟨d, e, mirrors, mirrors', inner⟩
      case items =>
        have related : Option.Rel SameRules _ _ := same.keyword .items
        exact Named.rel_square related items items'
          fun d e s t inner mirrors mirrors' => ⟨d, e, mirrors, mirrors', inner⟩

end Schema

/-! ### Reports that agree -/

namespace Validation

open Schema

theorem ruleFindings_of_agree {s t : Schema}
    (agree : List.Forall₂ Constraint.Agree s.constraints t.constraints) (path : Path)
    (value : Document) : ruleFindings path s value = ruleFindings path t value := by
  rw [ruleFindings, ruleFindings, Schema.rulesOn_eq, Schema.rulesOn_eq]
  generalize s.constraints = xs, t.constraints = ys at agree
  induction agree with
  | nil => rfl
  | @cons r r' _ _ first _ ih =>
    have told : constraintViolation path r = constraintViolation path r' := by
      funext detail
      rw [constraintViolation, constraintViolation, first.rule, first.kind]
    rw [List.filter_cons, List.filter_cons, first.accepts_eq]
    split
    · rw [List.filterMap_cons, List.filterMap_cons, first.fails, told, ih]
    · exact ih

/-- Values have the same findings under schemas that agree once their parts do. -/
theorem findings_of_agree {s t : Schema} (agree : s.AgreeNode t) {limit depth : Nat} {path : Path}
    {value : Document} (parts : partFindings limit path depth s value =
      partFindings limit path depth t value) :
    findings limit path depth s value = findings limit path depth t value := by
  rw [findings_eq, findings_eq, agree.kind, parts, ruleFindings_of_agree agree.rules]

/-- Respelt schemas find the same in every value. -/
theorem findings_of_respelt {s t : Schema} (respelt : s.Respelt t) (limit : Nat) (path : Path)
    (depth : Nat) (value : Document) :
    findings limit path depth s value = findings limit path depth t value := by
  -- The walk goes by the value, which is one and the same; the schemas change at every step down.
  induction value generalizing s t path depth with
  | null | boolean _ | number _ | string _ => exact findings_of_agree respelt.node rfl
  | array elements ih =>
    apply findings_of_agree respelt.node
    rw [partFindings, partFindings]
    rcases Named.rel_cases respelt.node.items with ⟨none, none'⟩ | ⟨items, items', own, own', inner⟩
    · rw [none, none']
    · rw [own, own']
      apply List.flatMap_congr
      intro index _
      exact ih _ (List.getElem_mem index.isLt) inner _ _
  | object members ih =>
    apply findings_of_agree respelt.node
    rw [partFindings, partFindings, missingFindings, missingFindings, respelt.node.required]
    congr 1
    apply List.flatMap_congr
    intro member present
    rcases Named.rel_cases (respelt.node.property member.1) with
      ⟨none, none'⟩ | ⟨sub, sub', own, own', inner⟩
    · rw [none, none']
    · rw [own, own']
      exact ih member present inner _ _

/-- Of two documents that are structurally equal apart from members without a meaning, both are
schemas or neither is; compiled, they give the same report of every value in either mode, however
deep the walk may go. -/
theorem validate_eq_of_respelt {d e : Document.Proper}
    (equal : (pruned d).structurallyEqual (pruned e) = true) :
    ((∃ schema, Schema.compile d = .ok schema) ↔ ∃ schema, Schema.compile e = .ok schema)
      ∧ ∀ s t, Schema.compile d = .ok s → Schema.compile e = .ok t →
        ∀ settings value, validate settings s value = validate settings t value := by
  have same : SameRules d e :=
    Document.alike_of_structurallyEqual (wellNamed_pruned d d.2) (wellNamed_pruned e e.2) equal
  refine ⟨exists_compile_congr same, fun s t first second settings value => ?_⟩
  have respelt : s.Respelt t :=
    ⟨d, e, mirrors_of_compileWithin first, mirrors_of_compileWithin second, same⟩
  rw [validate, validate, violations_eq_reported, violations_eq_reported,
    findings_of_respelt respelt]

/-- A schema of members with a bound and an enumeration. -/
def tidy : Document.Proper :=
  ⟨.object [("required", .array [.string "a"]),
    ("properties", .object [("a", .object [("minimum", .number (.zero false))]),
      ("b", .object [("enum", .array [.object [("x", .null), ("y", .null)]])])])], by decide⟩

/-- The same in another order, with a zero of the other sign, a title and a default. -/
def loose : Document.Proper :=
  ⟨.object [("title", .string "loose"),
    ("properties", .object [
      ("b", .object [("default", .null), ("enum", .array [.object [("y", .null), ("x", .null)]])]),
      ("a", .object [("minimum", .number (.zero true))])]),
    ("required", .array [.string "a"])], by decide⟩

theorem validate_eq_of_respelt_loose :
    (pruned tidy).structurallyEqual (pruned loose) = true
      ∧ ∃ s t, Schema.compile tidy = .ok s ∧ Schema.compile loose = .ok t
        ∧ ∀ settings value, validate settings s value = validate settings t value := by
  have equal : (pruned tidy).structurallyEqual (pruned loose) = true := by decide
  obtain ⟨both, reports⟩ := validate_eq_of_respelt equal
  obtain ⟨s, first⟩ : ∃ s, Schema.compile tidy = .ok s := ⟨_, rfl⟩
  obtain ⟨t, second⟩ := both.mp ⟨s, first⟩
  exact ⟨equal, s, t, first, second, reports s t first second⟩

end Validation
end Conformance
