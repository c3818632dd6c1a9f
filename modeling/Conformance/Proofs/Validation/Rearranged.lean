import Conformance.Proofs.Document.Dump
import Conformance.Proofs.Validation.Modes

/-!
# Rearranged values

The walk follows the order of members, so values that are equal up to that order have their
violations in different orders. Apart from the order the violations are the same, texts included:
what a rule says of a value does not depend on the order of members or on the sign of a zero, at any
level. Only a predicate of the caller may look at either, so schemas are taken without them.

The members of one value are lined up with those of the other, which gives equal violations pair by
pair, and then put in the order of the other.
-/
namespace Conformance

/-- No predicate of the caller is among the checks, at any level. -/
inductive Schema.PredicateFree : Schema → Prop where
  | anything : PredicateFree .anything
  | node {kind : Option Kind} {required : List Text} {properties : List (Text × Schema)}
      {items : Option Schema} {bounds : Bounds} {checks : List Constraint}
      (own : ∀ rule ∈ checks, ∀ check, rule ≠ .check check)
      (inMembers : ∀ member ∈ properties, PredicateFree member.2)
      (inItems : ∀ sub, items = some sub → PredicateFree sub) :
      PredicateFree (.node kind required properties items bounds checks)

namespace Schema.PredicateFree

theorem of_property? {schema sub : Schema} (free : PredicateFree schema) {name : Text}
    (found : schema.property? name = some sub) : PredicateFree sub := by
  cases free with
  | anything => cases found
  | node _ inMembers _ => exact inMembers _ (Named.mem_of_get? found)

theorem of_items? {schema sub : Schema} (free : PredicateFree schema)
    (found : schema.items? = some sub) : PredicateFree sub := by
  cases free with
  | anything => cases found
  | node _ _ inItems => exact inItems sub found

theorem ne_check {schema : Schema} (free : PredicateFree schema) {rule : Constraint}
    (listed : rule ∈ schema.constraints) (check : Check) : rule ≠ .check check := by
  rcases List.mem_append.mp listed with bound | own
  · exact Bounds.ne_check_of_mem_constraints bound check
  · cases free with
    | anything => cases own
    | node among _ _ => exact among rule own check

end Schema.PredicateFree

/-- What a rule says of a value it says of every alike one. -/
theorem Constraint.failure?_congr {rule : Constraint} (plain : ∀ check, rule ≠ .check check)
    {v w : Document} (alike : v.Alike w) : rule.failure? v = rule.failure? w := by
  cases rule with
  | check check => exact absurd rfl (plain check)
  | enum values =>
    have equal : v.structurallyEqual = w.structurallyEqual :=
      funext (Document.structurallyEqual_congr_left alike)
    have shown : v.dump = w.dump := Document.dump_congr alike
    rw [failure?, failure?, equal, shown]
  | minimum limit =>
    cases alike with
    | number same =>
      have ordered := Extended.less_of_same same limit
      rw [failure?, failure?, ordered.1, Binary64.formatPlain_of_same same]
    | _ => rfl
  | maximum limit =>
    cases alike with
    | number same =>
      have ordered := Extended.less_of_same same limit
      rw [failure?, failure?, ordered.2, Binary64.formatPlain_of_same same]
    | _ => rfl
  | minItems limit | maxItems limit =>
    cases alike with
    | array each => simp only [failure?, each.length_eq]
    | _ => rfl
  | minLength limit | maxLength limit | pattern p => cases alike <;> rfl

namespace Validation

variable {v w : Document} {limit : Nat}

theorem ruleFindings_congr {schema : Schema} (free : schema.PredicateFree) (alike : v.Alike w)
    (path : Path) : ruleFindings path schema v = ruleFindings path schema w := by
  rw [ruleFindings, ruleFindings, alike.kind_eq]
  apply List.filterMap_congr
  intro rule listed
  rw [Schema.rulesOn_eq, List.mem_filter] at listed
  rw [Constraint.failure?_congr (free.ne_check listed.1) alike]

theorem missingFindings_congr {xs ys : Named Document}
    (alike : Document.Alike (.object xs) (.object ys)) (path : Path) (schema : Schema) :
    missingFindings path schema xs = missingFindings path schema ys := by
  simp only [missingFindings, alike.contains_eq]

/-- Lists made of parts agree up to order if the parts do pair by pair. -/
theorem flatMap_perm_of_forall₂ {α β : Type} {f : α → List β} {xs ys : List α}
    (each : List.Forall₂ (fun x y => (f x).Perm (f y)) xs ys) :
    (xs.flatMap f).Perm (ys.flatMap f) := by
  induction each with
  | nil => exact .nil
  | cons first _ ih => exact first.append ih

/-- The same where a part may depend on its place. -/
theorem flatMap_get_perm_of_forall₂ {α β : Type} {xs ys : List α} {f : Nat → α → List β}
    (each : List.Forall₂ (fun x y => ∀ index, (f index x).Perm (f index y)) xs ys) :
    ((List.finRange xs.length).flatMap fun index => f index.val (xs.get index)).Perm
      ((List.finRange ys.length).flatMap fun index => f index.val (ys.get index)) := by
  induction xs generalizing ys f with
  | nil =>
    cases each
    exact .nil
  | cons x xs ih =>
    cases each with
    | cons first later =>
      simp only [List.length_cons, List.finRange_succ, List.flatMap_cons, List.flatMap_map]
      -- The later elements stand one place further on than in the list of their own.
      exact (first 0).append
        (ih (f := fun index => f (index + 1)) (later.imp fun _ _ all index => all (index + 1)))

/-- Values have the same findings up to order once their parts do. -/
theorem findings_perm_of_parts (alike : v.Alike w) {schema : Schema} (free : schema.PredicateFree)
    {depth : Nat} {path : Path} (parts : (partFindings limit path depth schema v).Perm
      (partFindings limit path depth schema w)) :
    (findings limit path depth schema v).Perm (findings limit path depth schema w) := by
  rw [findings_eq, findings_eq, alike.kind_eq, ruleFindings_congr free alike]
  split
  · exact .refl _
  · split
    · exact .refl _
    · exact parts.append_right _

/-- The members of alike objects have the same findings up to order once the values of alike members
do. -/
theorem memberFindings_perm {xs ys : Named Document}
    (alike : Document.Alike (.object xs) (.object ys)) (schema : Schema)
    (inner : ∀ member ∈ xs, ∀ y, member.2.Alike y → ∀ sub, schema.property? member.1 = some sub →
      ∀ path depth, (findings limit path depth sub member.2).Perm (findings limit path depth sub y))
    (path : Path) (depth : Nat) :
    (partFindings limit path depth schema (.object xs)).Perm
      (partFindings limit path depth schema (.object ys)) := by
  rw [partFindings, partFindings, missingFindings_congr alike]
  apply List.Perm.append_left
  obtain ⟨ws, aligned, perm⟩ := alike.exists_aligned
  -- First member by member, which changes values only; then into the order of the other object.
  refine List.Perm.trans (flatMap_perm_of_forall₂ ?_) (perm.flatMap_right _)
  refine ((List.forall₂_and_left xs ws).mpr ⟨inner, aligned⟩).imp ?_
  rintro ⟨name, x⟩ ⟨_, w⟩ ⟨agree, rfl, held⟩
  cases asked : schema.property? name with
  | some sub =>
    dsimp only
    exact agree w held sub asked _ _
  | none =>
    dsimp only
    exact .nil

/-- Alike values have the same findings up to order. -/
theorem findings_perm (alike : v.Alike w) {schema : Schema} (free : schema.PredicateFree)
    (path : Path) (depth : Nat) :
    (findings limit path depth schema v).Perm (findings limit path depth schema w) := by
  -- The other value takes its steps with the first one, and the schema is the same for both.
  induction v generalizing w schema path depth with
  | null | boolean _ | number _ | string _ =>
    apply findings_perm_of_parts alike free
    cases alike
    exact .nil
  | array xs ih =>
    apply findings_perm_of_parts alike free
    cases alike with
    | array each =>
      rw [partFindings, partFindings]
      split
      next items asked =>
        refine flatMap_get_perm_of_forall₂ (f := fun (index : Nat) x =>
          findings limit (path ++ [.index index]) (depth + 1) items x) ?_
        refine ((List.forall₂_and_left xs _).mpr ⟨ih, each⟩).imp ?_
        rintro x y ⟨agree, held⟩ index
        exact agree held (free.of_items? asked) _ _
      next => exact .nil
  | object xs ih =>
    apply findings_perm_of_parts alike free
    cases alike with
    | @object _ ys left right each =>
      refine memberFindings_perm (.object left right each) schema ?_ path depth
      intro member present y held sub asked path depth
      exact ih member present held (free.of_property? asked) path depth

/-! ### Reports -/

/-- Values that are structurally equal have the same violations up to order, and one status in
either mode, unless a predicate of the caller looks at them. -/
theorem violations_perm_of_structurallyEqual {v w : Document.Proper}
    (equal : v.1.structurallyEqual w.1 = true) {schema : Schema} (free : schema.PredicateFree)
    (limit : Nat) :
    (validate ⟨limit, .collectAll⟩ schema v).violations.Perm
        (validate ⟨limit, .collectAll⟩ schema w).violations
      ∧ ∀ mode, (validate ⟨limit, mode⟩ schema v).status =
        (validate ⟨limit, mode⟩ schema w).status := by
  have alike := Document.alike_of_structurallyEqual v.2 w.2 equal
  have perm : (findings limit [] 0 schema v).Perm (findings limit [] 0 schema w) :=
    findings_perm alike free [] 0
  constructor
  · change (violations ⟨limit, .collectAll⟩ schema v).Perm
      (violations ⟨limit, .collectAll⟩ schema w)
    rw [violations_eq_reported, violations_eq_reported]
    exact perm
  · intro mode
    have empty : findings limit [] 0 schema v = [] ↔ findings limit [] 0 schema w = [] :=
      ⟨fun none => (none ▸ perm).nil_eq.symm, fun none => (none ▸ perm).eq_nil⟩
    simp only [status_validate, empty]

/-- A list below one name and a text below another. -/
def pair : Document.Proper :=
  ⟨.object [("b", .array [.number (.zero true)]), ("a", .string "x")], by decide⟩

/-- The same pair in the other order, with a zero of the other sign. -/
def swappedPair : Document.Proper :=
  ⟨.object [("a", .string "x"), ("b", .array [.number (.zero false)])], by decide⟩

/-- Neither zero is at least one, and the text is no number. -/
def pairSchema : Schema :=
  let atLeastOne : Schema :=
    .node none [] [] none { minimum := some ⟨false, Nat.pow 2 52, -52, by decide⟩ } []
  .node none [] [("a", .node (some .number) [] [] none {} []),
    ("b", .node none [] [] (some atLeastOne) {} [])] none {} []

theorem pairSchema_predicateFree : pairSchema.PredicateFree := by
  have free {kind : Option Kind} {bounds : Bounds} :
      Schema.PredicateFree (.node kind [] [] none bounds []) :=
    .node (List.forall_mem_nil _) (List.forall_mem_nil _) (fun _ absent => nomatch absent)
  refine .node (List.forall_mem_nil _) ?_ (fun _ absent => nomatch absent)
  rw [List.forall_mem_cons, List.forall_mem_singleton]
  refine ⟨free, .node (List.forall_mem_nil _) (List.forall_mem_nil _) ?_⟩
  intro sub same
  cases same
  exact free

theorem violations_perm_pair :
    pair.1.structurallyEqual swappedPair.1 = true ∧ pairSchema.PredicateFree
      ∧ (validate ⟨9, .collectAll⟩ pairSchema pair).violations.Perm
        (validate ⟨9, .collectAll⟩ pairSchema swappedPair).violations
      ∧ (∀ mode, (validate ⟨9, mode⟩ pairSchema pair).status =
        (validate ⟨9, mode⟩ pairSchema swappedPair).status)
      ∧ (validate ⟨9, .collectAll⟩ pairSchema pair).violations ≠
        (validate ⟨9, .collectAll⟩ pairSchema swappedPair).violations := by
  have equal : pair.1.structurallyEqual swappedPair.1 = true := by decide
  have reports := violations_perm_of_structurallyEqual equal pairSchema_predicateFree 9
  exact ⟨equal, pairSchema_predicateFree, reports.1, reports.2, by decide +kernel⟩

end Validation
end Conformance
