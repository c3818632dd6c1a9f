import Conformance.Proofs.Validation.Modes

/-!
# Members that a schema does not mention

An object may carry members that its schema neither describes nor requires. Nothing in the report
depends on them: neither their number nor their values, however deep, nor where they stand among the
others. This holds wherever in a document the object stands, as long as no schema on the way to it
has a rule that looks inside values. Only enumerations and checks of a caller do; bounds look at
texts, numbers and the length of arrays.
-/
namespace Conformance

/-! ### Rules that do not look inside -/

namespace Constraint

/-- Whether a rule may look at members and elements. -/
def looksInside : Constraint → Bool
  | .enum _ | .check _ => true
  | _ => false

variable {rule : Constraint}

theorem failure?_object (outside : rule.looksInside = false) (members : Named Document) :
    rule.failure? (.object members) = none := by
  cases rule with
  | enum _ | check _ => cases outside
  | _ => rfl

theorem failure?_array (outside : rule.looksInside = false) {xs ys : List Document}
    (length : xs.length = ys.length) :
    rule.failure? (.array xs) = rule.failure? (.array ys) := by
  cases rule with
  | minItems limit | maxItems limit => simp only [failure?, length]
  | enum _ | check _ => cases outside
  | _ => rfl

end Constraint

namespace Schema

/-- No rule on a value itself looks inside it. -/
def Blind (schema : Schema) : Prop := ∀ rule ∈ schema.constraints, rule.looksInside = false

theorem blind_of_bounds {schema : Schema} (enum : schema.bounds.enum = none)
    (checks : schema.checks = []) : schema.Blind := by
  intro rule listed
  rw [constraints, checks, List.append_nil] at listed
  cases rule with
  | enum values => simp [Bounds.constraints, enum] at listed
  | check check => exact absurd rfl (Bounds.ne_check_of_mem_constraints listed check)
  | _ => rfl

/-- Whether a member of the name is described or required. -/
def mentions (schema : Schema) (name : Text) : Bool :=
  name ∈ schema.properties.names || name ∈ schema.required

theorem mentions_of_required {schema : Schema} {name : Text} (asked : name ∈ schema.required) :
    schema.mentions name = true := by
  simp [mentions, asked]

theorem property?_of_unmentioned {schema : Schema} {name : Text}
    (unmentioned : schema.mentions name = false) : schema.property? name = none := by
  rw [mentions, Bool.or_eq_false_iff, decide_eq_false_iff_not] at unmentioned
  exact (Named.get?_eq_none_iff ..).mpr unmentioned.1

end Schema

namespace Document

/-- Values that look the same to rules that do not look inside: both are objects, or both are arrays
of one length. -/
inductive SameOutline : Document → Document → Prop where
  | object (xs ys : Named Document) : SameOutline (.object xs) (.object ys)
  | array {xs ys : List Document} (length : xs.length = ys.length) :
      SameOutline (.array xs) (.array ys)

theorem SameOutline.kind_eq {v w : Document} (outline : v.SameOutline w) : v.kind = w.kind := by
  cases outline <;> rfl

end Document

namespace Validation

open Schema

variable {schema : Schema} {v w : Document}

/-! ### Lists made of parts -/

private theorem flatMap_filter_of_quiet {α β : Type} {f : α → List β} {passes : α → Bool}
    (quiet : ∀ a, passes a = false → f a = []) (xs : List α) :
    (xs.filter passes).flatMap f = xs.flatMap f := by
  induction xs with
  | nil => rfl
  | cons x rest ih =>
    rw [List.filter_cons, List.flatMap_cons]
    cases passed : passes x with
    | true => rw [if_pos rfl, List.flatMap_cons, ih]
    | false => rw [if_neg Bool.false_ne_true, ih, quiet x passed, List.nil_append]

/-- Lists made of elements and their places agree if they do so at the one element that differs. -/
private theorem flatMap_get_replaced {α β : Type} {f : Nat → α → List β} {a b : α}
    (same : ∀ index, f index a = f index b) (before after : List α) :
    ((List.finRange (before ++ a :: after).length).flatMap fun index =>
        f index.val ((before ++ a :: after).get index)) =
      (List.finRange (before ++ b :: after).length).flatMap fun index =>
        f index.val ((before ++ b :: after).get index) := by
  induction before generalizing f with
  | nil =>
    simp only [List.nil_append, List.length_cons, List.finRange_succ, List.flatMap_cons,
      List.flatMap_map, List.get_cons_zero, List.get_cons_succ', same]
  | cons first rest ih =>
    simp only [List.cons_append, List.length_cons, List.finRange_succ, List.flatMap_cons,
      List.flatMap_map]
    exact congrArg _ (ih (f := fun index => f (index + 1)) fun index => same (index + 1))

/-! ### Members without a say -/

/-- Objects that agree in the members that their schema mentions, and in the order of these, and
documents around such objects that agree in all the rest. No schema on the way looks inside values. -/
inductive Unnoticed : Schema → Document → Document → Prop where
  | here {schema : Schema} {members others : Named Document} (blind : schema.Blind)
      (same : (members.filter fun member => schema.mentions member.1) =
        others.filter fun member => schema.mentions member.1) :
      Unnoticed schema (.object members) (.object others)
  | member {schema sub : Schema} (before after : Named Document) {name : Text} {v w : Document}
      (blind : schema.Blind) (asked : schema.property? name = some sub)
      (inner : Unnoticed sub v w) :
      Unnoticed schema (.object (before ++ (name, v) :: after))
        (.object (before ++ (name, w) :: after))
  | element {schema items : Schema} (before after : List Document) {v w : Document}
      (blind : schema.Blind) (asked : schema.items? = some items) (inner : Unnoticed items v w) :
      Unnoticed schema (.array (before ++ v :: after)) (.array (before ++ w :: after))

theorem ruleFindings_eq_of_outline (blind : schema.Blind) (outline : v.SameOutline w)
    (path : Path) : ruleFindings path schema v = ruleFindings path schema w := by
  rw [ruleFindings, ruleFindings, outline.kind_eq]
  apply List.filterMap_congr
  intro rule listed
  rw [Schema.rulesOn_eq, List.mem_filter] at listed
  have outside := blind rule listed.1
  cases outline with
  | object xs ys => rw [Constraint.failure?_object outside, Constraint.failure?_object outside]
  | array length => rw [Constraint.failure?_array outside length]

/-- Values with one outline have the same findings if their parts do. -/
theorem findings_eq_of_parts (blind : schema.Blind) (outline : v.SameOutline w) {limit depth : Nat}
    {path : Path} (parts : partFindings limit path depth schema v =
      partFindings limit path depth schema w) :
    findings limit path depth schema v = findings limit path depth schema w := by
  rw [findings_eq, findings_eq, outline.kind_eq, parts, ruleFindings_eq_of_outline blind outline]

/-- The parts that a schema mentions have all the findings of an object. -/
theorem partFindings_mentioned (limit : Nat) (path : Path) (depth : Nat) (schema : Schema)
    (members : Named Document) :
    partFindings limit path depth schema
        (.object (members.filter fun member => schema.mentions member.1)) =
      partFindings limit path depth schema (.object members) := by
  have missing : missingFindings path schema
      (members.filter fun member => schema.mentions member.1) =
      missingFindings path schema members := by
    rw [missingFindings, missingFindings]
    congr 1
    apply List.filter_congr
    intro name asked
    rw [Named.contains, Named.contains, Named.get?_filter _ (mentions_of_required asked)]
  rw [partFindings, partFindings, missing, flatMap_filter_of_quiet]
  intro member unmentioned
  rw [property?_of_unmentioned unmentioned]

theorem findings_eq_of_unnoticed (unnoticed : Unnoticed schema v w) (limit : Nat) (path : Path)
    (depth : Nat) :
    findings limit path depth schema v = findings limit path depth schema w := by
  -- Down to the object itself the two values differ in one part at a time, and a part may stand at
  -- any path and depth.
  induction unnoticed generalizing path depth with
  | @here schema members others blind same =>
    apply findings_eq_of_parts blind (.object _ _)
    rw [← partFindings_mentioned, same, partFindings_mentioned]
  | @member schema sub before after name v w blind asked _ ih =>
    apply findings_eq_of_parts blind (.object _ _)
    have names : Named.names (before ++ (name, v) :: after) =
        Named.names (before ++ (name, w) :: after) := by
      simp only [Named.names, List.map_append, List.map_cons]
    simp only [partFindings, missingFindings, List.flatMap_append, List.flatMap_cons, asked, ih,
      Named.contains_eq_of_names names]
  | @element schema items before after v w blind asked _ ih =>
    apply findings_eq_of_parts blind (.array (by simp))
    rw [partFindings, partFindings, asked]
    exact flatMap_get_replaced
      (fun index => ih (path ++ [.index index]) (depth + 1)) before after

/-- Members that the schema of their object does not mention have no influence on a report, wherever
the object stands. -/
theorem validate_eq_of_unnoticed (unnoticed : Unnoticed schema v w) (settings : Settings) :
    validate settings schema v = validate settings schema w := by
  rw [validate, validate, violations_eq_reported, violations_eq_reported,
    findings_eq_of_unnoticed unnoticed]

/-- Every book has a year, and a title that is a text. -/
def bookSchema : Schema :=
  .node none ["year"] [("title", .node (some .string) [] [] none {} [])] none {} []

/-- A list of books. -/
def booksSchema : Schema :=
  .node none [] [("books", .node none [] [] (some bookSchema) { minItems := some 2 } [])] none {} []

theorem validate_eq_of_unnoticed_books :
    let plain : Document := .object [("title", .null)]
    let noted : Document := .object [("note", .array [.array []]), ("title", .null), ("price", .null)]
    let around (book : Document) : Document :=
      .object [("shelf", .string "a"), ("books", .array [.object [], book])]
    Unnoticed booksSchema (around plain) (around noted)
      ∧ validate ⟨3, .collectAll⟩ booksSchema (around plain) =
        validate ⟨3, .collectAll⟩ booksSchema (around noted)
      ∧ (validate ⟨3, .collectAll⟩ booksSchema (around noted)).violations =
        [missingViolation [.name "books", .index 0] "year",
          missingViolation [.name "books", .index 1] "year",
          kindViolation [.name "books", .index 1, .name "title"] .string .null] := by
  intro plain noted around
  have inner : Unnoticed bookSchema plain noted := .here (blind_of_bounds rfl rfl) rfl
  have books : Unnoticed (.node none [] [] (some bookSchema) { minItems := some 2 } [])
      (.array [.object [], plain]) (.array [.object [], noted]) :=
    .element [.object []] [] (blind_of_bounds rfl rfl) rfl inner
  have whole : Unnoticed booksSchema (around plain) (around noted) :=
    .member [("shelf", .string "a")] [] (blind_of_bounds rfl rfl) rfl books
  exact ⟨whole, validate_eq_of_unnoticed whole ⟨3, .collectAll⟩, by decide⟩

end Validation
end Conformance
