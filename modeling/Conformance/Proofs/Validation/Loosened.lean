import Conformance.Proofs.Schema.Pruned
import Conformance.Proofs.Validation.Conforms
import Mathlib.Logic.Relation

/-!
# Loosened schemas

A schema document is loosened by deletions: of keywords, of members of `properties` and of entries
of `required`, wherever a schema stands in it. What is left is a schema that rejects no value which
the whole one accepts, however deep values may go.

Both are shown for one deletion by induction on the way to it, and then for any number. A node is
well formed, and a value conforms to it, by conditions on its keywords one at a time (`Fits`,
`Asks`), so a deletion has to be looked at only where it happens: under the keyword whose value it
changes.
-/
namespace Conformance.Schema

/-! ### Deletions -/

/-- One deletion: of a keyword, of a schema for a member, or of an entry of `required`, in the
document itself or in a schema inside it. -/
inductive Loosens : Document → Document → Prop where
  | keyword (rules : Named Document) (keyword : Keyword) :
      Loosens (.object rules) (.object (rules.filter fun rule => rule.1 ≠ keyword.name))
  | property (before schemas after : Named Document) (name : Text) :
      Loosens (.object (before ++ (Keyword.properties.name, .object schemas) :: after))
        (.object (before ++ (Keyword.properties.name,
          .object (schemas.filter fun member => member.1 ≠ name)) :: after))
  | required (before after : Named Document) (first : List Document) (entry : Document)
      (rest : List Document) :
      Loosens
        (.object (before ++ (Keyword.required.name, .array (first ++ entry :: rest)) :: after))
        (.object (before ++ (Keyword.required.name, .array (first ++ rest)) :: after))
  | inProperty (before first : Named Document) (name : Text) (rest after : Named Document)
      {d e : Document} (inner : Loosens d e) :
      Loosens
        (.object (before ++ (Keyword.properties.name,
          .object (first ++ (name, d) :: rest)) :: after))
        (.object (before ++ (Keyword.properties.name,
          .object (first ++ (name, e) :: rest)) :: after))
  | inItems (before after : Named Document) {d e : Document} (inner : Loosens d e) :
      Loosens (.object (before ++ (Keyword.items.name, d) :: after))
        (.object (before ++ (Keyword.items.name, e) :: after))

/-! ### One keyword at a time -/

section Given

variable {holds : Keyword → Document → Prop}

/-- What holds of all keywords of a node holds of those that are left. -/
theorem given_of_fewer {rules : Named Document} (deleted : Keyword)
    (all : ∀ keyword, Given rules keyword (holds keyword)) (keyword : Keyword) :
    Given (rules.filter fun rule => rule.1 ≠ deleted.name) keyword (holds keyword) := by
  intro d found
  have present : rules.get? keyword.name = some d :=
    Named.get?_of_get?_filter (fun name => name ≠ deleted.name) found
  exact all keyword d present

/-- What holds of all keywords of a node still does when one value gives way to another, if it passes
from the one to the other. -/
theorem given_replaced {before after : Named Document} {changed : Keyword} {d e : Document}
    (less : holds changed d → holds changed e)
    (all : ∀ keyword, Given (before ++ (changed.name, d) :: after) keyword (holds keyword))
    (keyword : Keyword) :
    Given (before ++ (changed.name, e) :: after) keyword (holds keyword) := by
  intro value found
  rcases Named.get?_replaced before after changed.name d e keyword.name with
    same | ⟨named, old, new⟩
  · rw [same] at found
    exact all keyword value found
  · obtain rfl := Keyword.name_injective named
    rw [new] at found
    cases found
    exact less (all keyword d old)

end Given

/-- The value of a keyword is one that it has in a schema at a depth. -/
def Fits (depth : Nat) : Keyword → Document → Prop
  | .type, d => ∃ kind : Kind, d = .string kind.name
  | .required, d => ∃ entries, d = .array entries
  | .properties, d => ∃ schemas, d = .object schemas ∧
      ∀ member ∈ schemas, WellFormed (depth + 1) member.2
  | .items, d => WellFormed (depth + 1) d
  | .minLength, d | .maxLength, d | .minItems, d | .maxItems, d => ∃ n, Counts d n
  | .minimum, d | .maximum, d => ∃ x, d = .number x
  | .pattern, d => ∃ p, Spells d p
  | .enum, d => ∃ values, d = .array values

theorem wellFormed_object_iff {depth : Nat} {rules : Named Document} :
    WellFormed depth (.object rules) ↔
      depth ≤ maxDepth ∧ ∀ keyword, Given rules keyword (Fits depth keyword) := by
  constructor
  · intro formed
    cases formed with
    | node reached shaped properties items =>
      refine ⟨reached, fun keyword => ?_⟩
      cases keyword with
      | properties =>
        intro d found
        obtain ⟨schemas, rfl⟩ := shaped.properties d found
        exact ⟨schemas, rfl, properties schemas found⟩
      | items => exact items
      | type => exact shaped.type
      | required => exact shaped.required
      | minLength => exact shaped.minLength
      | maxLength => exact shaped.maxLength
      | minItems => exact shaped.minItems
      | maxItems => exact shaped.maxItems
      | minimum => exact shaped.minimum
      | maximum => exact shaped.maximum
      | pattern => exact shaped.pattern
      | enum => exact shaped.enum
  · rintro ⟨reached, all⟩
    refine .node reached ?_ ?_ (all .items)
    · exact {
        type := all .type
        required := all .required
        properties := fun d found =>
          let ⟨schemas, same, _⟩ := all .properties d found
          ⟨schemas, same⟩
        minLength := all .minLength
        maxLength := all .maxLength
        minItems := all .minItems
        maxItems := all .maxItems
        minimum := all .minimum
        maximum := all .maximum
        pattern := all .pattern
        enum := all .enum }
    · intro schemas found
      obtain ⟨_, same, inside⟩ := all .properties _ found
      cases same
      exact inside

/-- A deletion leaves a schema. -/
theorem WellFormed.loosens {d e : Document} (step : Loosens d e) {depth : Nat}
    (formed : WellFormed depth d) : WellFormed depth e := by
  induction step generalizing depth with
  | keyword rules keyword =>
    obtain ⟨reached, all⟩ := wellFormed_object_iff.mp formed
    exact wellFormed_object_iff.mpr ⟨reached, given_of_fewer keyword all⟩
  | property before schemas after name =>
    obtain ⟨reached, all⟩ := wellFormed_object_iff.mp formed
    refine wellFormed_object_iff.mpr ⟨reached, given_replaced ?_ all⟩
    rintro ⟨_, same, inside⟩
    cases same
    exact ⟨_, rfl, fun member kept => inside member (List.mem_of_mem_filter kept)⟩
  | required before after first entry rest =>
    obtain ⟨reached, all⟩ := wellFormed_object_iff.mp formed
    exact wellFormed_object_iff.mpr ⟨reached, given_replaced (fun _ => ⟨_, rfl⟩) all⟩
  | inProperty before first name rest after _ ih =>
    obtain ⟨reached, all⟩ := wellFormed_object_iff.mp formed
    refine wellFormed_object_iff.mpr ⟨reached, given_replaced ?_ all⟩
    rintro ⟨_, same, inside⟩
    cases same
    rw [List.forall_mem_append, List.forall_mem_cons] at inside
    refine ⟨_, rfl, ?_⟩
    rw [List.forall_mem_append, List.forall_mem_cons]
    exact ⟨inside.1, ih inside.2.1, inside.2.2⟩
  | inItems before after _ ih =>
    obtain ⟨reached, all⟩ := wellFormed_object_iff.mp formed
    exact wellFormed_object_iff.mpr ⟨reached, given_replaced ih all⟩

end Schema

namespace Validation

open Schema

variable {limit depth : Nat} {value : Document}

/-- What the value of a keyword asks of a value at a depth. -/
def Asks (limit depth : Nat) (value : Document) : Keyword → Document → Prop
  | .type, d => d = .string value.kind.name
  | .required, d => ∀ entries, d = .array entries → ∀ members, value = .object members →
      ∀ name ∈ texts entries, ∃ inner, (name, inner) ∈ members
  | .properties, d => ∀ schemas, d = .object schemas → ∀ members, value = .object members →
      ∀ member ∈ members, ∀ sub, Named.get? schemas member.1 = some sub →
        Conforms limit (depth + 1) sub member.2
  | .items, d => ∀ elements, value = .array elements → ∀ element ∈ elements,
      Conforms limit (depth + 1) d element
  | .minLength, d => ∃ n, Counts d n ∧ ∀ text, value = .string text → n ≤ text.length
  | .maxLength, d => ∃ n, Counts d n ∧ ∀ text, value = .string text → text.length ≤ n
  | .minItems, d => ∃ n, Counts d n ∧ ∀ elements, value = .array elements → n ≤ elements.length
  | .maxItems, d => ∃ n, Counts d n ∧ ∀ elements, value = .array elements → elements.length ≤ n
  | .minimum, d => ∃ least, d = .number least ∧ ∀ x, value = .number x → least.value ≤ x.value
  | .maximum, d => ∃ most, d = .number most ∧ ∀ x, value = .number x → x.value ≤ most.value
  | .pattern, d => ∃ p, Spells d p ∧ ∀ text, value = .string text → p.search text = true
  | .enum, d => ∃ values, d = .array values ∧ ∃ other ∈ values, value.structurallyEqual other = true

/-- Required names are those of the value of the keyword, where that is an array. -/
theorem forall_mem_declared_iff {rules : Named Document} {P : Text → Prop} :
    (∀ name ∈ declared rules, P name) ↔ Given rules .required fun d =>
      ∀ entries, d = .array entries → ∀ name ∈ texts entries, P name := by
  rw [declared, Given]
  split
  next entries found => simp [found]
  next other =>
    -- Without an array nothing is declared, and nothing is asked for.
    constructor
    · rintro _ d found entries rfl
      exact absurd found (other entries)
    · simp

theorem conforms_object_iff {rules : Named Document} :
    Conforms limit depth (.object rules) value ↔
      depth ≤ limit ∧ ∀ keyword, Given rules keyword (Asks limit depth value keyword) := by
  constructor
  · intro conforms
    cases conforms with
    | node reached permits inMembers inElements =>
      refine ⟨reached, fun keyword => ?_⟩
      cases keyword with
      | required =>
        intro d found entries array members object
        exact forall_mem_declared_iff.mp (permits.required members object) d found entries array
      | properties =>
        intro d found schemas held members object member present sub asked
        apply inMembers members object member present sub
        rw [subschemas, found, held]
        exact asked
      | items =>
        intro d found elements array element present
        exact inElements elements array element present d found
      | type => exact permits.type
      | minLength => exact permits.bounds.minLength
      | maxLength => exact permits.bounds.maxLength
      | minItems => exact permits.bounds.minItems
      | maxItems => exact permits.bounds.maxItems
      | minimum => exact permits.bounds.minimum
      | maximum => exact permits.bounds.maximum
      | pattern => exact permits.bounds.pattern
      | enum => exact permits.bounds.enum
  · rintro ⟨reached, all⟩
    have bounds : WithinBounds rules value :=
      { minLength := all .minLength
        maxLength := all .maxLength
        minItems := all .minItems
        maxItems := all .maxItems
        minimum := all .minimum
        maximum := all .maximum
        pattern := all .pattern
        enum := all .enum }
    have required (members : Named Document) (object : value = .object members) :
        ∀ name ∈ declared rules, ∃ inner, (name, inner) ∈ members :=
      forall_mem_declared_iff.mpr fun d found entries array =>
        all .required d found entries array members object
    refine .node reached ⟨all .type, required, bounds⟩ ?_ ?_
    · intro members object member present sub asked
      -- What a name finds among the schemas stands in the value of `properties`.
      rw [subschemas] at asked
      split at asked
      next schemas found =>
        exact all .properties _ found schemas rfl members object member present sub asked
      next => cases asked
    · intro elements array element present sub found
      exact all .items sub found elements array element present

/-- A deletion rejects no more values. -/
theorem Conforms.loosens {d e : Document} (step : Loosens d e)
    (conforms : Conforms limit depth d value) : Conforms limit depth e value := by
  -- A deletion below a keyword changes what is asked of the parts of the value, one level down.
  induction step generalizing depth value with
  | keyword rules keyword =>
    obtain ⟨reached, all⟩ := conforms_object_iff.mp conforms
    exact conforms_object_iff.mpr ⟨reached, given_of_fewer keyword all⟩
  | property before schemas after name =>
    obtain ⟨reached, all⟩ := conforms_object_iff.mp conforms
    refine conforms_object_iff.mpr ⟨reached, given_replaced ?_ all⟩
    rintro asks _ ⟨⟩ members object member present sub found
    have kept : schemas.get? member.1 = some sub :=
      Named.get?_of_get?_filter (fun other => other ≠ name) found
    exact asks schemas rfl members object member present sub kept
  | required before after first entry rest =>
    obtain ⟨reached, all⟩ := conforms_object_iff.mp conforms
    refine conforms_object_iff.mpr ⟨reached, given_replaced ?_ all⟩
    rintro asks _ ⟨⟩ members object name listed
    have fewer : (first ++ rest).Sublist (first ++ entry :: rest) :=
      (List.Sublist.refl first).append (List.sublist_cons_self entry rest)
    exact asks _ rfl members object name ((fewer.filterMap _).subset listed)
  | inProperty before first name rest after _ ih =>
    obtain ⟨reached, all⟩ := conforms_object_iff.mp conforms
    refine conforms_object_iff.mpr ⟨reached, given_replaced ?_ all⟩
    rintro asks _ ⟨⟩ members object member present sub found
    -- The name finds the schema that was loosened, or another one that is as it was.
    rcases Named.get?_replaced first rest name _ _ member.1 with same | ⟨_, old, new⟩
    · rw [same] at found
      exact asks _ rfl members object member present sub found
    · rw [new] at found
      cases found
      exact ih (asks _ rfl members object member present _ old)
  | inItems before after _ ih =>
    obtain ⟨reached, all⟩ := conforms_object_iff.mp conforms
    refine conforms_object_iff.mpr ⟨reached, given_replaced ?_ all⟩
    intro asks elements array element present
    exact ih (asks elements array element present)

/-! ### Any number of deletions -/

/-- Deletions leave a schema that rejects no more values than the one they were made in. -/
theorem loosened_of_steps {d e : Document} (steps : Relation.ReflTransGen Loosens d e) :
    (∀ depth, WellFormed depth d → WellFormed depth e)
      ∧ ∀ limit depth value, Conforms limit depth d value → Conforms limit depth e value := by
  induction steps with
  | refl => exact ⟨fun _ formed => formed, fun _ _ _ conforms => conforms⟩
  | tail _ step ih =>
    obtain ⟨formed, conforms⟩ := ih
    exact ⟨fun depth whole => (formed depth whole).loosens step,
      fun limit depth value accepted => (conforms limit depth value accepted).loosens step⟩

/-- A schema from which keywords, properties and entries of `required` are deleted, anywhere in it,
is a schema, and every value that is valid against the whole one is valid against what is left, in
either mode and however deep the walk may go. -/
theorem isValid_of_loosened {document loosened : Document} {schema : Schema}
    (compiled : compile document = .ok schema)
    (deletions : Relation.ReflTransGen Loosens document loosened) :
    ∃ schema', compile loosened = .ok schema' ∧ ∀ settings value,
      (validate settings schema value).isValid = true →
        (validate settings schema' value).isValid = true := by
  obtain ⟨formed, conforms⟩ := loosened_of_steps deletions
  have sum : maxDepth + 1 + 0 = maxDepth + 1 := rfl
  obtain ⟨schema', compiled'⟩ := (exists_compileWithin_iff sum [] loosened).mpr
    (formed 0 (wellFormed_of_compile compiled))
  refine ⟨schema', compiled', fun settings value valid => ?_⟩
  rw [isValid_validate, findings_eq_nil_iff_conforms (mirrors_of_compileWithin compiled)] at valid
  rw [isValid_validate, findings_eq_nil_iff_conforms (mirrors_of_compileWithin compiled')]
  exact conforms settings.maxDepth 0 value valid

/-- A member that must be a number, and a list of one word only. -/
def strictEntry : Document :=
  .object [("required", .array [.string "n", .string "t"]),
    ("properties", .object [("n", .object [("type", .string "number")]),
      ("t", .object [("items", .object [("enum", .array [.string "a"])])])])]

/-- The same without the first member, and with a list of anything. -/
def looseEntry : Document :=
  .object [("required", .array [.string "t"]),
    ("properties", .object [("t", .object [("items", .object [])])])]

/-- A list of another word. -/
def entry : Document := .object [("t", .array [.string "b"])]

theorem loosened_looseEntry : Relation.ReflTransGen Loosens strictEntry looseEntry := by
  let list (rules : Named Document) : Text × Document := ("t", .object [("items", .object rules)])
  let number : Text × Document := ("n", .object [("type", .string "number")])
  let oneWord : Named Document := [("enum", .array [.string "a"])]
  let schema (required : List Document) (schemas : Named Document) : Document :=
    .object [("required", .array required), ("properties", .object schemas)]
  have unrequired : Loosens strictEntry (schema [.string "t"] [number, list oneWord]) :=
    .required [] [("properties", .object [number, list oneWord])] [] (.string "n") [.string "t"]
  have undescribed : Loosens (schema [.string "t"] [number, list oneWord])
      (schema [.string "t"] [list oneWord]) :=
    .property [("required", .array [.string "t"])] [number, list oneWord] [] "n"
  have unbounded : Loosens (schema [.string "t"] [list oneWord]) looseEntry :=
    .inProperty [("required", .array [.string "t"])] [] "t" [] []
      (.inItems [] [] (.keyword oneWord .enum))
  exact .head unrequired (.head undescribed (.single unbounded))

theorem isValid_of_loosened_entry :
    ∃ s t, compile strictEntry = .ok s ∧ Relation.ReflTransGen Loosens strictEntry looseEntry
      ∧ compile looseEntry = .ok t
      ∧ (∀ settings value, (validate settings s value).isValid = true →
        (validate settings t value).isValid = true)
      ∧ (validate .standard s entry).isValid = false
      ∧ (validate .standard t entry).isValid = true := by
  obtain ⟨s, compiled, rejected⟩ : ∃ s, compile strictEntry = .ok s ∧
      (validate .standard s entry).isValid = false := ⟨_, rfl, by decide⟩
  obtain ⟨t, compiled', accepted⟩ : ∃ t, compile looseEntry = .ok t ∧
      (validate .standard t entry).isValid = true := ⟨_, rfl, by decide⟩
  obtain ⟨_, same, keeps⟩ := isValid_of_loosened compiled loosened_looseEntry
  cases compiled'.symm.trans same
  exact ⟨s, t, compiled, loosened_looseEntry, compiled', keeps, rejected, accepted⟩

end Validation
end Conformance
