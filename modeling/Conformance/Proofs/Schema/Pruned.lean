import Conformance.Proofs.Document.Alike
import Conformance.Proofs.Schema.WellFormed

/-!
# Schemas without what has no meaning

`pruned` leaves out every member that is no keyword, wherever a schema stands: at the root, below
the names of `properties` and in `items`. What stands in `enum` is no schema and keeps all members.

When two documents are alike once they are pruned, each keyword has pruned values that are alike, or
is absent from both (`Pruned.keyword`). That is all that is used of them. Hence one of them is a
schema exactly when the other is.
-/
namespace Conformance

namespace Keyword

def ofName? (name : Text) : Option Keyword := all.find? fun keyword => keyword.name = name

theorem ofName?_eq_some_iff (name : Text) (keyword : Keyword) :
    ofName? name = some keyword ↔ name = keyword.name := by
  constructor
  · intro found
    have same := List.find?_some found
    exact (of_decide_eq_true same).symm
  · rintro rfl
    cases keyword <;> rfl

theorem name_injective {first second : Keyword} (same : first.name = second.name) :
    first = second := by
  have found := (ofName?_eq_some_iff first.name second).mpr same
  rw [(ofName?_eq_some_iff first.name first).mpr rfl] at found
  exact Option.some.inj found

end Keyword

namespace Schema

open Document (Alike WellNamed)

/-! ### Pruning -/

mutual

/-- The document without members that are no keywords, wherever a schema stands in it. -/
def pruned : Document → Document
  | .object rules => .object (prunedRules rules)
  | other => other

def prunedRules : Named Document → Named Document
  | [] => []
  | (name, value) :: rest =>
    match Keyword.ofName? name, value with
    | none, _ => prunedRules rest
    | some .items, value => (name, pruned value) :: prunedRules rest
    | some .properties, .object schemas => (name, .object (prunedEach schemas)) :: prunedRules rest
    | some _, value => (name, value) :: prunedRules rest

def prunedEach : Named Document → Named Document
  | [] => []
  | (name, value) :: rest => (name, pruned value) :: prunedEach rest

end

/-- The value of a keyword with the schemas inside it pruned. -/
def prunedAt (keyword : Keyword) (value : Document) : Document :=
  match keyword, value with
  | .items, value => pruned value
  | .properties, .object schemas => .object (prunedEach schemas)
  | _, value => value

theorem prunedRules_cons (name : Text) (value : Document) (rest : Named Document) :
    prunedRules ((name, value) :: rest) =
      match Keyword.ofName? name with
      | none => prunedRules rest
      | some keyword => (name, prunedAt keyword value) :: prunedRules rest := by
  rw [prunedRules.eq_def]
  dsimp only
  cases Keyword.ofName? name with
  | none => rfl
  | some keyword =>
    cases keyword with
    | properties => cases value <;> rfl
    | _ => rfl

theorem prunedEach_eq (schemas : Named Document) :
    prunedEach schemas = schemas.map fun member => (member.1, pruned member.2) := by
  induction schemas with
  | nil => rfl
  | cons member rest ih =>
    obtain ⟨name, value⟩ := member
    rw [prunedEach, ih, List.map_cons]

theorem get?_prunedRules (rules : Named Document) (keyword : Keyword) :
    (prunedRules rules).get? keyword.name = (rules.get? keyword.name).map (prunedAt keyword) := by
  induction rules with
  | nil => rfl
  | cons rule rest ih =>
    obtain ⟨name, value⟩ := rule
    rw [prunedRules_cons, Named.get?_cons]
    by_cases same : name = keyword.name
    · have known := (Keyword.ofName?_eq_some_iff name keyword).mpr same
      rw [known, Named.get?_cons, if_pos same, if_pos same, Option.map_some]
    · rw [if_neg same]
      cases Keyword.ofName? name with
      | none => exact ih
      | some other => rw [Named.get?_cons, if_neg same, ih]

theorem get?_prunedEach (schemas : Named Document) (name : Text) :
    (prunedEach schemas).get? name = (schemas.get? name).map pruned := by
  induction schemas with
  | nil => rfl
  | cons member rest ih =>
    obtain ⟨key, value⟩ := member
    rw [prunedEach, Named.get?_cons, Named.get?_cons, ih]
    split <;> rfl

theorem names_prunedEach (schemas : Named Document) :
    (prunedEach schemas).names = schemas.names := by
  rw [prunedEach_eq, Named.names, List.map_map]
  rfl

/-! ### Pruned documents keep their names distinct -/

theorem names_prunedRules (rules : Named Document) :
    (prunedRules rules).names.Sublist rules.names := by
  induction rules with
  | nil => exact .slnil
  | cons rule rest ih =>
    obtain ⟨name, value⟩ := rule
    rw [prunedRules_cons]
    cases Keyword.ofName? name with
    | none => exact ih.cons name
    | some keyword => exact ih.cons_cons name

mutual

/-- A well-named document stays well named. -/
theorem wellNamed_pruned : ∀ d : Document, d.WellNamed → (pruned d).WellNamed
  | .object rules, named =>
    .object ((names_prunedRules rules).nodup named.distinct_names)
      (wellNamed_prunedRules rules fun _ => named.of_mem_object)
  | .null, named | .boolean _, named | .number _, named | .string _, named | .array _, named =>
    named

theorem wellNamed_prunedRules :
    ∀ rules : Named Document, (∀ rule ∈ rules, rule.2.WellNamed) →
      ∀ rule ∈ prunedRules rules, rule.2.WellNamed
  | [], _, _, member => by cases member
  | (name, value) :: rest, named, rule, member => by
    have others := wellNamed_prunedRules rest fun other later =>
      named other (List.mem_cons_of_mem _ later)
    rw [prunedRules_cons] at member
    split at member
    · exact others rule member
    next keyword _ =>
      rcases List.mem_cons.mp member with rfl | later
      · have own : value.WellNamed := named _ List.mem_cons_self
        -- Only two keywords have schemas in them.
        cases keyword with
        | items => exact wellNamed_pruned value own
        | properties =>
          cases value with
          | object schemas =>
            refine .object ?_ (wellNamed_prunedEach schemas fun _ => own.of_mem_object)
            rw [names_prunedEach]
            exact own.distinct_names
          | _ => exact own
        | _ => exact own
      · exact others rule later

theorem wellNamed_prunedEach :
    ∀ schemas : Named Document, (∀ member ∈ schemas, member.2.WellNamed) →
      ∀ member ∈ prunedEach schemas, member.2.WellNamed
  | [], _, _, member => by cases member
  | (name, value) :: rest, named, entry, member => by
    rw [prunedEach] at member
    rcases List.mem_cons.mp member with rfl | later
    · exact wellNamed_pruned value (named _ List.mem_cons_self)
    · exact wellNamed_prunedEach rest
        (fun other there => named other (List.mem_cons_of_mem _ there)) entry later

end

/-! ### Alike once they are pruned -/

/-- The documents differ in nothing that has a meaning in a schema. -/
def SameRules (d e : Document) : Prop := Alike (pruned d) (pruned e)

theorem SameRules.symm {d e : Document} (same : SameRules d e) : SameRules e d := Alike.symm same

/-- The values of each keyword are alike once they are pruned, if the keyword is there. -/
theorem SameRules.keyword {rules others : Named Document}
    (same : SameRules (.object rules) (.object others)) (keyword : Keyword) :
    Option.Rel (fun v w => Alike (prunedAt keyword v) (prunedAt keyword w))
      (rules.get? keyword.name) (others.get? keyword.name) := by
  have found := Alike.get? same keyword.name
  rw [get?_prunedRules, get?_prunedRules, Named.rel_map_iff] at found
  exact found

theorem SameRules.exists_object {rules : Named Document} {e : Document}
    (same : SameRules (.object rules) e) : ∃ others, e = .object others := by
  cases e with
  | object others => exact ⟨others, rfl⟩
  | _ => cases same

theorem SameRules.eq_true {e : Document} (same : SameRules (.boolean true) e) :
    e = .boolean true := by
  cases e with
  | boolean value =>
    cases same
    rfl
  | _ => cases same

/-- The schemas for a member say the same, if there are any. -/
theorem SameRules.subschemas {rules others : Named Document}
    (same : SameRules (.object rules) (.object others)) (name : Text) :
    Option.Rel SameRules ((subschemas rules).get? name) ((subschemas others).get? name) := by
  rw [Schema.subschemas, Schema.subschemas]
  rcases Named.rel_cases (same.keyword .properties) with
    ⟨absent, lacking⟩ | ⟨v, w, found, there, alike⟩
  · rw [absent, lacking]
    exact .none
  · rw [found, there]
    cases v with
    | object schemas =>
      cases w with
      | object schemas' =>
        have inner := Alike.get? alike name
        rw [get?_prunedEach, get?_prunedEach, Named.rel_map_iff] at inner
        exact inner
      | _ => cases alike
    | _ =>
      -- What is no object holds no schemas, and what is alike to it is no object either.
      cases w with
      | object _ => cases alike
      | _ => exact .none

theorem SameRules.distinct_subschemas {rules others : Named Document}
    (same : SameRules (.object rules) (.object others)) {schemas : Named Document}
    (found : others.get? Keyword.properties.name = some (.object schemas)) :
    schemas.names.Nodup := by
  rcases Named.rel_cases (same.keyword .properties) with ⟨_, lacking⟩ | ⟨v, w, _, there, alike⟩
  · rw [lacking] at found
    cases found
  · rw [there] at found
    cases found
    have shape : prunedAt .properties (.object schemas) = .object (prunedEach schemas) := rfl
    rw [shape] at alike
    -- Being alike to something is what makes the names distinct, whatever that is.
    generalize prunedAt .properties v = other at alike
    cases alike with
    | object _ right _ =>
      rw [← names_prunedEach]
      exact right

/-! ### One is a schema if the other is -/

/-- What holds of the value of a keyword passes to related values. -/
theorem Given.congr {rules others : Named Document} {keyword : Keyword} {shape : Document → Prop}
    {R : Document → Document → Prop}
    (related : Option.Rel R (rules.get? keyword.name) (others.get? keyword.name))
    (steady : ∀ v w, R v w → shape v → shape w) (given : Given rules keyword shape) :
    Given others keyword shape := by
  intro w found
  rcases Named.rel_cases related with ⟨_, lacking⟩ | ⟨v, w', there, here, held⟩
  · rw [lacking] at found
    cases found
  · rw [here] at found
    cases found
    exact steady v w held (given v there)

theorem counts_congr {v w : Document} (alike : Alike v w) {n : Nat} (counts : Counts v n) :
    Counts w n := by
  obtain ⟨x, rfl, natural⟩ := counts
  cases alike with
  | @number _ y same =>
    rw [Binary64.same_iff] at same
    refine ⟨y, rfl, ?_⟩
    rw [← natural, Binary64.value, Binary64.value, same]

theorem spells_congr {v w : Document} (alike : Alike v w) {p : Pattern} (spells : Spells v p) :
    Spells w p := by
  obtain ⟨rfl, compiled⟩ := spells
  cases alike
  exact ⟨rfl, compiled⟩

/-- Keywords with values of their shapes keep them. -/
theorem Shaped.congr {rules others : Named Document}
    (same : SameRules (.object rules) (.object others)) (shaped : Shaped rules) :
    Shaped others := by
  have count {keyword : Keyword}
      (alike : Option.Rel Alike (rules.get? keyword.name) (others.get? keyword.name))
      (given : Given rules keyword fun d => ∃ n, Counts d n) :
      Given others keyword fun d => ∃ n, Counts d n :=
    given.congr alike fun v w alike ⟨n, counts⟩ => ⟨n, counts_congr alike counts⟩
  have number {keyword : Keyword}
      (alike : Option.Rel Alike (rules.get? keyword.name) (others.get? keyword.name))
      (given : Given rules keyword fun d => ∃ x, d = .number x) :
      Given others keyword fun d => ∃ x, d = .number x := by
    refine given.congr alike ?_
    rintro _ _ alike ⟨x, rfl⟩
    cases alike
    exact ⟨_, rfl⟩
  have array {keyword : Keyword}
      (alike : Option.Rel Alike (rules.get? keyword.name) (others.get? keyword.name))
      (given : Given rules keyword fun d => ∃ values, d = .array values) :
      Given others keyword fun d => ∃ values, d = .array values := by
    refine given.congr alike ?_
    rintro _ _ alike ⟨values, rfl⟩
    cases alike
    exact ⟨_, rfl⟩
  constructor
  case type =>
    have alike : Option.Rel Alike _ _ := same.keyword .type
    refine shaped.type.congr alike ?_
    rintro _ _ alike ⟨kind, rfl⟩
    cases alike
    exact ⟨kind, rfl⟩
  case properties =>
    refine shaped.properties.congr (same.keyword .properties) ?_
    rintro _ w alike ⟨schemas, rfl⟩
    cases w with
    | object others => exact ⟨others, rfl⟩
    | _ => cases alike
  case pattern =>
    have alike : Option.Rel Alike _ _ := same.keyword .pattern
    exact shaped.pattern.congr alike fun v w alike ⟨p, spells⟩ => ⟨p, spells_congr alike spells⟩
  case required => exact array (same.keyword .required) shaped.required
  case enum => exact array (same.keyword .enum) shaped.enum
  case minLength => exact count (same.keyword .minLength) shaped.minLength
  case maxLength => exact count (same.keyword .maxLength) shaped.maxLength
  case minItems => exact count (same.keyword .minItems) shaped.minItems
  case maxItems => exact count (same.keyword .maxItems) shaped.maxItems
  case minimum => exact number (same.keyword .minimum) shaped.minimum
  case maximum => exact number (same.keyword .maximum) shaped.maximum

/-- A document is a schema if one is that says the same. -/
theorem WellFormed.congr {depth : Nat} {d e : Document} (formed : WellFormed depth d)
    (same : SameRules d e) : WellFormed depth e := by
  induction formed generalizing e with
  | anything reached =>
    rw [same.eq_true]
    exact .anything reached
  | @node depth rules reached shaped _ _ properties items =>
    obtain ⟨others, rfl⟩ := same.exists_object
    refine .node reached (shaped.congr same) ?inMembers ?inItems
    case inMembers =>
      intro schemas found member present
      -- The member is one that its name finds, and the name finds one on the other side as well.
      have distinct := same.distinct_subschemas found
      have listed : (subschemas others).get? member.1 = some member.2 := by
        rw [subschemas, found]
        exact (Named.get?_eq_some_iff distinct ..).mpr present
      rcases Named.rel_cases (same.subschemas member.1) with
        ⟨_, lacking⟩ | ⟨d, e, here, there, inner⟩
      · rw [lacking] at listed
        cases listed
      · rw [listed] at there
        cases there
        obtain ⟨_, held, original⟩ := mem_of_subschemas here
        exact properties _ held _ original inner
    case inItems =>
      intro e found
      have related : Option.Rel SameRules _ _ := same.keyword .items
      rcases Named.rel_cases related with ⟨_, lacking⟩ | ⟨d, e', here, there, inner⟩
      · rw [lacking] at found
        cases found
      · rw [there] at found
        cases found
        exact items d here inner

/-- Of documents that say the same both are schemas or neither is. -/
theorem exists_compile_congr {d e : Document} (same : SameRules d e) :
    (∃ schema, compile d = .ok schema) ↔ ∃ schema, compile e = .ok schema := by
  have sum : maxDepth + 1 + 0 = maxDepth + 1 := rfl
  have formed (d : Document) : (∃ schema, compile d = .ok schema) ↔ WellFormed 0 d :=
    exists_compileWithin_iff sum [] d
  rw [formed, formed]
  exact ⟨fun first => first.congr same, fun second => second.congr same.symm⟩

end Schema
end Conformance
