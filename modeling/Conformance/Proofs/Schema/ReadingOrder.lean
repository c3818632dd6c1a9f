import Conformance.Proofs.Schema.Readers
import Mathlib.Data.List.Basic

/-!
# The order in which a schema is read

`sites` lists what the reading of a schema looks at, in order: the document itself, then the value
of each of its keywords in the order of `Keyword.all`, with the schemas inside `properties` and
`items` in their places. The list is made from the document alone and is as long as the document
goes; nothing is read in it and no fault ends it.

Each site has a fault of its own or none, whatever stands before or after it. A document is refused
with the fault of the first site that has one (`faultOf_compile`), because a step that succeeds
leaves the faults of the later steps as they are.
-/
namespace Conformance

namespace Schema

/-! ### Sites -/

/-- A step from a schema to one inside it. -/
inductive Descent where
  | items
  | property (name : Text)

def Descent.steps : Descent → List Text
  | .items => [Keyword.items.name]
  | .property name => [Keyword.properties.name, name]

/-- A schema that is read, or the value of one of its keywords. -/
structure Site where
  /-- From the root to the schema. -/
  way : List Descent
  keyword : Option Keyword
  value : Document

/-- Keywords and names on the way to a schema. -/
def stepsOf (way : List Descent) : List Text := way.flatMap Descent.steps

def Site.steps (site : Site) : List Text :=
  stepsOf site.way ++ (site.keyword.map Keyword.name).toList

mutual

/-- What is looked at below a way, in reading order. -/
def sites (way : List Descent) (d : Document) : List Site :=
  ⟨way, none, d⟩ ::
    match d with
    | .object rules => Keyword.all.flatMap fun keyword => sitesOf way keyword rules
    | _ => []

/-- The sites of one keyword: its value, and the schemas inside it. -/
def sitesOf (way : List Descent) (keyword : Keyword) : Named Document → List Site
  | [] => []
  | (name, value) :: rest =>
    if name = keyword.name then
      match keyword, value with
      | .items, value => sites (way ++ [.items]) value
      | .properties, .object schemas =>
        ⟨way, some .properties, .object schemas⟩ :: sitesOfEach way schemas
      | keyword, value => [⟨way, some keyword, value⟩]
    else sitesOf way keyword rest

/-- The sites of schemas for members, one schema after the other. -/
def sitesOfEach (way : List Descent) : Named Document → List Site
  | [] => []
  | (name, value) :: rest => sites (way ++ [.property name]) value ++ sitesOfEach way rest

end

/-- The sites of the keywords of a schema. -/
def keywordSites (way : List Descent) : Document → List Site
  | .object rules => Keyword.all.flatMap fun keyword => sitesOf way keyword rules
  | _ => []

theorem sites_eq (way : List Descent) (d : Document) :
    sites way d = ⟨way, none, d⟩ :: keywordSites way d := by
  cases d <;> rfl

/-- The sites of a keyword that has a value. -/
def sitesAt (way : List Descent) (keyword : Keyword) (value : Document) : List Site :=
  match keyword, value with
  | .items, value => sites (way ++ [.items]) value
  | .properties, .object schemas =>
    ⟨way, some .properties, .object schemas⟩ :: sitesOfEach way schemas
  | keyword, value => [⟨way, some keyword, value⟩]

theorem sitesOf_cons (way : List Descent) (keyword : Keyword) (name : Text) (value : Document)
    (rest : Named Document) : sitesOf way keyword ((name, value) :: rest) =
      if name = keyword.name then sitesAt way keyword value else sitesOf way keyword rest := by
  rw [sitesOf.eq_def]
  rfl

theorem sitesOf_eq (way : List Descent) (keyword : Keyword) (rules : Named Document) :
    sitesOf way keyword rules = (rules.get? keyword.name).elim [] (sitesAt way keyword) := by
  induction rules with
  | nil => rfl
  | cons rule rest ih =>
    obtain ⟨name, value⟩ := rule
    rw [sitesOf_cons, Named.get?_cons]
    by_cases same : name = keyword.name
    · rw [if_pos same, if_pos same]
      rfl
    · rw [if_neg same, if_neg same, ih]

theorem sitesOfEach_eq (way : List Descent) (schemas : Named Document) :
    sitesOfEach way schemas =
      schemas.flatMap fun member => sites (way ++ [.property member.1]) member.2 := by
  induction schemas with
  | nil => rfl
  | cons member rest ih =>
    obtain ⟨name, value⟩ := member
    rw [sitesOfEach, ih, List.flatMap_cons]

/-! ### Faults -/

/-- The fault with which a step ends, if it does. -/
def faultOf {α : Type} : Except CompileError α → Option CompileError
  | .ok _ => none
  | .error fault => some fault

/-- A chain of steps ends with the fault of the first one, or else with one of the later ones, which
does not depend on what the first one returns. -/
theorem faultOf_bind {α β : Type} {step : Except CompileError α}
    {next : α → Except CompileError β} {first later : Option CompileError}
    (ended : faultOf step = first) (afterwards : ∀ value, faultOf (next value) = later) :
    faultOf (step >>= next) = first.or later := by
  subst ended
  cases step with
  | error fault => rfl
  | ok value => exact afterwards value

theorem faultOf_bind_pure {α β : Type} (step : Except CompileError α) (f : α → β) :
    faultOf (step >>= fun value => pure (f value)) = faultOf step := by
  cases step <;> rfl

theorem faultOf_map {α β : Type} (step : Except CompileError α) (f : α → β) :
    faultOf (step.map f) = faultOf step := by
  cases step <;> rfl

theorem faultOf_optional {α : Type} (members : Named Document) (keyword : Keyword)
    (read : Document → Except CompileError α) :
    faultOf (optional members keyword read) =
      (members.get? keyword.name).bind fun value => faultOf (read value) := by
  rw [optional]
  cases members.get? keyword.name with
  | none => rfl
  | some value => exact faultOf_map ..

theorem faultOf_readMembers {α : Type} (read : Text → Document → Except CompileError α)
    (members : Named Document) :
    faultOf (readMembers read members) =
      members.findSome? fun member => faultOf (read member.1 member.2) := by
  induction members with
  | nil => rfl
  | cons member rest ih =>
    obtain ⟨name, value⟩ := member
    rw [readMembers, faultOf_bind rfl fun first => faultOf_bind_pure _ _, ih,
      List.findSome?_cons]
    cases faultOf (read name value) <;> rfl

/-- The fault of the value of a keyword, schemas inside it left aside. -/
def keywordFault (back : List Text) (keyword : Keyword) (value : Document) :
    Option CompileError :=
  match keyword with
  | .type => faultOf (readKind back value)
  | .required => faultOf (readRequired back value)
  | .properties =>
    match value with
    | .object _ => none
    | _ => some (.schema ⟨.wrongShape .properties .object,
        (Keyword.properties.name :: back).reverse⟩)
  | .items => none
  | .minLength | .maxLength | .minItems | .maxItems => faultOf (readCount back keyword value)
  | .minimum | .maximum => faultOf (readNumber back keyword value)
  | .pattern => faultOf (readPattern back value)
  | .enum => faultOf (readEnum back value)

/-- The fault of what stands where a schema is wanted, whatever its keywords say. -/
def kindFault : Document → Option SchemaFault
  | .boolean true | .object _ => none
  | other => some (.notObject other.kind)

/-- Nothing is looked at any more where a schema is too deep. -/
def schemaFault (back : List Text) (depth : Nat) (value : Document) : Option CompileError :=
  let fault := if maxDepth < depth then some (.tooDeep maxDepth) else kindFault value
  fault.map fun fault => .schema ⟨fault, back.reverse⟩

/-- The fault of a site, if it has one. -/
def Site.fault? (site : Site) : Option CompileError :=
  match site.keyword with
  | none => schemaFault (stepsOf site.way).reverse site.way.length site.value
  | some keyword => keywordFault (stepsOf site.way).reverse keyword site.value

/-- The first fault in reading order. -/
def firstFault (order : List Site) : Option CompileError := order.findSome? Site.fault?

theorem firstFault_nil : firstFault [] = none := rfl

theorem firstFault_append (first second : List Site) :
    firstFault (first ++ second) = (firstFault first).or (firstFault second) :=
  List.findSome?_append

theorem firstFault_cons (site : Site) (rest : List Site) :
    firstFault (site :: rest) = site.fault?.or (firstFault rest) := by
  rw [firstFault, List.findSome?_cons]
  cases site.fault? <;> rfl

theorem firstFault_flatMap {α : Type} (parts : List α) (order : α → List Site) :
    firstFault (parts.flatMap order) = parts.findSome? fun part => firstFault (order part) := by
  induction parts with
  | nil => rfl
  | cons part rest ih =>
    rw [List.flatMap_cons, firstFault_append, ih, List.findSome?_cons]
    cases firstFault (order part) <;> rfl

theorem firstFault_sitesOf (way : List Descent) (keyword : Keyword) (rules : Named Document) :
    firstFault (sitesOf way keyword rules) =
      (rules.get? keyword.name).bind fun value => firstFault (sitesAt way keyword value) := by
  rw [sitesOf_eq]
  cases rules.get? keyword.name <;> rfl

/-! ### Compilation ends with the first fault -/

theorem stepsOf_concat (way : List Descent) (last : Descent) :
    stepsOf (way ++ [last]) = stepsOf way ++ last.steps := by
  rw [stepsOf, List.flatMap_append, List.flatMap_singleton]
  rfl

/-- The compiler collects steps from the last to the first. -/
theorem reverse_stepsOf_concat (way : List Descent) (last : Descent) :
    (stepsOf (way ++ [last])).reverse = last.steps.reverse ++ (stepsOf way).reverse := by
  rw [stepsOf_concat, List.reverse_append]

section Node

variable {levels : Nat} {way : List Descent}

theorem firstFault_single (site : Site) : firstFault [site] = site.fault? := by
  rw [firstFault_cons]
  exact Option.or_none

/-- A keyword is refused with the first fault of its sites if its value is. -/
theorem faultOf_keyword {α : Type} {keyword : Keyword} {read : Document → Except CompileError α}
    (own : ∀ value, faultOf (read value) = firstFault (sitesAt way keyword value))
    (rules : Named Document) :
    faultOf (optional rules keyword read) = firstFault (sitesOf way keyword rules) := by
  rw [faultOf_optional, firstFault_sitesOf]
  simp only [own]

theorem faultOf_readProperties
    (inner : ∀ name d, faultOf (compileWithin levels
        (name :: Keyword.properties.name :: (stepsOf way).reverse) d) =
      firstFault (sites (way ++ [.property name]) d)) (value : Document) :
    faultOf (readProperties (stepsOf way).reverse (compileWithin levels) value) =
      firstFault (sitesAt way .properties value) := by
  cases value with
  | object schemas =>
    rw [sitesAt, firstFault_cons, sitesOfEach_eq, firstFault_flatMap, readProperties,
      faultOf_readMembers]
    simp only [inner]
    rfl
  | _ => rfl

/-- The keywords that bound single values, in the order in which they are read. -/
def boundKeywords : List Keyword :=
  [.minLength, .maxLength, .minItems, .maxItems, .minimum, .maximum, .pattern, .enum]

/-- A keyword without schemas inside it is refused with the fault of its value. -/
theorem faultOf_plain {α : Type} {keyword : Keyword} {read : Document → Except CompileError α}
    (alone : ∀ value, sitesAt way keyword value = [⟨way, some keyword, value⟩])
    (own : ∀ value, faultOf (read value) = keywordFault (stepsOf way).reverse keyword value)
    (rules : Named Document) :
    faultOf (optional rules keyword read) = firstFault (sitesOf way keyword rules) := by
  apply faultOf_keyword
  intro value
  rw [alone, firstFault_single, own]
  rfl

theorem faultOf_readBounds (rules : Named Document) :
    faultOf (readBounds (stepsOf way).reverse rules) =
      firstFault (boundKeywords.flatMap fun keyword => sitesOf way keyword rules) := by
  rw [readBounds, boundKeywords]
  simp only [List.flatMap_cons, List.flatMap_nil, firstFault_append]
  -- One step for each keyword of the list, in its order.
  repeat
    refine faultOf_bind ?_ fun _ => ?_
    · exact faultOf_plain (fun _ => rfl) (fun _ => rfl) rules
  rfl

/-- A node is refused with the first fault of its keywords, once the schemas inside it are. -/
theorem faultOf_compileWithin_object
    (inner : ∀ last d, faultOf (compileWithin levels
        (last.steps.reverse ++ (stepsOf way).reverse) d) = firstFault (sites (way ++ [last]) d))
    (rules : Named Document) :
    faultOf (compileWithin (levels + 1) (stepsOf way).reverse (.object rules)) =
      firstFault (Keyword.all.flatMap fun keyword => sitesOf way keyword rules) := by
  have order : Keyword.all = [.type, .required, .properties, .items] ++ boundKeywords := rfl
  rw [compileWithin, order, List.flatMap_append, firstFault_append]
  simp only [List.flatMap_cons, List.flatMap_nil, firstFault_append, firstFault_nil,
    Option.or_none, Option.or_assoc]
  refine faultOf_bind ?type fun _ => faultOf_bind ?required fun _ => faultOf_bind ?properties
    fun _ => faultOf_bind ?items fun _ => ?bounds
  case type => exact faultOf_plain (fun _ => rfl) (fun _ => rfl) rules
  case required => exact faultOf_plain (fun _ => rfl) (fun _ => rfl) rules
  case properties =>
    exact faultOf_keyword (faultOf_readProperties fun name d => inner (.property name) d) rules
  case items => exact faultOf_keyword (fun d => inner .items d) rules
  case bounds =>
    -- Whether the node says anything is asked last and refuses nothing.
    refine (faultOf_bind (faultOf_readBounds rules) fun _ => ?_).trans Option.or_none
    split
    · rfl
    · rfl

end Node

/-- With as many levels left as the way to a document allows, it is refused with the first fault
among its sites. -/
theorem faultOf_compileWithin {levels : Nat} {way : List Descent}
    (sum : levels + way.length = maxDepth + 1) (d : Document) :
    faultOf (compileWithin levels (stepsOf way).reverse d) = firstFault (sites way d) := by
  -- A step down spends one level and makes the way one longer, whichever step it is.
  induction levels generalizing way d with
  | zero =>
    -- Both sides stop here: no level is left, and the schema is too deep whatever it holds.
    have deep : maxDepth < way.length := by omega
    have own : Site.fault? ⟨way, none, d⟩ =
        some (.schema ⟨.tooDeep maxDepth, (stepsOf way).reverse.reverse⟩) := by
      simp only [Site.fault?, schemaFault, if_pos deep, Option.map_some]
    rw [sites_eq, firstFault_cons, own]
    rfl
  | succ levels ih =>
    have reached : ¬maxDepth < way.length := by omega
    have own : Site.fault? ⟨way, none, d⟩ =
        (kindFault d).map fun fault => .schema ⟨fault, (stepsOf way).reverse.reverse⟩ := by
      simp only [Site.fault?, schemaFault, if_neg reached]
    have inner (last : Descent) (d : Document) :
        faultOf (compileWithin levels (last.steps.reverse ++ (stepsOf way).reverse) d) =
          firstFault (sites (way ++ [last]) d) := by
      rw [← reverse_stepsOf_concat]
      apply ih
      rw [List.length_append, List.length_singleton]
      omega
    rw [sites_eq, firstFault_cons, own]
    cases d with
    | boolean value => cases value <;> rfl
    | object rules => exact faultOf_compileWithin_object inner rules
    | _ => rfl

/-- A document is refused with the first fault in reading order, or accepted if there is none. -/
theorem faultOf_compile (d : Document) : faultOf (compile d) = firstFault (sites [] d) := by
  have sum : maxDepth + 1 + ([] : List Descent).length = maxDepth + 1 := rfl
  exact faultOf_compileWithin sum d

end Schema
end Conformance
