import Conformance.Proofs.Document.Names
import Conformance.Proofs.Report.Pointer
import Conformance.Proofs.Schema.ReadingOrder

/-!
# Why a schema is refused

A refusal carries a pointer and a fault. The pointer, decoded, leads through members of the document
to a value, and what the fault says is true of that value. Nothing that is read before the value is
malformed, so the refusal tells of the first culprit, in an order in which the members of a schema
have no say.

Where the pointer leads is shown for every site at once (`located_of_mem_sites`): the steps of a
site lead to its value, whether it has a fault or not. What the fault says is shown for each reader.
-/
namespace Conformance

/-! ### Through members -/

/-- The value that names lead to, each of them the name of a member. -/
def Document.memberAt? : List Text → Document → Option Document
  | [], d => some d
  | name :: rest, .object members => (Named.get? members name).bind (memberAt? rest)
  | _ :: _, _ => none

theorem Document.memberAt?_cons {members : Named Document} {name : Text} {value : Document}
    (found : members.get? name = some value) (rest : List Text) :
    Document.memberAt? (name :: rest) (.object members) = value.memberAt? rest := by
  rw [memberAt?, found, Option.bind_some]

/-! ### Well-formed values -/

/-- The value has the shape. -/
def Shape.Fits : Shape → Document → Prop
  | .string, d => ∃ text, d = .string text
  | .array, d => ∃ elements, d = .array elements
  | .object, d => ∃ members, d = .object members
  | .number, d => ∃ x, d = .number x
  | .count, d => ∃ n, Schema.Counts d n

namespace Keyword

/-- The shape that a keyword asks of its value; `items` asks for a schema. -/
def shape? : Keyword → Option Shape
  | .type | .pattern => some .string
  | .required | .enum => some .array
  | .properties => some .object
  | .items => none
  | .minLength | .maxLength | .minItems | .maxItems => some .count
  | .minimum | .maximum => some .number

/-- The keyword may have the value, schemas inside it left aside. -/
def Accepts : Keyword → Document → Prop
  | .type, d => ∃ kind : Kind, d = .string kind.name
  | .pattern, d => ∃ p, Schema.Spells d p
  | keyword, d => ∀ wanted ∈ keyword.shape?, wanted.Fits d

end Keyword

namespace Schema

/-- What stands at the site is not malformed, whatever stands inside it. -/
def Site.Sound (site : Site) : Prop :=
  match site.keyword with
  | none =>
    site.way.length ≤ maxDepth ∧
      (site.value = .boolean true ∨ ∃ rules, site.value = .object rules)
  | some keyword => keyword.Accepts site.value

end Schema

/-- What a fault says of the value to which steps lead. -/
def SchemaFault.Describes (steps : List Text) (value : Document) : SchemaFault → Prop
  | .notObject actual =>
    value ≠ .boolean true ∧ (∀ rules, value ≠ .object rules) ∧ actual = value.kind
  | .unknownType name =>
    steps.getLast? = some Keyword.type.name ∧ value = .string name
      ∧ ∀ kind : Kind, name ≠ kind.name
  | .wrongShape keyword wanted =>
    steps.getLast? = some keyword.name ∧ keyword.shape? = some wanted ∧ ¬wanted.Fits value
  | .invalidPattern pattern reason =>
    steps.getLast? = some Keyword.pattern.name ∧ value = .string pattern
      ∧ ∃ error, Pattern.compile pattern = .error error ∧ error.isSyntax = true
        ∧ reason = error.message
  | .tooDeep limit =>
    limit = Schema.maxDepth
      ∧ ∃ way : List Schema.Descent, way.length = limit + 1 ∧ steps = Schema.stepsOf way

namespace Schema

open Document (WellNamed)

/-! ### Where sites are -/

theorem steps_keyword (way : List Descent) (keyword : Keyword) (value : Document) :
    Site.steps ⟨way, some keyword, value⟩ = stepsOf way ++ [keyword.name] := rfl

mutual

/-- The steps of a site below a way lead on from the way to the value of the site. -/
theorem located_of_mem_sites {site : Site} :
    ∀ (d : Document) (way : List Descent), d.WellNamed → site ∈ sites way d →
      ∃ rest, site.steps = stepsOf way ++ rest ∧ d.memberAt? rest = some site.value
  | .object rules, way, named, member => by
    rw [sites_eq] at member
    rcases List.mem_cons.mp member with rfl | inside
    · exact ⟨[], rfl, rfl⟩
    · obtain ⟨keyword, _, present⟩ := List.mem_flatMap.mp inside
      obtain ⟨value, rest, found, steps, reached⟩ :=
        located_of_mem_sitesOf rules way keyword (fun _ => named.of_mem_object) present
      refine ⟨keyword.name :: rest, steps, ?_⟩
      rw [Document.memberAt?_cons found, reached]
  | .null, _, _, member | .boolean _, _, _, member | .number _, _, _, member
  | .string _, _, _, member | .array _, _, _, member => by
    cases List.mem_singleton.mp member
    exact ⟨[], rfl, rfl⟩

theorem located_of_mem_sitesOf {site : Site} :
    ∀ (rules : Named Document) (way : List Descent) (keyword : Keyword),
      (∀ rule ∈ rules, rule.2.WellNamed) → site ∈ sitesOf way keyword rules →
      ∃ value rest, rules.get? keyword.name = some value
        ∧ site.steps = stepsOf way ++ keyword.name :: rest
        ∧ value.memberAt? rest = some site.value
  | [], _, _, _, member => by cases member
  | (name, value) :: others, way, keyword, named, member => by
    rw [sitesOf_cons] at member
    rw [Named.get?_cons]
    split at member
    · next same =>
      rw [if_pos same]
      suffices located : ∃ rest, site.steps = stepsOf way ++ keyword.name :: rest
          ∧ value.memberAt? rest = some site.value by
        obtain ⟨rest, steps, reached⟩ := located
        exact ⟨value, rest, rfl, steps, reached⟩
      -- The keywords with schemas inside come first; the value of any other is a site of its own.
      cases keyword with
      | items =>
        obtain ⟨rest, steps, reached⟩ := located_of_mem_sites value (way ++ [.items])
          (named _ List.mem_cons_self) member
        refine ⟨rest, ?_, reached⟩
        rw [steps, stepsOf_concat, List.append_assoc]
        rfl
      | properties =>
        cases value with
        | object schemas =>
          have inner : WellNamed (.object schemas) := named _ List.mem_cons_self
          rcases List.mem_cons.mp member with rfl | inside
          · exact ⟨[], steps_keyword .., rfl⟩
          · obtain ⟨entry, present, rest, steps, reached⟩ :=
              located_of_mem_sitesOfEach schemas way (fun _ => inner.of_mem_object) inside
            have found := (Named.get?_eq_some_iff inner.distinct_names entry.1 entry.2).mpr present
            refine ⟨entry.1 :: rest, steps, ?_⟩
            rw [Document.memberAt?_cons found, reached]
        | _ =>
          cases List.mem_singleton.mp member
          exact ⟨[], steps_keyword .., rfl⟩
      | _ =>
        cases List.mem_singleton.mp member
        exact ⟨[], steps_keyword .., rfl⟩
    · next other =>
      rw [if_neg other]
      exact located_of_mem_sitesOf others way keyword
        (fun rule later => named rule (List.mem_cons_of_mem _ later)) member

theorem located_of_mem_sitesOfEach {site : Site} :
    ∀ (schemas : Named Document) (way : List Descent),
      (∀ member ∈ schemas, member.2.WellNamed) → site ∈ sitesOfEach way schemas →
      ∃ member ∈ schemas, ∃ rest,
        site.steps = stepsOf way ++ Keyword.properties.name :: member.1 :: rest
        ∧ member.2.memberAt? rest = some site.value
  | [], _, _, member => by cases member
  | (name, value) :: others, way, named, member => by
    rw [sitesOfEach] at member
    rcases List.mem_append.mp member with first | later
    · obtain ⟨rest, steps, reached⟩ := located_of_mem_sites value (way ++ [.property name])
        (named _ List.mem_cons_self) first
      refine ⟨(name, value), List.mem_cons_self, rest, ?_, reached⟩
      rw [steps, stepsOf_concat, List.append_assoc]
      rfl
    · obtain ⟨found, present, located⟩ := located_of_mem_sitesOfEach others way
        (fun entry deeper => named entry (List.mem_cons_of_mem _ deeper)) later
      exact ⟨found, List.mem_cons_of_mem _ present, located⟩

end

/-! ### What faults say -/

theorem faultOf_eq_none_iff {α : Type} (step : Except CompileError α) :
    faultOf step = none ↔ ∃ value, step = .ok value := by
  cases step <;> simp [faultOf]

/-- A keyword has no fault exactly when it may have its value. -/
theorem keywordFault_eq_none_iff (back : List Text) (keyword : Keyword) (d : Document) :
    keywordFault back keyword d = none ↔ keyword.Accepts d := by
  cases keyword with
  | type => simp only [keywordFault, faultOf_eq_none_iff, readKind_eq_ok_iff, Keyword.Accepts]
  | pattern =>
    simp only [keywordFault, faultOf_eq_none_iff, readPattern_eq_ok_iff, Keyword.Accepts]
  | items => simp [keywordFault, Keyword.Accepts, Keyword.shape?]
  | properties => cases d <;> simp [keywordFault, Keyword.Accepts, Keyword.shape?, Shape.Fits]
  | required | enum =>
    simp [keywordFault, faultOf_eq_none_iff, readRequired_eq_ok_iff, readEnum_eq_ok_iff,
      Keyword.Accepts, Keyword.shape?, Shape.Fits]
  | minLength | maxLength | minItems | maxItems | minimum | maximum =>
    simp [keywordFault, faultOf_eq_none_iff, readCount_eq_ok_iff, readNumber_eq_ok_iff,
      Keyword.Accepts, Keyword.shape?, Shape.Fits]

theorem kindFault_eq_none_iff (d : Document) :
    kindFault d = none ↔ d = .boolean true ∨ ∃ rules, d = .object rules := by
  cases d with
  | boolean value => cases value <;> simp [kindFault]
  | _ => simp [kindFault]

/-- A site has no fault exactly when what stands there is not malformed. -/
theorem Site.fault?_eq_none_iff (site : Site) : site.fault? = none ↔ site.Sound := by
  obtain ⟨way, keyword, value⟩ := site
  cases keyword with
  | none =>
    simp only [fault?, schemaFault, Sound, Option.map_eq_none_iff]
    by_cases deep : maxDepth < way.length
    · simp [deep]
    · simp [deep, kindFault_eq_none_iff, Nat.le_of_not_lt deep]
  | some keyword => exact keywordFault_eq_none_iff ..

/-- The error ends at the keyword and is true of its value. -/
def Blames (back : List Text) (keyword : Keyword) (d : Document) (e : SchemaError) : Prop :=
  e.steps = (keyword.name :: back).reverse ∧ e.fault.Describes e.steps d

theorem getLast?_steps (back : List Text) (keyword : Keyword) :
    (keyword.name :: back).reverse.getLast? = some keyword.name := by
  rw [List.getLast?_reverse, List.head?_cons]

/-- A value without the shape that a keyword asks for is refused for it. -/
theorem blames_of_misfit {back : List Text} {keyword : Keyword} {wanted : Shape}
    {d : Document} {e : SchemaError} (asks : keyword.shape? = some wanted)
    (misfit : ¬wanted.Fits d)
    (refused : some (.schema ⟨.wrongShape keyword wanted, (keyword.name :: back).reverse⟩) =
      some (CompileError.schema e)) : Blames back keyword d e := by
  cases refused
  exact ⟨rfl, getLast?_steps back keyword, asks, misfit⟩

theorem blames_of_readKind {back : List Text} {d : Document} {e : SchemaError}
    (refused : faultOf (readKind back d) = some (.schema e)) : Blames back .type d e := by
  cases d with
  | string name =>
    rw [readKind] at refused
    split at refused
    · cases refused
    next unknown =>
      have strange (kind : Kind) : name ≠ kind.name := by
        intro same
        rw [(Kind.ofName?_eq_some_iff name kind).mpr same] at unknown
        cases unknown
      cases refused
      exact ⟨rfl, getLast?_steps back .type, rfl, strange⟩
  | _ => exact blames_of_misfit rfl (by rintro ⟨_, same⟩; cases same) refused

theorem blames_of_readPattern {back : List Text} {d : Document} {e : SchemaError}
    (refused : faultOf (readPattern back d) = some (.schema e)) : Blames back .pattern d e := by
  cases d with
  | string source =>
    rw [readPattern] at refused
    split at refused
    · cases refused
    next error rejected =>
      -- Any other error of a pattern is no fault of the schema.
      split at refused
      next syntactic =>
        cases refused
        exact ⟨rfl, getLast?_steps back .pattern, rfl, error, rejected, syntactic, rfl⟩
      · cases refused
  | _ => exact blames_of_misfit rfl (by rintro ⟨_, same⟩; cases same) refused

theorem blames_of_readCount {back : List Text} {keyword : Keyword} {d : Document}
    {e : SchemaError} (asks : keyword.shape? = some .count)
    (refused : faultOf (readCount back keyword d) = some (.schema e)) :
    Blames back keyword d e := by
  -- A value that counts something would have been read.
  have uncounted : ¬Shape.count.Fits d := by
    rintro ⟨n, counts⟩
    rw [(readCount_eq_ok_iff back keyword d n).mpr counts] at refused
    cases refused
  cases d with
  | number x =>
    rw [readCount] at refused
    split at refused
    · cases refused
    · exact blames_of_misfit asks uncounted refused
  | _ => exact blames_of_misfit asks uncounted refused

/-- The fault of a keyword ends at the keyword and is true of its value. -/
theorem blames_of_keywordFault {back : List Text} {keyword : Keyword} {d : Document}
    {e : SchemaError} (refused : keywordFault back keyword d = some (.schema e)) :
    Blames back keyword d e := by
  cases keyword with
  | type => exact blames_of_readKind refused
  | pattern => exact blames_of_readPattern refused
  | minLength | maxLength | minItems | maxItems => exact blames_of_readCount rfl refused
  | items => cases refused
  | properties =>
    cases d with
    | object schemas => cases refused
    | _ => exact blames_of_misfit rfl (by rintro ⟨_, same⟩; cases same) refused
  | required | enum =>
    cases d with
    | array values => cases refused
    | _ => exact blames_of_misfit rfl (by rintro ⟨_, same⟩; cases same) refused
  | minimum | maximum =>
    cases d with
    | number x => cases refused
    | _ => exact blames_of_misfit rfl (by rintro ⟨_, same⟩; cases same) refused

theorem describes_of_kindFault {value : Document} {fault : SchemaFault} (steps : List Text)
    (found : kindFault value = some fault) : fault.Describes steps value := by
  have misplaced : ¬(value = .boolean true ∨ ∃ rules, value = .object rules) := by
    rw [← kindFault_eq_none_iff, found]
    exact Option.some_ne_none _
  have named : fault = .notObject value.kind := by
    rw [kindFault.eq_def] at found
    split at found
    · cases found
    · cases found
    · exact (Option.some.inj found).symm
  rw [named]
  have notTrue : value ≠ .boolean true := fun isTrue => misplaced (.inl isTrue)
  have notObject (rules : Named Document) : value ≠ .object rules := fun isObject =>
    misplaced (.inr ⟨rules, isObject⟩)
  exact ⟨notTrue, notObject, rfl⟩

/-! ### The first fault -/

def Site.isFaulty (site : Site) : Bool := site.fault?.isSome

theorem Site.isFaulty_iff (site : Site) : site.isFaulty = true ↔ ¬site.Sound := by
  rw [isFaulty, Option.isSome_iff_ne_none, Ne, fault?_eq_none_iff]

theorem Site.sound_of_not_isFaulty {site : Site} (fine : site.isFaulty ≠ true) : site.Sound := by
  by_contra unsound
  exact fine ((isFaulty_iff site).mpr unsound)

/-- The first fault is that of the first site with one. -/
theorem exists_of_firstFault {order : List Site} {fault : CompileError}
    (first : firstFault order = some fault) :
    ∃ site, order.find? Site.isFaulty = some site ∧ site.fault? = some fault := by
  obtain ⟨before, site, after, split, faulty, sound⟩ := List.findSome?_eq_some_iff.mp first
  refine ⟨site, ?_, faulty⟩
  rw [List.find?_eq_some_iff_append]
  refine ⟨?_, before, after, split, fun earlier member => ?_⟩
  · rw [Site.isFaulty, faulty]
    rfl
  · rw [Site.isFaulty, sound earlier member]
    rfl

/-- The first culprit of a keyword belongs to the node, or is the first of a schema inside it. -/
theorem first_of_sitesAt {way : List Descent} {keyword : Keyword} {value : Document} {site : Site}
    (first : (sitesAt way keyword value).find? Site.isFaulty = some site) :
    site.way = way ∨
      ∃ last inner, (sites (way ++ [last]) inner).find? Site.isFaulty = some site := by
  have alone {only : Site} (found : [only].find? Site.isFaulty = some site)
      (own : only.way = way) : site.way = way := by
    have same : site = only := List.mem_singleton.mp (List.mem_of_find?_eq_some found)
    rw [same, own]
  cases keyword with
  | items => exact .inr ⟨.items, value, first⟩
  | properties =>
    cases value with
    | object schemas =>
      -- The value of the keyword is looked at before the schemas in it.
      rw [sitesAt, ← List.singleton_append, List.find?_append, Option.or_eq_some_iff] at first
      rcases first with own | ⟨_, inside⟩
      · exact .inl (alone own rfl)
      · rw [sitesOfEach_eq, List.find?_flatMap] at inside
        obtain ⟨member, _, found⟩ := List.exists_of_findSome?_eq_some inside
        exact .inr ⟨.property member.1, member.2, found⟩
    | _ => exact .inl (alone first rfl)
  | _ => exact .inl (alone first rfl)

/-- The first culprit of a schema is its own, or else the schema itself is in order and the culprit
is the first of a schema inside it. -/
theorem first_of_sites {way : List Descent} {d : Document} {site : Site}
    (first : (sites way d).find? Site.isFaulty = some site) :
    site.way = way ∨ (Site.mk way none d).Sound
      ∧ ∃ last inner, (sites (way ++ [last]) inner).find? Site.isFaulty = some site := by
  rw [sites_eq, List.find?_cons] at first
  split at first
  · cases first
    exact .inl rfl
  · next fine =>
    have sound : (Site.mk way none d).Sound :=
      Site.sound_of_not_isFaulty (Bool.eq_false_iff.mp fine)
    cases d with
    | object rules =>
      rw [keywordSites, List.find?_flatMap] at first
      obtain ⟨keyword, _, found⟩ := List.exists_of_findSome?_eq_some first
      rw [sitesOf_eq] at found
      cases present : Named.get? rules keyword.name with
      | none =>
        rw [present] at found
        cases found
      | some value =>
        rw [present] at found
        exact (first_of_sitesAt found).imp_right fun inner => ⟨sound, inner⟩
    | _ => cases first

/-- The first culprit is at most one level below the greatest depth, as every schema around it is
looked at before it and is not too deep. -/
theorem length_way_of_first {levels : Nat} {way : List Descent}
    (sum : levels + way.length = maxDepth + 1) {d : Document} {site : Site}
    (first : (sites way d).find? Site.isFaulty = some site) :
    site.way.length ≤ maxDepth + 1 := by
  induction levels generalizing way d with
  | zero =>
    rcases first_of_sites first with own | ⟨sound, _⟩
    · rw [own]
      omega
    · -- A schema in order is not too deep, and this one is.
      have reached : way.length ≤ maxDepth := sound.1
      omega
  | succ levels ih =>
    rcases first_of_sites first with own | ⟨_, last, inner, found⟩
    · rw [own]
      omega
    · have spent : levels + (way ++ [last]).length = maxDepth + 1 := by
        rw [List.length_append, List.length_singleton]
        omega
      exact ih spent found

/-- The fault of a site that is not too far down has the steps of the site and is true of its
value. -/
theorem describes_of_fault? {site : Site} {e : SchemaError}
    (reached : site.way.length ≤ maxDepth + 1) (refused : site.fault? = some (.schema e)) :
    e.steps = site.steps ∧ e.fault.Describes site.steps site.value := by
  obtain ⟨way, keyword, value⟩ := site
  cases keyword with
  | some keyword =>
    obtain ⟨steps, described⟩ := blames_of_keywordFault refused
    have place :
        (keyword.name :: (stepsOf way).reverse).reverse = stepsOf way ++ [keyword.name] := by
      rw [List.reverse_cons, List.reverse_reverse]
    rw [steps, place] at described
    exact ⟨steps.trans place, described⟩
  | none =>
    have place : Site.steps ⟨way, none, value⟩ = stepsOf way := List.append_nil _
    rw [place]
    rw [Site.fault?, schemaFault, Option.map_eq_some_iff] at refused
    obtain ⟨fault, found, same⟩ := refused
    rw [List.reverse_reverse] at same
    cases same
    refine ⟨rfl, ?_⟩
    split at found
    · next deep =>
      cases found
      -- Deeper than the greatest depth, and by no more than one.
      have exact129 : way.length = maxDepth + 1 := Nat.le_antisymm reached deep
      exact ⟨rfl, way, exact129, rfl⟩
    · exact describes_of_kindFault _ found

/-! ### Every refusal tells of the first culprit -/

/-- The pointer of a refusal leads to a value of the document, the fault is true of that value, and
nothing that is read before it is malformed. -/
structure TellsFirst (d : Document) (e : SchemaError) (tokens : List Text) (culprit : Document) :
    Prop where
  decoded : Pointer.steps? e.pointer = some tokens
  reached : d.memberAt? tokens = some culprit
  described : e.fault.Describes tokens culprit
  first : ∃ before site after, sites [] d = before ++ site :: after
    ∧ site.steps = tokens ∧ site.value = culprit
    ∧ ¬site.Sound ∧ ∀ earlier ∈ before, earlier.Sound

/-- A refused document holds a culprit that the refusal leads to and describes, the first one in
reading order. -/
theorem refusal_tells_first {d : Document.Proper} {e : SchemaError}
    (refused : compile d = .error (.schema e)) :
    ∃ tokens culprit, TellsFirst d e tokens culprit := by
  have fault : firstFault (sites [] d) = some (.schema e) := by
    rw [← faultOf_compile, refused]
    rfl
  obtain ⟨site, first, own⟩ := exists_of_firstFault fault
  have sum : maxDepth + 1 + ([] : List Descent).length = maxDepth + 1 := rfl
  have reached : site.way.length ≤ maxDepth + 1 := length_way_of_first sum first
  obtain ⟨steps, described⟩ := describes_of_fault? reached own
  obtain ⟨faulty, before, after, split, sound⟩ := List.find?_eq_some_iff_append.mp first
  obtain ⟨rest, whole, found⟩ :=
    located_of_mem_sites d [] d.2 (List.mem_of_find?_eq_some first)
  have led : d.1.memberAt? site.steps = some site.value := by
    rw [whole]
    exact found
  refine ⟨site.steps, site.value, ?_, led, described, before, site, after, split, rfl, rfl,
    (Site.isFaulty_iff site).mp faulty, fun earlier member => ?_⟩
  · rw [SchemaError.pointer, steps, Pointer.steps?_ofSteps]
  · have fine := sound earlier member
    rw [Bool.not_eq_true', Bool.eq_false_iff] at fine
    exact Site.sound_of_not_isFaulty fine

/-- A node whose bad keyword stands behind well-formed ones in reading order and in front of them in
the document, below names that a pointer must escape or leaves empty. -/
def crooked : Document.Proper :=
  ⟨.object [("items", .number (.zero false)),
    ("properties", .object [("", .object [("type", .string "string")]),
      ("a/b~", .object [("minimum", .null), ("type", .string "text")])])], by decide⟩

theorem refusal_tells_first_crooked :
    compile crooked = .error (.schema ⟨.unknownType "text", ["properties", "a/b~", "type"]⟩)
      ∧ ∃ tokens culprit, TellsFirst crooked
          ⟨.unknownType "text", ["properties", "a/b~", "type"]⟩ tokens culprit := by
  have refused : compile crooked =
      .error (.schema ⟨.unknownType "text", ["properties", "a/b~", "type"]⟩) := by rfl
  exact ⟨refused, refusal_tells_first refused⟩

end Schema
end Conformance
