import Conformance.Proofs.Schema.Culprit

/-!
# What a document can be refused for

A document that is no schema is refused with a fault of the schema and the steps to it, with one
exception: a pattern may ask for more than a pattern can hold, or for flags that exclude each other,
and then the error of the pattern goes through as it is, without a word on where it stands. The
name of a code point breaks a rule of syntax if `Unicode.named?` does not know it, also where it is
only left out of the names listed there.

Where everything else is in order the one pattern that cannot be compiled decides. Its site is found
from its place in the document (`mem_sites_of_memberAt?`), and the first fault in reading order is
the fault of that site because no other site has one.
-/
namespace Conformance

theorem Document.memberAt?_cons_eq_some_iff {d value : Document} {name : Text}
    {rest : List Text} : d.memberAt? (name :: rest) = some value ↔
      ∃ members inner, d = .object members ∧ Named.get? members name = some inner ∧
        inner.memberAt? rest = some value := by
  constructor
  · intro reached
    cases d with
    | object members =>
      obtain ⟨inner, found, led⟩ := Option.bind_eq_some_iff.mp reached
      exact ⟨members, inner, rfl, found, led⟩
    | _ => cases reached
  · rintro ⟨members, inner, rfl, found, led⟩
    rw [memberAt?_cons found, led]

namespace Schema

/-! ### From places to sites -/

/-- The value of a keyword is looked at, unless it is a schema itself. -/
theorem mem_sitesAt (way : List Descent) {keyword : Keyword} (plain : keyword ≠ .items)
    (value : Document) : ⟨way, some keyword, value⟩ ∈ sitesAt way keyword value := by
  cases keyword with
  | items => exact absurd rfl plain
  | properties =>
    cases value with
    | object schemas => exact List.mem_cons_self
    | _ => exact List.mem_singleton.mpr rfl
  | _ => exact List.mem_singleton.mpr rfl

/-- What is looked at for one keyword of a node is looked at for the node. -/
theorem mem_sites_of_keyword {way : List Descent} {rules : Named Document} {keyword : Keyword}
    {value : Document} {site : Site} (given : rules.get? keyword.name = some value)
    (member : site ∈ sitesAt way keyword value) : site ∈ sites way (.object rules) := by
  have listed : keyword ∈ Keyword.all := by cases keyword <;> decide
  rw [sites_eq]
  refine List.mem_cons_of_mem _ (List.mem_flatMap.mpr ⟨keyword, listed, ?_⟩)
  rw [sitesOf_eq, given]
  exact member

/-- The value of a keyword is looked at wherever descents lead to its schema. -/
theorem mem_sites_of_memberAt? {keyword : Keyword} (plain : keyword ≠ .items) {value : Document}
    (way front : List Descent) {d : Document}
    (placed : d.memberAt? (stepsOf way ++ [keyword.name]) = some value) :
    ⟨front ++ way, some keyword, value⟩ ∈ sites front d := by
  induction way generalizing front d with
  | nil =>
    -- Only the name of the keyword is left of the place.
    obtain ⟨rules, inner, rfl, given, led⟩ := Document.memberAt?_cons_eq_some_iff.mp placed
    cases led
    rw [List.append_nil]
    exact mem_sites_of_keyword given (mem_sitesAt front plain value)
  | cons first way ih =>
    rw [List.append_cons]
    cases first with
    | items =>
      obtain ⟨rules, inner, rfl, given, led⟩ := Document.memberAt?_cons_eq_some_iff.mp placed
      exact mem_sites_of_keyword given (ih (front ++ [.items]) led)
    | property name =>
      obtain ⟨rules, inner, rfl, given, inside⟩ := Document.memberAt?_cons_eq_some_iff.mp placed
      obtain ⟨schemas, schema, rfl, found, led⟩ := Document.memberAt?_cons_eq_some_iff.mp inside
      refine mem_sites_of_keyword given (List.mem_cons_of_mem _ ?_)
      rw [sitesOfEach_eq]
      exact List.mem_flatMap.mpr ⟨(name, schema), Named.mem_of_get? found, ih _ led⟩

/-! ### Faults of patterns -/

theorem error_of_faultOf {α : Type} {step : Except CompileError α} {fault : CompileError}
    (ended : faultOf step = some fault) : step = .error fault := by
  cases step with
  | ok value => cases ended
  | error other => exact congrArg Except.error (Option.some.inj ended)

/-- A pattern that cannot be compiled is a fault of the schema if its syntax is to blame. -/
theorem fault?_of_pattern {p : Text} {error : Pattern.Error}
    (rejected : Pattern.compile p = .error error) (way : List Descent) :
    Site.fault? ⟨way, some .pattern, .string p⟩ = some (if error.isSyntax
      then .schema ⟨.invalidPattern p error.message, stepsOf way ++ [Keyword.pattern.name]⟩
      else .pattern error) := by
  have back : (Keyword.pattern.name :: (stepsOf way).reverse).reverse =
      stepsOf way ++ [Keyword.pattern.name] := by
    rw [List.reverse_cons, List.reverse_reverse]
  show faultOf (readPattern (stepsOf way).reverse (.string p)) = _
  rw [readPattern, ← back]
  simp only [rejected]
  split
  · rfl
  · rfl

/-- The error of a pattern comes from a pattern whose syntax is not to blame. -/
theorem pattern_of_keywordFault {back : List Text} {keyword : Keyword} {value : Document}
    {error : Pattern.Error} (refused : keywordFault back keyword value = some (.pattern error)) :
    keyword = .pattern ∧ ∃ p, value = .string p ∧ Pattern.compile p = .error error ∧
      error.isSyntax = false := by
  cases keyword with
  | pattern =>
    cases value with
    | string p =>
      change faultOf (readPattern back (.string p)) = _ at refused
      rw [readPattern] at refused
      split at refused
      · cases refused
      next other rejected =>
        split at refused
        · cases refused
        next blameless =>
          cases refused
          exact ⟨rfl, p, rfl, rejected, Bool.eq_false_iff.mpr blameless⟩
    | _ => cases refused
  | type =>
    cases value with
    | string name =>
      change faultOf (readKind back (.string name)) = _ at refused
      rw [readKind] at refused
      split at refused
      · cases refused
      · cases refused
    | _ => cases refused
  | minLength | maxLength | minItems | maxItems =>
    cases value with
    | number x =>
      change faultOf (readCount back _ (.number x)) = _ at refused
      rw [readCount] at refused
      split at refused
      · cases refused
      · cases refused
    | _ => cases refused
  | items => cases refused
  | _ => cases value <;> cases refused

theorem pattern_of_fault? {site : Site} {error : Pattern.Error}
    (refused : site.fault? = some (.pattern error)) :
    site.keyword = some .pattern ∧ ∃ p, site.value = .string p ∧
      Pattern.compile p = .error error ∧ error.isSyntax = false := by
  obtain ⟨way, keyword, value⟩ := site
  cases keyword with
  | none =>
    obtain ⟨fault, _, other⟩ := Option.map_eq_some_iff.mp refused
    cases other
  | some keyword =>
    obtain ⟨rfl, known⟩ := pattern_of_keywordFault refused
    exact ⟨rfl, known⟩

/-! ### Refusals -/

/-- Where one site alone is not in order, its fault is the first. -/
theorem firstFault_of_alone {order : List Site} {site : Site} {fault : CompileError}
    (member : site ∈ order) (own : site.fault? = some fault)
    (others : ∀ other ∈ order, other ≠ site → other.Sound) : firstFault order = some fault := by
  cases first : firstFault order with
  | none =>
    rw [List.findSome?_eq_none_iff.mp first site member] at own
    cases own
  | some found =>
    obtain ⟨culprit, located, blamed⟩ := exists_of_firstFault first
    -- Any other site would be sound and have no fault.
    have same : culprit = site := by
      by_contra other
      have sound := others culprit (List.mem_of_find?_eq_some located) other
      rw [(Site.fault?_eq_none_iff culprit).mpr sound] at blamed
      cases blamed
    rw [← same, blamed] at own
    exact own

/-- A text stands as the pattern of the schema at the end of a way, and all else that is looked at
is in order. -/
structure OnlyPattern (d : Document) (way : List Descent) (p : Text) : Prop where
  placed : d.memberAt? (stepsOf way ++ [Keyword.pattern.name]) = some (.string p)
  others : ∀ site ∈ sites [] d, site ≠ ⟨way, some .pattern, .string p⟩ → site.Sound

/-- A document comes to a schema, to a fault of the schema, or to the error of one of its patterns
that breaks no rule of syntax. A pattern that cannot be compiled in a document otherwise in order is
refused by name and place if it breaks a rule of syntax, and goes through with its own error if
not. -/
theorem compile_refusals (d : Document.Proper) :
    (∀ fault, compile d = .error fault → (∃ e, fault = .schema e) ∨
      ∃ way p error,
        d.1.memberAt? (stepsOf way ++ [Keyword.pattern.name]) = some (.string p) ∧
        Pattern.compile p = .error error ∧ error.isSyntax = false ∧ fault = .pattern error) ∧
    ∀ way p error, OnlyPattern d way p → Pattern.compile p = .error error →
      compile d = .error (if error.isSyntax
        then .schema ⟨.invalidPattern p error.message, stepsOf way ++ [Keyword.pattern.name]⟩
        else .pattern error) := by
  constructor
  · intro fault refused
    cases fault with
    | schema e => exact .inl ⟨e, rfl⟩
    | pattern error =>
      have first : firstFault (sites [] d) = some (.pattern error) := by
        rw [← faultOf_compile, refused]
        rfl
      obtain ⟨⟨way, keyword, value⟩, located, own⟩ := exists_of_firstFault first
      obtain ⟨rfl, p, rfl, rejected, blameless⟩ := pattern_of_fault? own
      obtain ⟨rest, whole, led⟩ :=
        located_of_mem_sites d [] d.2 (List.mem_of_find?_eq_some located)
      change stepsOf way ++ [Keyword.pattern.name] = rest at whole
      rw [← whole] at led
      exact .inr ⟨way, p, error, led, rejected, blameless, rfl⟩
  · rintro way p error ⟨placed, others⟩ rejected
    apply error_of_faultOf
    rw [faultOf_compile]
    exact firstFault_of_alone (mem_sites_of_memberAt? (by decide) way [] placed)
      (fault?_of_pattern rejected way) others

theorem compile_of_keywordFault {p : Text} {error : Pattern.Error}
    (refused : keywordFault [] .pattern (.string p) = some (.pattern error)) :
    Pattern.compile p = .error error := by
  obtain ⟨_, _, same, rejected, _⟩ := pattern_of_keywordFault refused
  rw [Document.string.inj same, rejected]

/-- A schema for strings with an open group as their pattern. -/
def openGroup : Document := .object [("pattern", .string "("), ("type", .string "string")]

def unclosed : Document.Proper :=
  ⟨.object [("properties", .object [("a/b", openGroup)])], by decide⟩

theorem compile_refusals_unclosed :
    OnlyPattern unclosed [.property "a/b"] "(" ∧
      ∃ error, Pattern.compile "(" = .error error ∧ compile unclosed = .error (.schema
        ⟨.invalidPattern "(" "missing ), unterminated subpattern at position 0",
          ["properties", "a/b", "pattern"]⟩) := by
  have rejected : Pattern.compile "(" = .error (.placed .unterminatedGroup ⟨0, 1, 1⟩ false) := by
    rfl
  have only : OnlyPattern unclosed [.property "a/b"] "(" := by
    have order : sites [] unclosed = [⟨[], none, unclosed⟩,
        ⟨[], some .properties, .object [("a/b", openGroup)]⟩,
        ⟨[.property "a/b"], none, openGroup⟩,
        ⟨[.property "a/b"], some .type, .string "string"⟩,
        ⟨[.property "a/b"], some .pattern, .string "("⟩] := by rfl
    have node {way : List Descent} {rules : Named Document} (reached : way.length ≤ maxDepth) :
        Site.Sound ⟨way, none, .object rules⟩ := ⟨reached, .inr ⟨rules, rfl⟩⟩
    refine ⟨by rfl, ?_⟩
    rw [order]
    simp only [List.forall_mem_cons]
    refine ⟨fun _ => node (by decide), fun _ => ?_, fun _ => node (by decide),
      fun _ => ⟨.string, rfl⟩, fun other => absurd rfl other, List.forall_mem_nil _⟩
    rintro _ ⟨⟩
    exact ⟨_, rfl⟩
  exact ⟨only, _, rejected, (compile_refusals unclosed).2 _ _ _ only rejected⟩

/-- A schema whose pattern repeats a letter more often than a pattern can hold. -/
def overcounted : Document := .object [("pattern", .string "a\x7b4294967295\x7d")]

/-- Nothing but its pattern is wrong with that schema, and it is refused with no fault of a
schema. -/
theorem overcounted_goes_through :
    OnlyPattern overcounted [] "a\x7b4294967295\x7d" ∧
      Pattern.compile "a\x7b4294967295\x7d" = .error .countTooLarge ∧
      (∀ schema, compile overcounted ≠ .ok schema) ∧
      ∀ e, compile overcounted ≠ .error (.schema e) := by
  have only : OnlyPattern overcounted [] "a\x7b4294967295\x7d" := by
    refine ⟨by rfl, fun site member other => ?_⟩
    rcases List.mem_cons.mp member with rfl | inside
    · exact ⟨Nat.zero_le _, .inr ⟨_, rfl⟩⟩
    · exact absurd (List.mem_singleton.mp inside) other
  have refused : faultOf (compile overcounted) = some (.pattern .countTooLarge) := by
    decide +kernel
  refine ⟨only, compile_of_keywordFault (by decide +kernel), fun schema => ?_, fun e => ?_⟩
  · rw [error_of_faultOf refused]
    nofun
  · rw [error_of_faultOf refused]
    nofun

end Schema
end Conformance
