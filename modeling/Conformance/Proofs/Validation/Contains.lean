import Conformance.Proofs.Pattern.Matching
import Conformance.Proofs.Pattern.Reading
import Conformance.Proofs.Validation.Conforms

/-!
# What a pattern asks of a string

A schema of one pattern asks of a string that some part of it is a text of the language that the
pattern denotes. The part may be empty and may lie anywhere, so a string that passes also passes
inside a longer one. A pattern with the name of a code point that `Unicode.named?` leaves out does
not compile, so nothing is said of it.
-/
namespace Conformance.Validation

open Schema

/-- The rules of a schema that asks for one pattern. -/
def patternRules (source : Text) : Named Document := [(Keyword.pattern.name, .string source)]

section Rules

variable {source : Text}

/-- A schema of one pattern compiles only if the pattern does. -/
theorem exists_compile_of_patternRules {schema : Schema}
    (compiled : Schema.compile (.object (patternRules source)) = .ok schema) :
    ∃ p, Pattern.compile source = .ok p := by
  cases mirrors_of_compileWithin compiled with
  | node own =>
    -- The pattern in the schema is what its keyword spells, and that is here.
    have read : Option.Rel Spells (some (.string source)) schema.bounds.pattern :=
      own.bounds.pattern
    generalize schema.bounds.pattern = held at read
    cases read with
    | some spells =>
      obtain ⟨same, read⟩ := spells
      cases same
      exact ⟨_, read⟩

theorem given_of_absent {keyword : Keyword} {shape : Document → Prop}
    (absent : (patternRules source).get? keyword.name = none) :
    Given (patternRules source) keyword shape := by
  intro d found
  rw [absent] at found
  cases found

/-- A string is as one pattern asks if the pattern is found there. -/
theorem permits_patternRules {p : Pattern} (compiled : Pattern.compile source = .ok p) {t : Text}
    (found : p.search t = true) : Permits (patternRules source) (.string t) := by
  have spells : Spells (.string source) p := by
    obtain ⟨tree, _, rfl⟩ := map_eq_ok_iff.mp compiled
    exact ⟨rfl, compiled⟩
  constructor
  case type => exact given_of_absent rfl
  case required => rintro members ⟨⟩
  case bounds =>
    constructor
    case pattern =>
      rintro _ ⟨⟩
      refine ⟨p, spells, ?_⟩
      rintro _ ⟨⟩
      exact found
    all_goals exact given_of_absent rfl

/-- Of the keywords only the pattern has a say, at whatever depth values may lie. -/
theorem conforms_patternRules_iff {p : Pattern} (compiled : Pattern.compile source = .ok p)
    (limit : Nat) (t : Text) :
    Conforms limit 0 (.object (patternRules source)) (.string t) ↔ p.search t = true := by
  constructor
  · intro conforms
    cases conforms with
    | node _ permits =>
      obtain ⟨q, ⟨same, again⟩, found⟩ := permits.bounds.pattern (.string source) rfl
      cases same
      obtain rfl := Except.ok.inj (again.symm.trans compiled)
      exact found t rfl
  · intro found
    apply Conforms.node (Nat.zero_le limit) (permits_patternRules compiled found)
    · rintro members ⟨⟩
    · rintro elements ⟨⟩

end Rules

/-- Nothing is reported of the values that conform. -/
theorem violations_eq_nil_iff_conforms {document : Document} {schema : Schema}
    (compiled : Schema.compile document = .ok schema) (settings : Settings) (value : Document) :
    (validate settings schema value).violations = [] ↔
      Conforms settings.maxDepth 0 document value := by
  rw [← findings_eq_nil_iff_conforms (mirrors_of_compileWithin compiled) _ []]
  show violations settings schema value = [] ↔ _
  rw [violations_eq_reported, reported_eq_nil]

/-- A pattern that compiles is found in the texts that contain a text of its language. -/
theorem search_iff_of_denotes {source : Text} {L : Language CodePoint} {p : Pattern}
    (denotes : Pattern.Denotes source L) (compiled : Pattern.compile source = .ok p) (t : Text) :
    p.search t = true ↔ ∃ w ∈ L, w <:+: t := by
  obtain ⟨tree, parsed, rfl⟩ := map_eq_ok_iff.mp compiled
  exact Pattern.Regex.foundIn_iff (Pattern.means_of_parse denotes parsed) t

/-- A string passes a schema of one pattern exactly if some part of it is a text of the language of
the pattern; and then it passes inside any other text. -/
theorem passes_pattern_iff_contains {source : Text} {L : Language CodePoint} {schema : Schema}
    (denotes : Pattern.Denotes source L)
    (compiled : Schema.compile (.object (patternRules source)) = .ok schema) (settings : Settings)
    (t : Text) :
    ((validate settings schema (.string t)).violations = [] ↔ ∃ w ∈ L, w <:+: t) ∧
      ∀ before after, (validate settings schema (.string t)).violations = [] →
        (validate settings schema (.string (before ++ t ++ after))).violations = [] := by
  obtain ⟨p, read⟩ := exists_compile_of_patternRules compiled
  have passes (t : Text) :
      (validate settings schema (.string t)).violations = [] ↔ ∃ w ∈ L, w <:+: t := by
    rw [violations_eq_nil_iff_conforms compiled, conforms_patternRules_iff read,
      search_iff_of_denotes denotes read]
  refine ⟨passes t, ?_⟩
  intro before after
  rw [passes, passes]
  rintro ⟨w, member, inside⟩
  exact ⟨w, member, inside.trans ⟨before, after, rfl⟩⟩

/-- Groups of letters, as few as will do, and a digit. -/
def lettersDigit : Text := "(ab*|c)+?[0-9]"

section Letters

open Pattern Pattern.Grammar

/-- What the first branch denotes, a letter with others behind it. -/
def firstLetters : Language CodePoint :=
  oneOf (· = CodePoint.ofChar 'a') * (between 0 none (oneOf (· = CodePoint.ofChar 'b')) * 1)

theorem denotes_lettersDigit :
    Denotes lettersDigit
      (between 1 none (firstLetters + oneOf (· = CodePoint.ofChar 'c') * 1) *
        (oneOf (Listed [.range '0' '9']) * 1)) := by
  have first {rest : Text} : Derives ("ab*|" ++ rest) (.sequence firstLetters) ("|" ++ rest) := by
    apply Derives.once (.literal (by decide))
    apply Derives.repeated (.literal (by decide)) .star .greedy
    apply Derives.stop
    rintro _ ⟨⟩
    exact .inl rfl
  have second {rest : Text} : Derives ("c)" ++ rest)
      (.branches (oneOf (· = CodePoint.ofChar 'c') * 1)) (")" ++ rest) := by
    apply Derives.last
    · apply Derives.once (.literal (by decide))
      apply Derives.stop
      rintro _ ⟨⟩
      exact .inr rfl
    · rintro ⟨⟩
  have digit : Derives "[0-9]" (.atom (oneOf (Listed [.range '0' '9']))) [] := by
    apply Derives.set
    apply Members.listed (by decide)
    exact .range (by decide) (.plain (by decide)) (by decide) (.plain (by decide)) (by decide) .close
  refine .last (.repeated (.group (.capture (by decide)) (.next first second)) .plus .lazy ?_) ?_
  · exact .once digit (.stop (by decide))
  · decide

end Letters

/-- A digit behind the letters is found between other text, and one before them is not. -/
theorem passes_pattern_iff_contains_lettersDigit :
    ∃ schema L, Schema.compile (.object (patternRules lettersDigit)) = .ok schema ∧
      Pattern.Denotes lettersDigit L ∧ (∃ w ∈ L, w <:+: ("7 abbc1!" : Text)) ∧
        ¬∃ w ∈ L, w <:+: ("7 abbc!" : Text) := by
  have told : (Schema.compile (.object (patternRules lettersDigit))).toOption.map (fun schema =>
      ((validate .standard schema (.string "7 abbc1!")).violations.length,
        (validate .standard schema (.string "7 abbc!")).violations.length)) = some (0, 1) := by
    decide +kernel
  obtain ⟨schema, compiled, counts⟩ := Option.map_eq_some_iff.mp told
  obtain ⟨found, missed⟩ := Prod.mk.inj counts
  have compiled := toOption_eq_some_iff.mp compiled
  have contains := passes_pattern_iff_contains denotes_lettersDigit compiled .standard
  refine ⟨schema, _, compiled, denotes_lettersDigit, ?_, fun inside => ?_⟩
  · exact (contains "7 abbc1!").1.mp (List.length_eq_zero_iff.mp found)
  · rw [(contains "7 abbc!").1.mpr inside] at missed
    cases missed

end Conformance.Validation
