import Conformance.Proofs.Command.Arguments
import Mathlib.Data.List.Infix
import Mathlib.Data.List.TakeWhile

/-!
# Options that are shortened

A long option may be written as any beginning of its name that no other option of the page has, and
its value may follow behind an equals sign. Each of these is sorted as the option in full would be.
-/
namespace Conformance.Command

variable {page : Page} {option : CommandOption} {t name spelling : Text}

theorem ne_separator_of_sorted {token : Token} (sorted : sortArgument page t = .ok token) :
    t ≠ "--" := by
  rintro rfl
  cases page <;> cases sorted

/-! ### Values behind an equals sign -/

/-- A text that looks like a long option, without a value. -/
structure Bare (spelling : Text) : Prop where
  long : Text.isBeginning "--" spelling = true
  whole : ('=' : CodePoint) ∉ spelling

namespace Bare

theorem ne_sign (bare : Bare spelling) :
    ∀ c ∈ spelling, decide (c ≠ ('=' : CodePoint)) = true := fun _ member =>
  decide_eq_true fun same => bare.whole (same ▸ member)

theorem splitValue_eq (bare : Bare spelling) : splitValue spelling = (spelling, none) := by
  have none : spelling.dropWhile (· ≠ ('=' : CodePoint)) = [] :=
    List.dropWhile_eq_nil_iff.mpr bare.ne_sign
  rw [splitValue, none]

theorem splitValue_joined (bare : Bare spelling) (value : Text) :
    splitValue (spelling ++ "=" ++ value) = (spelling, some value) := by
  have dropped : (spelling ++ "=" ++ value).dropWhile (· ≠ ('=' : CodePoint)) =
      ('=' : CodePoint) :: value := by
    rw [List.append_assoc, List.dropWhile_append_of_pos bare.ne_sign]
    rfl
  have taken : (spelling ++ "=" ++ value).takeWhile (· ≠ ('=' : CodePoint)) = spelling := by
    rw [List.append_assoc, List.takeWhile_append_of_pos bare.ne_sign]
    exact List.append_nil spelling
  rw [splitValue, dropped, taken]

theorem long_joined (bare : Bare spelling) (value : Text) :
    Text.isBeginning "--" (spelling ++ "=" ++ value) = true := by
  have long := List.isPrefixOf_iff_prefix.mp bare.long
  rw [Text.isBeginning, List.append_assoc]
  exact List.isPrefixOf_iff_prefix.mpr (long.trans (List.prefix_append _ _))

end Bare

/-! ### Beginnings of options -/

/-- The options of a page that begin with a text. -/
def Page.beginningWith (page : Page) (beginning : Text) : List (Text × CommandOption) :=
  page.spelled.filter fun entry => Text.isBeginning beginning entry.1

theorem candidates_of_long (long : Text.isBeginning "--" t = true) : candidates page t =
    (page.beginningWith (splitValue t).1).map fun entry =>
      ⟨entry.2, entry.1, (splitValue t).2⟩ := if_pos long

theorem not_plain_of_long (long : Text.isBeginning "--" t = true) :
    ¬(t.head? ≠ some ('-' : CodePoint) ∨ t.length = 1) := by
  obtain ⟨rest, rfl⟩ := List.isPrefixOf_iff_prefix.mp long
  rintro (other | short)
  · exact other rfl
  · cases short

/-- An option that is named in full is among those that begin so. -/
theorem mem_beginningWith_of_named? (found : named? page t = some option) :
    (t, option) ∈ page.beginningWith t := by
  obtain ⟨⟨spelling, _⟩, first, rfl⟩ := Option.map_eq_some_iff.mp found
  have same := List.find?_some first
  obtain rfl := of_decide_eq_true same
  exact List.mem_filter.mpr ⟨List.mem_of_find?_eq_some first,
    List.isPrefixOf_iff_prefix.mpr (List.prefix_refl _)⟩

/-- No spelling of an option has an equals sign in it. -/
theorem Page.whole_of_mem_spelled (page : Page) :
    ∀ entry ∈ page.spelled, ('=' : CodePoint) ∉ entry.1 := by
  cases page <;> decide

theorem named?_joined (page : Page) (spelling value : Text) :
    named? page (spelling ++ "=" ++ value) = none := by
  rw [Option.eq_none_iff_forall_ne_some]
  intro option found
  have listed := (List.mem_filter.mp (mem_beginningWith_of_named? found)).1
  exact page.whole_of_mem_spelled _ listed
    (List.mem_append_left _ (List.mem_append_right _ List.mem_cons_self))

/-- A spelling names one option, be it in front of a value or joined to it. -/
structure Spells (page : Page) (option : CommandOption) (name spelling : Text) : Prop where
  apart : sortArgument page spelling = .ok (.dashed (some ⟨option, name, none⟩))
  joined (value : Text) : sortArgument page (spelling ++ "=" ++ value) =
    .ok (.dashed (some ⟨option, name, some value⟩))

/-- The beginning of a single option spells it. -/
theorem spells_of_single (bare : Bare spelling)
    (single : page.beginningWith spelling = [(name, option)]) :
    Spells page option name spelling := by
  have full {other : CommandOption} (found : named? page spelling = some other) :
      spelling = name ∧ other = option := by
    have member := mem_beginningWith_of_named? found
    rw [single, List.mem_singleton, Prod.mk.injEq] at member
    exact member
  constructor
  · rw [sortArgument, if_neg (not_plain_of_long bare.long)]
    cases found : named? page spelling with
    | some other =>
      obtain ⟨rfl, rfl⟩ := full found
      rfl
    | none =>
      simp only [bare.splitValue_eq, candidates_of_long bare.long, single]
      rfl
  · intro value
    have long := bare.long_joined value
    rw [sortArgument, if_neg (not_plain_of_long long), named?_joined]
    simp only [bare.splitValue_joined]
    cases found : named? page spelling with
    | some other =>
      obtain ⟨rfl, rfl⟩ := full found
      rfl
    | none =>
      simp only [candidates_of_long long, bare.splitValue_joined, single]
      rfl

/-- An argument that begins no option is sorted, though it means none. -/
theorem exists_sorted_of_unknown (long : Text.isBeginning "--" t = true)
    (unknown : page.beginningWith (splitValue t).1 = []) :
    ∃ token, sortArgument page t = .ok token := by
  have unnamed : named? page (splitValue t).1 = none := by
    rw [Option.eq_none_iff_forall_ne_some]
    intro option found
    have member := mem_beginningWith_of_named? found
    rw [unknown] at member
    cases member
  rw [sortArgument, if_neg (not_plain_of_long long)]
  cases named? page t with
  | some option => exact ⟨_, rfl⟩
  | none =>
    simp only [unnamed, candidates_of_long long, unknown, List.map_nil]
    cases (splitValue t).2.isSome with
    | false => exact ⟨_, (apply_ite Except.ok _ _ _).symm⟩
    | true => exact ⟨_, (apply_ite Except.ok _ _ _).symm⟩

/-- A spelling of no option of a page is sorted there, be it in front of a value or joined to it. -/
structure Foreign (page : Page) (spelling : Text) : Prop where
  apart : ∃ token, sortArgument page spelling = .ok token
  joined (value : Text) : ∃ token, sortArgument page (spelling ++ "=" ++ value) = .ok token

theorem foreign_of_none (bare : Bare spelling) (none : page.beginningWith spelling = []) :
    Foreign page spelling where
  apart := exists_sorted_of_unknown bare.long (by rw [bare.splitValue_eq]; exact none)
  joined value := exists_sorted_of_unknown (bare.long_joined value)
    (by rw [bare.splitValue_joined]; exact none)

/-! ### Spellings of the options for the log -/

/-- The options for the log with their names. -/
def logNames : List (Text × CommandOption) :=
  [("--log-level", .logLevel), ("--log-channel", .logChannel)]

/-- The spellings of an option for the log: its name, and each beginning of it that is not one of the
other name too. -/
def logSpellings (name : Text) : List Text :=
  name.inits.filter fun spelling => ("--log-" : Text).length < spelling.length

theorem bare_logSpellings : ∀ entry ∈ logNames, ∀ spelling ∈ logSpellings entry.1,
    Bare spelling := by
  have each : ∀ entry ∈ logNames, ∀ spelling ∈ logSpellings entry.1,
      Text.isBeginning "--" spelling = true ∧ ('=' : CodePoint) ∉ spelling := by decide
  intro entry listed spelling known
  obtain ⟨long, whole⟩ := each entry listed spelling known
  exact ⟨long, whole⟩

/-- Every command knows the options for the log by their spellings. -/
theorem spells_logSpellings (command : page ∈ Page.commands) {entry : Text × CommandOption}
    (listed : entry ∈ logNames) (known : spelling ∈ logSpellings entry.1) :
    Spells page entry.2 entry.1 spelling := by
  have single : ∀ page ∈ Page.commands, ∀ entry ∈ logNames, ∀ spelling ∈ logSpellings entry.1,
      page.beginningWith spelling = [entry] := by decide
  exact spells_of_single (bare_logSpellings entry listed spelling known)
    (single page command entry listed spelling known)

/-- The page of the whole line knows no options for the log. -/
theorem foreign_logSpellings {entry : Text × CommandOption} (listed : entry ∈ logNames)
    (known : spelling ∈ logSpellings entry.1) : Foreign .main spelling := by
  have none : ∀ entry ∈ logNames, ∀ spelling ∈ logSpellings entry.1,
      Page.beginningWith .main spelling = [] := by decide
  exact foreign_of_none (bare_logSpellings entry listed spelling known)
    (none entry listed spelling known)

end Conformance.Command
