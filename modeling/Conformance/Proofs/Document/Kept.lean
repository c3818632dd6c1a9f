import Conformance.Proofs.Document.Denotation

/-!
# The numbers that a document keeps

Of the values of a name the last is kept, and a phrase denotes a document exactly if every number in
what is kept is finite. What is kept is written, and where no name comes twice it is all that is.
-/
namespace Conformance

namespace Named

variable {α β : Type}

theorem all?_eq_none_iff {members : Named (Option α)} :
    all? members = none ↔ ∃ member ∈ members, member.2 = none := by
  induction members with
  | nil => simp [all?]
  | cons member rest ih =>
    obtain ⟨name, value⟩ := member
    rw [all?_cons]
    cases value with
    | none => simp
    | some value => simp [ih]

theorem mem_values_flatten {members : Named (List β)} {part : β} :
    part ∈ members.values.flatten ↔ ∃ member ∈ members, part ∈ member.2 := by
  simp only [values, List.mem_flatten, List.mem_map, exists_exists_and_eq_and]

end Named

namespace Json.Phrase

/-! ### The numbers of a phrase -/

mutual

/-- Every number that is written, whether or not it is kept. -/
def numbers : Phrase → List Phrase
  | .number numeral => [.number numeral]
  | .notNumber => [.notNumber]
  | .infinite negative => [.infinite negative]
  | .array elements => numbersOfAll elements
  | .object members => numbersOfMembers members
  | _ => []

def numbersOfAll : List Phrase → List Phrase
  | [] => []
  | element :: rest => numbers element ++ numbersOfAll rest

def numbersOfMembers : List (Text × Phrase) → List Phrase
  | [] => []
  | (_, value) :: rest => numbers value ++ numbersOfMembers rest

end

/-- Every number is finite, also one that is not kept. -/
def Finite (phrase : Phrase) : Prop := ∀ number ∈ phrase.numbers, number.document? ≠ none

mutual

/-- The numbers of the document: of each name only those of its last value. -/
def kept : Phrase → List Phrase
  | .number numeral => [.number numeral]
  | .notNumber => [.notNumber]
  | .infinite negative => [.infinite negative]
  | .array elements => keptOfAll elements
  | .object members => (keptOfEach members).settle.values.flatten
  | _ => []

def keptOfAll : List Phrase → List Phrase
  | [] => []
  | element :: rest => kept element ++ keptOfAll rest

/-- Members with the numbers of their values, whether or not the values are kept. -/
def keptOfEach : List (Text × Phrase) → Named (List Phrase)
  | [] => []
  | (name, value) :: rest => (name, kept value) :: keptOfEach rest

end

mutual

/-- What is kept is written. -/
theorem mem_numbers_of_mem_kept {number : Phrase} : ∀ {phrase : Phrase},
    number ∈ phrase.kept → number ∈ phrase.numbers
  | .null, member | .boolean _, member | .string _, member => member
  | .number _, member | .notNumber, member | .infinite _, member => member
  | .array _, member => mem_numbersOfAll_of_mem_kept member
  | .object _, member => by
    obtain ⟨value, present, inside⟩ := Named.mem_values_flatten.mp member
    exact Named.forall_mem_settle (fun _ => mem_numbersOfMembers_of_mem_kept) value present inside

theorem mem_numbersOfAll_of_mem_kept {number : Phrase} : ∀ {elements : List Phrase},
    number ∈ keptOfAll elements → number ∈ numbersOfAll elements
  | _ :: _, member => by
    rcases List.mem_append.mp member with first | later
    · exact List.mem_append_left _ (mem_numbers_of_mem_kept first)
    · exact List.mem_append_right _ (mem_numbersOfAll_of_mem_kept later)

theorem mem_numbersOfMembers_of_mem_kept {number : Phrase} {value : Text × List Phrase} :
    ∀ {members : List (Text × Phrase)}, value ∈ keptOfEach members → number ∈ value.2 →
      number ∈ numbersOfMembers members
  | _ :: _, present, inside => by
    rcases List.mem_cons.mp present with rfl | later
    · exact List.mem_append_left _ (mem_numbers_of_mem_kept inside)
    · exact List.mem_append_right _ (mem_numbersOfMembers_of_mem_kept later inside)

end

/-- A value that denotes nothing has a number that denotes nothing. -/
def Lacks (denoted : Option Document) (numbers : List Phrase) : Prop :=
  denoted = none ↔ ∃ number ∈ numbers, number.document? = none

mutual

/-- A phrase denotes no document exactly if a number that is kept is not finite. -/
theorem document?_eq_none_iff : ∀ phrase : Phrase,
    phrase.document? = none ↔ ∃ number ∈ phrase.kept, number.document? = none
  | .null | .boolean _ | .string _ => ⟨nofun, fun ⟨_, member, _⟩ => nomatch member⟩
  | .number _ | .notNumber | .infinite _ => by simp only [kept, List.mem_singleton, exists_eq_left]
  | .array elements => by
    rw [document?, kept, Option.map_eq_none_iff]
    exact documents?_eq_none_iff elements
  | .object members => by
    rw [document?, kept, Option.map_eq_none_iff, Named.all?_eq_none_iff]
    -- Settling replaces the same members among those that denote and among those that are kept.
    have settled := Named.forall₂_settle (fun _ _ both => both.1) (lacks_denotations members)
    simp only [Named.mem_values_flatten]
    constructor
    · rintro ⟨member, present, none⟩
      obtain ⟨other, there, both⟩ := Document.exists_mem_of_forall₂ settled.flip member present
      obtain ⟨number, inside, lost⟩ := both.2.mp none
      exact ⟨number, ⟨other, there, inside⟩, lost⟩
    · rintro ⟨number, ⟨other, there, inside⟩, lost⟩
      obtain ⟨member, present, both⟩ := Document.exists_mem_of_forall₂ settled other there
      exact ⟨member, present, both.2.mpr ⟨number, inside, lost⟩⟩

theorem documents?_eq_none_iff : ∀ elements : List Phrase,
    documents? elements = none ↔ ∃ number ∈ keptOfAll elements, number.document? = none
  | [] => ⟨nofun, fun ⟨_, member, _⟩ => nomatch member⟩
  | element :: rest => by
    have first := document?_eq_none_iff element
    have later := documents?_eq_none_iff rest
    rw [documents?_cons, keptOfAll]
    simp only [List.mem_append, or_and_right, exists_or, ← first, ← later]
    cases element.document? with
    | none => simp
    | some document => simp

theorem lacks_denotations : ∀ members : List (Text × Phrase),
    List.Forall₂ (fun x y => x.1 = y.1 ∧ Lacks x.2 y.2) (denotations members) (keptOfEach members)
  | [] => .nil
  | (_, value) :: rest => .cons ⟨rfl, document?_eq_none_iff value⟩ (lacks_denotations rest)

end

/-- A phrase of finite numbers denotes a document. -/
theorem exists_document? (phrase : Phrase) (finite : phrase.Finite) :
    ∃ document, phrase.document? = some document := by
  refine Option.ne_none_iff_exists'.mp fun none => ?_
  obtain ⟨number, member, lost⟩ := phrase.document?_eq_none_iff.mp none
  exact finite number (mem_numbers_of_mem_kept member) lost

/-! ### Phrases in which no name comes twice -/

mutual

/-- No object has a name twice, so nothing is replaced. -/
def Distinct : Phrase → Prop
  | .array elements => DistinctAll elements
  | .object members => (Named.names members).Nodup ∧ DistinctMembers members
  | _ => True

def DistinctAll : List Phrase → Prop
  | [] => True
  | element :: rest => Distinct element ∧ DistinctAll rest

def DistinctMembers : List (Text × Phrase) → Prop
  | [] => True
  | (_, value) :: rest => Distinct value ∧ DistinctMembers rest

end

theorem names_keptOfEach (members : List (Text × Phrase)) :
    (keptOfEach members).names = Named.names members := by
  induction members with
  | nil => rfl
  | cons member rest ih => exact congrArg (member.1 :: ·) ih

mutual

/-- Where no name comes twice every number is kept. -/
theorem Distinct.kept_eq : ∀ {phrase : Phrase}, phrase.Distinct → phrase.kept = phrase.numbers
  | .null, _ | .boolean _, _ | .string _, _ => rfl
  | .number _, _ | .notNumber, _ | .infinite _, _ => rfl
  | .array _, distinct => keptOfAll_eq distinct
  | .object members, distinct => by
    have apart : (keptOfEach members).names.Nodup := names_keptOfEach members ▸ distinct.1
    rw [kept, numbers, Named.settle_of_nodup apart]
    exact keptOfEach_eq distinct.2

theorem keptOfAll_eq : ∀ {elements : List Phrase}, DistinctAll elements →
    keptOfAll elements = numbersOfAll elements
  | [], _ => rfl
  | _ :: _, distinct => congrArg₂ (· ++ ·) distinct.1.kept_eq (keptOfAll_eq distinct.2)

theorem keptOfEach_eq : ∀ {members : List (Text × Phrase)}, DistinctMembers members →
    (keptOfEach members).values.flatten = numbersOfMembers members
  | [], _ => rfl
  | (_, _) :: _, distinct => congrArg₂ (· ++ ·) distinct.1.kept_eq (keptOfEach_eq distinct.2)

end

end Json.Phrase

end Conformance
