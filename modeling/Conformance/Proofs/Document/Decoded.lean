import Conformance.Proofs.Document.Accepted
import Conformance.Proofs.Text.Scalar

/-!
# Documents of texts and of decoded data

A plain decoder takes more than documents hold: words for numbers past the finite ones and literals
that are too large. What it hands over becomes a document exactly if the text does, and the same
one, unless such a number stands in a member that a later one of its name replaces. There the text
is refused, and in the data the number is gone.
-/
namespace Conformance

open Json Json.Grammar

/-- Decoded data hold any numbers and any code points. -/
def Json.Dialect.data : Dialect := ⟨Dialect.document.maxNesting, true, true⟩

namespace Json

/-! ### What two dialects have in common -/

theorem Numeral.value_data {n : Numeral} {datum : Datum} (read : n.value .document = .ok datum) :
    n.value .data = .ok datum := by
  cases whole : n.isWhole with
  | true =>
    rw [value_whole whole] at read ⊢
    exact read
  | false =>
    rw [value_real whole] at read ⊢
    cases known : n.nearest? with
    | none =>
      rw [known] at read
      cases read
    | some value =>
      rw [known] at read
      exact read

namespace Phrase

mutual

/-- What a phrase denotes for documents it denotes for data. -/
theorem datum?_data : ∀ {phrase : Phrase} {datum : Datum},
    phrase.datum? .document = some datum → phrase.datum? .data = some datum
  | .null, _, denoted | .boolean _, _, denoted | .notNumber, _, denoted
  | .infinite _, _, denoted => denoted
  | .string content, _, denoted => by
    have held : Holds .data content := .inl rfl
    rw [datum?, if_pos (holds_document content)] at denoted
    rw [datum?, if_pos held]
    exact denoted
  | .number n, _, denoted => by
    rw [datum?] at denoted ⊢
    cases read : n.value .document with
    | error stop =>
      rw [read] at denoted
      cases denoted
    | ok value =>
      rw [read] at denoted
      rw [Numeral.value_data read]
      exact denoted
  | .array elements, _, denoted => by
    obtain ⟨items, each, rfl⟩ := Option.map_eq_some_iff.mp denoted
    rw [datum?, items?_data each]
    rfl
  | .object members, _, denoted => by
    obtain ⟨entries, each, rfl⟩ := Option.map_eq_some_iff.mp denoted
    rw [datum?, entries?_data each]
    rfl

theorem items?_data : ∀ {elements : List Phrase} {items : List Datum},
    items? .document elements = some items → items? .data elements = some items
  | [], _, denoted => denoted
  | element :: rest, _, denoted => by
    obtain ⟨item, others, known, each, rfl⟩ := items?_cons_eq_some_iff.mp denoted
    exact items?_cons_eq_some_iff.mpr ⟨item, others, datum?_data known, items?_data each, rfl⟩

theorem entries?_data : ∀ {members : List (Text × Phrase)} {entries : List (Datum × Datum)},
    entries? .document members = some entries → entries? .data members = some entries
  | [], _, denoted => denoted
  | (name, value) :: rest, _, denoted => by
    obtain ⟨datum, others, _, known, each, rfl⟩ := entries?_cons_eq_some_iff.mp denoted
    exact entries?_cons_eq_some_iff.mpr
      ⟨datum, others, .inl rfl, datum?_data known, entries?_data each, rfl⟩

end

end Phrase

namespace Phrase

mutual

/-- No number hides that would not be read: every number of a member that a later one of its name
replaces is legible. -/
def Settled : Phrase → Prop
  | .array elements => SettledAll elements
  | .object members => SettledMembers members
  | _ => True

def SettledAll : List Phrase → Prop
  | [] => True
  | element :: rest => Settled element ∧ SettledAll rest

def SettledMembers : List (Text × Phrase) → Prop
  | [] => True
  | (name, value) :: rest =>
    (if name ∈ rest.map Prod.fst then Readable value else Settled value) ∧ SettledMembers rest

end

end Phrase

theorem Named.get?_of_all? {α : Type} {members : Named (Option α)} {values : Named α}
    (known : Named.all? members = some values) (name : Text) :
    Named.get? members name ≠ some none := by
  rw [Named.eq_map_of_all? known, Named.get?_map]
  cases values.get? name with
  | none => nofun
  | some value => nofun

namespace Phrase

mutual

/-- A settled phrase of which everything that is kept denotes something can be read. -/
theorem Settled.readable : ∀ {phrase : Phrase} {datum : Datum} {document : Document},
    phrase.Settled → phrase.datum? .data = some datum → phrase.document? = some document →
      phrase.Readable
  | .null, _, _, _, _, _ | .boolean _, _, _, _, _, _ | .string _, _, _, _, _, _ =>
    List.forall_mem_nil _
  | .number n, _, _, _, denoted, finite => by
    refine List.forall_mem_singleton.mpr ?_
    obtain ⟨value, inRange, _⟩ := Option.map_eq_some_iff.mp finite
    cases whole : n.isWhole with
    | true =>
      refine .whole whole ?_
      by_contra long
      rw [datum?, Numeral.value_whole whole, if_pos (Nat.not_le.mp long)] at denoted
      cases denoted
    | false => exact .real whole (by rw [inRange]; nofun)
  | .array elements, _, _, settled, denoted, finite => by
    obtain ⟨items, each, _⟩ := Option.map_eq_some_iff.mp denoted
    obtain ⟨documents, all, _⟩ := Option.map_eq_some_iff.mp finite
    exact readable_elements settled each all
  | .object members, _, _, settled, denoted, finite => by
    obtain ⟨entries, each, _⟩ := Option.map_eq_some_iff.mp denoted
    obtain ⟨documents, all, _⟩ := Option.map_eq_some_iff.mp finite
    refine readable_members settled each fun name => ?_
    rw [← Named.get?_settle]
    exact Named.get?_of_all? all name

theorem readable_elements : ∀ {elements : List Phrase} {items : List Datum}
    {documents : List Document}, SettledAll elements → items? .data elements = some items →
      documents? elements = some documents → ∀ number ∈ numbersOfAll elements, Legible number
  | [], _, _, _, _, _ => List.forall_mem_nil _
  | element :: rest, _, _, settled, denoted, finite => by
    obtain ⟨item, others, known, each, _⟩ := items?_cons_eq_some_iff.mp denoted
    rw [documents?_cons] at finite
    obtain ⟨document, first, later⟩ := Option.bind_eq_some_iff.mp finite
    obtain ⟨documents, later, _⟩ := Option.map_eq_some_iff.mp later
    exact List.forall_mem_append.mpr
      ⟨settled.1.readable known first, readable_elements settled.2 each later⟩

/-- The last member of a name is the one that is kept. -/
theorem readable_members : ∀ {members : List (Text × Phrase)} {entries : List (Datum × Datum)},
    SettledMembers members → entries? .data members = some entries →
      (∀ name, Named.get? (denotations members).reverse name ≠ some none) →
        ∀ number ∈ numbersOfMembers members, Legible number
  | [], _, _, _, _ => List.forall_mem_nil _
  | (name, value) :: rest, _, settled, denoted, kept => by
    obtain ⟨datum, others, _, known, each, _⟩ := entries?_cons_eq_some_iff.mp denoted
    have found (wanted : Text) : Named.get? (denotations ((name, value) :: rest)).reverse wanted =
        (Named.get? (denotations rest).reverse wanted).or
          (if name = wanted then some value.document? else none) := by
      rw [denotations, List.reverse_cons, Named.get?_append_singleton]
    refine List.forall_mem_append.mpr ⟨?_, readable_members settled.2 each fun wanted lost => ?_⟩
    · obtain ⟨own, _⟩ := settled
      split_ifs at own with replaced
      · exact own
      · -- Nothing comes later under this name, so its value is kept and denotes something.
        have unseen : Named.get? (denotations rest).reverse name = none := by
          rw [Named.get?_eq_none_iff, denotations_eq_map, ← List.map_reverse, Named.names_map,
            Named.names, List.map_reverse, List.mem_reverse]
          exact replaced
        have last := kept name
        rw [found, unseen, if_pos rfl, Option.none_or] at last
        obtain ⟨document, finite⟩ := Option.ne_none_iff_exists'.mp fun none =>
          last (congrArg some none)
        exact own.readable known finite
    · -- What is lost among the others is lost among all.
      refine kept wanted ?_
      rw [found, lost]
      rfl

end

end Phrase

/-! ### Texts that become what their data become -/

namespace Phrase

mutual

/-- Every text that is written, whether or not it is kept. -/
def texts : Phrase → List Text
  | .string content => [content]
  | .array elements => textsOfAll elements
  | .object members => textsOfMembers members
  | _ => []

def textsOfAll : List Phrase → List Text
  | [] => []
  | element :: rest => texts element ++ textsOfAll rest

def textsOfMembers : List (Text × Phrase) → List Text
  | [] => []
  | (name, value) :: rest => name :: (texts value ++ textsOfMembers rest)

end

/-- A phrase that denotes data and is not nested too deeply for documents, with no number hidden
that would not be read, and with surrogates in pairs alone. -/
structure Regular (phrase : Phrase) : Prop where
  denotes : phrase.datum? .data ≠ none
  shallow : phrase.nesting 2 ≤ Document.maxNesting
  settled : phrase.Settled
  paired : ∀ content ∈ phrase.texts, content.Scalar

theorem Regular.within {phrase : Phrase} (regular : phrase.Regular) :
    phrase.nesting 1 ≤ Dialect.data.maxNesting :=
  (phrase.nesting_mono (by decide)).trans regular.shallow

end Phrase

/-- A text that writes a regular phrase. -/
def Regular (t : Text) : Prop := ∃ phrase, Writes true t phrase ∧ phrase.Regular

end Json

namespace Document

variable {t : Text} {phrase : Phrase} {datum : Datum} {document : Document}

end Document
end Conformance
