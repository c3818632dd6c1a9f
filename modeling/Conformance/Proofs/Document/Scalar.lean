import Conformance.Proofs.Document.Decoded
import Conformance.Proofs.Document.Dump
import Conformance.Proofs.Json.Clean

/-!
# Documents without surrogates

A document whose texts and names have no surrogates is shown without any. So is one that comes of a
phrase with surrogates in pairs alone.
-/
namespace Conformance

open Json

/-- No text and no name in the document has a surrogate. -/
inductive Document.Scalar : Document → Prop where
  | null : Scalar .null
  | boolean (value : Bool) : Scalar (.boolean value)
  | number (value : Binary64) : Scalar (.number value)
  | string {content : Text} (scalar : content.Scalar) : Scalar (.string content)
  | array {elements : List Document} (each : ∀ element ∈ elements, Scalar element) :
      Scalar (.array elements)
  | object {members : Named Document} (names : ∀ member ∈ members, member.1.Scalar)
      (each : ∀ member ∈ members, Scalar member.2) : Scalar (.object members)

namespace Document

theorem scalar_enclose_plainSorted {level : Nat} {opening closing : Char} {parts : List Text}
    (each : ∀ part ∈ parts, part.Scalar) :
    Text.Scalar (enclose plainSorted level opening closing parts) := by
  have mark (c : Char) : Text.Scalar [CodePoint.ofChar c] := Text.scalar_chars [c]
  cases parts with
  | nil => exact (mark opening).append (mark closing)
  | cons part others =>
    have between := (Text.scalar_ofString ",").append (Text.scalar_ofString " ")
    exact ((mark opening).append (Text.Scalar.join between each)).append (mark closing)

/-- A scalar document is written without surrogates. -/
theorem Scalar.write {d : Document} (scalar : d.Scalar) (level : Nat) :
    Text.Scalar (write plainSorted level d.toDatum) := by
  induction scalar generalizing level with
  | null => exact Text.scalar_ofString "null"
  | boolean value =>
    cases value with
    | true => exact Text.scalar_ofString "true"
    | false => exact Text.scalar_ofString "false"
  | number value =>
    rw [toDatum]
    split_ifs
    · exact Text.scalar_ofInt _
    · exact value.scalar_format
  | string scalar => exact fun c member => (clean_writeString scalar c member).2
  | @array elements each ih =>
    rw [toDatum, Json.write, writeItems_toItems]
    refine scalar_enclose_plainSorted fun part member => ?_
    obtain ⟨element, present, rfl⟩ := List.mem_map.mp member
    exact ih element present (level + 1)
  | @object members names each ih =>
    rw [toDatum, Json.write, writeEntries_toEntries]
    refine scalar_enclose_plainSorted fun part member => ?_
    obtain ⟨line, arranged, rfl⟩ := List.mem_map.mp member
    have sorted : plainSorted.sorted = true := rfl
    rw [arrange, if_pos sorted, List.mem_mergeSort] at arranged
    obtain ⟨entry, present, rfl⟩ := List.mem_map.mp arranged
    have name : Text.Scalar (writeString false entry.1) :=
      fun c within => (clean_writeString (names entry present) c within).2
    exact ((name.append (Text.scalar_ofString ":")).append (Text.scalar_ofString " ")).append
      (ih entry present (level + 1))

theorem Scalar.dump {d : Document} (scalar : d.Scalar) : d.dump.Scalar := scalar.write 0

end Document

/-! ### Documents of phrases -/

theorem Named.mem_of_all? {α : Type} {members : Named (Option α)} {values : Named α}
    (known : Named.all? members = some values) {member : Text × α} (present : member ∈ values) :
    (member.1, some member.2) ∈ members := by
  rw [Named.eq_map_of_all? known]
  exact List.mem_map_of_mem present

namespace Json.Phrase

mutual

/-- What a phrase denotes has the texts that it writes. -/
theorem scalar_document? : ∀ {phrase : Phrase} {document : Document},
    (∀ content ∈ phrase.texts, content.Scalar) → phrase.document? = some document →
      document.Scalar
  | .null, _, _, denoted => by
    cases denoted
    exact .null
  | .boolean _, _, _, denoted => by
    cases denoted
    exact .boolean _
  | .number _, _, _, denoted => by
    obtain ⟨value, _, rfl⟩ := Option.map_eq_some_iff.mp denoted
    exact .number value
  | .notNumber, _, _, denoted | .infinite _, _, _, denoted => by cases denoted
  | .string content, _, scalar, denoted => by
    cases denoted
    exact .string (scalar content List.mem_cons_self)
  | .array elements, _, scalar, denoted => by
    obtain ⟨documents, each, rfl⟩ := Option.map_eq_some_iff.mp denoted
    exact .array (scalar_documents? scalar each)
  | .object members, _, scalar, denoted => by
    obtain ⟨documents, kept, rfl⟩ := Option.map_eq_some_iff.mp denoted
    have each := Named.forall_mem_settle (scalar_denotations scalar)
    exact .object (fun member present => (each _ (Named.mem_of_all? kept present)).1)
      fun member present => (each _ (Named.mem_of_all? kept present)).2 _ rfl

theorem scalar_documents? : ∀ {elements : List Phrase} {documents : List Document},
    (∀ content ∈ textsOfAll elements, content.Scalar) → documents? elements = some documents →
      ∀ document ∈ documents, document.Scalar
  | [], _, _, denoted => by
    cases denoted
    exact List.forall_mem_nil _
  | element :: rest, _, scalar, denoted => by
    rw [documents?_cons] at denoted
    obtain ⟨document, known, denoted⟩ := Option.bind_eq_some_iff.mp denoted
    obtain ⟨documents, each, rfl⟩ := Option.map_eq_some_iff.mp denoted
    obtain ⟨own, others⟩ := List.forall_mem_append.mp scalar
    exact List.forall_mem_cons.mpr
      ⟨scalar_document? own known, scalar_documents? others each⟩

theorem scalar_denotations : ∀ {members : List (Text × Phrase)},
    (∀ content ∈ textsOfMembers members, content.Scalar) →
      ∀ member ∈ denotations members,
        member.1.Scalar ∧ ∀ document, member.2 = some document → document.Scalar
  | [], _ => List.forall_mem_nil _
  | (name, value) :: rest, scalar => by
    obtain ⟨named, scalar⟩ := List.forall_mem_cons.mp scalar
    obtain ⟨own, others⟩ := List.forall_mem_append.mp scalar
    exact List.forall_mem_cons.mpr
      ⟨⟨named, fun _ known => scalar_document? own known⟩, scalar_denotations others⟩

end

end Json.Phrase
end Conformance
