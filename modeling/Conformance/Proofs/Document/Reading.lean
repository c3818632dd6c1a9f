import Conformance.Document.Notation
import Conformance.Proofs.Yaml.Making
import Conformance.Proofs.Document.Conversion

/-!
# What is read is well named

A datum with distinct keys becomes a document with distinct names, and both readers hand over data
with distinct keys.
-/
namespace Conformance

/-! ### From data to documents -/

namespace Document

/-- The names of the members are the keys of the entries, all of which are texts. -/
theorem names_of_texts {entries : List (Datum × Datum)} {members : Named Document}
    (keys : List.Forall₂ (fun entry member => entry.1 = .text member.1) entries members) :
    members.names = Datum.textKeys entries := by
  induction keys with
  | nil => rfl
  | @cons entry member _ _ text _ ih =>
    obtain ⟨key, value⟩ := entry
    obtain rfl : key = .text member.1 := text
    rw [Datum.textKeys_cons_text, ← ih]
    rfl

theorem wellNamed_of_ofDatumWithin {levels : Nat} {datum : Datum} {document : Document}
    (keyed : datum.WellKeyed) (read : ofDatumWithin levels datum = .ok document) :
    document.WellNamed := by
  induction datum using Datum.induction generalizing levels document with
  | step datum ih =>
    cases datum with
    | null =>
      cases read
      exact .null
    | boolean value =>
      cases read
      exact .boolean value
    | integer value =>
      rw [ofDatumWithin] at read
      split at read
      next x _ =>
        cases read
        exact .number x
      next => cases read
    | real value =>
      cases value with
      | finite value =>
        cases read
        exact .number value
      | infinite _ | notNumber => cases read
    | text value =>
      cases read
      exact .string value
    | sequence items =>
      obtain ⟨elements, rfl, _, each⟩ := ofDatumWithin_sequence_eq_ok_iff.mp read
      refine .array fun element member => ?_
      obtain ⟨item, present, converted⟩ := exists_mem_of_forall₂ each element member
      exact ih item present ((Datum.wellKeyed_sequence_iff items).mp keyed item present) converted
    | tuple items =>
      rw [ofDatumWithin_tuple] at read
      obtain ⟨elements, rfl, _, each⟩ := ofDatumWithin_sequence_eq_ok_iff.mp read
      refine .array fun element member => ?_
      obtain ⟨item, present, converted⟩ := exists_mem_of_forall₂ each element member
      exact ih item present ((Datum.wellKeyed_tuple_iff items).mp keyed item present) converted
    | mapping entries =>
      obtain ⟨members, rfl, _, each⟩ := ofDatumWithin_mapping_eq_ok_iff.mp read
      obtain ⟨distinct, values⟩ := (Datum.wellKeyed_mapping_iff entries).mp keyed
      refine .object ?_ fun member present => ?_
      · rw [names_of_texts (each.imp fun _ _ both => both.1)]
        exact distinct
      · obtain ⟨entry, there, _, converted⟩ := exists_mem_of_forall₂ each member present
        exact ih entry.2 (List.mem_map_of_mem there) (values entry there) converted
    -- Nothing in a document stands for the rest.
    | _ => cases read

theorem wellNamed_of_ofDatum {datum : Datum} {document : Document} (keyed : datum.WellKeyed)
    (read : ofDatum datum = .ok document) : document.WellNamed :=
  wellNamed_of_ofDatumWithin keyed read

end Document

/-! ### From JSON -/

namespace Json

theorem wellKeyed_of_word {dialect : Dialect} {word : Text × Except Stop Datum} {datum : Datum}
    (member : word ∈ words dialect) (means : word.2 = .ok datum) : datum.WellKeyed := by
  simp only [words, extended, List.mem_cons, List.not_mem_nil, or_false] at member
  rcases member with rfl | rfl | rfl | rfl | rfl | rfl
  -- The last three words stand for values in some dialects only.
  case inr.inr.inr.inl | inr.inr.inr.inr.inl | inr.inr.inr.inr.inr =>
    split at means
    · cases means
      exact .leaf rfl rfl
    · cases means
  all_goals
    cases means
    exact .leaf rfl rfl

theorem wellKeyed_of_numeral {dialect : Dialect} {n : Numeral} {datum : Datum}
    (read : n.value dialect = .ok datum) : datum.WellKeyed := by
  rw [Numeral.value] at read
  split at read
  · split at read
    · cases read
    · cases read
      exact .leaf rfl rfl
  · simp only at read
    split at read
    · cases read
      exact .leaf rfl rfl
    · split at read
      · cases read
        exact .leaf rfl rfl
      · cases read

theorem wellKeyed_of_readScalar {dialect : Dialect} {t rest : Text} {datum : Datum}
    (read : readScalar dialect t = .ok (datum, rest)) : datum.WellKeyed := by
  rw [readScalar] at read
  split at read
  next meaning after found =>
    obtain ⟨word, member, known⟩ := List.exists_of_findSome?_eq_some found
    obtain ⟨_, _, equal⟩ := Option.map_eq_some_iff.mp known
    cases equal
    obtain ⟨_, means, equal⟩ := map_eq_ok_iff.mp read
    cases equal
    exact wellKeyed_of_word member means
  · split at read
    · obtain ⟨_, means, equal⟩ := map_eq_ok_iff.mp read
      cases equal
      exact wellKeyed_of_numeral means
    · cases read

/-- With so much fuel the readers hand over well-keyed data only. -/
structure Keyed (dialect : Dialect) (fuel : Nat) : Prop where
  value : ∀ {levels : Nat} {t rest : Text} {datum : Datum},
    readValue dialect fuel levels t = .ok (datum, rest) → datum.WellKeyed
  elements : ∀ {levels : Nat} {t rest : Text} {items : List Datum},
    readElements dialect fuel levels t = .ok (items, rest) → ∀ item ∈ items, item.WellKeyed
  members : ∀ {levels : Nat} {t rest : Text} {entries : List (Datum × Datum)},
    readMembers dialect fuel levels t = .ok (entries, rest) →
      ∀ entry ∈ entries, entry.2.WellKeyed

theorem Keyed.readValue_succ {dialect : Dialect} {fuel levels : Nat} {t rest : Text}
    {datum : Datum} (keyed : Keyed dialect fuel)
    (read : readValue dialect (fuel + 1) levels t = .ok (datum, rest)) : datum.WellKeyed := by
  cases t with
  | nil => cases read
  | cons c t =>
    rw [readValue] at read
    -- The cases are those of the first code point: a string, an array, an object or a scalar.
    split at read
    · obtain ⟨_, _, equal⟩ := map_eq_ok_iff.mp read
      cases equal
      exact .leaf rfl rfl
    split at read
    · split at read
      · cases read
      split at read
      · cases read
      split at read
      · cases read
        exact .leaf rfl rfl
      · obtain ⟨_, inner, equal⟩ := map_eq_ok_iff.mp read
        cases equal
        exact (Datum.wellKeyed_sequence_iff _).mpr (keyed.elements inner)
    split at read
    · split at read
      · cases read
      split at read
      · cases read
      split at read
      · cases read
        exact .leaf rfl rfl
      · obtain ⟨_, inner, equal⟩ := map_eq_ok_iff.mp read
        cases equal
        exact Datum.wellKeyed_ofEntries (keyed.members inner)
    · exact wellKeyed_of_readScalar read

theorem Keyed.readElements_succ {dialect : Dialect} {fuel levels : Nat} {t rest : Text}
    {items : List Datum} (keyed : Keyed dialect fuel)
    (read : readElements dialect (fuel + 1) levels t = .ok (items, rest)) :
    ∀ item ∈ items, item.WellKeyed := by
  rw [readElements] at read
  split at read
  · cases read
  next first _ firstRead =>
    have head := keyed.value firstRead
    -- Behind an element the text ends, the array is closed, or another element follows.
    split at read
    · cases read
    split at read
    · cases read
      exact List.forall_mem_singleton.mpr head
    split at read
    · obtain ⟨_, inner, equal⟩ := map_eq_ok_iff.mp read
      cases equal
      exact List.forall_mem_cons.mpr ⟨head, keyed.elements inner⟩
    · cases read

theorem Keyed.readMembers_succ {dialect : Dialect} {fuel levels : Nat} {t rest : Text}
    {entries : List (Datum × Datum)} (keyed : Keyed dialect fuel)
    (read : readMembers dialect (fuel + 1) levels t = .ok (entries, rest)) :
    ∀ entry ∈ entries, entry.2.WellKeyed := by
  cases t with
  | nil => cases read
  | cons quote inside =>
    rw [readMembers] at read
    -- A quote, a name, something behind it, a colon and a value are needed, in this order.
    split at read
    · cases read
    split at read
    · cases read
    split at read
    · cases read
    split at read
    · cases read
    split at read
    · cases read
    next value _ valueRead =>
      have head := keyed.value valueRead
      split at read
      · cases read
      split at read
      · cases read
        exact List.forall_mem_singleton.mpr head
      split at read
      · obtain ⟨_, inner, equal⟩ := map_eq_ok_iff.mp read
        cases equal
        exact List.forall_mem_cons.mpr ⟨head, keyed.members inner⟩
      · cases read

/-- Each reader relies on the others with less fuel. -/
theorem keyed (dialect : Dialect) (fuel : Nat) : Keyed dialect fuel := by
  induction fuel with
  | zero =>
    refine ⟨fun read => ?_, fun read => ?_, fun read => ?_⟩
    · cases read
    · cases read
    · cases read
  | succ fuel ih => exact ⟨ih.readValue_succ, ih.readElements_succ, ih.readMembers_succ⟩

theorem wellKeyed_of_readText {dialect : Dialect} {t : Text} {datum : Datum}
    (read : readText dialect t = .ok datum) : datum.WellKeyed := by
  rw [readText] at read
  split at read
  · cases read
  next valueRead =>
    split at read
    · cases read
      exact (keyed dialect _).value valueRead
    · cases read

theorem wellKeyed_of_decode {dialect : Dialect} {t : Text} {datum : Datum}
    (read : decode dialect t = .ok datum) : datum.WellKeyed := by
  rw [decode] at read
  split at read
  · cases read
  · exact wellKeyed_of_readText (mapError_eq_ok_iff.mp read)

theorem wellKeyed_of_decodeBytes {dialect : Dialect} {bytes : Bytes} {datum : Datum}
    (read : decodeBytes dialect bytes = .ok datum) : datum.WellKeyed := by
  rw [decodeBytes] at read
  split at read
  · cases read
  · exact wellKeyed_of_readText (mapError_eq_ok_iff.mp read)

/-- The datum that a source is decoded to. -/
def decodeSource : Source → Except Error Datum
  | .text content => decode .document content
  | .bytes content => decodeBytes .document content

theorem wellKeyed_of_decodeSource {source : Source} {datum : Datum}
    (read : decodeSource source = .ok datum) : datum.WellKeyed := by
  cases source with
  | text content => exact wellKeyed_of_decode read
  | bytes content => exact wellKeyed_of_decodeBytes read

end Json

theorem Document.ofJsonDatum_eq_ok_iff {datum : Datum} {document : Document} :
    ofJsonDatum datum = .ok document ↔ ofDatum datum = .ok document := by
  rw [ofJsonDatum]
  split
  next converted => simp [converted]
  next converted => simp [converted]
  next converted => simp [converted]

/-- A document that is read from JSON is what became of a datum. -/
theorem Document.ofJson_eq_ok_iff {source : Source} {document : Document} :
    ofJson source = .ok document ↔
      ∃ datum, Json.decodeSource source = .ok datum ∧ ofDatum datum = .ok document := by
  rw [ofJson.eq_def]
  cases source with
  | text content | bytes content =>
    simp only [Json.decodeSource]
    split
    next failed => simp [failed]
    next decoded => simp [decoded, ofJsonDatum_eq_ok_iff]

theorem Document.wellNamed_of_ofJson {source : Source} {document : Document}
    (read : Document.ofJson source = .ok document) : document.WellNamed := by
  obtain ⟨datum, decoded, converted⟩ := ofJson_eq_ok_iff.mp read
  exact wellNamed_of_ofDatum (Json.wellKeyed_of_decodeSource decoded) converted

/-! ### From YAML -/

namespace Yaml

theorem wellKeyed_of_timestamp {t : Text} {datum : Datum} (read : readTimestamp t = .ok datum) :
    datum.WellKeyed := by
  rw [readTimestamp] at read
  split at read
  · cases read
  · simp only at read
    split at read
    · obtain ⟨_, _, rfl⟩ := map_eq_ok_iff.mp read
      exact .leaf rfl rfl
    · obtain ⟨_, _, rfl⟩ := map_eq_ok_iff.mp read
      exact .leaf rfl rfl

theorem wellKeyed_of_scalar {tag : Tag} {content : Text} {datum : Datum}
    (read : tag.read content = .ok datum) : datum.WellKeyed := by
  rw [Tag.read.eq_def] at read
  split at read
  case h_1 | h_5 =>
    cases read
    exact .leaf rfl rfl
  case h_2 | h_3 | h_4 =>
    obtain ⟨_, _, rfl⟩ := map_eq_ok_iff.mp read
    exact .leaf rfl rfl
  case h_6 =>
    split at read
    · cases read
      exact .leaf rfl rfl
    · cases read
  case h_7 => exact wellKeyed_of_timestamp read
  case h_8 => cases read

/-- Whatever is made of nodes is well keyed, as mappings are put together entry by entry. -/
theorem Made.wellKeyed_datum {made : List (Nat × Made)}
    (scalars : ∀ number datum, (number, Made.scalar datum) ∈ made → datum.WellKeyed) (fuel : Nat)
    (around : List Nat) (number : Nat) : (datum made fuel around number).WellKeyed := by
  induction fuel generalizing around number with
  | zero => exact .leaf rfl rfl
  | succ fuel ih =>
    rw [datum]
    split_ifs
    · exact .leaf rfl rfl
    split
    next found =>
      obtain ⟨before, after, rfl, -⟩ := List.lookup_eq_some_iff.mp found
      exact scalars number _ (by simp)
    next =>
      refine (Datum.wellKeyed_sequence_iff _).mpr fun part member => ?_
      obtain ⟨item, _, rfl⟩ := List.mem_map.mp member
      exact ih _ item
    next =>
      refine (Datum.wellKeyed_sequence_iff _).mpr fun part member => ?_
      obtain ⟨entry, _, rfl⟩ := List.mem_map.mp member
      exact (Datum.wellKeyed_tuple_iff _).mpr <| List.forall_mem_cons.mpr
        ⟨ih _ entry.1, List.forall_mem_singleton.mpr (ih _ entry.2)⟩
    next =>
      refine Datum.wellKeyed_ofEntries fun entry member => ?_
      obtain ⟨own, _, rfl⟩ := List.mem_map.mp member
      exact ih _ own.2
    next => exact .leaf rfl rfl
    next => exact .leaf rfl rfl
    next => exact .leaf rfl rfl

theorem Graph.wellKeyed_of_toDatum {graph : Graph} {root : Nat} {datum : Datum}
    (denoted : graph.toDatum root = .ok datum) : datum.WellKeyed := by
  obtain ⟨⟨_, s⟩, made, rest⟩ := bind_eq_ok_iff.mp denoted
  cases rest
  refine Made.wellKeyed_datum (fun number value member => ?_) _ _ _
  obtain ⟨tag, content, read⟩ := ((makeAll_cases graph root).1 s made).read _ member value rfl
  exact wellKeyed_of_scalar read

theorem wellKeyed_of_decode {t : Text} {datum : Datum} (read : decode t = .ok datum) :
    datum.WellKeyed := by
  rw [decode] at read
  obtain ⟨composed, _, denoted⟩ := bind_eq_ok_iff.mp read
  cases composed with
  | none =>
    cases denoted
    exact .leaf rfl rfl
  | some composed => exact Graph.wellKeyed_of_toDatum denoted

theorem wellKeyed_of_decodeBytes {bytes : Bytes} {datum : Datum}
    (read : decodeBytes bytes = .ok datum) : datum.WellKeyed := by
  rw [decodeBytes] at read
  split at read
  · exact wellKeyed_of_decode read
  · cases read

/-- The datum that a source is decoded to. -/
def decodeSource : Source → Except Fault Datum
  | .text content => decode content
  | .bytes content => decodeBytes content

theorem wellKeyed_of_decodeSource {source : Source} {datum : Datum}
    (read : decodeSource source = .ok datum) : datum.WellKeyed := by
  cases source with
  | text content => exact wellKeyed_of_decode read
  | bytes content => exact wellKeyed_of_decodeBytes read

end Yaml

/-- A document that is read from YAML is what became of a datum. -/
theorem Document.ofYaml_eq_ok_iff {source : Source} {document : Document} :
    ofYaml source = .ok document ↔
      ∃ datum, Yaml.decodeSource source = .ok datum ∧ ofDatum datum = .ok document := by
  have steps : ofYaml source = (Yaml.decodeSource source).mapError .yaml >>= fun datum =>
      (ofDatum datum).mapError .datum := by
    cases source <;> rfl
  simp only [steps, bind_eq_ok_iff, mapError_eq_ok_iff]

theorem Document.wellNamed_of_ofYaml {source : Source} {document : Document}
    (read : Document.ofYaml source = .ok document) : document.WellNamed := by
  obtain ⟨datum, decoded, converted⟩ := ofYaml_eq_ok_iff.mp read
  exact wellNamed_of_ofDatum (Yaml.wellKeyed_of_decodeSource decoded) converted

end Conformance
