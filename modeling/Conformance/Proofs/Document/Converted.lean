import Conformance.Proofs.Document.Alike
import Conformance.Proofs.Document.Reading
import Conformance.Proofs.Number.Nearest

/-!
# What becomes of a datum

A document that a datum is converted to keeps everything of it: texts, booleans, the order of items
and of entries, and of every number the nearest one. The conversion goes part by part, so each fact
about it is an induction over the parts of a datum. A document can be turned back into a datum, and
what becomes of that datum is structurally equal to the document.
-/
namespace Conformance

namespace Datum

/-- What a document keeps of a datum. -/
inductive Denotes : Datum → Document → Prop where
  | null : Denotes .null .null
  | boolean (value : Bool) : Denotes (.boolean value) (.boolean value)
  | integer {value : Int} {x : Binary64} (nearest : x.IsNearest value)
      (sign : x.negative = decide (value < 0)) : Denotes (.integer value) (.number x)
  | real (value : Binary64) : Denotes (.real (.finite value)) (.number value)
  | text (value : Text) : Denotes (.text value) (.string value)
  | sequence {items : List Datum} {elements : List Document}
      (each : List.Forall₂ Denotes items elements) : Denotes (.sequence items) (.array elements)
  | tuple {items : List Datum} {elements : List Document}
      (each : List.Forall₂ Denotes items elements) : Denotes (.tuple items) (.array elements)
  | mapping {entries : List (Datum × Datum)} {members : Named Document}
      (keys : List.Forall₂ (fun entry member => entry.1 = .text member.1) entries members)
      (each : List.Forall₂ (fun entry member => Denotes entry.2 member.2) entries members) :
      Denotes (.mapping entries) (.object members)

end Datum

namespace Document

/-- The document has no more than so many levels of nesting, of which an array takes two. -/
inductive Within : Nat → Document → Prop where
  | null {levels : Nat} : Within levels .null
  | boolean {levels : Nat} (value : Bool) : Within levels (.boolean value)
  | number {levels : Nat} (value : Binary64) : Within levels (.number value)
  | string {levels : Nat} (value : Text) : Within levels (.string value)
  | array {levels : Nat} {elements : List Document}
      (each : ∀ element ∈ elements, Within levels element) : Within (levels + 2) (.array elements)
  | object {levels : Nat} {members : Named Document}
      (each : ∀ member ∈ members, Within levels member.2) : Within (levels + 1) (.object members)

variable {levels : Nat}

namespace Within

theorem array_of_le {elements : List Document} (room : 2 ≤ levels)
    (each : ∀ element ∈ elements, Within (levels - 2) element) :
    Within levels (.array elements) := by
  rw [← Nat.sub_add_cancel room]
  exact .array each

theorem object_of_le {members : Named Document} (room : 1 ≤ levels)
    (each : ∀ member ∈ members, Within (levels - 1) member.2) :
    Within levels (.object members) := by
  rw [← Nat.sub_add_cancel room]
  exact .object each

end Within

/-- Alike documents have as many levels. -/
theorem Alike.within {v w : Document} {levels : Nat} (alike : v.Alike w)
    (within : v.Within levels) : w.Within levels := by
  induction within generalizing w with
  | null | boolean _ | number _ | string _ =>
    cases alike
    constructor
  | array _ ih =>
    cases alike with
    | array each =>
      refine .array fun y present => ?_
      obtain ⟨x, there, alike⟩ := exists_mem_of_forall₂ each y present
      exact ih x there alike
  | object _ ih =>
    cases alike with
    | object _ right each =>
      refine .object fun member present => ?_
      have found := (Named.get?_eq_some_iff right member.1 member.2).mpr present
      rcases Named.rel_cases (each member.1) with ⟨_, lacking⟩ | ⟨x, y, here, there, alike⟩
      · rw [found] at lacking
        cases lacking
      · rw [found] at there
        cases there
        exact ih _ (Named.mem_of_get? here) alike

/-! ### What is kept -/

/-- A container of parts that are converted each for itself. -/
theorem converted_of_forall₂ {α β : Type} {P : α → β → Prop} {Q : β → Prop} {R : α → β → Prop}
    {xs : List α} {ys : List β} (given : List.Forall₂ R xs ys)
    (each : ∀ x ∈ xs, ∀ y, R x y → P x y ∧ Q y) : List.Forall₂ P xs ys ∧ ∀ y ∈ ys, Q y := by
  have both : List.Forall₂ (fun x y => P x y ∧ Q y) xs ys :=
    ((List.forall₂_and_left xs ys).mpr ⟨each, given⟩).imp fun x y held => held.1 y held.2
  refine ⟨both.imp fun _ _ held => held.1, ?_⟩
  exact ((List.forall₂_and_left ys xs).mp (both.flip.imp fun _ _ held => ⟨held.2, held.1⟩)).1

/-- A converted document keeps the datum, within the levels of the conversion. -/
theorem denotes_of_ofDatumWithin {datum : Datum} {document : Document}
    (converted : ofDatumWithin levels datum = .ok document) :
    datum.Denotes document ∧ document.Within levels := by
  induction datum using Datum.induction generalizing levels document with
  | step datum ih =>
    cases datum with
    | null =>
      cases converted
      exact ⟨.null, .null⟩
    | boolean value =>
      cases converted
      exact ⟨.boolean value, .boolean value⟩
    | integer value =>
      rw [ofDatumWithin] at converted
      split at converted
      next x rounded =>
        cases converted
        have nearest := Binary64.isNearest_of_ofInt? rounded
        exact ⟨.integer nearest (Binary64.negative_of_ofInt? rounded), .number x⟩
      next => cases converted
    | real value =>
      cases value with
      | finite value =>
        cases converted
        exact ⟨.real value, .number value⟩
      | infinite _ | notNumber => cases converted
    | text value =>
      cases converted
      exact ⟨.text value, .string value⟩
    | sequence items =>
      obtain ⟨elements, rfl, room, each⟩ := ofDatumWithin_sequence_eq_ok_iff.mp converted
      obtain ⟨denoted, within⟩ := converted_of_forall₂ (P := Datum.Denotes)
        (Q := Within (levels - 2)) each fun item member _ => ih item member
      exact ⟨.sequence denoted, .array_of_le room within⟩
    | tuple items =>
      obtain ⟨elements, rfl, room, each⟩ := ofDatumWithin_sequence_eq_ok_iff.mp
        (ofDatumWithin_tuple items ▸ converted)
      obtain ⟨denoted, within⟩ := converted_of_forall₂ (P := Datum.Denotes)
        (Q := Within (levels - 2)) each fun item member _ => ih item member
      exact ⟨.tuple denoted, .array_of_le room within⟩
    | mapping entries =>
      obtain ⟨members, rfl, room, each⟩ := ofDatumWithin_mapping_eq_ok_iff.mp converted
      obtain ⟨denoted, within⟩ := converted_of_forall₂
        (P := fun entry member => entry.2.Denotes member.2)
        (Q := fun member => member.2.Within (levels - 1)) each
        fun entry member _ read => ih entry.2 (List.mem_map_of_mem member) read.2
      exact ⟨.mapping (each.imp fun _ _ both => both.1) denoted, .object_of_le room within⟩
    | _ => cases converted

/-- Levels that a document has no use for do not matter to its conversion. -/
theorem ofDatumWithin_of_within {more : Nat} {datum : Datum}
    (converted : ofDatumWithin more datum = .ok document) (within : document.Within levels) :
    ofDatumWithin levels datum = .ok document := by
  induction datum using Datum.induction generalizing more levels document with
  | step datum ih =>
    have sequence {items : List Datum} (parts : ∀ item ∈ items, item ∈ datum.parts)
        (converted : ofDatumWithin more (.sequence items) = .ok document) :
        ofDatumWithin levels (.sequence items) = .ok document := by
      obtain ⟨elements, rfl, _, each⟩ := ofDatumWithin_sequence_eq_ok_iff.mp converted
      cases within with
      | @array levels _ below =>
        -- Each element is within the levels that the array leaves.
        have again := forall₂_of_mem each fun item present element member converted =>
          ih item (parts item present) converted (below element member)
        rw [ofDatumWithin_add_sequence]
        exact map_eq_ok_iff.mpr ⟨elements, ofItems_eq_ok_iff.mpr again, rfl⟩
    cases datum with
    | sequence items => exact sequence (fun _ => id) converted
    | tuple items =>
      rw [ofDatumWithin_tuple] at converted ⊢
      exact sequence (fun _ => id) converted
    | mapping entries =>
      obtain ⟨members, rfl, _, each⟩ := ofDatumWithin_mapping_eq_ok_iff.mp converted
      cases within with
      | @object levels _ below =>
        have again := forall₂_of_mem each fun entry present member there converted =>
          And.intro converted.1 <|
            ih entry.2 (List.mem_map_of_mem present) converted.2 (below member there)
        rw [ofDatumWithin_add_mapping]
        exact map_eq_ok_iff.mpr ⟨members, ofEntries_eq_ok_iff.mpr again, rfl⟩
    | real value => cases value <;> exact converted
    | _ => exact converted

/-! ### And back -/

theorem toItems_eq_map (elements : List Document) : toItems elements = elements.map toDatum := by
  induction elements with
  | nil => rfl
  | cons element rest ih => rw [toItems, ih, List.map_cons]

theorem toEntries_eq_map (members : Named Document) :
    toEntries members = members.map fun member => (.text member.1, member.2.toDatum) := by
  induction members with
  | nil => rfl
  | cons member rest ih => rw [toEntries, ih, List.map_cons]

/-- The datum of a document becomes an alike document. -/
theorem exists_ofDatumWithin_toDatum {document : Document} (named : document.WellNamed)
    (within : document.Within levels) :
    ∃ other, ofDatumWithin levels document.toDatum = .ok other ∧ document.Alike other := by
  induction document generalizing levels with
  | null => exact ⟨.null, rfl, .null⟩
  | boolean value => exact ⟨.boolean value, rfl, .boolean value⟩
  | string value => exact ⟨.string value, rfl, .string value⟩
  | number x =>
    rw [toDatum]
    split_ifs with whole
    · -- A whole number is rounded again, to itself but for the sign of zero.
      obtain ⟨y, rounded, same⟩ := Binary64.exists_ofInt?_toInt whole
      rw [Binary64.same_iff] at same
      refine ⟨.number y, by rw [ofDatumWithin, rounded], .number ?_⟩
      exact (Binary64.same_iff x y).mpr same.symm
    · exact ⟨.number x, rfl, .number ((Binary64.same_iff x x).mpr rfl)⟩
  | array elements ih =>
    cases within with
    | @array levels _ each =>
      have parts : ∀ element ∈ elements, ∃ other,
          ofDatumWithin levels element.toDatum = .ok other ∧ element.Alike other :=
        fun element member => ih element member (named.of_mem_array member) (each element member)
      -- The elements are converted each for itself, and so is the array of them.
      obtain ⟨others, all⟩ := exists_forall₂_iff.mpr parts
      refine ⟨.array others, ?_, .array (all.imp fun _ _ both => both.2)⟩
      rw [toDatum, toItems_eq_map, ofDatumWithin_sequence_eq_ok_iff]
      refine ⟨others, rfl, Nat.le_add_left 2 levels, ?_⟩
      rw [Nat.add_sub_cancel, List.forall₂_map_left_iff]
      exact all.imp fun _ _ both => both.1
  | object members ih =>
    cases within with
    | @object levels _ each =>
      have parts : ∀ member ∈ members, ∃ other : Text × Document, member.1 = other.1 ∧
          ofDatumWithin levels member.2.toDatum = .ok other.2 ∧ member.2.Alike other.2 := by
        intro member present
        obtain ⟨other, converted, alike⟩ :=
          ih member present (named.of_mem_object present) (each member present)
        exact ⟨(member.1, other), rfl, converted, alike⟩
      obtain ⟨others, all⟩ := exists_forall₂_iff.mpr parts
      refine ⟨.object others, ?_, .of_aligned named.distinct_names
        (all.imp fun _ _ both => ⟨both.1, both.2.2⟩)⟩
      rw [toDatum, toEntries_eq_map, ofDatumWithin_mapping_eq_ok_iff]
      refine ⟨others, rfl, Nat.le_add_left 1 levels, ?_⟩
      rw [Nat.add_sub_cancel, List.forall₂_map_left_iff]
      exact all.imp fun _ _ both => ⟨congrArg Datum.text both.1, both.2.1⟩

/-! ### Documents that there are -/

/-- The documents that come of JSON, of YAML and of data. No mapping of data has a key twice. -/
inductive Produced : Document → Prop where
  | json {source : Source} {document : Document} (read : ofJson source = .ok document) :
      Produced document
  | yaml {source : Source} {document : Document} (read : ofYaml source = .ok document) :
      Produced document
  | datum {datum : Datum} {document : Document} (keyed : datum.WellKeyed)
      (converted : ofDatum datum = .ok document) : Produced document

namespace Produced

variable {document : Document}

/-- Whatever the notation, there were data first. -/
theorem exists_datum (produced : Produced document) :
    ∃ datum : Datum, datum.WellKeyed ∧ ofDatum datum = .ok document := by
  cases produced with
  | json read =>
    obtain ⟨datum, decoded, converted⟩ := ofJson_eq_ok_iff.mp read
    exact ⟨datum, Json.wellKeyed_of_decodeSource decoded, converted⟩
  | yaml read =>
    obtain ⟨datum, decoded, converted⟩ := ofYaml_eq_ok_iff.mp read
    exact ⟨datum, Yaml.wellKeyed_of_decodeSource decoded, converted⟩
  | datum keyed converted => exact ⟨_, keyed, converted⟩

theorem wellNamed (produced : Produced document) : document.WellNamed := by
  cases produced with
  | json read => exact wellNamed_of_ofJson read
  | yaml read => exact wellNamed_of_ofYaml read
  | datum keyed converted => exact wellNamed_of_ofDatum keyed converted

/-- The document with what is known of its names. -/
abbrev proper (produced : Produced document) : Proper := ⟨document, produced.wellNamed⟩

theorem within (produced : Produced document) : document.Within maxNesting := by
  obtain ⟨datum, keyed, converted⟩ := produced.exists_datum
  exact (denotes_of_ofDatumWithin converted).2

end Produced

end Document
end Conformance
