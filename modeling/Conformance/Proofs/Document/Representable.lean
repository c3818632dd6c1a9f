import Conformance.Failure
import Conformance.Proofs.Document.Equality
import Conformance.Proofs.Text.Numeral

/-!
# Which data are documents

A datum becomes a document exactly if every node of it has its like among documents: nulls,
booleans, texts, finite numbers, whole numbers that are rounded to a finite one, sequences, and
mappings of texts. Whatever else is found is refused, and the refusal tells what is wrong with a
node. All refusals are syntax errors but one: a key that is no text is shown in the message, and a
whole number in it may have more digits than can be shown.
-/
namespace Conformance

namespace Datum

/-! ### Nodes -/

/-- A node of a datum: itself, or a node of a part. -/
inductive Inside : Datum → Datum → Prop where
  | here (datum : Datum) : Inside datum datum
  | part {node part datum : Datum} (member : part ∈ datum.parts) (inside : Inside node part) :
      Inside node datum

theorem forall_inside_iff {P : Datum → Prop} {datum : Datum} :
    (∀ node, node.Inside datum → P node) ↔
      P datum ∧ ∀ part ∈ datum.parts, ∀ node, node.Inside part → P node := by
  constructor
  · intro all
    exact ⟨all datum (.here datum), fun part member node inside => all node (.part member inside)⟩
  · rintro ⟨here, parts⟩ node inside
    cases inside with
    | here => exact here
    | part member inside => exact parts _ member node inside

/-- A node with a like among documents, as long as its parts have one. A whole number is nearer to
a finite number than to the next that there would be if it lies below the bound. -/
def Fit : Datum → Prop
  | .null | .boolean _ | .text _ | .real (.finite _) | .sequence _ | .tuple _ => True
  | .integer value => |(value : ℚ)| < Binary64.bound
  | .mapping entries => ∀ entry ∈ entries, ∃ name, entry.1 = .text name
  | _ => False

/-- A datum of a kind that no document is made of. -/
def isForeign : Datum → Bool
  | .set | .bytes _ | .decimal _ | .date _ | .moment _ | .object => true
  | _ => false

/-- What is wrong with a node, whatever its parts are. -/
inductive Wrong : Datum → DatumError → Prop where
  | notFinite {x : Extended} (infinite : ∀ y, x ≠ .finite y) : Wrong (.real x) (.notFinite x)
  | outOfRange {value : Int} (far : Binary64.bound ≤ |(value : ℚ)|) :
      Wrong (.integer value) .outOfRange
  | keyNotText {entries : List (Datum × Datum)} {key value : Datum}
      (member : (key, value) ∈ entries) (other : key.text? = none) (shown : key.isShowable = true) :
      Wrong (.mapping entries) (.keyNotText key)
  | keyTooLong {entries : List (Datum × Datum)} {key value : Datum}
      (member : (key, value) ∈ entries) (other : key.text? = none)
      (long : key.isShowable = false) : Wrong (.mapping entries) .keyTooLong
  | unsupported {datum : Datum} (foreign : datum.isForeign = true) :
      Wrong datum (.unsupported datum.kindName)

/-- What is wrong with a node makes it unfit. -/
theorem Wrong.not_fit {datum : Datum} {fault : DatumError} (wrong : datum.Wrong fault) :
    ¬datum.Fit := by
  intro fit
  cases wrong with
  | @notFinite x infinite =>
    cases x with
    | finite y => exact infinite y rfl
    | _ => exact fit
  | outOfRange far => exact absurd fit (not_lt.mpr far)
  | keyNotText member other _ | keyTooLong member other _ =>
    obtain ⟨name, rfl⟩ : ∃ name, _ = Datum.text name := fit _ member
    cases other
  | unsupported foreign =>
    cases datum with
    | set | bytes _ | decimal _ | date _ | moment _ | object => exact fit
    | _ => cases foreign

theorem isShowable_integer_iff (value : Int) :
    (integer value).isShowable = true ↔ value.natAbs < 10 ^ maxIntegerDigits := by
  rw [isShowable, decide_eq_true_eq]
  exact Text.length_ofNat_le_iff (by decide)

/-! ### Nesting -/

/-- The levels of nesting that a container adds. -/
def weight : Datum → Nat
  | .sequence _ | .tuple _ => 2
  | .mapping _ => 1
  | _ => 0

/-- The parts of a datum, and the keys of a mapping. -/
def inner : Datum → List Datum
  | .mapping entries => entries.map Prod.fst ++ entries.map Prod.snd
  | other => other.parts

theorem mem_inner_of_mem_parts {part datum : Datum} (member : part ∈ datum.parts) :
    part ∈ datum.inner := by
  cases datum with
  | mapping entries => exact List.mem_append_right _ member
  | _ => exact member

/-- A finite tree with no more than so many levels of nesting. Keys count, though they are never
converted: a key that is refused is shown. -/
inductive Within : Nat → Datum → Prop where
  | intro {levels : Nat} {datum : Datum} (tree : datum ≠ .enclosing)
      (each : ∀ part ∈ datum.inner, Within levels part) : Within (levels + datum.weight) datum

theorem Within.of_le {levels : Nat} {datum : Datum} (tree : datum ≠ .enclosing)
    (room : datum.weight ≤ levels)
    (each : ∀ part ∈ datum.inner, Within (levels - datum.weight) part) : Within levels datum := by
  rw [← Nat.sub_add_cancel room]
  exact .intro tree each

theorem Within.weight_le {levels : Nat} {datum : Datum} (within : datum.Within levels) :
    datum.weight ≤ levels := by
  cases within with
  | intro tree each => exact Nat.le_add_left ..

theorem Within.part {levels : Nat} {part datum : Datum} (within : datum.Within levels)
    (member : part ∈ datum.inner) : part.Within (levels - datum.weight) := by
  cases within with
  | intro tree each =>
    rw [Nat.add_sub_cancel]
    exact each part member

theorem Within.leaf {levels : Nat} {datum : Datum} (tree : datum ≠ .enclosing)
    (flat : datum.weight = 0) (single : datum.inner = []) : Within levels datum :=
  .of_le tree (flat ▸ Nat.zero_le _) (single ▸ List.forall_mem_nil _)

end Datum

namespace Document

variable {levels : Nat} {datum : Datum} {fault : DatumError}

/-! ### What is taken -/

theorem exists_sequence_iff {items : List Datum} :
    (∃ document, ofDatumWithin (levels + 2) (.sequence items) = .ok document) ↔
      ∀ item ∈ items, ∃ element, ofDatumWithin levels item = .ok element := by
  simp only [← exists_forall₂_iff, ofDatumWithin_add_sequence, map_eq_ok_iff, ofItems_eq_ok_iff]
  exact ⟨fun ⟨_, elements, each, _⟩ => ⟨elements, each⟩,
    fun ⟨elements, each⟩ => ⟨_, elements, each, rfl⟩⟩

theorem exists_mapping_iff {entries : List (Datum × Datum)} :
    (∃ document, ofDatumWithin (levels + 1) (.mapping entries) = .ok document) ↔
      ∀ entry ∈ entries, (∃ name, entry.1 = .text name) ∧
        ∃ member, ofDatumWithin levels entry.2 = .ok member := by
  have each (entry : Datum × Datum) : ((∃ name, entry.1 = .text name) ∧
      ∃ member, ofDatumWithin levels entry.2 = .ok member) ↔ ∃ member : Text × Document,
        entry.1 = .text member.1 ∧ ofDatumWithin levels entry.2 = .ok member.2 :=
    ⟨fun ⟨⟨name, key⟩, member, value⟩ => ⟨(name, member), key, value⟩,
      fun ⟨member, key, value⟩ => ⟨⟨_, key⟩, _, value⟩⟩
  simp only [each, ← exists_forall₂_iff, ofDatumWithin_add_mapping, map_eq_ok_iff,
    ofEntries_eq_ok_iff]
  exact ⟨fun ⟨_, members, each, _⟩ => ⟨members, each⟩,
    fun ⟨members, each⟩ => ⟨_, members, each, rfl⟩⟩

/-- Data that are not nested too deeply become documents exactly if all nodes are fit. -/
theorem exists_ofDatumWithin_iff (within : datum.Within levels) :
    (∃ document, ofDatumWithin levels datum = .ok document) ↔
      ∀ node, Datum.Inside node datum → node.Fit := by
  induction datum using Datum.induction generalizing levels with
  | step datum ih =>
    rw [Datum.forall_inside_iff]
    cases within with
    | @intro levels _ tree each =>
      -- The levels that a container adds are those that its conversion takes away.
      have parts (part : Datum) (member : part ∈ datum.parts) :=
        ih part member (each part (Datum.mem_inner_of_mem_parts member))
      cases datum with
      | null | boolean _ | text _ => exact iff_of_true ⟨_, rfl⟩ ⟨trivial, List.forall_mem_nil _⟩
      | integer value =>
        rw [ofDatumWithin, Datum.Fit, ← not_le, ← Binary64.ofInt?_eq_none_iff]
        cases Binary64.ofInt? value with
        | none => exact iff_of_false (not_exists_ok _) fun fit => fit.1 rfl
        | some x => exact iff_of_true ⟨_, rfl⟩ ⟨Option.some_ne_none x, List.forall_mem_nil _⟩
      | real value =>
        cases value with
        | finite value => exact iff_of_true ⟨_, rfl⟩ ⟨trivial, List.forall_mem_nil _⟩
        | infinite _ | notNumber => exact iff_of_false (not_exists_ok _) And.left
      | sequence items =>
        exact exists_sequence_iff.trans ((forall₂_congr parts).trans (and_iff_right trivial).symm)
      | tuple items =>
        rw [ofDatumWithin_tuple]
        exact exists_sequence_iff.trans ((forall₂_congr parts).trans (and_iff_right trivial).symm)
      | mapping entries =>
        have values : (∀ entry ∈ entries, ∃ member, ofDatumWithin levels entry.2 = .ok member) ↔
            ∀ part ∈ entries.map Prod.snd, ∀ node, Datum.Inside node part → node.Fit := by
          rw [List.forall_mem_map]
          exact forall₂_congr fun entry present => parts entry.2 (List.mem_map_of_mem present)
        exact exists_mapping_iff.trans (forall₂_and.trans (and_congr_right' values))
      | enclosing => exact absurd rfl tree
      | _ => exact iff_of_false (not_exists_ok _) And.left

/-! ### What is refused -/

theorem exists_item_of_ofItems {items : List Datum}
    (refused : ofItems levels items = .error fault) :
    ∃ item ∈ items, ofDatumWithin levels item = .error fault := by
  induction items with
  | nil => cases refused
  | cons item rest ih =>
    rw [ofItems_cons] at refused
    rcases bind_eq_error_iff.mp refused with here | ⟨_, _, later⟩
    · exact ⟨item, List.mem_cons_self, here⟩
    · obtain ⟨found, member, there⟩ := ih (map_eq_error_iff.mp later)
      exact ⟨found, List.mem_cons_of_mem _ member, there⟩

theorem exists_item_of_sequence {items : List Datum}
    (refused : ofDatumWithin (levels + 2) (.sequence items) = .error fault) :
    ∃ item ∈ items, ofDatumWithin levels item = .error fault := by
  rw [ofDatumWithin_add_sequence, map_eq_error_iff] at refused
  exact exists_item_of_ofItems refused

theorem ofEntries_cons_of_not_text {key value : Datum} {rest : List (Datum × Datum)}
    (other : key.text? = none) : ofEntries levels ((key, value) :: rest) =
      .error (if key.isShowable then .keyNotText key else .keyTooLong) := by
  cases key with
  | text _ => cases other
  | _ => rfl

/-- Entries are refused for a key or for a value. -/
theorem exists_entry_of_ofEntries {entries : List (Datum × Datum)}
    (refused : ofEntries levels entries = .error fault) : ∃ entry ∈ entries,
      (entry.1.text? = none ∧
        fault = if entry.1.isShowable then .keyNotText entry.1 else .keyTooLong) ∨
      ofDatumWithin levels entry.2 = .error fault := by
  induction entries with
  | nil => cases refused
  | cons entry rest ih =>
    obtain ⟨key, value⟩ := entry
    cases text : key.text? with
    | none =>
      rw [ofEntries_cons_of_not_text text] at refused
      exact ⟨_, List.mem_cons_self, .inl ⟨text, (Except.error.inj refused).symm⟩⟩
    | some name =>
      obtain rfl : key = .text name := by
        cases key <;> cases text
        rfl
      rw [ofEntries_cons] at refused
      rcases bind_eq_error_iff.mp refused with here | ⟨_, _, later⟩
      · exact ⟨_, List.mem_cons_self, .inr here⟩
      · obtain ⟨found, member, there⟩ := ih (map_eq_error_iff.mp later)
        exact ⟨found, List.mem_cons_of_mem _ member, there⟩

/-- Data are refused for what is wrong with a node, or for too deep nesting. -/
theorem exists_wrong_or_tooDeep (refused : ofDatumWithin levels datum = .error fault) :
    (∃ node, Datum.Inside node datum ∧ node.Wrong fault) ∨
      fault = .tooDeep ∧ ¬datum.Within levels := by
  induction datum using Datum.induction generalizing levels with
  | step datum ih =>
    -- What a part is refused for, the whole is refused for.
    have below (part : Datum) (member : part ∈ datum.parts)
        (refused : ofDatumWithin (levels - datum.weight) part = .error fault) :
        (∃ node, Datum.Inside node datum ∧ node.Wrong fault) ∨
          fault = .tooDeep ∧ ¬datum.Within levels := by
      rcases ih part member refused with ⟨node, inside, wrong⟩ | ⟨deep, beyond⟩
      · exact .inl ⟨node, .part member inside, wrong⟩
      · exact .inr ⟨deep, fun within => beyond (within.part (Datum.mem_inner_of_mem_parts member))⟩
    have wrong (wrong : datum.Wrong fault) : (∃ node, Datum.Inside node datum ∧ node.Wrong fault) ∨
        fault = .tooDeep ∧ ¬datum.Within levels := .inl ⟨datum, .here _, wrong⟩
    have narrow (few : levels < datum.weight) (deep : fault = .tooDeep) :
        (∃ node, Datum.Inside node datum ∧ node.Wrong fault) ∨
          fault = .tooDeep ∧ ¬datum.Within levels :=
      .inr ⟨deep, fun within => absurd within.weight_le (Nat.not_le.mpr few)⟩
    cases datum with
    | null | boolean _ | text _ => cases refused
    | integer value =>
      rw [ofDatumWithin] at refused
      split at refused
      next => cases refused
      next far =>
        cases refused
        exact wrong (.outOfRange (Binary64.ofInt?_eq_none_iff.mp far))
    | real value =>
      cases value with
      | finite value => cases refused
      | infinite _ | notNumber =>
        cases refused
        exact wrong (.notFinite fun _ same => by cases same)
    | sequence items | tuple items =>
      -- A tuple is converted like a sequence.
      have refused : ofDatumWithin levels (.sequence items) = .error fault := refused
      by_cases few : levels < 2
      · rw [ofDatumWithin, if_pos few] at refused
        exact narrow few (Except.error.inj refused).symm
      · rw [← Nat.sub_add_cancel (Nat.not_lt.mp few)] at refused
        obtain ⟨item, member, there⟩ := exists_item_of_sequence refused
        exact below item member there
    | mapping entries =>
      by_cases few : levels < 1
      · rw [ofDatumWithin, if_pos few] at refused
        exact narrow few (Except.error.inj refused).symm
      · rw [← Nat.sub_add_cancel (Nat.not_lt.mp few), ofDatumWithin_add_mapping] at refused
        obtain ⟨entry, member, ⟨other, rfl⟩ | there⟩ :=
          exists_entry_of_ofEntries (map_eq_error_iff.mp refused)
        · -- The key is shown in the message, if it can be.
          refine wrong ?_
          split
          next shown => exact .keyNotText member other shown
          next long => exact .keyTooLong member other (Bool.eq_false_iff.mpr long)
        · exact below entry.2 (List.mem_map_of_mem member) there
    | enclosing =>
      refine .inr ⟨(Except.error.inj refused).symm, fun within => ?_⟩
      cases within with
      | intro tree each => exact tree rfl
    | _ =>
      cases refused
      exact wrong (.unsupported rfl)

/-- Data that are not nested too deeply are refused for what is wrong with a node. -/
theorem exists_wrong_of_ofDatumWithin (within : datum.Within levels)
    (refused : ofDatumWithin levels datum = .error fault) :
    ∃ node, Datum.Inside node datum ∧ node.Wrong fault :=
  (exists_wrong_or_tooDeep refused).resolve_right fun deep => deep.2 within

/-- The class of a refusal. Only a key that cannot be shown makes it another one. -/
theorem className_of_wrong {node : Datum} (wrong : node.Wrong fault) :
    (Failure.document (.datum fault)).className = "DocumentSyntaxError" ∨
      fault = .keyTooLong ∧ (Failure.document (.datum fault)).className = "ValueError" := by
  cases wrong with
  | keyTooLong => exact .inr ⟨rfl, rfl⟩
  | _ => exact .inl rfl

/-! ### What is kept -/

/-- A node of a document: itself, or a node of an element or of the value of a member. -/
inductive Inside : Document → Document → Prop where
  | here (document : Document) : Inside document document
  | element {node element : Document} {elements : List Document} (member : element ∈ elements)
      (inside : Inside node element) : Inside node (.array elements)
  | member {node value : Document} {name : Text} {members : Named Document}
      (present : (name, value) ∈ members) (inside : Inside node value) :
      Inside node (.object members)

/-- Every node of a document denotes a node of the datum. -/
theorem exists_inside_of_denotes {node document : Document} (inside : Inside node document)
    (denoted : datum.Denotes document) :
    ∃ source, Datum.Inside source datum ∧ source.Denotes node := by
  induction inside generalizing datum with
  | here => exact ⟨datum, .here datum, denoted⟩
  | element member _ ih =>
    cases denoted with
    | sequence each | tuple each =>
      obtain ⟨item, present, denoted⟩ := exists_mem_of_forall₂ each _ member
      obtain ⟨source, inside, found⟩ := ih denoted
      exact ⟨source, .part present inside, found⟩
  | member present _ ih =>
    cases denoted with
    | mapping keys each =>
      obtain ⟨entry, there, denoted⟩ := exists_mem_of_forall₂ each _ present
      obtain ⟨source, inside, found⟩ := ih denoted
      exact ⟨source, .part (List.mem_map_of_mem there) inside, found⟩

/-- Numbers come of numbers only. -/
theorem exists_number_inside {document : Document} {x : Binary64} (denoted : datum.Denotes document)
    (inside : Inside (.number x) document) : ∃ node, Datum.Inside node datum ∧
      (node = .real (.finite x) ∨ ∃ value : Int, node = .integer value ∧ x.IsNearest value) := by
  obtain ⟨source, inside, found⟩ := exists_inside_of_denotes inside denoted
  refine ⟨source, inside, ?_⟩
  cases found with
  | integer nearest _ => exact .inr ⟨_, rfl, nearest⟩
  | real => exact .inl rfl

/-- Data become documents exactly if every node has its like among documents, and other data are
refused for what is wrong with a node. Whatever notation it was read from, a document keeps the
data that were decoded, of which every number is finite; and what the data of a document become is
equal to the document. -/
theorem representable_data_kept (datum : Datum) (source : Source) (document : Document) :
    (datum.Within maxNesting →
      ((∃ document, ofDatum datum = .ok document) ↔ ∀ node, Datum.Inside node datum → node.Fit) ∧
      ∀ fault, ofDatum datum = .error fault →
        ∃ node, Datum.Inside node datum ∧ node.Wrong fault ∧
          ((Failure.document (.datum fault)).className = "DocumentSyntaxError" ∨
            fault = .keyTooLong ∧
              (Failure.document (.datum fault)).className = "ValueError")) ∧
    (ofDatum datum = .ok document →
      datum.Denotes document ∧
      ∀ x, Inside (.number x) document → |x.value| < Binary64.bound ∧
        ∃ node, Datum.Inside node datum ∧
          (node = .real (.finite x) ∨ ∃ value : Int, node = .integer value ∧ x.IsNearest value)) ∧
    (ofJson source = .ok document →
      ∃ decoded, Json.decodeSource source = .ok decoded ∧ ofDatum decoded = .ok document) ∧
    (ofYaml source = .ok document →
      ∃ decoded, Yaml.decodeSource source = .ok decoded ∧ ofDatum decoded = .ok document) ∧
    (Produced document →
      ∃ other, ofDatum document.toDatum = .ok other ∧
        other.structurallyEqual document = true) := by
  refine ⟨fun within => ⟨exists_ofDatumWithin_iff within, fun fault refused => ?_⟩,
    fun converted => ?_, ofJson_eq_ok_iff.mp, ofYaml_eq_ok_iff.mp, fun produced => ?_⟩
  · obtain ⟨node, inside, wrong⟩ := exists_wrong_of_ofDatumWithin within refused
    exact ⟨node, inside, wrong, className_of_wrong wrong⟩
  · have denoted := (denotes_of_ofDatumWithin converted).1
    exact ⟨denoted, fun x inside => ⟨x.abs_value_lt, exists_number_inside denoted inside⟩⟩
  · obtain ⟨other, converted, alike⟩ :=
      exists_ofDatumWithin_toDatum produced.wellNamed produced.within
    exact ⟨other, converted, structurallyEqual_of_alike alike.symm⟩

/-- A mapping of a mark and of a tuple of two. -/
def marked : Datum :=
  .mapping [(.text "on", .boolean true), (.text "at", .tuple [.integer 1, .null])]

theorem within_marked : marked.Within maxNesting := by
  have two : Datum.Within 989 (.tuple [.integer 1, .null]) :=
    .of_le nofun (by decide) (List.forall_mem_cons.mpr
      ⟨.leaf nofun rfl rfl, List.forall_mem_singleton.mpr (.leaf nofun rfl rfl)⟩)
  have inner : ∀ part ∈ marked.inner, part.Within 989 := by
    intro part member
    rcases member with _ | ⟨_, _ | ⟨_, _ | ⟨_, _ | ⟨_, none⟩⟩⟩⟩
    · exact .leaf nofun rfl rfl
    · exact .leaf nofun rfl rfl
    · exact .leaf nofun rfl rfl
    · exact two
    · cases none
  exact .of_le nofun (by decide) inner

/-- A mapping of a key that is a number. -/
def numbered (key : Nat) : Datum := .mapping [(.integer key, .integer 1)]

theorem within_numbered (key : Nat) : (numbered key).Within maxNesting :=
  .of_le nofun (Nat.le_add_left 1 989) (List.forall_mem_cons.mpr
    ⟨.leaf nofun rfl rfl, List.forall_mem_singleton.mpr (.leaf nofun rfl rfl)⟩)

/-- The marked mapping is taken and kept, the one of a numbered key is refused, and equal documents
in two orders are rebuilt from their data. -/
theorem representable_data_kept_marked :
    (marked.Within maxNesting ∧ ∃ document, ofDatum marked = .ok document ∧
      marked.Denotes document) ∧
    ((∃ node, Datum.Inside node (numbered 1) ∧ node.Wrong (.keyNotText (.integer 1))) ∧
      ¬∃ document, ofDatum (numbered 1) = .ok document) ∧
    (∃ datum, Json.decodeSource (.text "null") = .ok datum ∧ ofDatum datum = .ok .null) ∧
    (∃ datum, Yaml.decodeSource (.text []) = .ok datum ∧ ofDatum datum = .ok .null) ∧
    ∀ swapped, ∃ other, ofDatum (zeroAndArray swapped).toDatum = .ok other ∧
      other.structurallyEqual (zeroAndArray swapped) = true := by
  have refused : ofDatum (numbered 1) = .error (.keyNotText (.integer 1)) := rfl
  have kept := (representable_data_kept marked (.text []) _).2.1 rfl
  have json := (representable_data_kept .null (.text "null") .null).2.2.1 rfl
  have yaml := (representable_data_kept .null (.text []) .null).2.2.2.1 rfl
  obtain ⟨fit, faults⟩ :=
    (representable_data_kept (numbered 1) (.text []) .null).1 (within_numbered 1)
  obtain ⟨node, inside, wrong, _⟩ := faults _ refused
  refine ⟨⟨within_marked, _, rfl, kept.1⟩, ⟨⟨node, inside, wrong⟩, fun found => ?_⟩, json, yaml,
    fun swapped => ?_⟩
  · exact wrong.not_fit (fit.mp found node inside)
  · exact (representable_data_kept .null (.text []) _).2.2.2.2 (produced_zeroAndArray swapped)

/-- A key with more digits than can be shown is refused in another way than as a fault of syntax. -/
theorem key_without_description :
    (numbered (16 ^ 3600 - 1)).Within maxNesting ∧
    ofDatum (numbered (16 ^ 3600 - 1)) = .error .keyTooLong ∧
    (Failure.document (.datum .keyTooLong)).className = "ValueError" := by
  have long : ¬(Datum.integer (16 ^ 3600 - 1 : Nat)).isShowable = true := by
    rw [Datum.isShowable_integer_iff, Int.natAbs_natCast]
    decide +kernel
  refine ⟨within_numbered _, ?_, rfl⟩
  rw [ofDatum, numbered, maxNesting, ofDatumWithin_add_mapping, ofEntries_cons_of_not_text rfl,
    if_neg long]
  rfl

end Document
end Conformance
