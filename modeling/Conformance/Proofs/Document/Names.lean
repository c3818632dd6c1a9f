import Conformance.Datum.Basic
import Conformance.Proofs.Document.Structure
import Mathlib.Data.List.Nodup

/-!
# Documents with distinct names

In a well-named document no object has two members of one name. Every document that is read is
well named, whatever its notation: both readers put the members of an object together with
`Datum.ofEntries`, where a name that comes again keeps its first place and takes the last value,
and what becomes of a datum has the names that the datum has. A document that carries this along is
a `Document.Proper`.
-/
namespace Conformance

/-- Names of which each is kept once are distinct. -/
theorem Named.eraseDups_nodup (names : List Text) : names.eraseDups.Nodup := by
  match names with
  | [] => exact .nil
  | name :: rest =>
    rw [List.eraseDups_cons, List.nodup_cons]
    refine ⟨?_, eraseDups_nodup (rest.filter fun other => !other == name)⟩
    simp [List.mem_eraseDups]
termination_by names.length
decreasing_by exact Nat.lt_succ_of_le (List.length_filter_le _ rest)

/-- Where no name stands twice there is nothing to erase. -/
theorem Named.eraseDups_of_nodup {names : List Text} (apart : names.Nodup) :
    names.eraseDups = names := by
  induction names with
  | nil => rfl
  | cons name rest ih =>
    obtain ⟨fresh, others⟩ := List.nodup_cons.mp apart
    have kept : (rest.filter fun other => !other == name) = rest :=
      List.filter_eq_self.mpr fun other later => by
        simpa using ne_of_mem_of_not_mem later fresh
    rw [List.eraseDups_cons, kept, ih others]

/-- No object of the document, at any level, has two members of one name. -/
inductive Document.WellNamed : Document → Prop where
  | null : WellNamed .null
  | boolean (value : Bool) : WellNamed (.boolean value)
  | number (value : Binary64) : WellNamed (.number value)
  | string (value : Text) : WellNamed (.string value)
  | array {elements : List Document} (each : ∀ element ∈ elements, WellNamed element) :
      WellNamed (.array elements)
  | object {members : Named Document} (distinct : members.names.Nodup)
      (each : ∀ member ∈ members, WellNamed member.2) : WellNamed (.object members)

namespace Document.WellNamed

theorem of_mem_array {elements : List Document} (named : WellNamed (.array elements))
    {element : Document} (member : element ∈ elements) : element.WellNamed := by
  cases named with
  | array each => exact each element member

theorem distinct_names {members : Named Document} (named : WellNamed (.object members)) :
    members.names.Nodup := by
  cases named with
  | object distinct _ => exact distinct

theorem of_mem_object {members : Named Document} (named : WellNamed (.object members))
    {member : Text × Document} (present : member ∈ members) : member.2.WellNamed := by
  cases named with
  | object _ each => exact each member present

theorem of_get? {members : Named Document} (named : WellNamed (.object members)) {name : Text}
    {value : Document} (found : members.get? name = some value) : value.WellNamed :=
  named.of_mem_object (Named.mem_of_get? found)

end Document.WellNamed

namespace Document

theorem wellNamed_array_iff (elements : List Document) :
    WellNamed (.array elements) ↔ ∀ element ∈ elements, element.WellNamed :=
  ⟨fun named _ => named.of_mem_array, .array⟩

theorem wellNamed_object_iff (members : Named Document) :
    WellNamed (.object members) ↔
      members.names.Nodup ∧ ∀ member ∈ members, member.2.WellNamed :=
  ⟨fun named => ⟨named.distinct_names, fun _ => named.of_mem_object⟩,
    fun ⟨distinct, each⟩ => .object distinct each⟩

/-! Whether a document is well named can be computed. -/

mutual

def decideWellNamed : (d : Document) → Decidable d.WellNamed
  | .null => isTrue .null
  | .boolean value => isTrue (.boolean value)
  | .number value => isTrue (.number value)
  | .string value => isTrue (.string value)
  | .array elements =>
    have := decideElements elements
    decidable_of_iff _ (wellNamed_array_iff elements).symm
  | .object members =>
    have := decideMembers members
    decidable_of_iff _ (wellNamed_object_iff members).symm

def decideElements : (elements : List Document) →
    Decidable (∀ element ∈ elements, element.WellNamed)
  | [] => isTrue (List.forall_mem_nil _)
  | element :: rest =>
    have := decideWellNamed element
    have := decideElements rest
    decidable_of_iff _ List.forall_mem_cons.symm

def decideMembers : (members : Named Document) →
    Decidable (∀ member ∈ members, member.2.WellNamed)
  | [] => isTrue (List.forall_mem_nil _)
  | (_, value) :: rest =>
    have := decideWellNamed value
    have := decideMembers rest
    decidable_of_iff _ List.forall_mem_cons.symm

end

instance (d : Document) : Decidable d.WellNamed := decideWellNamed d

/-- A document with distinct names, as every document is that is read. -/
abbrev Proper := { document : Document // document.WellNamed }

end Document

/-! ### Data with distinct keys -/

namespace Datum

def text? : Datum → Option Text
  | .text value => some value
  | _ => none

/-- The keys among entries that are texts. -/
def textKeys (entries : List (Datum × Datum)) : List Text :=
  entries.filterMap fun entry => entry.1.text?

/-- The text keys of a mapping. -/
def keys : Datum → List Text
  | .mapping entries => textKeys entries
  | _ => []

/-- The items or values inside a datum, one level down. -/
def parts : Datum → List Datum
  | .sequence items | .tuple items => items
  | .mapping entries => entries.map Prod.snd
  | _ => []

/-- No mapping of the datum, at any level, has one text key twice. -/
inductive WellKeyed : Datum → Prop where
  | intro {datum : Datum} (distinct : datum.keys.Nodup)
      (each : ∀ part ∈ datum.parts, WellKeyed part) : WellKeyed datum

/-- A datum without parts is well keyed. -/
theorem WellKeyed.leaf {datum : Datum} (keyless : datum.keys = []) (single : datum.parts = []) :
    WellKeyed datum := by
  refine .intro ?_ ?_
  · rw [keyless]
    exact List.nodup_nil
  · simp [single]

theorem wellKeyed_sequence_iff (items : List Datum) :
    WellKeyed (.sequence items) ↔ ∀ item ∈ items, WellKeyed item :=
  ⟨fun ⟨_, each⟩ => each, fun each => .intro List.nodup_nil each⟩

theorem wellKeyed_tuple_iff (items : List Datum) :
    WellKeyed (.tuple items) ↔ ∀ item ∈ items, WellKeyed item :=
  ⟨fun ⟨_, each⟩ => each, fun each => .intro List.nodup_nil each⟩

theorem wellKeyed_mapping_iff (entries : List (Datum × Datum)) :
    WellKeyed (.mapping entries) ↔
      (textKeys entries).Nodup ∧ ∀ entry ∈ entries, WellKeyed entry.2 := by
  constructor
  · rintro ⟨distinct, each⟩
    exact ⟨distinct, fun entry member => each _ (List.mem_map_of_mem member)⟩
  · rintro ⟨distinct, each⟩
    refine .intro distinct fun part member => ?_
    obtain ⟨entry, present, rfl⟩ := List.mem_map.mp member
    exact each entry present

@[simp] theorem textKeys_cons_text (name : Text) (value : Datum) (rest : List (Datum × Datum)) :
    textKeys ((.text name, value) :: rest) = name :: textKeys rest := rfl

/-- A key that is there stays where it is; a new one goes last. -/
theorem textKeys_insert (key : Text) (value : Datum) (entries : List (Datum × Datum)) :
    textKeys (insert key value entries) =
      if key ∈ textKeys entries then textKeys entries else textKeys entries ++ [key] := by
  induction entries with
  | nil => rfl
  | cons entry rest ih =>
    obtain ⟨k, v⟩ := entry
    cases k with
    | text name =>
      rw [insert]
      by_cases same : name = key
      · simp [same]
      · have other : key ≠ name := fun equal => same equal.symm
        simp only [same, if_false, textKeys_cons_text, ih, List.mem_cons, other, false_or]
        split
        · rfl
        · rfl
    | _ => exact ih

theorem mem_insert {key : Text} {value : Datum} {entries : List (Datum × Datum)}
    {entry : Datum × Datum} (member : entry ∈ insert key value entries) :
    entry.2 = value ∨ ∃ other ∈ entries, other.2 = entry.2 := by
  induction entries with
  | nil =>
    rw [insert, List.mem_singleton] at member
    exact .inl (by rw [member])
  | cons first rest ih =>
    have later (found : entry ∈ first :: insert key value rest) :
        entry.2 = value ∨ ∃ other ∈ first :: rest, other.2 = entry.2 := by
      rcases List.mem_cons.mp found with rfl | deeper
      · exact .inr ⟨entry, List.mem_cons_self, rfl⟩
      · rcases ih deeper with new | ⟨other, present, equal⟩
        · exact .inl new
        · exact .inr ⟨other, List.mem_cons_of_mem _ present, equal⟩
    obtain ⟨k, v⟩ := first
    cases k with
    | text name =>
      rw [insert] at member
      split at member
      · rcases List.mem_cons.mp member with rfl | old
        · exact .inl rfl
        · exact .inr ⟨entry, List.mem_cons_of_mem _ old, rfl⟩
      · exact later member
    | _ => exact later member

/-- The entries built so far with one more. -/
def extend (built : List (Datum × Datum)) (entry : Datum × Datum) : List (Datum × Datum) :=
  match entry.1 with
  | .text name => insert name entry.2 built
  | _ => built ++ [entry]

theorem ofEntries_eq (entries : List (Datum × Datum)) :
    ofEntries entries = .mapping (entries.foldl extend []) := rfl

theorem wellKeyed_extend {built : List (Datum × Datum)} {entry : Datum × Datum}
    (before : WellKeyed (.mapping built)) (keyed : WellKeyed entry.2) :
    WellKeyed (.mapping (extend built entry)) := by
  obtain ⟨distinct, values⟩ := (wellKeyed_mapping_iff built).mp before
  obtain ⟨key, value⟩ := entry
  rw [wellKeyed_mapping_iff]
  cases key with
  | text name =>
    refine ⟨?_, fun other member => ?_⟩
    · rw [extend, textKeys_insert]
      split
      · exact distinct
      · next new =>
        exact distinct.append (List.nodup_singleton name) (List.disjoint_singleton.mpr new)
    · rcases mem_insert member with new | ⟨old, present, equal⟩
      · rw [new]; exact keyed
      · rw [← equal]; exact values old present
  | _ =>
    refine ⟨?_, fun other member => ?_⟩
    · simpa [extend, textKeys, text?] using distinct
    · rcases List.mem_append.mp member with old | new
      · exact values other old
      · rw [List.mem_singleton.mp new]; exact keyed

/-- Entries put together one by one make a well-keyed mapping. -/
theorem wellKeyed_ofEntries {entries : List (Datum × Datum)}
    (each : ∀ entry ∈ entries, WellKeyed entry.2) : WellKeyed (ofEntries entries) := by
  -- What is built so far is well keyed before and after each entry.
  have run (built : List (Datum × Datum)) (before : WellKeyed (.mapping built)) :
      WellKeyed (.mapping (entries.foldl extend built)) := by
    induction entries generalizing built with
    | nil => exact before
    | cons entry rest ih =>
      exact ih (fun other later => each other (List.mem_cons_of_mem _ later)) _
        (wellKeyed_extend before (each entry List.mem_cons_self))
  rw [ofEntries_eq]
  exact run [] (.leaf rfl rfl)

end Datum
end Conformance
