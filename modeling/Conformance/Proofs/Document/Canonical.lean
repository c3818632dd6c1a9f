import Conformance.Proofs.Document.Accepted
import Conformance.Proofs.Document.Equality
import Conformance.Proofs.Json.Written

/-!
# The dump of a document is canonical

A dump is what a style without sorting writes of the document with its members sorted beforehand.
That text is read back: whole numbers keep their value, real numbers are read as themselves, and
names and texts as they are. So a dump is read as a document equal to the one that was dumped, and
two documents have one dump exactly if they are equal. A value that an enumeration refuses is
therefore never among the values that it is said not to be.
-/
namespace Conformance.Document

open Json

/-! ### Sorted members -/

mutual

/-- The document with the members of every object in the order of their names. -/
def sorted : Document → Document
  | .array elements => .array (sortedElements elements)
  | .object members =>
    .object ((sortedMembers members).mergeSort fun a b => !Text.precedes b.1 a.1)
  | other => other

def sortedElements : List Document → List Document
  | [] => []
  | element :: rest => sorted element :: sortedElements rest

def sortedMembers : Named Document → Named Document
  | [] => []
  | (name, value) :: rest => (name, sorted value) :: sortedMembers rest

end

theorem sortedElements_eq_map (elements : List Document) :
    sortedElements elements = elements.map sorted := by
  induction elements with
  | nil => rfl
  | cons element rest ih => rw [sortedElements, ih, List.map_cons]

theorem sortedMembers_eq_map (members : Named Document) :
    sortedMembers members = members.map fun member => (member.1, member.2.sorted) := by
  induction members with
  | nil => rfl
  | cons member rest ih => rw [sortedMembers, ih, List.map_cons]

theorem alike_sorted {document : Document} (named : document.WellNamed) :
    document.Alike document.sorted := by
  induction document with
  | null => exact .null
  | boolean value => exact .boolean value
  | string value => exact .string value
  | number x => exact .refl named
  | array elements ih =>
    rw [sorted, sortedElements_eq_map]
    refine .array (List.forall₂_map_right_iff.mpr (List.forall₂_same.mpr fun x member => ?_))
    exact ih x member (named.of_mem_array member)
  | object members ih =>
    rw [sorted, sortedMembers_eq_map]
    have perm := List.mergeSort_perm (members.map fun member => (member.1, member.2.sorted))
      fun a b => !Text.precedes b.1 a.1
    have values : Alike (.object members)
        (.object (members.map fun member => (member.1, member.2.sorted))) := by
      refine .of_aligned named.distinct_names ?_
      rw [List.forall₂_map_right_iff, List.forall₂_same]
      exact fun member present => ⟨rfl, ih member present (named.of_mem_object present)⟩
    exact values.trans ((Rearranges.reorder perm.symm).alike values.symm.wellNamed)

/-- The style of a dump but for the sorting. -/
def plainUnsorted : Style := { plainSorted with sorted := false }

theorem plain_plainUnsorted : plainUnsorted.Plain where
  unescaped := rfl
  unsorted := rfl
  commas := List.forall_mem_singleton.mpr (.inr rfl)
  colons := List.forall_mem_singleton.mpr (.inr rfl)

/-- Whether members are sorted makes no difference to what is put around them. -/
theorem enclose_plainUnsorted (level : Nat) (opening closing : CodePoint) (parts : List Text) :
    enclose plainSorted level opening closing parts =
      enclose plainUnsorted level opening closing parts := by
  cases parts <;> rfl

/-- Members may be sorted before they are written. -/
theorem write_sorted (document : Document) (level : Nat) :
    write plainSorted level document.toDatum =
      write plainUnsorted level document.sorted.toDatum := by
  induction document generalizing level with
  | null | string _ => rfl
  | boolean value => cases value <;> rfl
  | number x =>
    have same : sorted (.number x) = .number x := rfl
    rw [same, toDatum]
    split_ifs
    · rfl
    · rfl
  | array elements ih =>
    rw [sorted, sortedElements_eq_map, toDatum, toDatum, write, write, writeItems_toItems,
      writeItems_toItems, List.map_map, enclose_plainUnsorted]
    exact congrArg _ (List.map_congr_left fun x member => ih x member (level + 1))
  | object members ih =>
    have lines : arrange true (members.map fun member =>
          (member.1, write plainSorted (level + 1) member.2.toDatum)) =
        ((members.map fun member => (member.1, member.2.sorted)).mergeSort fun a b =>
          !Text.precedes b.1 a.1).map fun member =>
            (member.1, write plainUnsorted (level + 1) member.2.toDatum) := by
      rw [List.map_mergeSort (s := fun a b : Text × Text => !Text.precedes b.1 a.1)
        fun _ _ _ _ => rfl, List.map_map]
      refine congrArg (arrange true) (List.map_congr_left fun member present => ?_)
      exact Prod.ext rfl (ih member present (level + 1))
    rw [sorted, sortedMembers_eq_map, toDatum, toDatum, write, write, writeEntries_toEntries,
      writeEntries_toEntries, enclose_plainUnsorted]
    exact congrArg (fun lines => enclose plainUnsorted level _ _ (List.map _ lines)) lines

/-! ### Dumps read back -/

/-- A whole value has no more digits than are read. -/
theorem length_toInt_le {x : Binary64} (whole : x.isInteger = true) :
    (Text.ofNat x.toInt.natAbs).length ≤ maxIntegerDigits := by
  obtain ⟨z, value⟩ := (Binary64.isInteger_iff x).mp whole
  rw [Binary64.toInt_eq_of_value value]
  have range : |(z : ℚ)| < 10 ^ (309 : ℤ) := value ▸ x.abs_value_lt.trans Binary64.bound_lt
  have range : z.natAbs < 10 ^ 309 := by
    rw [← Int.cast_abs, ← Nat.cast_natAbs] at range
    exact_mod_cast range
  exact ((Text.length_ofNat_le_iff (by decide)).mpr range).trans (by decide)

theorem legible_toDatum {levels : Nat} {document : Document} (named : document.WellNamed)
    (within : document.Within levels) :
    ∀ more, levels ≤ more → Legible .document more document.toDatum := by
  induction within with
  | null => exact fun _ _ => .null
  | boolean value => exact fun _ _ => .boolean value
  | string value => exact fun _ _ => .text (.inl rfl)
  | number x =>
    intro more _
    rw [toDatum]
    split_ifs with whole
    · exact .integer (length_toInt_le whole)
    · exact .real x
  | @array levels elements each ih =>
    intro more enough
    obtain ⟨more, rfl⟩ : ∃ less, more = less + 1 := Nat.exists_eq_add_of_le' (by omega)
    rw [toDatum, toItems_eq_map]
    refine .sequence (List.forall_mem_map.mpr fun x member => ?_)
    exact ih x member (named.of_mem_array member) more (by omega)
  | @object levels members each ih =>
    intro more enough
    obtain ⟨more, rfl⟩ : ∃ less, more = less + 1 := Nat.exists_eq_add_of_le' (by omega)
    have entries : toEntries members =
        (members.map fun member => (member.1, member.2.toDatum)).map entry := by
      rw [toEntries_eq_map, List.map_map]
      rfl
    rw [toDatum, entries]
    refine .mapping ?_ (fun _ _ => .inl rfl) (List.forall_mem_map.mpr fun member present => ?_)
    · rw [List.map_map]
      exact named.distinct_names
    · exact ih member present (named.of_mem_object present) more (by omega)

/-- A dump is read as a document that is alike. -/
theorem exists_ofJson_dump (document : Proper) (within : document.1.Within maxNesting) :
    ∃ other, ofJson (.text document.1.dump) = .ok other ∧ Alike document other := by
  have alike := alike_sorted document.2
  have arranged := alike.symm.wellNamed
  have within := alike.within within
  have legible := legible_toDatum arranged within _ (Nat.le_refl maxNesting)
  have decoded := decode_write plain_plainUnsorted legible 0 (List.forall_mem_nil _)
  rw [List.append_nil, ← write_sorted] at decoded
  obtain ⟨other, converted, same⟩ := exists_ofDatumWithin_toDatum arranged within
  exact ⟨other, ofJson_text_eq_ok_iff.mpr ⟨_, decoded, converted⟩, alike.trans same⟩

/-- One dump is read as one document. -/
theorem alike_of_dump_eq {v w : Proper} (shallow : v.1.Within maxNesting)
    (flat : w.1.Within maxNesting) (same : v.1.dump = w.1.dump) : Alike v w := by
  obtain ⟨first, read, alike⟩ := exists_ofJson_dump v shallow
  obtain ⟨second, again, likewise⟩ := exists_ofJson_dump w flat
  rw [same, again] at read
  cases read
  exact alike.trans likewise.symm

/-- What an enumeration says of a value that it refuses. -/
theorem failure?_enum_eq_some_iff {values : List Document} {v : Document} {detail : Text} :
    (Constraint.enum values).failure? v = some detail ↔
      (∀ allowed ∈ values, v.structurallyEqual allowed = false) ∧
        detail = "enum: " ++ v.dump ++ " is not one of [" ++
          Text.join ", " (values.map dump) ++ "]" := by
  rw [Constraint.failure?]
  cases found : values.any v.structurallyEqual with
  | true =>
    obtain ⟨allowed, member, equal⟩ := List.any_eq_true.mp found
    refine iff_of_false (fun same => by cases same) fun refused => ?_
    rw [refused.1 allowed member] at equal
    cases equal
  | false =>
    rw [List.any_eq_false] at found
    simp only [Bool.false_eq_true, if_false, Option.some.injEq, eq_comm (a := detail)]
    exact (and_iff_right fun allowed member => Bool.eq_false_iff.mpr (found allowed member)).symm

/-- The dump of a document is read as an equal document, and two documents have one dump exactly if
they are equal. So an enumeration that refuses a value names it first and then values of other
dumps. -/
theorem dump_is_canonical :
    (∀ v, Produced v → ∃ w, ofJson (.text v.dump) = .ok w ∧ w.structurallyEqual v = true) ∧
    (∀ v w, Produced v → Produced w → (v.dump = w.dump ↔ v.structurallyEqual w = true)) ∧
    ∀ (values : List Document) (v : Document) (detail : Text), Produced v →
      (∀ allowed ∈ values, Produced allowed) →
      (Constraint.enum values).failure? v = some detail →
        detail = "enum: " ++ v.dump ++ " is not one of [" ++
            Text.join ", " (values.map dump) ++ "]" ∧
          v.dump ∉ values.map dump := by
  have same (v w : Document) (first : Produced v) (second : Produced w) :
      v.dump = w.dump ↔ v.structurallyEqual w = true := by
    have alike : Alike v w ↔ v.dump = w.dump :=
      ⟨dump_congr, alike_of_dump_eq (v := first.proper) (w := second.proper) first.within
        second.within⟩
    exact alike.symm.trans (structurallyEqual_iff_alike first.proper second.proper).symm
  refine ⟨fun v produced => ?_, same, fun values v detail produced allowed refused => ?_⟩
  · obtain ⟨w, read, alike⟩ := exists_ofJson_dump produced.proper produced.within
    exact ⟨w, read, structurallyEqual_of_alike alike.symm⟩
  · obtain ⟨none, words⟩ := failure?_enum_eq_some_iff.mp refused
    refine ⟨words, fun listed => ?_⟩
    obtain ⟨value, member, equal⟩ := List.mem_map.mp listed
    have found := (same v value produced (allowed value member)).mp equal.symm
    rw [none value member] at found
    cases found

/-- Equal documents in two orders have one dump, which is read as a document equal to both; a value
that is neither is told apart from them. -/
theorem dump_is_canonical_swapped :
    (Produced (zeroAndArray false) ∧ Produced (zeroAndArray true) ∧ Produced .null) ∧
    dump (zeroAndArray false) = dump (zeroAndArray true) ∧
    (∃ w, ofJson (.text (dump (zeroAndArray true))) = .ok w ∧
      w.structurallyEqual (zeroAndArray true) = true) ∧
    ∃ detail, (Constraint.enum [zeroAndArray true]).failure? .null = some detail ∧
      dump .null ∉ [zeroAndArray true].map dump := by
  have first := produced_zeroAndArray false
  have second := produced_zeroAndArray true
  have keyed : Datum.WellKeyed .null := .leaf rfl rfl
  have null : Produced .null := .datum keyed rfl
  have equal : structurallyEqual (zeroAndArray false) (zeroAndArray true) = true := by decide
  obtain ⟨reads, same, refuses⟩ := dump_is_canonical
  have refused : (Constraint.enum [zeroAndArray true]).failure? .null = some _ := rfl
  exact ⟨⟨first, second, null⟩, (same _ _ first second).mpr equal, reads _ second, _, refused,
    (refuses _ _ _ null (List.forall_mem_singleton.mpr second) refused).2⟩

end Conformance.Document
