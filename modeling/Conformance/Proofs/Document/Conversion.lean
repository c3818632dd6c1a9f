import Conformance.Document.OfDatum
import Conformance.Proofs.Document.Names
import Conformance.Proofs.Step
import Mathlib.Data.List.Forall2
import Mathlib.Tactic.SplitIfs

/-!
# Converting data part by part

A container is converted by converting its parts, each for itself and with the levels that are left.
So what is true of every conversion is shown by induction over the parts of a datum.
-/
namespace Conformance

namespace Datum

theorem sizeOf_part_lt {part datum : Datum} (member : part ∈ datum.parts) :
    sizeOf part < sizeOf datum := by
  cases datum with
  | sequence items =>
    have smaller := List.sizeOf_lt_of_mem (show part ∈ items from member)
    rw [Datum.sequence.sizeOf_spec]
    exact Nat.lt_add_left 1 smaller
  | tuple items =>
    have smaller := List.sizeOf_lt_of_mem (show part ∈ items from member)
    rw [Datum.tuple.sizeOf_spec]
    exact Nat.lt_add_left 1 smaller
  | mapping entries =>
    obtain ⟨⟨key, value⟩, present, rfl⟩ := List.mem_map.mp member
    have smaller := List.sizeOf_lt_of_mem present
    rw [Prod.mk.sizeOf_spec] at smaller
    rw [Datum.mapping.sizeOf_spec]
    show sizeOf value < 1 + sizeOf entries
    omega
  | _ => cases member

/-- Induction over the parts of a datum. -/
@[elab_as_elim]
theorem induction {motive : Datum → Prop}
    (step : ∀ datum : Datum, (∀ part ∈ datum.parts, motive part) → motive datum) (datum : Datum) :
    motive datum :=
  step datum fun part member =>
    have := sizeOf_part_lt member
    induction step part
termination_by sizeOf datum

end Datum

namespace Document

variable {levels : Nat}

/-! ### Lists that belong together -/

theorem exists_forall₂_iff {α β : Type} {R : α → β → Prop} {xs : List α} :
    (∃ ys, List.Forall₂ R xs ys) ↔ ∀ x ∈ xs, ∃ y, R x y := by
  induction xs with
  | nil => exact ⟨fun _ => List.forall_mem_nil _, fun _ => ⟨[], .nil⟩⟩
  | cons x xs ih =>
    simp only [List.forall_mem_cons, ← ih, List.forall₂_cons_left_iff]
    exact ⟨fun ⟨_, y, ys, first, later, _⟩ => ⟨⟨y, first⟩, ys, later⟩,
      fun ⟨⟨y, first⟩, ys, later⟩ => ⟨_, y, ys, first, later, rfl⟩⟩

theorem exists_mem_of_forall₂ {α β : Type} {R : α → β → Prop} {xs : List α} {ys : List β}
    (given : List.Forall₂ R xs ys) : ∀ y ∈ ys, ∃ x ∈ xs, R x y := by
  have given := (List.forall₂_and_left xs ys).mpr ⟨fun _ => id, given⟩
  exact exists_forall₂_iff.mp ⟨xs, given.flip⟩

theorem forall₂_of_mem {α β : Type} {R S : α → β → Prop} {xs : List α} {ys : List β}
    (given : List.Forall₂ R xs ys) (each : ∀ x ∈ xs, ∀ y ∈ ys, R x y → S x y) :
    List.Forall₂ S xs ys := by
  have left := (List.forall₂_and_left xs ys).mpr ⟨fun _ => id, given⟩
  have both := (List.forall₂_and_left ys xs).mpr ⟨fun _ => id, left.flip⟩
  exact both.flip.imp fun x y ⟨there, here, related⟩ => each x here y there related

/-! ### Items and entries -/

theorem ofItems_cons (item : Datum) (rest : List Datum) :
    ofItems levels (item :: rest) = (ofDatumWithin levels item).bind fun element =>
      (ofItems levels rest).map (element :: ·) := by
  rw [ofItems]
  cases ofDatumWithin levels item with
  | error fault => rfl
  | ok element => cases ofItems levels rest <;> rfl

theorem ofEntries_cons (name : Text) (value : Datum) (rest : List (Datum × Datum)) :
    ofEntries levels ((.text name, value) :: rest) =
      (ofDatumWithin levels value).bind fun member =>
        (ofEntries levels rest).map ((name, member) :: ·) := by
  rw [ofEntries]
  cases ofDatumWithin levels value with
  | error fault => rfl
  | ok element => cases ofEntries levels rest <;> rfl

theorem ofItems_eq_ok_iff {items : List Datum} {elements : List Document} :
    ofItems levels items = .ok elements ↔
      List.Forall₂ (fun item element => ofDatumWithin levels item = .ok element) items elements := by
  induction items generalizing elements with
  | nil => cases elements <;> simp [ofItems]
  | cons item rest ih =>
    rw [ofItems_cons, List.forall₂_cons_left_iff]
    constructor
    · intro read
      obtain ⟨element, first, later⟩ := bind_eq_ok_iff.mp read
      obtain ⟨others, each, rfl⟩ := map_eq_ok_iff.mp later
      exact ⟨element, others, first, ih.mp each, rfl⟩
    · rintro ⟨element, others, first, each, rfl⟩
      exact bind_eq_ok_iff.mpr ⟨element, first, map_eq_ok_iff.mpr ⟨others, ih.mpr each, rfl⟩⟩

theorem ofEntries_eq_ok_iff {entries : List (Datum × Datum)} {members : Named Document} :
    ofEntries levels entries = .ok members ↔
      List.Forall₂ (fun entry member => entry.1 = .text member.1 ∧
        ofDatumWithin levels entry.2 = .ok member.2) entries members := by
  induction entries generalizing members with
  | nil => cases members <;> simp [ofEntries]
  | cons entry rest ih =>
    obtain ⟨key, value⟩ := entry
    rw [List.forall₂_cons_left_iff]
    cases key with
    | text name =>
      rw [ofEntries_cons]
      constructor
      · intro read
        obtain ⟨member, first, later⟩ := bind_eq_ok_iff.mp read
        obtain ⟨others, each, rfl⟩ := map_eq_ok_iff.mp later
        exact ⟨(name, member), others, ⟨rfl, first⟩, ih.mp each, rfl⟩
      · rintro ⟨⟨other, member⟩, others, ⟨same, first⟩, each, rfl⟩
        cases same
        exact bind_eq_ok_iff.mpr ⟨member, first, map_eq_ok_iff.mpr ⟨others, ih.mpr each, rfl⟩⟩
    | _ =>
      refine ⟨nofun, ?_⟩
      rintro ⟨_, _, ⟨same, _⟩, _, _⟩
      cases same

/-! ### Containers -/

theorem ofDatumWithin_sequence_eq_ok_iff {items : List Datum} {document : Document} :
    ofDatumWithin levels (.sequence items) = .ok document ↔ ∃ elements, document = .array elements ∧
      2 ≤ levels ∧ List.Forall₂ (fun item element =>
        ofDatumWithin (levels - 2) item = .ok element) items elements := by
  rw [ofDatumWithin]
  split_ifs with flat
  · exact ⟨nofun, fun ⟨_, _, room, _⟩ => absurd flat (by omega)⟩
  · simp only [map_eq_ok_iff, ofItems_eq_ok_iff]
    exact ⟨fun ⟨elements, each, same⟩ => ⟨elements, same.symm, by omega, each⟩,
      fun ⟨elements, same, _, each⟩ => ⟨elements, each, same.symm⟩⟩

/-- A tuple is converted like a sequence. -/
theorem ofDatumWithin_tuple (items : List Datum) :
    ofDatumWithin levels (.tuple items) = ofDatumWithin levels (.sequence items) := by
  rw [ofDatumWithin, ofDatumWithin]

theorem ofDatumWithin_mapping_eq_ok_iff {entries : List (Datum × Datum)} {document : Document} :
    ofDatumWithin levels (.mapping entries) = .ok document ↔ ∃ members,
      document = .object members ∧ 1 ≤ levels ∧ List.Forall₂ (fun entry member =>
        entry.1 = .text member.1 ∧ ofDatumWithin (levels - 1) entry.2 = .ok member.2)
          entries members := by
  rw [ofDatumWithin]
  split_ifs with flat
  · exact ⟨nofun, fun ⟨_, _, room, _⟩ => absurd flat (by omega)⟩
  · simp only [map_eq_ok_iff, ofEntries_eq_ok_iff]
    exact ⟨fun ⟨members, each, same⟩ => ⟨members, same.symm, by omega, each⟩,
      fun ⟨members, same, _, each⟩ => ⟨members, each, same.symm⟩⟩

theorem ofDatumWithin_add_sequence (items : List Datum) :
    ofDatumWithin (levels + 2) (.sequence items) = (ofItems levels items).map .array := by
  rw [ofDatumWithin, if_neg (Nat.not_lt.mpr (Nat.le_add_left 2 levels)), Nat.add_sub_cancel]

theorem ofDatumWithin_add_mapping (entries : List (Datum × Datum)) :
    ofDatumWithin (levels + 1) (.mapping entries) = (ofEntries levels entries).map .object := by
  rw [ofDatumWithin, if_neg (Nat.not_lt.mpr (Nat.le_add_left 1 levels)), Nat.add_sub_cancel]

end Document
end Conformance
