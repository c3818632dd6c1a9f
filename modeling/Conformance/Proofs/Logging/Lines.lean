import Conformance.Logging.Event
import Conformance.Proofs.Document.Members
import Conformance.Proofs.Document.Representable

/-!
# Values on a line of the log

Which values a line can show. In columns only whole numbers with too many digits cannot be shown. An
object of JSON asks for keys that name members as well, and for containers that do not hold
themselves. Each is a matter of single nodes, so a value can be shown if all of its nodes can.
-/
namespace Conformance

namespace Datum

/-! ### Nodes and keys -/

/-- A datum stands somewhere in another one, be it in a key. -/
inductive Held : Datum → Datum → Prop where
  | here (datum : Datum) : Held datum datum
  | inner {node part datum : Datum} (member : part ∈ datum.inner) (held : Held node part) :
      Held node datum

theorem sizeOf_inner_lt {part datum : Datum} (member : part ∈ datum.inner) :
    sizeOf part < sizeOf datum := by
  cases datum with
  | sequence items | tuple items =>
    have smaller := List.sizeOf_lt_of_mem (show part ∈ items from member)
    simp only [sequence.sizeOf_spec, tuple.sizeOf_spec]
    omega
  | mapping entries =>
    have entry : ∃ entry ∈ entries, part = entry.1 ∨ part = entry.2 := by
      rcases List.mem_append.mp member with key | value
      · obtain ⟨entry, listed, rfl⟩ := List.mem_map.mp key
        exact ⟨entry, listed, .inl rfl⟩
      · obtain ⟨entry, listed, rfl⟩ := List.mem_map.mp value
        exact ⟨entry, listed, .inr rfl⟩
    obtain ⟨⟨key, value⟩, listed, side⟩ := entry
    have smaller := List.sizeOf_lt_of_mem listed
    simp only [Prod.mk.sizeOf_spec] at smaller
    simp only [mapping.sizeOf_spec]
    rcases side with rfl | rfl
    · omega
    · omega
  | _ => cases member

/-- What passes from the parts and keys of a datum to the datum holds of every datum. -/
@[elab_as_elim]
theorem inner_induction {motive : Datum → Prop}
    (step : ∀ datum, (∀ part ∈ datum.inner, motive part) → motive datum) (datum : Datum) :
    motive datum :=
  step datum fun part _ => inner_induction step part
termination_by sizeOf datum
decreasing_by exact sizeOf_inner_lt ‹_›

/-- What is so of a datum as far as it is of its parts and keys, and something is so of itself, is
so if that something is so of all nodes. -/
theorem iff_forall_held {Whole Node : Datum → Prop}
    (split : ∀ datum, Whole datum ↔ Node datum ∧ ∀ part ∈ datum.inner, Whole part)
    (datum : Datum) : Whole datum ↔ ∀ node, node.Held datum → Node node := by
  induction datum using inner_induction with
  | step datum ih =>
    rw [split]
    constructor
    · rintro ⟨own, parts⟩ node held
      cases held with
      | here => exact own
      | inner member held => exact (ih _ member).mp (parts _ member) node held
    · intro all
      refine ⟨all datum (.here datum), fun part member => (ih part member).mpr ?_⟩
      exact fun node held => all node (.inner member held)

end Datum

namespace Logging

open Datum

/-- A key by which JSON names a member. -/
def NamesMember : Datum → Prop
  | .text _ | .null | .boolean _ | .integer _ | .real _ => True
  | _ => False

/-- What the columns of a line can show, as far as a single node goes. -/
def ShownInColumns : Datum → Prop
  | .integer number => number.natAbs < 10 ^ maxIntegerDigits
  | _ => True

/-- What a line in JSON can show, as far as a single node goes. -/
def ShownInJson : Datum → Prop
  | .integer number => number.natAbs < 10 ^ maxIntegerDigits
  | .mapping entries => ∀ entry ∈ entries, NamesMember entry.1
  | .enclosing => False
  | _ => True

/-- A line in the format can show the value. -/
def Presentable (format : Text) (value : Datum) : Prop :=
  ∀ node, node.Held value → if format = "json" then ShownInJson node else ShownInColumns node

/-! ### Columns -/

theorem allShowable_iff (items : List Datum) :
    Datum.allShowable items = true ↔ ∀ item ∈ items, item.isShowable = true := by
  induction items with
  | nil => exact iff_of_true rfl (List.forall_mem_nil _)
  | cons item rest ih => rw [allShowable, Bool.and_eq_true, ih, List.forall_mem_cons]

theorem entriesShowable_iff (entries : List (Datum × Datum)) :
    Datum.entriesShowable entries = true ↔
      (∀ key ∈ entries.map Prod.fst, key.isShowable = true) ∧
        ∀ value ∈ entries.map Prod.snd, value.isShowable = true := by
  induction entries with
  | nil => exact iff_of_true rfl ⟨List.forall_mem_nil _, List.forall_mem_nil _⟩
  | cons entry rest ih =>
    obtain ⟨key, value⟩ := entry
    rw [entriesShowable, Bool.and_eq_true, Bool.and_eq_true, ih, List.map_cons, List.map_cons,
      List.forall_mem_cons, List.forall_mem_cons]
    tauto

theorem isShowable_split (value : Datum) :
    value.isShowable = true ↔
      ShownInColumns value ∧ ∀ part ∈ value.inner, part.isShowable = true := by
  cases value with
  | integer number =>
    rw [isShowable_integer_iff]
    exact ⟨fun short => ⟨short, List.forall_mem_nil _⟩, And.left⟩
  | sequence items | tuple items =>
    rw [isShowable, allShowable_iff]
    exact ⟨fun each => ⟨trivial, each⟩, And.right⟩
  | mapping entries =>
    rw [isShowable, entriesShowable_iff, ← List.forall_mem_append]
    exact ⟨fun each => ⟨trivial, each⟩, And.right⟩
  | _ => exact iff_of_true rfl ⟨trivial, List.forall_mem_nil _⟩

theorem isShowable_iff_presentable {format : Text} (columns : format ≠ "json") (value : Datum) :
    value.isShowable = true ↔ Presentable format value := by
  rw [iff_forall_held isShowable_split value]
  simp only [Presentable, if_neg columns]

theorem exists_describe_iff {value : Datum} :
    (∃ shown, describe value = .ok shown) ↔ value.isShowable = true := by
  rw [describe]
  split
  next showable => exact iff_of_true ⟨_, rfl⟩ showable
  next long => exact iff_of_false (not_exists_ok _) long

theorem exists_column_iff {value : Datum} :
    (∃ shown, Event.column value = .ok shown) ↔ value.isShowable = true := by
  cases value with
  | text value => exact iff_of_true ⟨_, rfl⟩ rfl
  | _ => exact exists_describe_iff

theorem exists_bracketed {value : Datum} (showable : value.isShowable = true) :
    ∃ shown, Event.bracketed value = .ok shown := by
  rw [Event.bracketed.eq_def, exists_map_ok_iff]
  cases value with
  | text value => exact ⟨_, rfl⟩
  | _ => exact exists_describe_iff.mpr showable

/-! ### JSON -/

theorem exists_itemsForm_iff (items : List Datum) :
    (∃ forms, itemsForm items = .ok forms) ↔ ∀ item ∈ items, ∃ form, jsonForm item = .ok form := by
  induction items with
  | nil => exact iff_of_true ⟨_, rfl⟩ (List.forall_mem_nil _)
  | cons item rest ih =>
    rw [List.forall_mem_cons, ← ih]
    constructor
    · rintro ⟨forms, made⟩
      obtain ⟨form, first, others⟩ := bind_eq_ok_iff.mp made
      obtain ⟨later, behind, -⟩ := bind_eq_ok_iff.mp others
      exact ⟨⟨form, first⟩, later, behind⟩
    · rintro ⟨⟨form, first⟩, later, behind⟩
      refine ⟨form :: later, bind_eq_ok_iff.mpr ⟨form, first, ?_⟩⟩
      exact bind_eq_ok_iff.mpr ⟨later, behind, rfl⟩

theorem exists_entriesForm_iff (entries : List (Datum × Datum)) :
    (∃ forms, entriesForm entries = .ok forms) ↔
      ∀ entry ∈ entries, (∃ name, nameForm entry.1 = .ok name) ∧
        ∃ form, jsonForm entry.2 = .ok form := by
  induction entries with
  | nil => exact iff_of_true ⟨_, rfl⟩ (List.forall_mem_nil _)
  | cons entry rest ih =>
    obtain ⟨key, value⟩ := entry
    rw [List.forall_mem_cons, ← ih]
    constructor
    · rintro ⟨forms, made⟩
      obtain ⟨name, named, others⟩ := bind_eq_ok_iff.mp made
      obtain ⟨form, first, others⟩ := bind_eq_ok_iff.mp others
      obtain ⟨later, behind, -⟩ := bind_eq_ok_iff.mp others
      exact ⟨⟨⟨name, named⟩, form, first⟩, later, behind⟩
    · rintro ⟨⟨⟨name, named⟩, form, first⟩, later, behind⟩
      exact ⟨(.text name, form) :: later, bind_eq_ok_iff.mpr ⟨name, named,
        bind_eq_ok_iff.mpr ⟨form, first, bind_eq_ok_iff.mpr ⟨later, behind, rfl⟩⟩⟩⟩

theorem exists_nameForm_iff (key : Datum) :
    (∃ name, nameForm key = .ok name) ↔ NamesMember key ∧ ∃ form, jsonForm key = .ok form := by
  cases key with
  | text | null | boolean | real => exact iff_of_true ⟨_, rfl⟩ ⟨trivial, _, rfl⟩
  | integer number =>
    rw [nameForm, jsonForm, exists_map_ok_iff]
    exact (and_iff_right trivial).symm
  | _ => exact iff_of_false (not_exists_ok _) And.left

theorem exists_jsonForm_split (value : Datum) :
    (∃ form, jsonForm value = .ok form) ↔
      ShownInJson value ∧ ∀ part ∈ value.inner, ∃ form, jsonForm part = .ok form := by
  cases value with
  | integer number =>
    rw [jsonForm, exists_map_ok_iff, exists_describe_iff, isShowable_integer_iff]
    exact ⟨fun short => ⟨short, List.forall_mem_nil _⟩, And.left⟩
  | sequence items | tuple items =>
    rw [jsonForm, exists_map_ok_iff, exists_itemsForm_iff]
    exact ⟨fun each => ⟨trivial, each⟩, And.right⟩
  | mapping entries =>
    -- A key that names a member is one of the parts, and is shown as such.
    rw [jsonForm, exists_map_ok_iff, exists_entriesForm_iff]
    simp only [exists_nameForm_iff, Datum.inner, List.forall_mem_append, List.forall_mem_map,
      ShownInJson]
    grind
  | enclosing => exact iff_of_false (not_exists_ok _) And.left
  | _ => exact iff_of_true ⟨_, rfl⟩ ⟨trivial, List.forall_mem_nil _⟩

theorem exists_jsonForm_iff_presentable (value : Datum) :
    (∃ form, jsonForm value = .ok form) ↔ Presentable "json" value := by
  rw [iff_forall_held exists_jsonForm_split value]
  exact Iff.rfl

/-! ### Lines -/

variable {format : Text} {event : Event} {bound : Named Datum} {stamp : Text}

theorem exists_jsonLine_iff :
    (∃ line, event.jsonLine bound stamp = .ok line) ↔
      ∀ member ∈ event.members bound stamp, Presentable "json" member.2 := by
  rw [Event.jsonLine, exists_map_ok_iff, membersForm, exists_entriesForm_iff, List.forall_mem_map]
  simp only [exists_jsonForm_iff_presentable]
  exact ⟨fun each member present => (each member present).2,
    fun each member present => ⟨⟨_, rfl⟩, each member present⟩⟩

/-- The columns of a line can be made if their values can be shown. -/
theorem exists_columns_iff {members : Named Datum} :
    (∃ columns, (members.mergeSort fun a b => !Text.precedes b.1 a.1).mapM (fun (name, value) =>
      (Event.column value).map fun shown : Text => name ++ "=" ++ shown) = .ok columns) ↔
      ∀ member ∈ members, member.2.isShowable = true := by
  rw [exists_mapM_ok_iff]
  simp only [exists_map_ok_iff, exists_column_iff, (List.mergeSort_perm _ _).mem_iff]

/-- A line can be made of an event whose values can all be shown. -/
theorem exists_line (each : ∀ member ∈ event.members bound stamp, Presentable format member.2) :
    ∃ line, event.line format bound stamp = .ok line := by
  rw [Event.line]
  split_ifs with json
  · subst json
    exact exists_jsonLine_iff.mpr each
  · -- What stands in front of the columns is shown apart from them.
    have showable : ∀ member ∈ event.members bound stamp, member.2.isShowable = true :=
      fun member present => (isShowable_iff_presentable json _).mpr (each member present)
    have front : ∀ value ∈ ((event.members bound stamp).get? "logger_name").toList,
        ∃ shown, Event.bracketed value = .ok shown := fun value listed =>
      exists_bracketed (showable _ (Named.mem_of_get? (Option.mem_toList.mp listed)))
    obtain ⟨origin, fronts⟩ := exists_mapM_ok_iff.mpr front
    obtain ⟨columns, columned⟩ := exists_columns_iff.mpr fun member listed =>
      showable member (List.mem_of_mem_filter listed)
    exact ⟨_, bind_eq_ok_iff.mpr ⟨origin, fronts, bind_eq_ok_iff.mpr ⟨columns, columned, rfl⟩⟩⟩

theorem presentable_text (format t : Text) : Presentable format (.text t) := by
  intro node held
  cases held with
  | here => split_ifs <;> trivial
  | inner member => cases member

/-- All that a line shows can be shown if the fields can. -/
theorem presentable_members
    (before : ∀ member ∈ bound, Presentable format member.2)
    (each : ∀ field ∈ event.fields, Presentable format field.2) (stamp : Text) :
    ∀ member ∈ event.members bound stamp, Presentable format member.2 := by
  refine Named.forall_mem_insertAll before ?_
  simp only [List.forall_mem_append, List.forall_mem_cons, List.forall_mem_map, List.not_mem_nil,
    false_imp_iff, implies_true, and_true, presentable_text, true_and]
  exact each

end Logging
end Conformance
