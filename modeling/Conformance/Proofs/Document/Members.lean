import Conformance.Proofs.Document.Names
import Conformance.Proofs.Document.Structure

/-!
# Members put together

A list of members in which names may come again, and what is left of it when it is read into an
object: each name stands where it first came and has the value that it last had.
-/
namespace Conformance

namespace Named

variable {α β : Type}

/-- What was built so far with more members, one by one. -/
def insertAll (built members : Named α) : Named α :=
  members.foldl (fun built member => insert built member.1 member.2) built

/-- One member for each name. -/
def settle (members : Named α) : Named α := insertAll [] members

@[simp] theorem insertAll_nil (built : Named α) : insertAll built [] = built := rfl

@[simp] theorem insertAll_cons (built : Named α) (member : Text × α) (rest : Named α) :
    insertAll built (member :: rest) = insertAll (insert built member.1 member.2) rest := rfl

theorem insert_cons (first : Text × α) (rest : Named α) (name : Text) (value : α) :
    insert (first :: rest) name value =
      if first.1 = name then (first.1, value) :: rest else first :: insert rest name value := rfl

theorem get?_insert (members : Named α) (name other : Text) (value : α) :
    (members.insert name value).get? other =
      if name = other then some value else members.get? other := by
  induction members with
  | nil => rfl
  | cons member rest ih =>
    rw [insert_cons, get?_cons]
    by_cases here : member.1 = name
    · subst here
      rw [if_pos rfl, get?_cons]
      split_ifs
      · rfl
      · rfl
    · rw [if_neg here, get?_cons, ih]
      split_ifs with first second
      · exact absurd (first.trans second.symm) here
      · rfl
      · rfl
      · rfl

theorem names_insert (members : Named α) (name : Text) (value : α) :
    (members.insert name value).names =
      if name ∈ members.names then members.names else members.names ++ [name] := by
  induction members with
  | nil => rfl
  | cons member rest ih =>
    rw [insert_cons]
    by_cases same : member.1 = name
    · subst same
      simp [names]
    · rw [if_neg same]
      simp only [names, List.map_cons, List.mem_cons] at ih ⊢
      rw [ih]
      have apart : name ≠ member.1 := fun equal => same equal.symm
      by_cases later : name ∈ rest.map Prod.fst
      · simp [later]
      · simp [later, apart]

theorem get?_append_singleton (earlier : Named α) (member : Text × α) (name : Text) :
    Named.get? (earlier ++ [member]) name =
      (Named.get? earlier name).or (if member.1 = name then some member.2 else none) := by
  induction earlier with
  | nil => rfl
  | cons first others ih =>
    rw [List.cons_append, get?_cons, get?_cons]
    by_cases here : first.1 = name
    · rw [if_pos here, if_pos here]
      rfl
    · rw [if_neg here, if_neg here, ih]

theorem names_map (f : α → β) (members : Named α) :
    Named.names (members.map fun member => (member.1, f member.2)) = members.names :=
  List.map_map

theorem get?_map (f : α → β) (members : Named α) (name : Text) :
    Named.get? (members.map fun member => (member.1, f member.2)) name =
      (members.get? name).map f := by
  induction members with
  | nil => rfl
  | cons member rest ih =>
    rw [List.map_cons, get?_cons, get?_cons, ih]
    split_ifs
    · rfl
    · rfl

/-- What was inserted last under a name is found there. -/
theorem get?_insertAll (members built : Named α) (name : Text) :
    (insertAll built members).get? name =
      (Named.get? members.reverse name).or (built.get? name) := by
  induction members generalizing built with
  | nil => rfl
  | cons member rest ih =>
    rw [insertAll_cons, ih, List.reverse_cons, get?_append_singleton, get?_insert, Option.or_assoc]
    split_ifs
    · rfl
    · rfl

/-- A name has the last of its values. -/
theorem get?_settle (members : Named α) (name : Text) :
    members.settle.get? name = Named.get? members.reverse name := by
  rw [settle, get?_insertAll]
  exact Option.or_none

theorem names_insertAll (members built : Named α) :
    (insertAll built members).names =
      built.names ++ (members.names.filter fun name => name ∉ built.names).eraseDups := by
  induction members generalizing built with
  | nil => simp [names]
  | cons member rest ih =>
    have head : Named.names (member :: rest) = member.1 :: Named.names rest := rfl
    rw [insertAll_cons, ih, names_insert, head]
    by_cases old : member.1 ∈ built.names
    · simp [old]
    · -- A new name goes last and is left out of what follows.
      have next : (member.1 :: Named.names rest).filter (fun name => name ∉ built.names) =
          member.1 :: (Named.names rest).filter (fun name => name ∉ built.names) := by
        simp [old]
      rw [if_neg old, next, List.eraseDups_cons, List.append_assoc, List.singleton_append,
        List.filter_filter]
      congr 3
      refine List.filter_congr fun name _ => ?_
      by_cases same : name = member.1 <;> simp [same]

/-- The names stand in the order in which they first came. -/
theorem names_settle (members : Named α) : members.settle.names = members.names.eraseDups := by
  have built := names_insertAll members []
  simpa [settle, names] using built

theorem nodup_settle (members : Named α) : members.settle.names.Nodup := by
  rw [names_settle]
  exact eraseDups_nodup _

theorem forall₂_insert {R : Text × α → Text × β → Prop}
    (named : ∀ x y, R x y → x.1 = y.1) {first : Named α} {second : Named β}
    (alike : List.Forall₂ R first second) {name : Text} {x : α} {y : β}
    (related : R (name, x) (name, y)) :
    List.Forall₂ R (first.insert name x) (second.insert name y) := by
  induction alike with
  | nil => exact .cons related .nil
  | @cons a b _ _ both rest ih =>
    have same := named a b both
    rw [insert_cons, insert_cons, ← same]
    split_ifs with here
    · rw [here]
      exact .cons related rest
    · exact .cons both ih

/-- Members that are alike one by one are alike when they are put together. -/
theorem forall₂_settle {R : Text × α → Text × β → Prop} (named : ∀ x y, R x y → x.1 = y.1)
    {first : Named α} {second : Named β} (alike : List.Forall₂ R first second) :
    List.Forall₂ R first.settle second.settle := by
  have run (before : Named α) (after : Named β) (built : List.Forall₂ R before after) :
      List.Forall₂ R (insertAll before first) (insertAll after second) := by
    induction alike generalizing before after with
    | nil => exact built
    | @cons a b _ _ both _ ih =>
      obtain ⟨name, x⟩ := a
      obtain ⟨other, y⟩ := b
      obtain rfl : name = other := named _ _ both
      exact ih _ _ (forall₂_insert named built both)
  exact run [] [] .nil

theorem insert_of_not_mem {members : Named α} {name : Text} (new : name ∉ members.names)
    (value : α) : members.insert name value = members ++ [(name, value)] := by
  induction members with
  | nil => rfl
  | cons member rest ih =>
    obtain ⟨other, later⟩ := not_or.mp (mt List.mem_cons.mpr new)
    rw [insert_cons, if_neg fun equal => other equal.symm, ih later, List.cons_append]

/-- Members with distinct names stay as they are. -/
theorem settle_of_nodup {members : Named α} (distinct : members.names.Nodup) :
    members.settle = members := by
  -- Every member goes to the end of those before it.
  have run (built : Named α) (apart : (Named.names (built ++ members)).Nodup) :
      insertAll built members = built ++ members := by
    clear distinct
    induction members generalizing built with
    | nil => exact (List.append_nil built).symm
    | cons member rest ih =>
      have new : member.1 ∉ built.names := fun present => by
        rw [names, List.map_append] at apart
        exact List.disjoint_of_nodup_append apart present List.mem_cons_self
      rw [insertAll_cons, insert_of_not_mem new, ih _ (by simpa using apart)]
      simp
  exact run [] distinct

theorem forall_mem_insert {P : α → Prop} {members : Named α} {value : α}
    (each : ∀ member ∈ members, P member.2) (new : P value) (name : Text) :
    ∀ member ∈ insert members name value, P member.2 := by
  induction members with
  | nil => exact List.forall_mem_singleton.mpr new
  | cons first rest ih =>
    obtain ⟨here, behind⟩ := List.forall_mem_cons.mp each
    rw [insert_cons]
    split
    · exact List.forall_mem_cons.mpr ⟨new, behind⟩
    · exact List.forall_mem_cons.mpr ⟨here, ih behind⟩

/-- What holds of all values holds of those that are put together. -/
theorem forall_mem_insertAll {P : α → Prop} {built members : Named α}
    (old : ∀ member ∈ built, P member.2) (new : ∀ member ∈ members, P member.2) :
    ∀ member ∈ insertAll built members, P member.2 := by
  induction members generalizing built with
  | nil => exact old
  | cons first rest ih =>
    obtain ⟨own, later⟩ := List.forall_mem_cons.mp new
    exact ih (forall_mem_insert old own first.1) later

/-- What holds of all members holds of those that are left. -/
theorem forall_mem_settle {P : Text × α → Prop} {members : Named α}
    (each : ∀ member ∈ members, P member) : ∀ member ∈ members.settle, P member := by
  have alike : List.Forall₂ (fun x y : Text × α => x = y ∧ P x) members members :=
    List.forall₂_same.mpr fun member present => ⟨rfl, each member present⟩
  have settled := forall₂_settle (fun _ _ both => congrArg Prod.fst both.1) alike
  exact fun member present => (List.forall₂_same.mp settled member present).2

end Named

/-! ### Entries -/

namespace Json

/-- The entry of a datum for a member of an object. -/
def entry (member : Text × Datum) : Datum × Datum := (.text member.1, member.2)

theorem insert_entry (members : Named Datum) (name : Text) (value : Datum) :
    Datum.insert name value (members.map entry) = (members.insert name value).map entry := by
  induction members with
  | nil => rfl
  | cons member rest ih =>
    rw [List.map_cons, entry, Datum.insert, Named.insert_cons, ih]
    split_ifs
    · rfl
    · rfl

/-- Entries are put together as the members are. -/
theorem ofEntries_entry (members : Named Datum) :
    Datum.ofEntries (members.map entry) = .mapping (members.settle.map entry) := by
  have run (built : Named Datum) : (members.map entry).foldl Datum.extend (built.map entry) =
      (built.insertAll members).map entry := by
    induction members generalizing built with
    | nil => rfl
    | cons member rest ih =>
      have step : Datum.extend (built.map entry) (entry member) =
          (built.insert member.1 member.2).map entry := insert_entry built member.1 member.2
      rw [List.map_cons, List.foldl_cons, step, ih, Named.insertAll_cons]
  rw [Datum.ofEntries_eq]
  exact congrArg Datum.mapping (run [])

end Json
end Conformance
