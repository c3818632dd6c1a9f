import Conformance.Document.Basic
import Mathlib.Data.List.Forall2
import Mathlib.Data.List.Nodup
import Mathlib.Data.Option.Basic

/-!
# Induction over documents, and what names find

A property holds of every document when it passes from the elements to their array and from the
values of the members to their object. Looking up a name finds a member of that name if there is
one, and members whose values are related one by one answer every name alike.
-/
namespace Conformance

/-- Induction in which the parts of a container are reached by membership. -/
@[elab_as_elim, induction_eliminator]
theorem Document.induction {motive : Document → Prop}
    (null : motive .null)
    (boolean : ∀ value, motive (.boolean value))
    (number : ∀ value, motive (.number value))
    (string : ∀ value, motive (.string value))
    (array : ∀ elements, (∀ element ∈ elements, motive element) → motive (.array elements))
    (object : ∀ members, (∀ member ∈ members, motive member.2) → motive (.object members))
    (document : Document) : motive document :=
  match document with
  | .null => null
  | .boolean value => boolean value
  | .number value => number value
  | .string value => string value
  | .array elements =>
    array elements fun element _ =>
      induction null boolean number string array object element
  | .object members =>
    object members fun member _ =>
      induction null boolean number string array object member.2
termination_by sizeOf document
decreasing_by
  · have smaller := List.sizeOf_lt_of_mem ‹element ∈ elements›
    simp only [Document.array.sizeOf_spec]
    omega
  · have smaller := List.sizeOf_lt_of_mem ‹member ∈ members›
    rcases member with ⟨name, value⟩
    simp only [Prod.mk.sizeOf_spec] at smaller
    simp only [Document.object.sizeOf_spec]
    omega

namespace Named

variable {α : Type}

@[simp] theorem get?_nil (name : Text) : get? ([] : Named α) name = none := rfl

@[simp] theorem get?_cons (key name : Text) (value : α) (rest : Named α) :
    get? ((key, value) :: rest) name = if key = name then some value else get? rest name := rfl

/-- A name is there exactly when some member carries it. -/
theorem contains_iff (members : Named α) (name : Text) :
    members.contains name = true ↔ ∃ value, (name, value) ∈ members := by
  induction members with
  | nil => simp [contains]
  | cons member rest ih =>
    obtain ⟨key, first⟩ := member
    simp only [contains] at ih
    by_cases same : key = name
    · subst same
      simp only [contains, get?_cons, if_true, Option.isSome_some, true_iff]
      exact ⟨first, List.mem_cons_self⟩
    · have other : name ≠ key := fun equal => same equal.symm
      simp only [contains, get?_cons, if_neg same, ih, List.mem_cons, Prod.mk.injEq, other,
        false_and, false_or]

theorem mem_of_get? {members : Named α} {name : Text} {value : α}
    (found : members.get? name = some value) : (name, value) ∈ members := by
  induction members with
  | nil => simp at found
  | cons member rest ih =>
    obtain ⟨key, first⟩ := member
    rw [get?_cons] at found
    split at found
    next same =>
      cases found
      rw [same]
      exact List.mem_cons_self
    next => exact List.mem_cons_of_mem _ (ih found)

theorem get?_eq_none_iff (members : Named α) (name : Text) :
    members.get? name = none ↔ name ∉ members.names := by
  induction members with
  | nil => simp [names]
  | cons member rest ih =>
    obtain ⟨key, value⟩ := member
    rw [get?_cons]
    by_cases same : key = name
    · simp [names, same]
    · have other : name ≠ key := fun equal => same equal.symm
      simp only [same, if_false, ih, names, List.map_cons, List.mem_cons, other, false_or]

/-- Where names are distinct, a name finds every member that carries it. -/
theorem get?_eq_some_iff {members : Named α} (distinct : members.names.Nodup) (name : Text)
    (value : α) : members.get? name = some value ↔ (name, value) ∈ members := by
  refine ⟨mem_of_get?, fun present => ?_⟩
  induction members with
  | nil => simp at present
  | cons member rest ih =>
    obtain ⟨key, first⟩ := member
    simp only [names, List.map_cons, List.nodup_cons] at distinct
    rw [get?_cons]
    rcases List.mem_cons.mp present with equal | later
    · cases equal
      rw [if_pos rfl]
    · -- A later member has another name, as the first one's name does not come again.
      have other : key ≠ name := by
        rintro rfl
        exact distinct.1 (List.mem_map_of_mem (f := Prod.fst) later)
      rw [if_neg other]
      exact ih distinct.2 later

/-- A name that passes finds the same member after the others are dropped. -/
theorem get?_filter (passes : Text → Bool) {name : Text} (passed : passes name = true)
    (members : Named α) :
    get? (members.filter fun member => passes member.1) name = members.get? name := by
  induction members with
  | nil => rfl
  | cons member rest ih =>
    obtain ⟨key, value⟩ := member
    rw [List.filter_cons, get?_cons]
    by_cases same : key = name
    · rw [same, if_pos passed, get?_cons, if_pos rfl, if_pos rfl]
    · by_cases kept : passes key = true
      · rw [if_pos kept, get?_cons, if_neg same, if_neg same, ih]
      · rw [if_neg kept, if_neg same, ih]

theorem get?_of_get?_filter (passes : Text → Bool) {members : Named α} {name : Text} {value : α}
    (found : get? (members.filter fun member => passes member.1) name = some value) :
    members.get? name = some value := by
  have passed := (List.mem_filter.mp (mem_of_get? found)).2
  rwa [get?_filter passes passed] at found

/-- Where one value takes the place of another, a name finds what it found before, or it is the name
of these values. -/
theorem get?_replaced (before after : Named α) (key : Text) (v w : α) (name : Text) :
    get? (before ++ (key, w) :: after) name = get? (before ++ (key, v) :: after) name ∨
      name = key ∧ get? (before ++ (key, v) :: after) name = some v ∧
        get? (before ++ (key, w) :: after) name = some w := by
  induction before with
  | nil =>
    by_cases same : key = name
    · exact .inr ⟨same.symm, if_pos same, if_pos same⟩
    · exact .inl ((if_neg same).trans (if_neg same).symm)
  | cons member rest ih =>
    obtain ⟨other, value⟩ := member
    rw [List.cons_append, List.cons_append, get?_cons, get?_cons]
    by_cases same : other = name
    · rw [if_pos same, if_pos same]
      exact .inl rfl
    · rw [if_neg same, if_neg same]
      exact ih

/-- Whether a name is there depends on names alone. -/
theorem contains_eq_of_names {xs ys : Named α} (same : xs.names = ys.names) (name : Text) :
    xs.contains name = ys.contains name := by
  rw [Bool.eq_iff_iff, contains, contains, Option.isSome_iff_ne_none, Option.isSome_iff_ne_none,
    Ne, Ne, get?_eq_none_iff, get?_eq_none_iff, same]

/-- The values in the order of the names. -/
def values (members : Named α) : List α := members.map Prod.snd

/-- Members are related one by one if their names are the same and their values are related. -/
theorem forall₂_iff_values {β : Type} {R : α → β → Prop} {xs : Named α} {ys : Named β} :
    List.Forall₂ (fun x y => x.1 = y.1 ∧ R x.2 y.2) xs ys ↔
      xs.names = ys.names ∧ List.Forall₂ R xs.values ys.values := by
  constructor
  · intro each
    induction each with
    | nil => exact ⟨rfl, .nil⟩
    | cons first _ ih => exact ⟨congrArg₂ List.cons first.1 ih.1, .cons first.2 ih.2⟩
  · rintro ⟨names, related⟩
    induction xs generalizing ys with
    | nil =>
      cases ys with
      | nil => exact .nil
      | cons entry others => cases related
    | cons member rest ih =>
      cases ys with
      | nil => cases related
      | cons entry others =>
        obtain ⟨first, later⟩ := List.forall₂_cons.mp related
        obtain ⟨same, names⟩ := List.cons.inj names
        exact .cons ⟨same, first⟩ (ih names later)

/-- When values under the same names are related one by one, so is what a name finds. -/
theorem rel_get? {β : Type} {R : α → β → Prop} {first : Named α} {second : Named β}
    (names : second.names = first.names) (related : List.Forall₂ R first.values second.values)
    (name : Text) : Option.Rel R (first.get? name) (second.get? name) := by
  induction first generalizing second with
  | nil =>
    cases second with
    | nil => exact .none
    | cons entry others => simp [Named.names] at names
  | cons member rest ih =>
    cases second with
    | nil => simp [Named.names] at names
    | cons entry others =>
      obtain ⟨key, value⟩ := member
      obtain ⟨other, image⟩ := entry
      simp only [Named.names, List.map_cons, List.cons.injEq] at names
      obtain ⟨rfl, later⟩ := names
      simp only [values, List.map_cons, List.forall₂_cons] at related
      rw [get?_cons, get?_cons]
      split
      · exact .some related.1
      · exact ih later related.2

/-- Related options are both empty, or hold related values. -/
theorem rel_cases {β : Type} {R : α → β → Prop} {a : Option α} {b : Option β}
    (related : Option.Rel R a b) :
    (a = none ∧ b = none) ∨ ∃ x y, a = some x ∧ b = some y ∧ R x y := by
  cases related with
  | none => exact .inl ⟨rfl, rfl⟩
  | some held => exact .inr ⟨_, _, rfl, rfl, held⟩

theorem rel_imp {β : Type} {R S : α → β → Prop} (imp : ∀ a b, R a b → S a b) {a : Option α}
    {b : Option β} (related : Option.Rel R a b) : Option.Rel S a b := by
  cases related with
  | none => exact .none
  | some held => exact .some (imp _ _ held)

/-- What was made from related options is related in turn. -/
theorem rel_square {β γ δ : Type} {A : α → β → Prop} {R : α → γ → Prop} {S : β → δ → Prop}
    {T : γ → δ → Prop} {a : Option α} {b : Option β} {c : Option γ} {d : Option δ}
    (related : Option.Rel A a b) (left : Option.Rel R a c) (right : Option.Rel S b d)
    (closes : ∀ a b c d, A a b → R a c → S b d → T c d) : Option.Rel T c d := by
  cases related with
  | none =>
    cases left
    cases right
    exact .none
  | some held =>
    cases left with
    | some first =>
      cases right with
      | some second => exact .some (closes _ _ _ _ held first second)

theorem eq_of_rel {a b : Option α} (related : Option.Rel (fun x y => x = y) a b) : a = b := by
  cases related with
  | none => rfl
  | some same => rw [same]

theorem rel_map_iff {β γ δ : Type} {R : γ → δ → Prop} (f : α → γ) (g : β → δ) (a : Option α)
    (b : Option β) :
    Option.Rel R (a.map f) (b.map g) ↔ Option.Rel (fun x y => R (f x) (g y)) a b := by
  cases a <;> cases b <;> simp

/-- Where names are distinct, what holds of every member holds of whatever a name finds. -/
theorem forall_mem_iff_get? {members : Named α} (distinct : members.names.Nodup)
    (P : Text → α → Prop) : (∀ member ∈ members, P member.1 member.2) ↔
      ∀ name value, members.get? name = some value → P name value := by
  constructor
  · intro each name value found
    exact each (name, value) (mem_of_get? found)
  · intro each member present
    exact each _ _ ((get?_eq_some_iff distinct ..).mpr present)

/-- Distinct names find the same in whatever order the members stand. -/
theorem get?_of_perm {xs ys : Named α} (distinct : xs.names.Nodup) (perm : xs.Perm ys)
    (name : Text) : xs.get? name = ys.get? name := by
  have names : xs.names.Perm ys.names := perm.map Prod.fst
  apply Option.ext
  intro value
  rw [get?_eq_some_iff distinct, get?_eq_some_iff (names.nodup_iff.mp distinct), perm.mem_iff]

/-- Members that answer every name alike can be lined up: the second ones, put in the order of the
first, are related to them one by one. -/
theorem exists_aligned {β : Type} {R : α → β → Prop} {xs : Named α} {ys : Named β}
    (left : xs.names.Nodup) (right : ys.names.Nodup)
    (related : ∀ name, Option.Rel R (xs.get? name) (ys.get? name)) :
    ∃ ws : Named β, List.Forall₂ (fun member entry => member.1 = entry.1 ∧ R member.2 entry.2) xs ws
      ∧ ws.Perm ys := by
  induction xs generalizing ys with
  | nil =>
    cases ys with
    | nil => exact ⟨[], .nil, .nil⟩
    | cons entry others =>
      have first := related entry.1
      rw [get?_nil, get?_cons, if_pos rfl] at first
      cases first
  | cons member rest ih =>
    obtain ⟨key, x⟩ := member
    have first := related key
    rw [get?_cons, if_pos rfl] at first
    rcases rel_cases first with ⟨absent, _⟩ | ⟨_, y, same, found, held⟩
    · cases absent
    cases same
    -- The partner of the first member is taken out; what is left answers for the rest.
    obtain ⟨before, after, split⟩ := List.append_of_mem (mem_of_get? found)
    have perm : ys.Perm ((key, y) :: (before ++ after)) := split ▸ List.perm_middle
    have names : ys.names.Perm (names ((key, y) :: (before ++ after))) := perm.map Prod.fst
    have distinct := names.nodup_iff.mp right
    have others (name : Text) : Option.Rel R (get? rest name) (get? (before ++ after) name) := by
      by_cases same : key = name
      · subst same
        rw [(get?_eq_none_iff rest key).mpr (List.nodup_cons.mp left).1,
          (get?_eq_none_iff (before ++ after) key).mpr (List.nodup_cons.mp distinct).1]
        exact .none
      · have answer := related name
        rw [get?_of_perm right perm, get?_cons, if_neg same, get?_cons, if_neg same] at answer
        exact answer
    obtain ⟨ws, aligned, reordered⟩ :=
      ih (List.nodup_cons.mp left).2 (List.nodup_cons.mp distinct).2 others
    refine ⟨(key, y) :: ws, .cons ⟨rfl, held⟩ aligned, ?_⟩
    exact (reordered.cons (key, y)).trans perm.symm

end Named
end Conformance
