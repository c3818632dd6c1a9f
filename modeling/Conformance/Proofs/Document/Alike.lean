import Conformance.Document.Equality
import Conformance.Proofs.Document.Names
import Conformance.Proofs.Number.NormalForm
import Mathlib.Data.List.Perm.Subperm

/-!
# Alike documents

Two documents are alike when their kinds agree at every level, numbers have one value, elements are
alike place by place, and under every name there are alike members or none. The names of both
objects are distinct as part of the relation. Where names are distinct, `structurallyEqual` answers
yes to alike documents only, and it does not tell alike documents apart on either side.
-/
namespace Conformance.Document

/-- Documents that differ in nothing but the order of members and the signs of zeros. -/
inductive Alike : Document → Document → Prop where
  | null : Alike .null .null
  | boolean (value : Bool) : Alike (.boolean value) (.boolean value)
  | number {x y : Binary64} (same : x.same y = true) : Alike (.number x) (.number y)
  | string (value : Text) : Alike (.string value) (.string value)
  | array {xs ys : List Document} (each : List.Forall₂ Alike xs ys) : Alike (.array xs) (.array ys)
  | object {xs ys : Named Document} (left : xs.names.Nodup) (right : ys.names.Nodup)
      (each : ∀ name, Option.Rel Alike (xs.get? name) (ys.get? name)) :
      Alike (.object xs) (.object ys)

namespace Alike

theorem kind_eq {v w : Document} (alike : Alike v w) : v.kind = w.kind := by
  cases alike <;> rfl

theorem string_eq {s t : Text} (alike : Alike (.string s) (.string t)) : s = t := by
  cases alike
  rfl

/-- The members of an object can be put in the order of an alike object. -/
theorem exists_aligned {xs ys : Named Document} (alike : Alike (.object xs) (.object ys)) :
    ∃ ws : Named Document,
      List.Forall₂ (fun member entry => member.1 = entry.1 ∧ Alike member.2 entry.2) xs ws
        ∧ ws.Perm ys := by
  cases alike with
  | object left right each => exact Named.exists_aligned left right each

/-- Objects whose members are alike one by one are alike. -/
theorem of_aligned {xs ys : Named Document} (distinct : xs.names.Nodup)
    (each : List.Forall₂ (fun member entry => member.1 = entry.1 ∧ Alike member.2 entry.2) xs ys) :
    Alike (.object xs) (.object ys) := by
  obtain ⟨names, values⟩ := Named.forall₂_iff_values.mp each
  exact .object distinct (names ▸ distinct) (Named.rel_get? names.symm values)

theorem get? {xs ys : Named Document} (alike : Alike (.object xs) (.object ys)) (name : Text) :
    Option.Rel Alike (xs.get? name) (ys.get? name) := by
  cases alike with
  | object _ _ each => exact each name

theorem contains_eq {xs ys : Named Document} (alike : Alike (.object xs) (.object ys))
    (name : Text) : xs.contains name = ys.contains name := by
  rw [Named.contains, Named.contains]
  rcases Named.rel_cases (alike.get? name) with ⟨absent, lacking⟩ | ⟨_, _, found, present, _⟩
  · rw [absent, lacking]
  · rw [found, present]
    rfl

theorem length_eq {xs ys : Named Document} (alike : Alike (.object xs) (.object ys)) :
    xs.length = ys.length := by
  obtain ⟨ws, aligned, perm⟩ := alike.exists_aligned
  rw [aligned.length_eq, perm.length_eq]

theorem symm {v w : Document} (alike : Alike v w) : Alike w v := by
  induction v generalizing w with
  | null | boolean _ | string _ =>
    cases alike
    constructor
  | number x =>
    cases alike with
    | number same =>
      rw [Binary64.same_iff] at same
      exact .number ((Binary64.same_iff _ _).mpr same.symm)
  | array xs ih =>
    cases alike with
    | array each =>
      -- Each pair carries the hypothesis for its left side, which turns the pair round.
      have both := (List.forall₂_and_left xs _).mpr ⟨ih, each⟩
      exact .array (both.imp fun _ _ held => held.1 held.2).flip
  | object xs ih =>
    cases alike with
    | object left right each =>
      refine .object right left fun name => ?_
      rcases Named.rel_cases (each name) with ⟨absent, lacking⟩ | ⟨x, y, found, there, held⟩
      · rw [absent, lacking]
        exact .none
      · rw [found, there]
        exact .some (ih _ (Named.mem_of_get? found) held)

end Alike

/-! ### What the decision procedure decides -/

theorem elementsEqual_iff (xs ys : List Document) :
    elementsEqual xs ys = true ↔ List.Forall₂ (fun x y => structurallyEqual x y = true) xs ys := by
  induction xs generalizing ys with
  | nil => cases ys <;> simp [elementsEqual]
  | cons x xs ih => cases ys <;> simp [elementsEqual, ih]

theorem membersEqual_iff (xs ys : Named Document) :
    membersEqual xs ys = true ↔
      ∀ member ∈ xs, ∃ y, ys.get? member.1 = some y ∧ structurallyEqual member.2 y = true := by
  induction xs with
  | nil => simp [membersEqual]
  | cons member rest ih =>
    obtain ⟨name, x⟩ := member
    rw [membersEqual, Bool.and_eq_true, ih, List.forall_mem_cons]
    apply and_congr_left'
    cases ys.get? name <;> simp

theorem structurallyEqual_array_iff (xs ys : List Document) :
    structurallyEqual (.array xs) (.array ys) = true ↔
      List.Forall₂ (fun x y => structurallyEqual x y = true) xs ys :=
  elementsEqual_iff xs ys

theorem structurallyEqual_object_iff (xs ys : Named Document) :
    structurallyEqual (.object xs) (.object ys) = true ↔ xs.length = ys.length
      ∧ ∀ member ∈ xs, ∃ y, ys.get? member.1 = some y ∧ structurallyEqual member.2 y = true := by
  rw [structurallyEqual, Bool.and_eq_true, decide_eq_true_iff, membersEqual_iff]

/-- Where the names of both are distinct, an object whose names are all there in one of the same
length has no name less. -/
theorem mem_names_of_length {xs ys : Named Document} (left : xs.names.Nodup)
    (length : xs.length = ys.length) (inside : ∀ name ∈ xs.names, name ∈ ys.names) {name : Text}
    (present : name ∈ ys.names) : name ∈ xs.names := by
  have shorter : ys.names.length ≤ xs.names.length := by
    rw [Named.names, Named.names, List.length_map, List.length_map, length]
  have perm : xs.names.Perm ys.names :=
    (List.subperm_of_subset left inside).perm_of_length_le shorter
  exact perm.mem_iff.mpr present

/-- Documents with distinct names are alike if they are structurally equal. -/
theorem alike_of_structurallyEqual {v w : Document} (left : v.WellNamed) (right : w.WellNamed)
    (equal : v.structurallyEqual w = true) : Alike v w := by
  induction v generalizing w with
  | null =>
    cases w with
    | null => exact .null
    | _ => cases equal
  | boolean value =>
    cases w with
    | boolean other =>
      rw [structurallyEqual, beq_iff_eq] at equal
      subst equal
      exact .boolean value
    | _ => cases equal
  | number x =>
    cases w with
    | number y => exact .number equal
    | _ => cases equal
  | string value =>
    cases w with
    | string other =>
      rw [structurallyEqual, decide_eq_true_iff] at equal
      subst equal
      exact .string value
    | _ => cases equal
  | array xs ih =>
    cases w with
    | array ys =>
      rw [structurallyEqual_array_iff, List.forall₂_iff_get] at equal
      obtain ⟨length, equal⟩ := equal
      refine .array (List.forall₂_iff_get.mpr ⟨length, fun i first second => ?_⟩)
      have here : xs.get ⟨i, first⟩ ∈ xs := List.getElem_mem first
      have there : ys.get ⟨i, second⟩ ∈ ys := List.getElem_mem second
      exact ih _ here (left.of_mem_array here) (right.of_mem_array there) (equal i first second)
    | _ => cases equal
  | object xs ih =>
    cases w with
    | object ys =>
      rw [structurallyEqual_object_iff] at equal
      obtain ⟨length, found⟩ := equal
      have inside (name : Text) (present : name ∈ Named.names xs) : name ∈ Named.names ys := by
        obtain ⟨member, listed, rfl⟩ := List.mem_map.mp present
        obtain ⟨y, there, _⟩ := found member listed
        exact List.mem_map.mpr ⟨_, Named.mem_of_get? there, rfl⟩
      refine .object left.distinct_names right.distinct_names fun name => ?_
      cases here : Named.get? xs name with
      | none =>
        -- Nothing on the left asks for this name; that the right lacks it is a matter of counting.
        have absent := (Named.get?_eq_none_iff xs name).mp here
        have lacking : name ∉ Named.names ys := fun present =>
          absent (mem_names_of_length left.distinct_names length inside present)
        rw [(Named.get?_eq_none_iff ys name).mpr lacking]
        exact .none
      | some x =>
        have listed := Named.mem_of_get? here
        obtain ⟨y, there, equal⟩ := found _ listed
        rw [there]
        exact .some (ih _ listed (left.of_get? here) (right.of_get? there) equal)
    | _ => cases equal

/-! ### What it does not tell apart -/

/-- Elements are compared alike when pairs of them at the same places are. -/
theorem elementsEqual_congr {P Q : Document → Document → Prop} {xs xs' ys ys' : List Document}
    (left : List.Forall₂ P xs xs') (right : List.Forall₂ Q ys ys')
    (agree : ∀ x x' y y', P x x' → Q y y' → structurallyEqual x y = structurallyEqual x' y') :
    elementsEqual xs ys = elementsEqual xs' ys' := by
  induction left generalizing ys ys' with
  | nil => cases right <;> rfl
  | cons first _ ih =>
    cases right with
    | nil => rfl
    | cons second later => rw [elementsEqual, elementsEqual, agree _ _ _ _ first second, ih later]

/-- Alike documents on the right are not told apart. -/
theorem structurallyEqual_congr_right (v : Document) {w w' : Document} (alike : Alike w w') :
    v.structurallyEqual w = v.structurallyEqual w' := by
  induction v generalizing w w' with
  | null | boolean _ | string _ => cases alike <;> rfl
  | number x =>
    cases alike with
    | number same =>
      rw [Binary64.same_iff] at same
      simp only [structurallyEqual, Binary64.same, same]
    | _ => rfl
  | array xs ih =>
    cases alike with
    | array each =>
      have steady : List.Forall₂ (fun x x' => ∀ {w w' : Document}, Alike w w' →
          structurallyEqual x w = structurallyEqual x' w') xs xs := List.forall₂_same.mpr ih
      exact elementsEqual_congr steady each fun _ _ _ _ agree alike => agree alike
    | _ => rfl
  | object xs ih =>
    cases alike with
    | @object ys ys' left right each =>
      have length : ys.length = ys'.length := (Alike.object left right each).length_eq
      rw [Bool.eq_iff_iff, structurallyEqual_object_iff, structurallyEqual_object_iff, length]
      apply and_congr_right'
      -- The names that are asked for are those of `v` both times; what they find is alike.
      refine forall₂_congr fun member present => ?_
      rcases Named.rel_cases (each member.1) with ⟨absent, lacking⟩ | ⟨y, y', found, there, alike⟩
      · rw [absent, lacking]
      · simp only [found, there, Option.some.injEq, exists_eq_left', ih member present alike]
    | _ => rfl

/-- Alike documents on the left are not told apart. -/
theorem structurallyEqual_congr_left {v v' : Document} (alike : Alike v v') (w : Document) :
    v.structurallyEqual w = v'.structurallyEqual w := by
  induction v generalizing v' w with
  | null | boolean _ | string _ =>
    cases alike
    rfl
  | number x =>
    cases alike with
    | number same =>
      cases w with
      | number y =>
        rw [Binary64.same_iff] at same
        simp only [structurallyEqual, Binary64.same, same]
      | _ => rfl
  | array xs ih =>
    cases alike with
    | array each =>
      cases w with
      | array ys =>
        have both := (List.forall₂_and_left xs _).mpr ⟨ih, each⟩
        have steady : List.Forall₂ (fun y y' => y = y') ys ys := List.forall₂_refl ys
        refine elementsEqual_congr both steady fun x x' y y' held same => ?_
        subst same
        exact held.1 held.2 y
      | _ => rfl
  | object xs ih =>
    cases alike with
    | @object _ xs' left right each =>
      cases w with
      | object ys =>
        -- Here the names that are asked for change their order, so names take the place of members.
        let Found (name : Text) (x : Document) : Prop :=
          ∃ y, Named.get? ys name = some y ∧ structurallyEqual x y = true
        have length : xs.length = xs'.length := (Alike.object left right each).length_eq
        rw [Bool.eq_iff_iff, structurallyEqual_object_iff, structurallyEqual_object_iff, length,
          Named.forall_mem_iff_get? left Found, Named.forall_mem_iff_get? right Found]
        apply and_congr_right'
        refine forall_congr' fun name => ?_
        rcases Named.rel_cases (each name) with ⟨absent, lacking⟩ | ⟨x, x', found, there, alike⟩
        · rw [absent, lacking]
        · simp only [found, there, Option.some.injEq, forall_eq', Found,
            ih _ (Named.mem_of_get? found) alike]
      | _ => rfl

end Conformance.Document
