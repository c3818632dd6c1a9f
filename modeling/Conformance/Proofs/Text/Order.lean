import Conformance.Text.Basic
import Mathlib.Data.List.Lex
import Mathlib.Data.List.Nodup
import Mathlib.Data.List.Perm.Basic
import Mathlib.Order.Basic

/-!
# Text in order

The order by code point is that of lists of numbers, hence linear. Sorting by names leaves nothing
to choose where the names are distinct: whatever order the members have had, they are sorted alike.
-/
namespace Conformance

theorem CodePoint.toNat_injective : Function.Injective CodePoint.toNat := by
  rintro ⟨n, _⟩ ⟨m, _⟩ same
  cases same
  rfl

namespace Text

/-- Texts are in order when their numbers are in the order of lists. -/
theorem precedes_iff (s t : Text) :
    s.precedes t = true ↔ s.map CodePoint.toNat < t.map CodePoint.toNat := by
  induction s generalizing t with
  | nil => cases t <;> simp [precedes]
  | cons a s ih =>
    cases t with
    | nil => simp [precedes]
    | cons b t =>
      rw [precedes, List.map_cons, List.map_cons, List.cons_lt_cons_iff]
      by_cases same : a = b
      · subst same
        simp [ih]
      · have apart : a.toNat ≠ b.toNat := fun equal => same (CodePoint.toNat_injective equal)
        simp [same, apart]

/-- A text that does not come after another has numbers at most those of the other. -/
theorem not_precedes_iff (s t : Text) :
    (!t.precedes s) = true ↔ s.map CodePoint.toNat ≤ t.map CodePoint.toNat := by
  rw [Bool.not_eq_true', ← Bool.not_eq_true, precedes_iff, not_lt]

theorem eq_of_not_precedes {s t : Text} (first : (!t.precedes s) = true)
    (second : (!s.precedes t) = true) : s = t := by
  rw [not_precedes_iff] at first second
  exact List.map_injective_iff.mpr CodePoint.toNat_injective (le_antisymm first second)

section Sorting

variable {α : Type} (key : α → Text)

/-- Sorted by key: no later key precedes an earlier one. -/
theorem pairwise_sorted (xs : List α) :
    (xs.mergeSort fun a b => !precedes (key b) (key a)).Pairwise
      fun a b => (!precedes (key b) (key a)) = true := by
  refine List.pairwise_mergeSort ?transitive ?total xs
  case transitive =>
    intro a b c first second
    rw [not_precedes_iff] at first second ⊢
    exact le_trans first second
  case total =>
    intro a b
    rw [Bool.or_eq_true, not_precedes_iff, not_precedes_iff]
    exact le_total _ _

/-- What has distinct keys is sorted alike, in whatever order it comes. -/
theorem mergeSort_eq_of_perm {xs ys : List α} (distinct : (xs.map key).Nodup)
    (perm : xs.Perm ys) : (xs.mergeSort fun a b => !precedes (key b) (key a)) =
      ys.mergeSort fun a b => !precedes (key b) (key a) := by
  have sorted : (xs.mergeSort fun a b => !precedes (key b) (key a)).Perm
      (ys.mergeSort fun a b => !precedes (key b) (key a)) :=
    ((List.mergeSort_perm _ _).trans perm).trans (List.mergeSort_perm _ _).symm
  refine sorted.eq_of_pairwise (fun a b left right first second => ?_) (pairwise_sorted key xs)
    (pairwise_sorted key ys)
  -- Neither key precedes the other, so they are one key, and no two members share a key.
  have here : a ∈ xs := (List.mergeSort_perm _ _).mem_iff.mp left
  have there : b ∈ xs := perm.mem_iff.mpr ((List.mergeSort_perm _ _).mem_iff.mp right)
  exact List.inj_on_of_nodup_map distinct here there (eq_of_not_precedes first second)

end Sorting

end Text
end Conformance
