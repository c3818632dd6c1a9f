import Conformance.Proofs.Document.Alike
import Conformance.Proofs.Text.Order
import Conformance.Schema.Constraint

/-!
# Alike documents are shown alike

A document is shown as JSON text with sorted members. Members are sorted alike in whatever order
they come, numbers of one value are written alike, and so are alike documents.
-/
namespace Conformance.Document

open Json

theorem writeItems_toItems (style : Style) (level : Nat) (xs : List Document) :
    writeItems style level (toItems xs) = xs.map fun x => write style level x.toDatum := by
  induction xs with
  | nil => rfl
  | cons x xs ih => rw [toItems, writeItems, ih, List.map_cons]

theorem writeEntries_toEntries (style : Style) (level : Nat) (xs : Named Document) :
    writeEntries style level (toEntries xs) =
      xs.map fun member => (member.1, write style level member.2.toDatum) := by
  induction xs with
  | nil => rfl
  | cons member xs ih =>
    obtain ⟨name, x⟩ := member
    rw [toEntries, writeEntries, ih, List.map_cons]

theorem arrange_eq_of_perm {xs ys : List (Text × Text)} (distinct : (xs.map Prod.fst).Nodup)
    (perm : xs.Perm ys) : arrange true xs = arrange true ys :=
  Text.mergeSort_eq_of_perm Prod.fst distinct perm

theorem map_eq_of_forall₂ {α β : Type} {f : α → β} {xs ys : List α}
    (same : List.Forall₂ (fun x y => f x = f y) xs ys) : xs.map f = ys.map f := by
  induction same with
  | nil => rfl
  | cons first _ ih => rw [List.map_cons, List.map_cons, first, ih]

/-- Alike documents are written alike in a style that sorts members. -/
theorem write_congr {style : Style} (sorted : style.sorted = true) {v w : Document}
    (alike : Alike v w) (level : Nat) :
    write style level v.toDatum = write style level w.toDatum := by
  induction v generalizing w level with
  | null | boolean _ | string _ =>
    cases alike
    rfl
  | number x =>
    cases alike with
    | number same => rw [toDatum_number_of_same same]
  | array xs ih =>
    cases alike with
    | array each =>
      have both := (List.forall₂_and_left xs _).mpr ⟨ih, each⟩
      have items := map_eq_of_forall₂ (f := fun x => write style (level + 1) x.toDatum)
        (both.imp fun x y held => held.1 held.2 (level + 1))
      rw [toDatum, toDatum, write, write, writeItems_toItems, writeItems_toItems, items]
  | object xs ih =>
    cases alike with
    | @object _ ys left right each =>
      obtain ⟨ws, aligned, perm⟩ := (Alike.object left right each).exists_aligned
      let line (member : Text × Document) : Text × Text :=
        (member.1, write style (level + 1) member.2.toDatum)
      have both := (List.forall₂_and_left xs _).mpr ⟨ih, aligned⟩
      have lines : xs.map line = ws.map line :=
        map_eq_of_forall₂ (both.imp fun member entry held =>
          Prod.ext held.2.1 (held.1 held.2.2 (level + 1)))
      have distinct : ((xs.map line).map Prod.fst).Nodup := by
        rw [List.map_map]
        exact left
      -- Lined up, the members give the same lines; their own order is lost when lines are sorted.
      have arranged : arrange true (xs.map line) = arrange true (ys.map line) := by
        apply arrange_eq_of_perm distinct
        rw [lines]
        exact perm.map line
      rw [toDatum, toDatum, write, write, writeEntries_toEntries, writeEntries_toEntries, sorted]
      rw [arranged]

/-- Alike documents are shown by one text. -/
theorem dump_congr {v w : Document} (alike : Alike v w) : v.dump = w.dump :=
  write_congr rfl alike 0

end Conformance.Document
