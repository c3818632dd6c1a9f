import Conformance.Files.Tree
import Conformance.Proofs.Step
import Mathlib.Tactic.Common

/-!
# Reading what was written

Parts lead to a place through directories and links. A new entry changes what stands at its own
location and nowhere else. Every location on the way to a file is a directory or a link, and no file
is written over either, so the way to a written file leads to it as before.
-/
namespace Conformance.FileTree

variable {tree : FileTree}

theorem entries_put (place : Location) (entry : FileEntry) :
    (tree.put place entry).entries =
      (place, entry) :: tree.entries.filter fun old => old.1 ≠ place := rfl

theorem entry?_put_of_ne {place other : Location} (entry : FileEntry) (apart : other ≠ place) :
    entry? (tree.put place entry) other = tree.entry? other := by
  have first : ¬decide (place = other) = true := by simpa using apart.symm
  have listed : ((tree.put place entry).entries.find? fun old => old.1 = other) =
      tree.entries.find? fun old => old.1 = other := by
    rw [entries_put, List.find?_cons_of_neg (by exact first), List.find?_filter]
    congr 1
    funext old
    by_cases same : old.1 = other
    · simp [same, apart]
    · simp [same]
  rw [ entry?, entry?, listed]
  rfl

/-- A new entry stands where it was put, unless that is a directory that is always there. -/
theorem entry?_put_self {place : Location} (entry : FileEntry)
    (free : tree.entry? place ≠ some .directory) :
    entry? (tree.put place entry) place = some entry := by
  have here : (tree.put place entry).here = tree.here := rfl
  rw [ entry?] at free
  rw [ entry?, here]
  split at free
  · exact absurd rfl free
  next elsewhere =>
    rw [if_neg elsewhere, entries_put, List.find?_cons_of_pos (by simp)]
    rfl

/-! ### The way to a place -/

/-- The parts lead from one location to another, along so many links. -/
inductive Arrives (tree : FileTree) : Nat → Location → List Text → Location → Prop where
  | stay (place : Location) : Arrives tree 0 place [] place
  | onward {links : Nat} {place target : Location} {part : Text} {rest : List Text}
      (free : tree.onward place part = .ok none)
      (behind : Arrives tree links (place.step part) rest target) :
      Arrives tree links place (part :: rest) target
  | link {links : Nat} {place target : Location} {part aim : Text} {rest : List Text}
      (found : tree.onward place part = .ok (some aim))
      (behind : Arrives tree links (place.base (partsOf aim))
        (partsOf aim ++ rest) target) :
      Arrives tree (links + 1) place (part :: rest) target

theorem walk_cons (limit : Nat) (place : Location) (part : Text) (rest : List Text) :
    tree.walk limit place (part :: rest) =
      match tree.onward place part, limit with
      | .error fault, _ => .error fault
      | .ok none, _ => tree.walk limit (place.step part) rest
      | .ok (some _), 0 => .error .tooManyLinks
      | .ok (some aim), limit + 1 => tree.walk limit (place.base (partsOf aim))
          (partsOf aim ++ rest) := by
  cases limit with
  | zero =>
    rw [walk, walkWith]
    rcases tree.onward place part with fault | _ | aim <;> rfl
  | succ limit =>
    rw [walk, walkWith]
    rcases tree.onward place part with fault | _ | aim <;> rfl

theorem walk_nil (limit : Nat) (place : Location) : tree.walk limit place [] = .ok place := by
  cases limit <;> rfl

/-- A walk ends well exactly where the parts lead along no more links than it may follow. -/
theorem walk_eq_ok_iff {limit : Nat} {place target : Location} {parts : List Text} :
    tree.walk limit place parts = .ok target ↔
      ∃ links ≤ limit, tree.Arrives links place parts target := by
  constructor
  · induction limit generalizing place parts with
    | zero =>
      intro walked
      induction parts generalizing place with
      | nil =>
        cases walked
        exact ⟨0, Nat.le_refl _, .stay _⟩
      | cons part rest ih =>
        rw [walk_cons] at walked
        split at walked
        · cases walked
        next free =>
          obtain ⟨links, few, behind⟩ := ih walked
          exact ⟨links, few, .onward free behind⟩
        · cases walked
        next limit => cases limit
    | succ limit enter =>
      intro walked
      induction parts generalizing place with
      | nil =>
        cases walked
        exact ⟨0, Nat.zero_le _, .stay _⟩
      | cons part rest ih =>
        rw [walk_cons] at walked
        split at walked
        · cases walked
        next free =>
          obtain ⟨links, few, behind⟩ := ih walked
          exact ⟨links, few, .onward free behind⟩
        next same => cases same
        next found same =>
          cases same
          obtain ⟨links, few, behind⟩ := enter walked
          exact ⟨links + 1, Nat.succ_le_succ few, .link found behind⟩
  · rintro ⟨links, few, arrives⟩
    induction arrives generalizing limit with
    | stay place => exact walk_nil limit place
    | onward free behind ih =>
      rw [walk_cons, free]
      exact ih few
    | @link links _ _ _ _ _ found behind ih =>
      obtain ⟨spare, rfl⟩ := Nat.exists_eq_add_of_le few
      rw [walk_cons, found, show links + 1 + spare = links + spare + 1 by omega]
      exact ih (Nat.le_add_right links spare)

theorem target?_of_directory {place : Location} (directory : tree.entry? place = some .directory) :
    tree.target? place = none := by
  rw [ target?, directory]
  rfl

/-- Where parts lead there is no link, if there is none where they start. -/
theorem Arrives.target?_eq_none {links : Nat} {place target : Location} {parts : List Text}
    (arrives : tree.Arrives links place parts target) (start : tree.target? place = none) :
    tree.target? target = none := by
  induction arrives with
  | stay => exact start
  | onward free behind ih => exact ih (onward_eq_ok_iff.mp free).2.2
  | link found behind ih =>
    refine ih ?_
    rw [Location.base]
    split
    · exact target?_of_directory (by rw [ entry?, if_pos (by simp)])
    · exact start

/-- A file where there is neither a directory nor a link is on no way to anywhere. -/
theorem onward_put {place other : Location} {part : Text} {found : Option Text} (content : Bytes)
    (free : tree.entry? place ≠ some .directory) (unlinked : tree.target? place = none)
    (looked : tree.onward other part = .ok found) :
    (tree.put place (.file content)).onward other part = .ok found := by
  obtain ⟨directory, fits, known⟩ := onward_eq_ok_iff.mp looked
  have apart : other ≠ place := fun same => free (same ▸ directory)
  refine onward_eq_ok_iff.mpr ⟨by rw [entry?_put_of_ne _ apart, directory], fits, ?_⟩
  by_cases same : other.step part = place
  · rw [ target?, same, entry?_put_self _ free, ← known, same, unlinked]
    rfl
  · rw [ target?, entry?_put_of_ne _ same]
    exact known

/-- The way to any place is the same after a file is put where neither a directory nor a link is. -/
theorem Arrives.put {links : Nat} {place start target : Location} {parts : List Text}
    (content : Bytes) (free : tree.entry? place ≠ some .directory)
    (unlinked : tree.target? place = none) (arrives : tree.Arrives links start parts target) :
    (tree.put place (.file content)).Arrives links start parts target := by
  induction arrives with
  | stay place => exact .stay place
  | onward looked behind ih => exact .onward (onward_put content free unlinked looked) ih
  | link looked behind ih => exact .link (onward_put content free unlinked looked) ih

/-! ### Files -/

/-- The path leads to a place that holds a file or nothing. -/
def Writable (tree : FileTree) (path : FilePath) : Prop :=
  ∃ place entry, tree.follow path = .ok (place, entry) ∧ entry ≠ some .directory

theorem follow_eq_ok_iff {path : FilePath} {place : Location} {entry : Option FileEntry} :
    tree.follow path = .ok (place, entry) ↔
      (∃ links ≤ maxLinks, tree.Arrives links (path.start tree.here) path.parts place) ∧
        tree.entry? place = entry := by
  rw [follow, map_eq_ok_iff, ← walk_eq_ok_iff]
  constructor
  · rintro ⟨_, walked, equal⟩
    cases equal
    exact ⟨walked, rfl⟩
  · rintro ⟨walked, rfl⟩
    exact ⟨place, walked, rfl⟩

/-- A path starts in a directory. -/
theorem entry?_start (path : FilePath) : tree.entry? (path.start tree.here) = some .directory := by
  rw [ entry?, if_pos]
  rw [FilePath.start]
  split
  · simp
  · simp

/-- No path leads to a link. -/
theorem target?_of_follow {path : FilePath} {place : Location} {entry : Option FileEntry}
    (followed : tree.follow path = .ok (place, entry)) : tree.target? place = none := by
  obtain ⟨⟨_, _, arrives⟩, -⟩ := follow_eq_ok_iff.mp followed
  exact arrives.target?_eq_none (target?_of_directory (entry?_start path))

theorem read_eq_ok_iff {path : FilePath} {content : Bytes} :
    tree.read path = .ok content ↔
      ∃ place, tree.follow path = .ok (place, some (.file content)) := by
  rw [read.eq_def]
  cases tree.follow path with
  | error fault => simp [refuse]
  | ok found =>
    obtain ⟨place, entry⟩ := found
    rcases entry with _ | content | _ | target <;> simp [refuse]

/-- The tree turns into one in which the file at the path holds the content and all else stands as
it stood. -/
structure Rewritten (tree after : FileTree) (path : FilePath) (content : Bytes) : Prop where
  held : after.read path = .ok content
  entries : ∃ place entry, tree.follow path = .ok (place, entry) ∧
    after.entry? = Function.update tree.entry? place (some (.file content))

/-- A file that can be written is rewritten. -/
theorem exists_rewritten {path : FilePath} (writable : tree.Writable path) (content : Bytes) :
    ∃ after, tree.write path content = .ok after ∧ tree.Rewritten after path content := by
  obtain ⟨place, entry, followed, free⟩ := writable
  have written : tree.write path content = .ok (tree.put place (.file content)) := by
    rw [write.eq_def, followed]
    split
    next refused => cases refused
    next held =>
      cases held
      exact absurd rfl free
    next held =>
      cases held
      rfl
  have unlinked := target?_of_follow followed
  obtain ⟨⟨links, few, arrives⟩, rfl⟩ := follow_eq_ok_iff.mp followed
  have reached : (tree.put place (.file content)).follow path =
      .ok (place, some (.file content)) :=
    follow_eq_ok_iff.mpr
      ⟨⟨links, few, arrives.put content free unlinked⟩, entry?_put_self _ free⟩
  refine ⟨_, written, read_eq_ok_iff.mpr ⟨place, reached⟩, place, _, followed, ?_⟩
  exact Function.eq_update_iff.mpr ⟨entry?_put_self _ free, fun _ => entry?_put_of_ne _⟩

theorem writable_of_write {path : FilePath} {content : Bytes} {after : FileTree}
    (written : tree.write path content = .ok after) : tree.Writable path := by
  rw [write.eq_def] at written
  split at written
  · cases written
  · cases written
  next place entry occupied followed =>
    exact ⟨place, entry, followed, occupied⟩

/-- Nothing changes exactly if the file held the content before. -/
theorem Rewritten.entry?_eq_iff {after : FileTree} {path : FilePath} {content : Bytes}
    (rewritten : tree.Rewritten after path content) :
    after.entry? = tree.entry? ↔ tree.read path = .ok content := by
  obtain ⟨place, entry, followed, entries⟩ := rewritten.entries
  obtain ⟨-, rfl⟩ := follow_eq_ok_iff.mp followed
  rw [entries, Function.update_eq_self_iff, read_eq_ok_iff, followed]
  constructor
  · intro same
    exact ⟨place, by rw [same]⟩
  · rintro ⟨_, same⟩
    exact (Prod.mk.inj (Except.ok.inj same)).2.symm

end Conformance.FileTree
