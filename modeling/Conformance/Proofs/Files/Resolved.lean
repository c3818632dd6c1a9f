import Conformance.Proofs.Files.Tree
import Mathlib.Data.List.Infix

/-!
# Files by their locations

What a path leads to is found at the location of the path as well: on the way to it every part is a
directory or a link to one, so double dots lead back to where they seem to, and no link is met again
while it is being replaced. Without links the location of a path is what its parts spell, and the
suffix of a path that names a file is that of its location.
-/
namespace Conformance

namespace FileTree

/-- A name that leads one part further. -/
def Leads (name : Text) : Prop :=
  name ≠ [] ∧ name ≠ "." ∧ name ≠ ".." ∧ nameSize name ≤ maxNameSize

instance (name : Text) : Decidable (Leads name) := inferInstanceAs (Decidable (_ ∧ _))

theorem Leads.step {name : Text} (leads : Leads name) (place : Location) :
    place.step name = place ++ [name] := by
  obtain ⟨filled, here, back, -⟩ := leads
  rw [Location.step, if_neg (by simp [filled, here]), if_neg back]

/-- The working directory hangs on an anchor, and its names lead to it. -/
structure Rooted (tree : FileTree) : Prop where
  anchored : tree.here ≠ []
  leads : ∀ name ∈ tree.here.tail, Leads name

/-! ### Locations on the way -/

/-- A location that a walk may come to: there are directories all the way to it, and it is no
link. -/
inductive Reached (tree : FileTree) : Location → Prop where
  | anchor (name : Text) : Reached tree [name]
  | down {place : Location} {name : Text} (above : Reached tree place)
      (free : tree.onward place name = .ok none) (leads : Leads name) :
      Reached tree (place ++ [name])

variable {tree : FileTree} {place target : Location} {links : Nat} {parts : List Text}

theorem Reached.ne_nil (reached : tree.Reached place) : place ≠ [] := by
  cases reached with
  | anchor => exact List.cons_ne_nil _ _
  | down => exact List.append_ne_nil_of_right_ne_nil _ (List.cons_ne_nil _ _)

theorem Reached.target? (reached : tree.Reached place) : tree.target? place = none := by
  cases reached with
  | anchor name => exact target?_of_directory (by rw [ entry?, if_pos (by simp)])
  | @down above name _ free leads =>
    rw [← leads.step above]
    exact (onward_eq_ok_iff.mp free).2.2

/-- The working directory is reached, whatever the tree holds. -/
theorem Rooted.reached (rooted : tree.Rooted) : tree.Reached tree.here := by
  obtain ⟨anchored, leads⟩ := rooted
  obtain ⟨anchor, names, shape⟩ := List.exists_cons_of_ne_nil anchored
  rw [shape, List.tail_cons] at leads
  have directory {before : Location} (start : before <+: names) :
      tree.entry? (anchor :: before) = some .directory := by
    have within : List.isPrefixOf (anchor :: before) tree.here = true := by
      rw [shape, List.isPrefixOf_iff_prefix]
      exact List.cons_prefix_cons.mpr ⟨rfl, start⟩
    rw [ entry?, within]
    rfl
  -- Every location on the way to the working directory is reached, from the anchor on.
  have part (before : Location) : before <+: names → tree.Reached (anchor :: before) := by
    induction before using List.reverseRecOn with
    | nil => exact fun _ => .anchor anchor
    | append_singleton before name ih =>
      intro start
      have earlier := (List.prefix_append before [name]).trans start
      have suits := leads name (start.subset (List.mem_append_right _ List.mem_cons_self))
      refine .down (ih earlier) (onward_eq_ok_iff.mpr ⟨directory earlier, suits.2.2.2, ?_⟩) suits
      rw [suits.step]
      exact target?_of_directory (directory start)
  rw [shape]
  exact part names List.prefix_rfl

/-- One part back. -/
theorem Reached.back (reached : tree.Reached place) : tree.Reached (place.step "..") := by
  rw [Location.step, if_neg (by decide), if_pos rfl]
  cases reached with
  | anchor name => exact .anchor name
  | @down above name reached _ _ =>
    rw [List.dropLast_concat]
    obtain ⟨anchor, names, rfl⟩ := List.exists_cons_of_ne_nil reached.ne_nil
    exact reached

/-- A part that leads nowhere or back comes to a location that was reached before. -/
theorem Reached.step_cases (reached : tree.Reached place) {part : Text}
    (fits : nameSize part ≤ maxNameSize) :
    tree.Reached (place.step part) ∨ Leads part := by
  by_cases still : part.isEmpty || part = "."
  · rw [Location.step, if_pos still]
    exact .inl reached
  · rw [Bool.or_eq_true, not_or, List.isEmpty_iff, decide_eq_true_eq] at still
    by_cases back : part = ".."
    · rw [back]
      exact .inl reached.back
    · exact .inr ⟨still.1, still.2, back, fits⟩

theorem Reached.step (reached : tree.Reached place) {part : Text}
    (free : tree.onward place part = .ok none) : tree.Reached (place.step part) := by
  rcases reached.step_cases (onward_eq_ok_iff.mp free).2.1 with before | leads
  · exact before
  · rw [leads.step]
    exact .down reached free leads

/-- A link hangs on the directory that it was found in. -/
theorem Reached.step_of_link (reached : tree.Reached place) {part aim : Text}
    (found : tree.onward place part = .ok (some aim)) : place.step part = place ++ [part] := by
  obtain ⟨-, fits, known⟩ := onward_eq_ok_iff.mp found
  rcases reached.step_cases fits with before | leads
  · rw [before.target?] at known
    cases known
  · exact leads.step place

theorem Reached.base (reached : tree.Reached place) (parts : List Text) :
    tree.Reached (place.base parts) := by
  rw [Location.base]
  split
  · exact .anchor []
  · exact reached

/-- A walk comes to locations with directories all the way. -/
theorem Arrives.reached (arrives : tree.Arrives links place parts target)
    (reached : tree.Reached place) : tree.Reached target := by
  induction arrives with
  | stay => exact reached
  | onward free behind ih => exact ih (reached.step free)
  | link found behind ih => exact ih (reached.base _)

theorem Rooted.reached_start (rooted : tree.Rooted) (path : FilePath) :
    tree.Reached (path.start tree.here) := by
  rw [FilePath.start]
  split
  · exact rooted.reached
  · exact .anchor _

/-! ### The way to a location -/

theorem Arrives.concat (arrives : tree.Arrives links place parts target) {part : Text}
    (free : tree.onward target part = .ok none) :
    tree.Arrives links place (parts ++ [part]) (target.step part) := by
  induction arrives with
  | stay place => exact .onward free (.stay _)
  | onward looked behind ih => exact .onward looked (ih free)
  | link found behind ih =>
    have further := ih free
    rw [List.append_assoc] at further
    exact .link found further

/-- The names of a location lead to it from its anchor. -/
theorem Reached.arrives (reached : tree.Reached place) :
    tree.Arrives 0 ((FilePath.ofLocation place).start tree.here) (FilePath.ofLocation place).parts
      place := by
  induction reached with
  | anchor name => exact .stay [name]
  | @down above name reached free leads ih =>
    obtain ⟨anchor, names, rfl⟩ := List.exists_cons_of_ne_nil reached.ne_nil
    have further := ih.concat free
    rw [leads.step] at further
    exact further

theorem Reached.follow (reached : tree.Reached place) :
    tree.follow (.ofLocation place) = .ok (place, tree.entry? place) :=
  follow_eq_ok_iff.mpr ⟨⟨0, Nat.zero_le _, reached.arrives⟩, rfl⟩

/-! ### The location of a path -/

/-- Parts lead to one location, along one number of links. -/
theorem Arrives.unique {more : Nat} {other : Location}
    (arrives : tree.Arrives links place parts target)
    (again : tree.Arrives more place parts other) : links = more ∧ target = other := by
  induction arrives generalizing more with
  | stay =>
    cases again
    exact ⟨rfl, rfl⟩
  | onward free behind ih =>
    cases again with
    | onward _ behind => exact ih behind
    | link found _ => cases free.symm.trans found
  | link found behind ih =>
    cases again with
    | onward free _ => cases found.symm.trans free
    | link same behind =>
      cases found.symm.trans same
      obtain ⟨equal, same⟩ := ih behind
      exact ⟨congrArg Nat.succ equal, same⟩

/-- A way along some parts and others behind them is made of two. -/
theorem Arrives.split {first second : List Text}
    (arrives : tree.Arrives links place (first ++ second) target) :
    ∃ early late middle, links = early + late ∧ tree.Arrives early place first middle ∧
      tree.Arrives late middle second target := by
  generalize whole : first ++ second = parts at arrives
  induction arrives generalizing first with
  | stay place =>
    obtain ⟨rfl, rfl⟩ := List.append_eq_nil_iff.mp whole
    exact ⟨0, 0, place, rfl, .stay place, .stay place⟩
  | @onward links place target part rest free behind ih =>
    rcases List.append_eq_cons_iff.mp whole with ⟨rfl, rfl⟩ | ⟨others, rfl, rfl⟩
    · exact ⟨0, links, place, (Nat.zero_add _).symm, .stay place, .onward free behind⟩
    · obtain ⟨early, late, middle, sum, before, after⟩ := ih rfl
      exact ⟨early, late, middle, sum, .onward free before, after⟩
  | @link links place target part aim rest found behind ih =>
    rcases List.append_eq_cons_iff.mp whole with ⟨rfl, rfl⟩ | ⟨others, rfl, rfl⟩
    · exact ⟨0, links + 1, place, (Nat.zero_add _).symm, .stay place, .link found behind⟩
    · obtain ⟨early, late, middle, sum, before, after⟩ := ih (List.append_assoc _ _ _)
      exact ⟨early + 1, late, middle, by omega, .link found before, after⟩

/-- The targets of some links take no fewer links to follow than are left to be followed. -/
def Slow (tree : FileTree) (met : List Waypoint) (left : Nat) : Prop :=
  ∀ {here : Waypoint} {target : Location} {part aim : Text} {links : Nat},
    tree.Reached here.place → tree.onward here.place part = .ok (some aim) →
    here.step part ∈ met →
    tree.Arrives links (here.place.base (partsOf aim)) (partsOf aim) target → left ≤ links

theorem Slow.anti {met : List Waypoint} {less : Nat} (slow : tree.Slow met links)
    (fewer : less ≤ links) : tree.Slow met less :=
  fun reached found listed arrives => fewer.trans (slow reached found listed arrives)

/-- A link on the way to a place takes more links to follow than its target does. So it is none of
those that are being replaced, and may become one of them. -/
theorem Slow.enter {met : List Waypoint} {here : Waypoint} {part aim : Text} {rest : List Text}
    (slow : tree.Slow met links) (reached : tree.Reached here.place)
    (found : tree.onward here.place part = .ok (some aim))
    (arrives : tree.Arrives links here.place (part :: rest) target) :
    here.step part ∉ met ∧ ∃ early late middle,
      tree.Arrives early (here.place.base (partsOf aim)) (partsOf aim) middle ∧
        tree.Arrives late middle rest target ∧
        tree.Slow (here.step part :: met) early ∧ tree.Slow met late := by
  cases arrives with
  | onward free => cases found.symm.trans free
  | @link left _ _ _ _ _ same behind =>
    cases found.symm.trans same
    obtain ⟨early, late, middle, rfl, before, after⟩ := behind.split
    refine ⟨fun listed => ?_, early, late, middle, before, after, ?_, slow.anti (by omega)⟩
    · exact absurd (slow reached found listed before) (by omega)
    · intro other _ name _ _ known looked listed again
      rcases List.mem_cons.mp listed with equal | listed
      · -- The same link is found in the same directory, and its target leads to one place.
        have equal : other.place.step name = here.place.step part :=
          congrArg Waypoint.place equal
        rw [known.step_of_link looked, reached.step_of_link found] at equal
        obtain ⟨own, rfl⟩ := List.append_singleton_inj.mp equal
        rw [own] at looked again
        cases looked.symm.trans found
        exact (before.unique again).1.le
      · exact (by omega : early ≤ early + late + 1).trans (slow known looked listed again)

/-- Parts that lead to a place have it as their location. -/
theorem locate_of_arrives {met : List Waypoint} {here : Waypoint}
    (reached : tree.Reached here.place) (arrives : tree.Arrives links here.place parts target)
    (slow : tree.Slow met links) :
    ∃ last, tree.locate met here parts = .ok last ∧ last.place = target := by
  fun_induction FileTree.locate tree met here parts generalizing links target with
  | case1 met here =>
    cases arrives
    exact ⟨here, rfl, rfl⟩
  | case2 met here part rest aim found listed =>
    -- A link that is being replaced is not met again.
    exact absurd listed (slow.enter reached found arrives).1
  | case3 met here part rest aim found fresh stuck failed inner =>
    -- The target leads to a place, so it is not lost among links.
    obtain ⟨-, _, _, _, before, -, enter, -⟩ := slow.enter reached found arrives
    obtain ⟨_, led, -⟩ := inner (reached.base _) before enter
    cases failed.symm.trans led
  | case4 met here part rest aim found fresh middle led inner behind =>
    -- The parts behind the link go on from where its target leads.
    obtain ⟨-, _, _, _, before, after, enter, leave⟩ := slow.enter reached found arrives
    obtain ⟨_, same, rfl⟩ := inner (reached.base _) before enter
    cases led.symm.trans same
    exact behind (before.reached (reached.base _)) after leave
  | case5 met here part rest plain behind =>
    cases arrives with
    | onward free further => exact behind (reached.step free) further slow
    | link found => exact (plain _ found).elim

/-- The location of a path that leads to a place is that place, and leads there as well. -/
theorem resolve_of_follow {path : FilePath} {entry : Option FileEntry} (rooted : tree.Rooted)
    (led : tree.follow path = .ok (place, entry)) :
    tree.resolve path = .ok place ∧ tree.follow (.ofLocation place) = .ok (place, entry) := by
  obtain ⟨⟨links, _, arrives⟩, rfl⟩ := follow_eq_ok_iff.mp led
  let first : Waypoint := ⟨path.anchor.isSome, path.start tree.here⟩
  have start : tree.Reached first.place := rooted.reached_start path
  have reached := arrives.reached start
  have slow : tree.Slow [] links := fun _ _ listed => absurd listed List.not_mem_nil
  obtain ⟨last, located, rfl⟩ := locate_of_arrives start arrives slow
  refine ⟨?_, reached.follow⟩
  rw [resolve, located]
  simp only [reached.follow]

/-- A file that is read by a path is read at the location of the path. -/
theorem read_resolve {path : FilePath} {content : Bytes} (rooted : tree.Rooted)
    (held : tree.read path = .ok content) :
    ∃ place, tree.resolve path = .ok place ∧ tree.read (.ofLocation place) = .ok content := by
  obtain ⟨place, led⟩ := read_eq_ok_iff.mp held
  obtain ⟨same, again⟩ := resolve_of_follow rooted led
  exact ⟨place, same, read_eq_ok_iff.mpr ⟨place, again⟩⟩

/-- A second slash in front is shown, and leads nowhere else. -/
theorem resolve_doubled (path : FilePath) (doubled : Bool) :
    tree.resolve { path with doubled } = tree.resolve path := rfl

example (tree : FileTree) :
    tree.resolve (.ofText "//work/s.json") = tree.resolve (.ofText "/work/s.json") := rfl

/-- There is something where a file is read. -/
theorem holds_of_read {path : FilePath} {content : Bytes} (held : tree.read path = .ok content) :
    tree.holds path = .ok true := by
  obtain ⟨place, led⟩ := read_eq_ok_iff.mp held
  rw [holds, led]
  rfl

/-! ### Trees without links -/

/-- There are no links in the tree. -/
def Linkless (tree : FileTree) : Prop := ∀ entry ∈ tree.entries, entry.2.target? = none

instance (tree : FileTree) : Decidable tree.Linkless := inferInstanceAs (Decidable (∀ _ ∈ _, _))

/-- No part leads to a link. -/
theorem Linkless.onward_ne (linkless : tree.Linkless) {part aim : Text} :
    tree.onward place part ≠ .ok (some aim) := by
  intro found
  obtain ⟨-, -, known⟩ := onward_eq_ok_iff.mp found
  obtain ⟨entry, listed, -, aims⟩ := exists_entry_of_target? known
  cases (linkless entry listed).symm.trans aims

theorem Linkless.locate (linkless : tree.Linkless) (met : List Waypoint) (here : Waypoint)
    (parts : List Text) : tree.locate met here parts =
      .ok { here with place := parts.foldl Location.step here.place } := by
  fun_induction FileTree.locate tree met here parts with
  | case1 => rfl
  | case5 _ _ _ _ _ behind => exact behind
  | _ => exact absurd ‹_› linkless.onward_ne

theorem onward_ne_tooManyLinks {part : Text} :
    tree.onward place part ≠ .error .tooManyLinks := by
  rw [onward]
  split
  · rintro ⟨⟩
  · split
    · rintro ⟨⟩
    · rintro ⟨⟩
  · rintro ⟨⟩

/-- No way has too many links. -/
theorem Linkless.walk_ne (linkless : tree.Linkless) (limit : Nat) (place : Location)
    (parts : List Text) : tree.walk limit place parts ≠ .error .tooManyLinks := by
  induction parts generalizing place with
  | nil =>
    rw [walk_nil]
    nofun
  | cons part rest ih =>
    rw [walk_cons]
    split
    next failed =>
      rintro ⟨⟩
      exact onward_ne_tooManyLinks failed
    · exact ih _
    next found => exact absurd found linkless.onward_ne
    next found => exact absurd found linkless.onward_ne

/-- Without links the location of a path is the one that it spells. -/
theorem Linkless.resolve (linkless : tree.Linkless) (path : FilePath) :
    tree.resolve path = .ok (path.resolve tree.here) := by
  rw [FileTree.resolve, linkless.locate]
  split
  next lost => exact absurd (map_eq_error_iff.mp lost) (linkless.walk_ne _ _ _)
  · rfl

/-- The location of the path ends as the path does. -/
def KeepsSuffix (tree : FileTree) (path : FilePath) : Prop :=
  ∀ place, tree.resolve path = .ok place → (FilePath.ofLocation place).suffix = path.suffix

end FileTree

namespace Location

variable {place : Location}

end Location

namespace FilePath

end FilePath

end Conformance
