import Conformance.Files.Error
import Conformance.Files.Path
import Conformance.Text.Encoding

/-!
# Trees of files

A tree holds files, directories and symbolic links by their locations, and a working directory from
which paths start. A path is followed part by part: every part but the last has to be a directory,
even one that double dots leave again, and a link is replaced by the path that it stands for, though
not more often than systems do. Whatever is or is not on the way, a path has a location, unless its
links lead in a circle.
-/
namespace Conformance

inductive FileEntry where
  | file (content : Bytes)
  | directory
  /-- A symbolic link to what a path leads to, which starts next to the link. -/
  | link (target : Text)
deriving DecidableEq

/-- What a link stands for. -/
def FileEntry.target? : FileEntry → Option Text
  | .link target => some target
  | _ => none

structure FileTree where
  /-- The working directory. -/
  here : Location
  entries : List (Location × FileEntry)

namespace FileTree

/-- A tree of which nothing is known but its working directory. -/
def bare (here : Location) : FileTree := ⟨here, []⟩

/-- What stands at a location; anchors, the working directory and those above it are directories. -/
def entry? (tree : FileTree) (place : Location) : Option FileEntry :=
  if place.isPrefixOf tree.here || place.length ≤ 1 then some .directory
  else (tree.entries.find? fun entry => entry.1 = place).map Prod.snd

/-- What the link at a location stands for, if there is one. -/
def target? (tree : FileTree) (place : Location) : Option Text :=
  (tree.entry? place).bind FileEntry.target?

/-- The greatest number of bytes in a name. -/
def maxNameSize : Nat := 255

def nameSize (name : Text) : Nat := (name.flatMap Encoding.utf8Bytes).length

/-- Looks at one part further, which has to hang on a directory: the target of a link, or nothing
where no link is. -/
def onward (tree : FileTree) (place : Location) (part : Text) : Except FileFault (Option Text) :=
  match tree.entry? place with
  | none => .error .notFound
  | some .directory =>
    if maxNameSize < nameSize part then .error .nameTooLong
    else .ok (tree.target? (place.step part))
  | some _ => .error .notDirectory

/-- One part further is looked at in a directory. -/
theorem onward_eq_ok_iff {tree : FileTree} {place : Location} {part : Text}
    {found : Option Text} : tree.onward place part = .ok found ↔
      tree.entry? place = some .directory ∧ nameSize part ≤ maxNameSize ∧
        tree.target? (place.step part) = found := by
  rw [onward, ← Nat.not_lt]
  split
  next nothing => simp [nothing]
  next directory =>
    rw [directory]
    split <;> simp_all
  next other directory known =>
    rw [known]
    simpa using fun same => absurd same directory

/-- The parts of a target as they are spelled. An empty one at its end asks for a directory. -/
def partsOf (target : Text) : List Text := Text.splitOn '/' target

/-! ### Following a path -/

/-- Follows parts as far as the first link; what comes of the target and of the parts behind it is
up to the caller. -/
def walkWith (tree : FileTree)
    (enter : Location → List Text → Except FileFault Location) (place : Location) :
    List Text → Except FileFault Location
  | [] => .ok place
  | part :: rest =>
    match tree.onward place part with
    | .error fault => .error fault
    | .ok none => tree.walkWith enter (place.step part) rest
    | .ok (some target) => enter (place.base (partsOf target)) (partsOf target ++ rest)

/-- Follows parts, with so many links at most. -/
def walk (tree : FileTree) : Nat → Location → List Text → Except FileFault Location
  | 0 => tree.walkWith fun _ _ => .error .tooManyLinks
  | links + 1 => tree.walkWith (tree.walk links)

/-- The greatest number of links that are followed on the way along a path. -/
def maxLinks : Nat := 40

/-- Where a path leads, with what stands there. -/
def follow (tree : FileTree) (path : FilePath) : Except FileFault (Location × Option FileEntry) :=
  (tree.walk maxLinks (path.start tree.here) path.parts).map fun place => (place, tree.entry? place)

/-- Where a path leads if it ends at its last part, even at a link. -/
def arrive (tree : FileTree) (path : FilePath) :
    Except FileFault (Location × Option FileEntry) := do
  let place ← tree.walk maxLinks (path.start tree.here) path.parts.dropLast
  match path.parts.getLast? with
  | none => pure (place, tree.entry? place)
  | some part =>
    let _ ← tree.onward place part
    pure (place.step part, tree.entry? (place.step part))

/-! ### The location of a path -/

/-- A location on the way along a path. It is told apart by whether the way comes from an anchor or
from the working directory. -/
structure Waypoint where
  anchored : Bool
  place : Location
deriving DecidableEq

namespace Waypoint

def step (here : Waypoint) (part : Text) : Waypoint := { here with place := here.place.step part }

/-- Where spelled parts start from. -/
def base (here : Waypoint) (parts : List Text) : Waypoint :=
  ⟨here.anchored || Location.startsAtRoot parts, here.place.base parts⟩

end Waypoint

/-- The ways to entries, other than those to some links. -/
def others (tree : FileTree) (links : List Waypoint) : List Waypoint :=
  (tree.entries.flatMap fun entry => [⟨false, entry.1⟩, ⟨true, entry.1⟩]).filter (· ∉ links)

/-- A link is an entry of the tree. -/
theorem exists_entry_of_target? {tree : FileTree} {place : Location} {target : Text}
    (found : tree.target? place = some target) :
    ∃ entry ∈ tree.entries, entry.1 = place ∧ entry.2.target? = some target := by
  obtain ⟨link, known, aims⟩ := Option.bind_eq_some_iff.mp found
  rw [ entry?] at known
  split at known
  · cases known
    cases aims
  · obtain ⟨entry, listed, rfl⟩ := Option.map_eq_some_iff.mp known
    exact ⟨entry, List.mem_of_find?_eq_some listed, by simpa using List.find?_some listed, aims⟩

theorem length_others_cons_lt {tree : FileTree} {links : List Waypoint} {here : Waypoint}
    {part target : Text} (found : tree.onward here.place part = .ok (some target))
    (fresh : here.step part ∉ links) :
    (tree.others (here.step part :: links)).length < (tree.others links).length := by
  obtain ⟨entry, listed, same, -⟩ := exists_entry_of_target? (onward_eq_ok_iff.mp found).2.2
  have fewer : tree.others (here.step part :: links) =
      (tree.others links).filter (· ≠ here.step part) := by
    rw [others, others, List.filter_filter]
    congr 1
    funext way
    simp
  have present : here.step part ∈ tree.others links := by
    refine List.mem_filter.mpr ⟨List.mem_flatMap.mpr ⟨entry, listed, ?_⟩, by simpa using fresh⟩
    obtain ⟨anchored, place⟩ := here
    cases anchored <;> simp [Waypoint.step, same]
  rw [fewer]
  exact List.length_filter_lt_length_iff_exists.mpr ⟨_, present, by simp⟩

/-- The location of parts: every link is replaced by the location of its target, and what is no link
is taken as it is spelled. A link that is met while it is being replaced is no further replaced, and
nothing behind it is: the location is then told as an error. -/
def locate (tree : FileTree) (links : List Waypoint) (here : Waypoint) :
    List Text → Except Location Waypoint
  | [] => .ok here
  | part :: rest =>
    match _found : tree.onward here.place part with
    | .ok (some target) =>
      if _met : here.step part ∈ links then .error ((here.step part).place.extend rest)
      else
        match tree.locate (here.step part :: links) (here.base (partsOf target))
          (partsOf target) with
        | .error stuck => .error (stuck.extend rest)
        | .ok behind => tree.locate links behind rest
    | _ => tree.locate links (here.step part) rest
termination_by parts => ((tree.others links).length, parts.length)
decreasing_by
  · exact Prod.Lex.left _ _ (length_others_cons_lt _found _met)
  · exact Prod.Lex.right _ (Nat.lt_succ_self _)
  · exact Prod.Lex.right _ (Nat.lt_succ_self _)

/-- The location of a path, whether or not there is anything. A path that is lost in a circle of
links has none. -/
def resolve (tree : FileTree) (path : FilePath) : Except FilePath Location :=
  let place :=
    match tree.locate [] ⟨path.anchor.isSome, path.start tree.here⟩ path.parts with
    | .ok last => last.place
    | .error stuck => stuck
  match tree.follow (.ofLocation place) with
  | .error .tooManyLinks => .error (.ofLocation place)
  | _ => .ok place

/-! ### Files -/

/-- A fault with the path that was asked for. -/
def refuse {α : Type} (path : FilePath) (fault : FileFault) : Except FileError α :=
  .error ⟨fault, path.text⟩

/-- Whether there is anything at a path. -/
def holds (tree : FileTree) (path : FilePath) : Except FileError Bool :=
  match tree.follow path with
  | .ok (_, entry) => .ok entry.isSome
  | .error .notFound | .error .notDirectory | .error .tooManyLinks => .ok false
  | .error fault => refuse path fault

/-- The content of a file. -/
def read (tree : FileTree) (path : FilePath) : Except FileError Bytes :=
  match tree.follow path with
  | .error fault => refuse path fault
  | .ok (_, none) => refuse path .notFound
  | .ok (_, some .directory) => refuse path .isDirectory
  | .ok (_, some (.link _)) => refuse path .tooManyLinks
  | .ok (_, some (.file content)) => .ok content

/-- The tree with a new entry at a location. -/
def put (tree : FileTree) (place : Location) (entry : FileEntry) : FileTree :=
  { tree with entries := (place, entry) :: tree.entries.filter fun old => old.1 ≠ place }

/-- The tree after a file is written; its directory has to be there. -/
def write (tree : FileTree) (path : FilePath) (content : Bytes) : Except FileError FileTree :=
  match tree.follow path with
  | .error fault => refuse path fault
  | .ok (_, some .directory) => refuse path .isDirectory
  | .ok (place, _) => .ok (tree.put place (.file content))

def makeDirectory (tree : FileTree) (path : FilePath) : Except FileError FileTree :=
  match tree.arrive path with
  | .error fault => refuse path fault
  | .ok (_, some _) => refuse path .exists
  | .ok (place, none) => .ok (tree.put place .directory)

/-- The tree without a file or a link. -/
def remove (tree : FileTree) (path : FilePath) : Except FileError FileTree :=
  match tree.arrive path with
  | .error fault => refuse path fault
  | .ok (_, none) => refuse path .notFound
  | .ok (_, some .directory) => refuse path .isDirectory
  | .ok (place, some _) =>
    .ok { tree with entries := tree.entries.filter fun old => old.1 ≠ place }

/-- The names right below a location. -/
def namesBelow (tree : FileTree) (place : Location) : List Text :=
  tree.entries.filterMap fun entry =>
    match entry.1.getLast? with
    | some name => if entry.1 = place ++ [name] then some name else none
    | none => none

end FileTree
end Conformance
