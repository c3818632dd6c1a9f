import Conformance.Command.Run

/-!
# The program

Gathers what a command line needs to know of the world, runs it, and prints what comes of it.
-/
namespace Conformance.Program

/-- Where a path of the file system leads, with what stands there, as far as it can be seen. -/
def seen? (path : FilePath) : IO (Option (FilePath × FileEntry)) := do
  try
    let place ← IO.FS.realPath path.text.toString
    let target := FilePath.ofText (Text.ofString place.toString)
    if ← place.isDir then return some (target, .directory)
    return some (target, .file (← IO.FS.readBinFile place).toList)
  catch _ => return none

/-- The tree with an entry and the directories above it. -/
def place (tree : FileTree) (location : Location) (entry : FileEntry) : FileTree :=
  let above := (List.range location.length).map fun count => location.take count
  let known := above.foldl (fun known directory =>
    if (known.entry? directory).isSome then known else known.put directory .directory) tree
  known.put location entry

/-- The tree with all that stands on the way along a path. A part that leads elsewhere than it is
spelled is a link. -/
def gather (tree : FileTree) (path : FilePath) : IO FileTree := do
  let mut known := tree
  let mut here := path.start tree.here
  for count in List.range path.parts.length do
    let parts := path.parts.take (count + 1)
    let spelled := here.step (parts.getLast?.getD [])
    here := spelled
    if let some (target, entry) ← seen? { path with parts } then
      here := target.resolve tree.here
      known := place known here entry
      if here ≠ spelled then known := known.put spelled (.link target.text)
  return known

/-- All bytes of a stream from here on. -/
partial def readAll (stream : IO.FS.Stream) (before : ByteArray) : IO ByteArray := do
  let more ← stream.read 65536
  if more.isEmpty then return before else readAll stream (before ++ more)

/-- The variables that are set. -/
def environment : IO Environment := do
  let mut found : Environment := []
  for name in Command.watched do
    if let some value ← IO.getEnv name.toString then
      found := found ++ [(name, Text.ofString value)]
  return found

/-- Runs a command line on the file system. -/
def run (arguments : List Text) : IO UInt32 := do
  let here := FilePath.ofText (Text.ofString (← IO.currentDir).toString)
  let mut tree := FileTree.bare (here.resolve [[]])
  let mut input := ByteArray.empty
  if let .ok request := Command.read arguments then
    for file in request.files do
      tree ← gather tree (FilePath.ofText file)
    if request.readsInput then
      input ← readAll (← IO.getStdin) input
  let stamp := Text.ofNat (← IO.monoMsNow)
  let start := Workspace.initial tree (← environment) stamp
  let (result, after) :=
    (Command.run arguments (Encoding.decodeStrict input.toList)).run start
  IO.eprint after.errorOutput.toString
  match result with
  | .ok outcome =>
    IO.print outcome.output.toString
    return UInt32.ofNat outcome.code
  | .error failure =>
    IO.eprintln (failure.className.toString ++ ": " ++ failure.message.toString)
    return 1

end Conformance.Program

def main (arguments : List String) : IO UInt32 :=
  Conformance.Program.run (arguments.map Conformance.Text.ofString)
