import Conformance.Schema.Skipped
import Conformance.Session.Basic

/-!
# Schemas in a session

Schemas come from documents and from files. A schema that was fetched from a file is kept by the
location of the file, and fetched from there until it is loaded anew or all of them are forgotten; a
load that fails changes nothing.
-/
namespace Conformance.Session

/-- Notes the entries that are passed over in a schema. -/
def noteSkipped (document : Document) : Session Unit :=
  change fun w => (Schema.skipped document).foldl (fun w entry =>
    w.note ⟨.compile, .verbose, "required_entry_skipped",
      [("schema_path", .text entry.pointer), ("entry_kind", .text entry.kind.name)]⟩) w

/-- The schema that a document denotes. -/
def compile (document : Document) : Session Holding := do
  noteSkipped document
  let schema ← answer ((Schema.compile document).mapError .compile)
  tell .compile .debug "schema_compiled"
    [("always_true", .boolean schema.acceptsAll), ("type", .ofText? (schema.kind?.map Kind.name))]
  let serial ← newSerial
  pure (Holding.ofCompiled serial schema)

/-- The notation of a file: YAML by its suffix, else JSON. -/
def notationOf (path : FilePath) : Notation :=
  if path.hasSuffix ".yaml" || path.hasSuffix ".yml" then .yaml else .json

/-- The document of a file. -/
def readDocument (path : FilePath) : Session Document := do
  let content ← readText path
  answer (((notationOf path).read (.text content)).mapError .document)

/-- The schema of a file as it stands now. -/
def loadSchema (path : FilePath) : Session Holding := do
  let found ← inspect fun files => files.holds path
  if found then
    let document ← readDocument path
    let holding ← compile document
    tell .load .info "schema_loaded" [("path", .text path.text)]
    pure holding
  else answer (.error (.noSchema path.text))

/-- The schema kept for a location. -/
def kept (w : Workspace) (place : Location) : Option Holding :=
  (w.loaded.find? fun entry => entry.1 = place).map Prod.snd

/-- Keeps a schema for a location. -/
def keep (place : Location) (holding : Holding) : Session Unit :=
  change fun w =>
    { w with loaded := (place, holding) :: w.loaded.filter fun entry => entry.1 ≠ place }

/-- The location of a path. -/
def locate (path : FilePath) : Session Location :=
  ExceptT.mk fun w => pure ((w.files.resolve path).mapError .circular, w)

/-- The schema of a file: the one kept for its location, if that may be used and there is one. -/
def fetchSchema (path : FilePath) (mayUseKept : Bool) : Session Holding := do
  let place ← locate path
  let found ← look fun w => kept w place
  match mayUseKept, found with
  | true, some holding => pure holding
  | _, _ =>
    let holding ← loadSchema (FilePath.ofLocation place)
    keep place holding
    pure holding

/-- Forgets all schemas that were kept. -/
def forgetSchemas : Session Unit := change fun w => { w with loaded := [] }

/-- Suffixes of files that hold schemas. -/
def schemaSuffixes : List Text := [".json", ".yaml", ".yml"]

/-- Whether a file is listed as a schema: by the end of its name alone. -/
def isListed (name : Text) : Bool := schemaSuffixes.any fun suffix => suffix.isSuffixOf name

/-- Names without suffix of the schemas in a directory, sorted, each once; none of what is no
directory. -/
def listSchemas (path : FilePath) : Session (List Text) := do
  let found ← inspect fun files => files.holds path
  if found then
    look fun w =>
      match w.files.follow path with
      | .ok (place, some .directory) =>
        Text.sort (((w.files.namesBelow place).filter isListed).map FilePath.stemOf).eraseDups
      | _ => []
  else pure []

end Conformance.Session
