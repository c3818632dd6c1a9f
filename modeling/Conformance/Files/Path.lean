import Conformance.Text.Quoted

/-!
# Paths of files

A path is spelled with slashes between its parts; empty parts and single dots mean nothing. It
starts from an anchor, which is what stands before its first slash, or else from the working
directory. A location is a path followed from an anchor: it has no double dots left. Where no links
are on the way, the spelling of a path is enough to tell its location.

Texts that systems take for no path at all, those with a code point zero or with a lone surrogate,
are spelled paths like others here.
-/
namespace Conformance

/-- A path as it is spelled, less what means nothing. -/
structure FilePath where
  /-- What the parts hang on; nothing for a path from the working directory. -/
  anchor : Option Text
  parts : List Text
  /-- Two slashes in front are shown as they are; they lead where one does. -/
  doubled : Bool := false
deriving DecidableEq

/-- The names that lead to a file, the anchor first. -/
abbrev Location := List Text

namespace Location

/-- One part further: double dots lead back, though not past the anchor, and what means nothing
leads nowhere. -/
def step (place : Location) (part : Text) : Location :=
  if part.isEmpty || part = "." then place
  else if part = ".." then
    match place.dropLast with
    | [] => place
    | parent => parent
  else place ++ [part]

/-- Whether spelled parts start at the root: a slash in front of them leaves an empty part there,
with another part behind. -/
def startsAtRoot : List Text → Bool
  | [] :: _ :: _ => true
  | _ => false

/-- Where spelled parts start from. -/
def base (place : Location) (parts : List Text) : Location :=
  if startsAtRoot parts then [[]] else place

/-- All the parts further, as they are spelled. -/
def extend (place : Location) (parts : List Text) : Location :=
  parts.foldl step (place.base parts)

end Location

namespace FilePath

/-- A spelled path. Slashes in front hang it on the empty anchor. -/
def ofText (t : Text) : FilePath :=
  let slashes := (t.takeWhile (· = ('/' : CodePoint))).length
  { anchor := if slashes = 0 then none else some []
    parts := (Text.splitOn '/' t).filter fun part => !part.isEmpty && part ≠ "."
    doubled := slashes = 2 }

/-- The path of a location. -/
def ofLocation (place : Location) : FilePath := { anchor := place.head?, parts := place.tail }

/-- The path spelled out; the working directory is a dot. -/
def text (p : FilePath) : Text :=
  match p.anchor, p.parts with
  | none, [] => "."
  | none, parts => Text.join "/" parts
  | some anchor, parts =>
    let front := if p.doubled then "/" ++ anchor else anchor
    if parts.isEmpty && !anchor.isEmpty then front else front ++ "/" ++ Text.join "/" parts

/-- The place of the last dot of a name, unless the name starts or ends with it. -/
def lastDot? (name : Text) : Option Nat :=
  let after := name.reverse.takeWhile (· ≠ ('.' : CodePoint))
  let dot := name.length - after.length
  if 1 < dot ∧ 0 < after.length then some (dot - 1) else none

/-- A name from its last dot on. -/
def suffixOf (name : Text) : Text :=
  match lastDot? name with
  | some dot => name.drop dot
  | none => []

/-- A name up to its last dot. -/
def stemOf (name : Text) : Text :=
  match lastDot? name with
  | some dot => name.take dot
  | none => name

/-- The suffix of the last part. -/
def suffix (p : FilePath) : Text := suffixOf (p.parts.getLast?.getD [])

/-- Whether the path has a suffix, in any letter case. -/
def hasSuffix (p : FilePath) (wanted : Text) : Bool := p.suffix.toAsciiLower = wanted

/-- Where a path starts from. -/
def start (here : Location) (p : FilePath) : Location :=
  match p.anchor with
  | none => here
  | some anchor => [anchor]

/-- The location that the parts spell, whether or not there is anything on the way. It is that of
the path where no part of it is a link. -/
def resolve (here : Location) (p : FilePath) : Location :=
  p.parts.foldl Location.step (p.start here)

end FilePath
end Conformance
