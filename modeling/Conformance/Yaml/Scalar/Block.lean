import Conformance.Yaml.Scalar.Plain

/-!
# Block scalars

After a bar every line of the block is kept; after a greater-than sign a break between two lines
that start with no blank is read as a space. The header may fix the indentation, and says whether
the breaks at the end are dropped, kept once, or all kept.
-/
namespace Conformance.Yaml.Scalar

/-- What becomes of the breaks at the end of a block. -/
inductive Chomping where
  | strip
  | clip
  | keep
deriving DecidableEq

structure BlockHeader where
  chomping : Chomping
  /-- How far the block is indented beyond its surroundings, if that is given. -/
  indentation : Option Nat

def takeChomping : Reader (Option Chomping) := do
  match ← Reader.peek with
  | some x =>
    if x = '+' then Reader.forward 1; pure (some .keep)
    else if x = '-' then Reader.forward 1; pure (some .strip)
    else pure none
  | none => pure none

/-- One digit from one to nine. -/
def takeIndentation : Reader (Option Nat) := do
  match ← Reader.peek with
  | some x =>
    if x.isDigit then
      if x = '0' then Reader.malformed
      Reader.forward 1
      pure (some x.digitValue)
    else pure none
  | none => pure none

/-- Chomping and indentation, in either order. -/
def takeBlockHeader : Reader BlockHeader := do
  let header ← match ← takeChomping with
    | some chomping => pure ⟨chomping, ← takeIndentation⟩
    | none =>
      match ← takeIndentation with
      | some indentation => pure ⟨(← takeChomping).getD .clip, some indentation⟩
      | none => pure ⟨.clip, none⟩
  if !(← get).atSpaceOrEnd then Reader.malformed
  pure header

/-- Breaks and spaces up to the first line with content; the breaks, and the deepest column that
spaces reach. -/
def takeLeadingLines : Nat → Text → Nat → Reader (Text × Nat)
  | 0, breaks, deepest => pure (breaks, deepest)
  | fuel + 1, breaks, deepest => do
    match ← Reader.peek with
    | none => pure (breaks, deepest)
    | some x =>
      if isSpace x then
        Reader.forward 1
        takeLeadingLines fuel breaks (max deepest (← get).column)
      else if isBreak x then
        takeLeadingLines fuel (breaks ++ (← Reader.takeBreak)) deepest
      else pure (breaks, deepest)

/-- Skips spaces up to a column. -/
def skipIndentation (indent : Nat) : Reader Unit := do
  let c ← get
  Reader.forward ((c.rest.take (indent - c.column)).takeWhile isSpace).length

/-- Breaks of lines without content inside a block of an indentation. -/
def takeEmptyLines (indent : Nat) : Nat → Text → Reader Text
  | 0, breaks => pure breaks
  | fuel + 1, breaks => do
    skipIndentation indent
    match ← Reader.takeBreak with
    | [] => pure breaks
    | more => takeEmptyLines indent fuel (breaks ++ more)

/-- The lines of a block: its content, the break after the last line, and those after it. -/
def takeBlockLines (folded : Bool) (indent : Nat) :
    Nat → (breaks taken : Text) → Reader (Text × Text × Text)
  | 0, breaks, taken => pure (taken, [], breaks)
  | fuel + 1, breaks, taken => do
    let isText (c : Cursor) : Bool := !(c.peek 0).any isSpaceOrTab
    let inBlock (c : Cursor) : Bool := c.column = indent && !c.rest.isEmpty
    let startsWithText := isText (← get)
    let line ← Reader.takeWhile fun x => !isBreak x
    let taken := taken ++ breaks ++ line
    let lineBreak ← Reader.takeBreak
    let breaks ← takeEmptyLines indent fuel []
    let c ← get
    if inBlock c then
      let between : Text :=
        if folded ∧ lineBreak = "\n" ∧ startsWithText ∧ isText c then
          if breaks.isEmpty then " " else []
        else lineBreak
      takeBlockLines folded indent fuel breaks (taken ++ between)
    else pure (taken, lineBreak, breaks)

/-- A block scalar from its mark on, inside a block of an indentation. -/
def takeBlock (folded : Bool) (outer : Int) : Reader Text := do
  Reader.forward 1
  let header ← takeBlockHeader
  Reader.skipRestOfLine
  let fuel := (← get).rest.length + 1
  let least := max 1 (outer + 1).toNat
  let (indent, breaks) ← match header.indentation with
    | none =>
      let (breaks, deepest) ← takeLeadingLines fuel [] 0
      pure (max least deepest, breaks)
    | some more =>
      let indent := least + more - 1
      pure (indent, ← takeEmptyLines indent fuel [])
  let c ← get
  let (taken, lineBreak, breaks) ←
    if c.column = indent ∧ ¬c.rest.isEmpty then takeBlockLines folded indent fuel breaks []
    else pure ([], [], breaks)
  pure <| taken
    ++ (if header.chomping = .strip then [] else lineBreak)
    ++ (if header.chomping = .keep then breaks else [])

end Conformance.Yaml.Scalar
