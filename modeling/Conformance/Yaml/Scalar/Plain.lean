import Conformance.Yaml.Cursor

/-!
# Plain scalars

A scalar without quotes ends before a comment, before a colon with a gap after it, and in a flow
collection before its marks. It may go on over lines that are indented far enough; a single break is
read as a space, further ones are kept.
-/
namespace Conformance.Yaml.Scalar

def isFlowMark (c : CodePoint) : Bool :=
  c = ',' || c = '[' || c = ']' || c = '\x7b' || c = '\x7d'

/-- Whether a plain scalar pauses before the rest of a text. -/
def pausesPlain (inFlow : Bool) : Text → Bool
  | [] => true
  | x :: rest =>
    isSpaceOrTab x || isBreak x
      || (x = ':' && (match rest with
        | [] => true
        | y :: _ => isSpaceOrTab y || isBreak y || (inFlow && isFlowMark y)))
      || (inFlow && (isFlowMark x || x = '?'))

/-- The beginning of a text up to where a plain scalar pauses. -/
def plainRun (inFlow : Bool) : Text → Text
  | [] => []
  | x :: rest => if pausesPlain inFlow (x :: rest) then [] else x :: plainRun inFlow rest

/-- What stands between two runs of a plain scalar. -/
structure PlainGap where
  /-- The text that the gap is read as; empty if the scalar ends here. -/
  content : Text
  crossesLine : Bool

/-- The text that a break and those after it are read as. -/
def foldBreaks (first later : Text) : Text :=
  (if first ≠ "\n" then first else if later.isEmpty then " " else []) ++ later

/-- Breaks and spaces after a first break; none if a document separator follows a break. -/
def takeBlankLines : Nat → Text → Reader (Option Text)
  | 0, breaks => pure (some breaks)
  | fuel + 1, breaks => do
    match ← Reader.peek with
    | none => pure (some breaks)
    | some x =>
      if isSpace x then
        Reader.forward 1
        takeBlankLines fuel breaks
      else if isBreak x then
        let breaks := breaks ++ (← Reader.takeBreak)
        if (← get).atSeparator then pure none else takeBlankLines fuel breaks
      else pure (some breaks)

def takePlainGap : Reader PlainGap := do
  let spaces ← Reader.takeWhile isSpace
  match ← Reader.takeBreak with
  | [] => pure ⟨spaces, false⟩
  | first =>
    if (← get).atSeparator then pure ⟨[], true⟩
    else
      match ← takeBlankLines ((← get).rest.length + 1) [] with
      | none => pure ⟨[], true⟩
      | some later => pure ⟨foldBreaks first later, true⟩

/-- A plain scalar from a gap on, and whether it ends at the beginning of a line. -/
def takePlainRuns (inFlow : Bool) (indent : Int) : Nat → PlainGap → Text → Reader (Text × Bool)
  | 0, gap, taken => pure (taken, gap.crossesLine)
  | fuel + 1, gap, taken => do
    let run := plainRun inFlow (← get).rest
    if (← Reader.peek) = some ('#' : CodePoint) ∨ run.isEmpty then pure (taken, gap.crossesLine)
    else
      Reader.forward run.length
      let taken := taken ++ gap.content ++ run
      let gap ← takePlainGap
      if gap.content.isEmpty ∨ (¬inFlow ∧ (← get).column < indent) then
        pure (taken, gap.crossesLine)
      else takePlainRuns inFlow indent fuel gap taken

/-- A plain scalar whose lines after the first are indented to a column at least, and whether it
ends at the beginning of a line. -/
def takePlain (inFlow : Bool) (indent : Int) : Reader (Text × Bool) := do
  takePlainRuns inFlow indent ((← get).rest.length + 1) ⟨[], false⟩ []

end Conformance.Yaml.Scalar
