import Conformance.Yaml.Scalar.Plain

/-!
# Quoted scalars

Between single quotes only a quote is special and is written twice; between double quotes a
backslash starts an escape. Both may go over several lines, on which a single break is read as a
space.
-/
namespace Conformance.Yaml.Scalar

/-- Letters after a backslash that name a code point. -/
def namedEscapes : List (Char × Nat) := [
  ('0', 0), ('a', 7), ('b', 8), ('t', 9), ('\t', 9), ('n', 10), ('v', 11), ('f', 12), ('r', 13),
  ('e', 27), (' ', 32), ('"', 34), ('\\', 92), ('/', 47), ('N', 0x85), ('_', 0xA0),
  ('L', 0x2028), ('P', 0x2029)]

/-- Letters after a backslash that are followed by so many hexadecimal digits. -/
def numberedEscapes : List (Char × Nat) := [('x', 2), ('u', 4), ('U', 8)]

def lookUp (c : CodePoint) (escapes : List (Char × Nat)) : Option Nat :=
  (escapes.find? fun entry => CodePoint.ofChar entry.1 = c).map Prod.snd

/-- Breaks and blanks up to the next line with content, where no document may begin. -/
def takeInnerBreaks : Nat → Text → Reader Text
  | 0, breaks => pure breaks
  | fuel + 1, breaks => do
    if (← get).atSeparator then Reader.malformed
    let _ ← Reader.takeWhile isSpaceOrTab
    match ← Reader.takeBreak with
    | [] => pure breaks
    | more => takeInnerBreaks fuel (breaks ++ more)

def innerBreaks : Reader Text := do takeInnerBreaks ((← get).rest.length + 1) []

/-- The code point of so many hexadecimal digits. -/
def takeNumberedEscape (count : Nat) : Reader Text := do
  let digits := ((← get).rest.take count).takeWhile fun x => x.hexValue?.isSome
  if digits.length < count then Reader.malformed
  let number := Numeral.valueIn 16 digits
  if number < 0x110000 then
    Reader.forward count
    pure [.ofNat number]
  else throw (.noCodePoint number)

/-- What an escape stands for, once its backslash has been read. -/
def takeEscape : Reader Text := do
  match ← Reader.peek with
  | none => Reader.malformed
  | some x =>
    match lookUp x namedEscapes, lookUp x numberedEscapes with
    | some point, _ =>
      Reader.forward 1
      pure [.ofNat point]
    | _, some count =>
      Reader.forward 1
      takeNumberedEscape count
    | _, _ =>
      if isBreak x then
        let _ ← Reader.takeBreak
        innerBreaks
      else Reader.malformed

def singleQuote : CodePoint := '\''

def doubleQuote : CodePoint := '"'

/-- Content up to a gap or the closing quote. -/
def takeContent (double : Bool) : Nat → Text → Reader Text
  | 0, taken => pure taken
  | fuel + 1, taken => do
    let run ← Reader.takeWhile fun x =>
      !(x = singleQuote || x = doubleQuote || x = '\\' || isSpaceOrTab x || isBreak x)
    let taken := taken ++ run
    let c ← get
    match c.peek 0 with
    | none => pure taken
    | some x =>
      if ¬double ∧ x = singleQuote ∧ c.peek 1 = some singleQuote then
        Reader.forward 2
        takeContent double fuel (taken ++ [singleQuote])
      else if (double ∧ x = singleQuote) ∨ (¬double ∧ (x = doubleQuote ∨ x = '\\')) then
        Reader.forward 1
        takeContent double fuel (taken ++ [x])
      else if double ∧ x = '\\' then
        Reader.forward 1
        let escaped ← takeEscape
        takeContent double fuel (taken ++ escaped)
      else pure taken

/-- The text that a gap is read as; the scalar may not end here. -/
def takeQuotedGap : Reader Text := do
  let blanks ← Reader.takeWhile isSpaceOrTab
  match ← Reader.peek with
  | none => Reader.malformed
  | some _ =>
    match ← Reader.takeBreak with
    | [] => pure blanks
    | first => pure (foldBreaks first (← innerBreaks))

/-- Gaps and content up to the closing quote. -/
def takeToQuote (quote : CodePoint) (double : Bool) : Nat → Text → Reader Text
  | 0, taken => pure taken
  | fuel + 1, taken => do
    if (← Reader.peek) = some quote then pure taken
    else
      let gap ← takeQuotedGap
      let content ← takeContent double ((← get).rest.length + 1) []
      takeToQuote quote double fuel (taken ++ gap ++ content)

/-- A quoted scalar, from its opening quote on. -/
def takeQuoted (double : Bool) : Reader Text := do
  let quote := if double then doubleQuote else singleQuote
  Reader.forward 1
  let fuel := (← get).rest.length + 1
  let content ← takeContent double fuel []
  let taken ← takeToQuote quote double fuel content
  Reader.forward 1
  pure taken

end Conformance.Yaml.Scalar
