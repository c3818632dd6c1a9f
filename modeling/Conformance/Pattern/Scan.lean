import Conformance.Pattern.Error
import Conformance.Pattern.Regex

/-!
# Reading a pattern piece by piece

A pattern is read by tokens: a code point, or a backslash with the one after it. The scan keeps what
is left, the flags of the whole pattern, and what is known about groups. A pattern that ends in a
backslash is refused as soon as that backslash comes next.
-/
namespace Conformance.Pattern

/-- What the letters inside a group of flags turn on. -/
structure Flags where
  ignoreCase : Bool := false
  multiline : Bool := false
  dotAll : Bool := false
  verbose : Bool := false
  /-- Classes, boundaries and case of the basic characters alone. -/
  basicOnly : Bool := false
  /-- Classes, boundaries and case of all characters, asked for explicitly. -/
  allCharacters : Bool := false
  /-- Repetitions are forbidden. -/
  template : Bool := false
deriving DecidableEq

namespace Flags

def union (a b : Flags) : Flags where
  ignoreCase := a.ignoreCase || b.ignoreCase
  multiline := a.multiline || b.multiline
  dotAll := a.dotAll || b.dotAll
  verbose := a.verbose || b.verbose
  basicOnly := a.basicOnly || b.basicOnly
  allCharacters := a.allCharacters || b.allCharacters
  template := a.template || b.template

def meets (a b : Flags) : Bool :=
  (a.ignoreCase && b.ignoreCase) || (a.multiline && b.multiline) || (a.dotAll && b.dotAll)
    || (a.verbose && b.verbose) || (a.basicOnly && b.basicOnly)
    || (a.allCharacters && b.allCharacters) || (a.template && b.template)

/-- Flags inside a group that turns some on and some off. -/
def within (outer on off : Flags) : Flags where
  ignoreCase := (outer.ignoreCase || on.ignoreCase) && !off.ignoreCase
  multiline := (outer.multiline || on.multiline) && !off.multiline
  dotAll := (outer.dotAll || on.dotAll) && !off.dotAll
  verbose := (outer.verbose || on.verbose) && !off.verbose
  basicOnly := on.basicOnly || (outer.basicOnly && !on.allCharacters)
  allCharacters := on.allCharacters || (outer.allCharacters && !on.basicOnly)
  template := outer.template

def folding (f : Flags) : Folding :=
  if f.ignoreCase then (if f.basicOnly then .basic else .full) else .exact

/-- The flag of a letter. -/
def ofLetter? (c : CodePoint) : Option Flags :=
  if c = 'i' then some { ignoreCase := true }
  else if c = 'm' then some { multiline := true }
  else if c = 's' then some { dotAll := true }
  else if c = 'x' then some { verbose := true }
  else if c = 'a' then some { basicOnly := true }
  else if c = 'u' then some { allCharacters := true }
  else if c = 't' then some { template := true }
  else none

end Flags

inductive Token where
  | plain (point : CodePoint)
  | escape (point : CodePoint)
deriving DecidableEq

namespace Token

def text : Token → Text
  | .plain c => [c]
  | .escape c => ['\\', c]

/-- The code point of a token that is no escape and satisfies a predicate. -/
def plain? (accept : CodePoint → Bool) : Token → Option CodePoint
  | .plain c => if accept c then some c else none
  | .escape _ => none

end Token

structure Scan where
  /-- The length of the whole pattern. -/
  size : Nat
  rest : Text
  /-- Flags of the whole pattern. -/
  flags : Flags
  /-- Widths of the groups in order; none for a group that is still open. -/
  groups : List (Option Width)
  /-- Groups by name. -/
  names : List (Text × Nat)
  /-- How many groups there were before the outermost look-behind that is being read. -/
  lookBehindFrom : Option Nat
  /-- Groups that conditionals ask for by number, with the places where they do. -/
  asked : List (Nat × Nat)

namespace Scan

def ofPattern (pattern : Text) : Scan :=
  { size := pattern.length, rest := pattern, flags := {}, groups := [], names := [],
    lookBehindFrom := none, asked := [] }

/-- The place of the next token. -/
def offset (s : Scan) : Nat := s.size - s.rest.length

/-- The number of the next group. -/
def nextGroup (s : Scan) : Nat := s.groups.length + 1

/-- The width of a group; none if there is no such group or it is still open. -/
def width? (s : Scan) (group : Nat) : Option Width :=
  if group = 0 then none else (s.groups[group - 1]?).join

end Scan

/-- What stops the reading of a pattern. -/
inductive Halt where
  | placed (fault : Fault) (offset : Nat)
  | countTooLarge
  | countTooLong (digits : Nat)
  | incompatibleFlags

/-- A step of reading a pattern. -/
abbrev Reader (α : Type) := StateT Scan (Except Halt) α

namespace Reader

def failAt {α : Type} (fault : Fault) (offset : Nat) : Reader α :=
  throw (.placed fault offset)

/-- Fails at a place so many code points before the next token. -/
def failBack {α : Type} (fault : Fault) (back : Nat) : Reader α := do
  failAt fault ((← get).offset - back)

def fail {α : Type} (fault : Fault) : Reader α := failBack fault 0

/-- Goes on at a rest of the pattern. -/
def goTo (rest : Text) : Reader Unit := do
  modify fun s => { s with rest }
  if rest = "\\" then failAt .danglingBackslash ((← get).size - 1)

/-- The next token. -/
def peek : Reader (Option Token) := do
  match (← get).rest with
  | [] => pure none
  | [c] => pure (some (.plain c))
  | c :: d :: _ => pure (some (if c = '\\' then .escape d else .plain c))

/-- Takes the next token. -/
def next : Reader (Option Token) := do
  let token ← peek
  match token with
  | none => pure ()
  | some token => goTo ((← get).rest.drop token.text.length)
  pure token

/-- Takes the next token if it is the given code point. -/
def accept (c : CodePoint) : Reader Bool := do
  if (← peek) = some (.plain c) then
    let _ ← next
    pure true
  else pure false

/-- Takes at most so many code points that satisfy a predicate. -/
def takeWhile (wanted : CodePoint → Bool) : Nat → Reader Text
  | 0 => pure []
  | count + 1 => do
    match (← peek).bind (Token.plain? wanted) with
    | none => pure []
    | some c =>
      let _ ← next
      pure (c :: (← takeWhile wanted count))

/-- Takes as many code points as satisfy a predicate. -/
def takeAll (wanted : CodePoint → Bool) : Reader Text := do
  takeWhile wanted (← get).rest.length

/-- Takes the tokens up to a closing code point and that one too. -/
def takeUntil (closing : CodePoint) (part : Text) : Nat → Text → Reader Text
  | 0, taken => pure taken
  | fuel + 1, taken => do
    match ← next with
    | none =>
      if taken.isEmpty then fail (.missing part)
      else failBack (.unterminatedName closing) taken.length
    | some token =>
      if token = .plain closing then
        if taken.isEmpty then failBack (.missing part) 1 else pure taken
      else takeUntil closing part fuel (taken ++ token.text)

/-- The name before a closing code point. -/
def takeName (closing : CodePoint) (part : Text) : Reader Text := do
  takeUntil closing part ((← get).rest.length + 1) []

/-- Skips the tokens up to and with a line feed. -/
def skipLine : Nat → Reader Unit
  | 0 => pure ()
  | fuel + 1 => do
    match ← next with
    | none => pure ()
    | some token => if token = .plain '\n' then pure () else skipLine fuel

/-- Skips a comment in a group that began at a place, with the closing parenthesis. -/
def skipComment (start : Nat) : Nat → Reader Unit
  | 0 => pure ()
  | fuel + 1 => do
    match ← peek with
    | none => failAt .unterminatedComment start
    | some token =>
      let _ ← next
      if token = .plain ')' then pure () else skipComment start fuel

/-- Opens a new group, with a name if there is one. -/
def openGroup (name : Option Text) : Reader Nat := do
  let s ← get
  let group := s.nextGroup
  match name with
  | none => pure ()
  | some name =>
    match s.names.find? fun entry => entry.1 = name with
    | some (_, earlier) => failBack (.redefinedGroup name group earlier) (name.length + 1)
    | none => pure ()
  modify fun s => { s with
    groups := s.groups ++ [none]
    names := match name with
      | none => s.names
      | some name => s.names ++ [(name, group)] }
  pure group

/-- Widths of the groups that references mean. -/
def groupWidths : Reader (Nat → Width) := do
  let s ← get
  pure fun group => (s.width? group).getD .none

def closeGroup (group : Nat) (body : Regex) : Reader Unit := do
  let width := body.width (← groupWidths)
  modify fun s => { s with groups := s.groups.set (group - 1) (some width) }

/-- Inside a look-behind a group must be closed and come from before it. -/
def checkLookBehind (group : Nat) : Reader Unit := do
  let s ← get
  match s.lookBehindFrom with
  | none => pure ()
  | some first =>
    if (s.width? group).isNone then fail .openGroup
    else if first < group then fail .groupInsideLookBehind
    else pure ()

end Reader
end Conformance.Pattern
