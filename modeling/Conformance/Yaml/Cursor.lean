import Conformance.Yaml.Fault

/-!
# A place in a YAML text

The cursor counts lines and columns, on which the notation depends. A line ends at a line feed, a
carriage return, the two together, a next line, a line separator or a paragraph separator. A byte
order mark takes no column.
-/
namespace Conformance.Yaml

/-- Whether a text may hold a code point. -/
def isPrintable (c : CodePoint) : Bool :=
  let n := c.toNat
  n = 9 || n = 10 || n = 13 || (0x20 ≤ n && n ≤ 0x7E) || n = 0x85 || (0xA0 ≤ n && n ≤ 0xD7FF)
    || (0xE000 ≤ n && n ≤ 0xFFFD) || 0x10000 ≤ n

def isBreak (c : CodePoint) : Bool :=
  let n := c.toNat
  n = 10 || n = 13 || n = 0x85 || n = 0x2028 || n = 0x2029

def isSpace (c : CodePoint) : Bool := c = ' '

def isSpaceOrTab (c : CodePoint) : Bool := c = ' ' || c.toNat = 9

/-- Code points of the names of anchors and directives. -/
def isNamePoint (c : CodePoint) : Bool :=
  c.isDigit || (65 ≤ c.toNat && c.toNat ≤ 90) || (97 ≤ c.toNat && c.toNat ≤ 122)
    || c = '-' || c = '_'

/-- A place in a text: what is left, and how far it is from the start. -/
structure Cursor where
  rest : Text
  index : Nat
  line : Nat
  column : Nat

namespace Cursor

def ofText (t : Text) : Cursor := ⟨t, 0, 0, 0⟩

/-- Steps over one code point. -/
def step (c : Cursor) : Cursor :=
  match c.rest with
  | [] => c
  | x :: rest =>
    if isBreak x ∧ ¬(x.toNat = 13 ∧ rest.head? = some ('\n' : CodePoint)) then
      ⟨rest, c.index + 1, c.line + 1, 0⟩
    else if x.toNat = 0xFEFF then { c with rest, index := c.index + 1 }
    else ⟨rest, c.index + 1, c.line, c.column + 1⟩

def forward : Nat → Cursor → Cursor
  | 0, c => c
  | n + 1, c => forward n c.step

/-- The code point so far ahead; none past the end. -/
def peek (c : Cursor) (ahead : Nat) : Option CodePoint := c.rest[ahead]?

/-- Whether the end or a code point of a kind lies so far ahead. -/
def endsOr (kind : CodePoint → Bool) (c : Cursor) (ahead : Nat) : Bool :=
  match c.peek ahead with
  | none => true
  | some x => kind x

/-- Whether the end, a break, a space or a tab lies so far ahead. -/
def gapAt (c : Cursor) (ahead : Nat) : Bool :=
  c.endsOr (fun x => isSpaceOrTab x || isBreak x) ahead

/-- Whether the end, a break or a space comes next. -/
def atSpaceOrEnd (c : Cursor) : Bool := c.endsOr (fun x => isSpace x || isBreak x) 0

/-- Whether the end or a break comes next. -/
def atLineEnd (c : Cursor) : Bool := c.endsOr isBreak 0

/-- Whether a text comes next. -/
def startsWith (t : Text) (c : Cursor) : Bool := (t.after? c.rest).isSome

/-- Whether a line of three hyphens or three points begins here. -/
def atSeparator (c : Cursor) : Bool :=
  (c.startsWith "---" || c.startsWith "...") && c.gapAt 3

end Cursor

/-- A step of reading that moves the cursor. -/
abbrev Reader (α : Type) := StateT Cursor (Except Fault) α

namespace Reader

def malformed {α : Type} : Reader α := throw .malformed

/-- The next code point. -/
def peek : Reader (Option CodePoint) := do pure ((← get).peek 0)

def forward (count : Nat) : Reader Unit := modify (Cursor.forward count)

/-- Takes as many code points as are of a kind. -/
def takeWhile (kind : CodePoint → Bool) : Reader Text := do
  let taken := (← get).rest.takeWhile kind
  forward taken.length
  pure taken

def skipSpaces : Reader Unit := do let _ ← takeWhile isSpace

/-- Takes a line break, if one comes next. It is written as a line feed, unless it is a line or
paragraph separator. -/
def takeBreak : Reader Text := do
  match (← get).rest with
  | [] => pure []
  | x :: rest =>
    if x.toNat = 13 ∧ rest.head? = some ('\n' : CodePoint) then
      forward 2
      pure "\n"
    else if x.toNat = 0x2028 ∨ x.toNat = 0x2029 then
      forward 1
      pure [x]
    else if isBreak x then
      forward 1
      pure "\n"
    else pure []

/-- Skips a comment, if one begins here. -/
def skipComment : Reader Unit := do
  if (← peek) = some ('#' : CodePoint) then
    let _ ← takeWhile fun x => !isBreak x

/-- Skips blanks and a comment up to the end of the line and that too; nothing else may stand
there. -/
def skipRestOfLine : Reader Unit := do
  skipSpaces
  skipComment
  if (← get).atLineEnd then
    let _ ← takeBreak
  else malformed

end Reader
end Conformance.Yaml
