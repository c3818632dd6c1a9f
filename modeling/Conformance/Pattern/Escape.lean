import Conformance.Pattern.Scan
import Conformance.Unicode.Names

/-!
# Escapes in patterns

A backslash with a letter or digit names a code point, a class, a place or an earlier group; with
any other code point it stands for that one. Inside a set there are neither places nor groups, and
`\b` is the backspace. A code point by its name, as in `\N{COMMA}`, is one that `Unicode.named?`
knows; by any other name it is refused, also by those names that are left out there.
-/
namespace Conformance.Pattern

def isOctal (c : CodePoint) : Bool := 48 ≤ c.toNat && c.toNat ≤ 55

/-- A basic letter of either case. -/
def isBasicLetter (c : CodePoint) : Bool :=
  (65 ≤ c.toNat && c.toNat ≤ 90) || (97 ≤ c.toNat && c.toNat ≤ 122)

/-- Letters after a backslash that name a control character, in sets and outside. -/
def controls : List (Char × Nat) :=
  [('a', 7), ('f', 12), ('n', 10), ('r', 13), ('t', 9), ('v', 11), ('\\', 92)]

def control? (c : CodePoint) : Option CodePoint :=
  (controls.find? fun entry => CodePoint.ofChar entry.1 = c).map fun entry => .ofNat entry.2

/-- Letters after a backslash that name a class, or in capitals all that it leaves out. -/
def category? (c : CodePoint) : Option (Category × Bool) :=
  if c = 'd' then some (.digit, false)
  else if c = 'D' then some (.digit, true)
  else if c = 's' then some (.space, false)
  else if c = 'S' then some (.space, true)
  else if c = 'w' then some (.word, false)
  else if c = 'W' then some (.word, true)
  else none

/-- Letters after a backslash that name a place. -/
def anchor? (flags : Flags) (c : CodePoint) : Option Anchor :=
  if c = 'A' then some .textStart
  else if c = 'Z' then some .textEnd
  else if c = 'b' then some (.boundary flags.basicOnly)
  else if c = 'B' then some (.noBoundary flags.basicOnly)
  else none

namespace Reader

/-- The code point of so many hexadecimal digits after a backslash and a letter. -/
def readHex (letter : CodePoint) (count : Nat) : Reader CodePoint := do
  let digits ← takeWhile (fun c => c.hexValue?.isSome) count
  let escape : Text := '\\' :: letter :: digits
  if digits.length < count then failBack (.incompleteEscape escape) escape.length
  let value := Numeral.valueIn 16 digits
  if value < 0x110000 then pure (.ofNat value)
  else failBack (.unknownEscape escape) escape.length

/-- The code point of a name between braces. -/
def readNamed : Reader CodePoint := do
  if !(← accept '\x7b') then fail (.missing "\x7b")
  let name ← takeName '\x7d' "character name"
  match Unicode.named? name with
  | some c => pure c
  | none => failBack (.unknownCharacter name) (name.length + 4)

/-- The value of octal digits after a backslash. -/
def octalValue (digits : Text) : Reader CodePoint := do
  let value := Numeral.valueIn 8 digits
  if 0o377 < value then
    failBack (.octalOutOfRange ('\\' :: digits)) (digits.length + 1)
  else pure (.ofNat value)

/-- The code point that an escape stands for by its number or name, by itself, or not at all. -/
def readCodePoint (c : CodePoint) : Reader CodePoint := do
  if c = 'x' then readHex c 2
  else if c = 'u' then readHex c 4
  else if c = 'U' then readHex c 8
  else if c = 'N' then readNamed
  else if isBasicLetter c || c.isDigit then failBack (.unknownEscape ['\\', c]) 2
  else pure c

/-- An escape inside a set. -/
def readSetEscape (flags : Flags) (c : CodePoint) : Reader SetItem := do
  match control? c, category? c with
  | some point, _ => pure (.single point)
  | _, some (kind, negated) => pure (.category kind negated flags.basicOnly)
  | _, _ =>
    if c = 'b' then pure (.single (.ofNat 8))
    else if isOctal c then
      let digits ← takeWhile isOctal 2
      pure (.single (← octalValue (c :: digits)))
    else pure (.single (← readCodePoint c))

/-- A reference to a group by the digits of its number after a backslash. -/
def readReference (flags : Flags) (digits : Text) : Reader Regex := do
  let group := Text.natValue digits
  let s ← get
  if group < s.nextGroup then
    if (s.width? group).isNone then failBack .openGroup (digits.length + 1)
    checkLookBehind group
    pure (.reference group flags.folding)
  else failBack (.unknownGroup group) digits.length

/-- Digits after a backslash: three octal ones, or a zero with at most two more, are a code point;
else they are the number of a group. -/
def readDigits (flags : Flags) (first : CodePoint) : Reader Regex := do
  let literal (c : CodePoint) : Regex := .unit (.single flags.folding false c)
  if first = '0' then
    let digits ← takeWhile isOctal 2
    pure (literal (← octalValue (first :: digits)))
  else
    match ← takeWhile CodePoint.isDigit 1 with
    | [] => readReference flags [first]
    | second :: _ =>
      if isOctal first && isOctal second then
        match ← takeWhile isOctal 1 with
        | [] => readReference flags [first, second]
        | third :: _ => pure (literal (← octalValue [first, second, third]))
      else readReference flags [first, second]

/-- An escape outside of sets. -/
def readEscape (flags : Flags) (c : CodePoint) : Reader Regex := do
  match category? c, anchor? flags c, control? c with
  | some (kind, negated), _, _ =>
    pure (.unit ⟨false, [.category kind negated flags.basicOnly], flags.folding⟩)
  | _, some anchor, _ => pure (.anchor anchor)
  | _, _, some point => pure (.unit (.single flags.folding false point))
  | _, _, _ =>
    if c.isDigit then readDigits flags c
    else pure (.unit (.single flags.folding false (← readCodePoint c)))

end Reader
end Conformance.Pattern
