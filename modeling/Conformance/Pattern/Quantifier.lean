import Conformance.Pattern.Scan

/-!
# How often an item repeats

A star, a plus, a question mark or a range of counts in braces repeats the item before it. Braces
that hold no range stand for themselves. A question mark after it makes a repetition lazy, a plus
possessive.
-/
namespace Conformance.Pattern

/-- Least and greatest count of a repetition; none for no greatest. -/
structure Counts where
  least : Nat
  most : Option Nat
deriving DecidableEq

/-- Counts from here on are refused. -/
def countLimit : Nat := Nat.pow 2 32 - 1

namespace Reader

/-- The number that digits stand for; none if there are none. -/
def readCount (digits : Text) : Reader (Option Nat) := do
  if digits.isEmpty then pure none
  else if maxIntegerDigits < digits.length then throw (.countTooLong digits.length)
  else
    let value := Text.natValue digits
    if countLimit ≤ value then throw .countTooLarge else pure (some value)

/-- The counts in braces whose opening brace has been read; none if the braces hold no counts, and
then nothing more has been read. -/
def readBraces : Reader (Option Counts) := do
  let s ← get
  if (← peek) = some (.plain '\x7d') then return none
  let low ← takeAll CodePoint.isDigit
  let high ← if ← accept ',' then takeAll CodePoint.isDigit else pure low
  if ← accept '\x7d' then
    let least := (← readCount low).getD 0
    let most ← readCount high
    if most.any (· < least) then failAt .leastAboveMost s.offset
    pure (some ⟨least, most⟩)
  else
    goTo s.rest
    pure none

/-- The counts that a token which has been read asks for; none if it does not. -/
def readCounts? : Token → Reader (Option Counts)
  | .escape _ => pure none
  | .plain c =>
    if c = '?' then pure (some ⟨0, some 1⟩)
    else if c = '*' then pure (some ⟨0, none⟩)
    else if c = '+' then pure (some ⟨1, none⟩)
    else if c = '\x7b' then readBraces
    else pure none

/-- How eagerly a repetition goes on. -/
def readGreed : Reader Greed := do
  if ← accept '?' then pure .lazy
  else if ← accept '+' then pure .possessive
  else pure .greedy

/-- Repeats the last of the items before a quantifier that was read at a place. The items stand in
reverse order. -/
def repeatLast (start : Nat) (counts : Counts) : List Regex → Reader (List Regex)
  | [] => failAt .nothingToRepeat start
  | item :: earlier => do
    if item.isAnchor then failAt .nothingToRepeat start
    if item.isRepetition then failAt .repeatedTwice start
    pure (.repeated counts.least counts.most (← readGreed) item :: earlier)

end Reader
end Conformance.Pattern
