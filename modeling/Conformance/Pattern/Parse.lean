import Conformance.Pattern.Bracket
import Conformance.Pattern.Branches
import Conformance.Pattern.Opening
import Conformance.Pattern.Quantifier

/-!
# Trees from patterns

A pattern is branches between bars; a branch is items in a row. Every call of the reader takes a
token or goes from branches to a branch, so four times the length of the pattern bounds the depth of
calls.

Flags given at the start hold for the whole pattern. A group has the flags around it, changed as it
says; groups that change none dissolve into the sequence around them once it has been read.
-/
namespace Conformance.Pattern

/-- White space that verbose patterns skip. -/
def isLayout (c : CodePoint) : Bool := c = ' ' || (9 ≤ c.toNat && c.toNat ≤ 13)

/-- Any code point but a line feed, or any at all. -/
def anyPoint (flags : Flags) : CharSet :=
  ⟨true, if flags.dotAll then [] else [.single '\n'], .exact⟩

namespace Reader

/-- The flags that hold here: those of the group, or outside of groups those of the pattern. -/
def flagsHere (group : Option Flags) : Reader Flags := do
  pure (group.getD (← get).flags)

/-- Takes the parenthesis that closes a group opened at a place. -/
def close (start : Nat) : Reader Unit := do
  if !(← accept ')') then failAt .unterminatedGroup start

/-- Enters a look-behind and says whether it is the outermost. -/
def enterLookBehind : Reader Bool := do
  let s ← get
  if s.lookBehindFrom.isNone then
    set { s with lookBehindFrom := some s.groups.length }
    pure true
  else pure false

def leaveLookBehind : Reader Unit := modify fun s => { s with lookBehindFrom := none }

/-- The items of a sequence in order, from last to first, with plain groups dissolved. -/
def inOrder (items : List Regex) : List Regex :=
  items.reverse.flatMap fun item =>
    match item with
    | .sequence inner => inner
    | item => [item]

/-- An item that is a single token, other than a parenthesis or a quantifier. -/
def readLeaf (flags : Flags) : Token → Reader Regex
  | .escape c => readEscape flags c
  | .plain c => do
    if c = '[' then pure (.unit (← readSet flags))
    else if c = '.' then pure (.unit (anyPoint flags))
    else if c = '^' then pure (.anchor (if flags.multiline then .lineStart else .textStart))
    else if c = '$' then pure (.anchor (if flags.multiline then .lineEnd else .lastLineEnd))
    else pure (.unit (.single flags.folding false c))

mutual

/-- Reads branches, within a group of given flags or outside of groups. -/
def readBranches : Nat → Option Flags → Reader (List Regex)
  | 0, _ => pure []
  | fuel + 1, group => do
    let first ← readSequence fuel group group.isNone []
    let others ← readOthers fuel group
    pure (Regex.join (first :: others))

/-- Reads the branches that follow bars. -/
def readOthers : Nat → Option Flags → Reader (List (List Regex))
  | 0, _ => pure []
  | fuel + 1, group => do
    if ← accept '|' then
      let branch ← readSequence fuel group false []
      pure (branch :: (← readOthers fuel group))
    else pure []

/-- Reads items up to a bar, a closing parenthesis or the end. The items so far stand in reverse
order; `atStart` says that no branch was read before. -/
def readSequence : Nat → Option Flags → Bool → List Regex → Reader (List Regex)
  | 0, _, _, items => pure (inOrder items)
  | fuel + 1, group, atStart, items => do
    match ← peek with
    | none => pure (inOrder items)
    | some token =>
      if token = .plain '|' ∨ token = .plain ')' then pure (inOrder items)
      else
        let start := (← get).offset
        let flags ← flagsHere group
        let _ ← next
        if flags.verbose ∧ (token.plain? isLayout).isSome then
          readSequence fuel group atStart items
        else if flags.verbose ∧ token = .plain '#' then
          skipLine (← get).size
          readSequence fuel group atStart items
        else if token = .plain '(' then
          match ← readOpening start with
          | .comment => readSequence fuel group atStart items
          | .wholePattern =>
            if atStart && items.isEmpty then readSequence fuel group atStart items
            else failAt .flagsNotFirst start
          | opening =>
            let item ← readGroup fuel flags start opening
            readSequence fuel group atStart (item :: items)
        else
          match ← readCounts? token with
          | some counts =>
            readSequence fuel group atStart (← repeatLast start counts items)
          | none =>
            readSequence fuel group atStart ((← readLeaf flags token) :: items)

/-- Reads the rest of a group, given how it begins and the flags around it. -/
def readGroup : Nat → Flags → Nat → Opening → Reader Regex
  | 0, _, _, _ => pure default
  | fuel + 1, flags, start, opening => do
    match opening with
    | .comment | .wholePattern => pure default
    | .reference group => pure (.reference group flags.folding)
    | .capture name =>
      let group ← openGroup name
      let body ← readBranches fuel (some flags)
      close start
      closeGroup group (.sequence body)
      pure (.capture group (.sequence body))
    | .plain =>
      let body ← readBranches fuel (some flags)
      close start
      pure (.sequence body)
    | .flagged on off =>
      let body ← readBranches fuel (some (flags.within on off))
      close start
      pure (.choice [.sequence body])
    | .atomic =>
      let body ← readBranches fuel (some flags)
      close start
      pure (.atomic (.sequence body))
    | .lookAround false negative =>
      let body ← readBranches fuel (some flags)
      close start
      pure (.lookAhead negative (.sequence body))
    | .lookAround true negative =>
      let outermost ← enterLookBehind
      let body ← readBranches fuel (some flags)
      if outermost then leaveLookBehind
      close start
      pure (.lookBehind negative (Regex.width (← groupWidths) (.sequence body)) (.sequence body))
    | .conditional group =>
      let present ← readSequence fuel (some flags) false []
      if ← accept '|' then
        let absent ← readSequence fuel (some flags) false []
        if (← peek) = some (.plain '|') then fail .tooManyBranches
        close start
        pure (.conditional group (.sequence present) (some (.sequence absent)))
      else
        close start
        pure (.conditional group (.sequence present) none)

end

/-- Reads a whole pattern. -/
def readPattern (pattern : Text) : Reader Regex := do
  goTo pattern
  let items ← readBranches (4 * pattern.length + 4) none
  let s ← get
  if s.flags.basicOnly && s.flags.allCharacters then throw .incompatibleFlags
  if !s.rest.isEmpty then fail .unbalancedParenthesis
  match s.asked.find? fun entry => s.groups.length < entry.1 with
  | some (group, place) => failAt (.unknownGroup group) place
  | none => pure (.sequence items)

end Reader

/-! ### Trees that cannot be matched -/

/-- A look-behind has one width, which is not huge. -/
def lookBehindFault? (width : Width) : Option Fault :=
  if Nat.pow 2 32 ≤ width.least then some .lookBehindTooLong
  else if width.least ≠ width.greatest then some .lookBehindWidth
  else none

def Greed.name : Greed → Text
  | .greedy => "MAX_REPEAT"
  | .lazy => "MIN_REPEAT"
  | .possessive => "POSSESSIVE_REPEAT"

namespace Regex

mutual

/-- The first look-behind without one width, or repetition where a template allows none. -/
def fault? (template : Bool) : Regex → Option Fault
  | .unit _ | .anchor _ | .reference .. => none
  | .sequence items => faultAmong? template items
  | .choice branches => faultAmong? template branches
  | .repeated _ _ greed body =>
    if template then some (.repetitionInTemplate greed.name) else fault? template body
  | .capture _ body => fault? template body
  | .atomic body => fault? template body
  | .lookAhead _ body => fault? template body
  | .lookBehind _ width body => (lookBehindFault? width).orElse fun _ => fault? template body
  | .conditional _ present absent =>
    (fault? template present).orElse fun _ =>
      match absent with
      | some absent => fault? template absent
      | none => none

def faultAmong? (template : Bool) : List Regex → Option Fault
  | [] => none
  | item :: rest => (fault? template item).orElse fun _ => faultAmong? template rest

end

/-- The tree of a pattern. -/
def parse (pattern : Text) : Except Error Regex :=
  match (Reader.readPattern pattern).run (.ofPattern pattern) with
  | .error (.placed fault offset) =>
    .error (.placed fault (.ofOffset pattern offset) (pattern.contains ('\n' : CodePoint)))
  | .error .countTooLarge => .error .countTooLarge
  | .error (.countTooLong digits) => .error (.countTooLong digits)
  | .error .incompatibleFlags => .error .incompatibleFlags
  | .ok (tree, s) =>
    match tree.fault? s.flags.template with
    | some fault => .error (.whole fault)
    | none => .ok tree

end Regex
end Conformance.Pattern
