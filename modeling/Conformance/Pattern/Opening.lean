import Conformance.Pattern.Scan
import Conformance.Unicode.Identifier
import Conformance.Unicode.Letter

/-!
# How groups begin

A question mark after an opening parenthesis starts a name, flags, look-around, a condition, a
comment or a reference; without one the group captures what it matches.
-/
namespace Conformance.Pattern

/-- What an opening parenthesis and what follows it ask for. -/
inductive Opening where
  | capture (name : Option Text)
  | plain
  | flagged (on off : Flags)
  | atomic
  | lookAround (behind negative : Bool)
  | conditional (group : Nat)
  /-- A reference that has been read to its end. -/
  | reference (group : Nat)
  | comment
  /-- Flags of the whole pattern, read to their end. -/
  | wholePattern

namespace Reader

/-! ### Flags -/

/-- The flag letters of a token; the letter for locales counts as one. -/
def isFlag (token : Token) : Bool :=
  match token with
  | .plain c => (Flags.ofLetter? c).isSome || c = 'L'
  | .escape _ => false

/-- A token where a flag or a certain mark is wanted. -/
def refuseFlag {α : Type} (token : Token) (wanted : Text) : Reader α :=
  match token with
  | .plain c =>
    if Unicode.isLetter c then failBack .unknownFlag 1 else failBack (.missing wanted) 1
  | .escape _ => failBack (.missing wanted) 2

/-- Flags to turn on, from the token given up to one of the marks `)`, `-` and `:`, and that mark. -/
def readFlagsOn : Nat → Flags → Token → Reader (Flags × Token)
  | 0, on, token => pure (on, token)
  | fuel + 1, on, token => do
    match token.plain? (fun _ => true) with
    | none => refuseFlag token "-, : or )"
    | some letter =>
      match Flags.ofLetter? letter with
      | none => fail .localeFlag
      | some flag =>
        let on := on.union flag
        if on.basicOnly && on.allCharacters then fail .clashingFlags
        match ← next with
        | none => fail (.missing "-, : or )")
        | some token =>
          if token = .plain ')' ∨ token = .plain '-' ∨ token = .plain ':' then pure (on, token)
          else if isFlag token then readFlagsOn fuel on token
          else refuseFlag token "-, : or )"

/-- Flags to turn off, from the token given up to a colon. -/
def readFlagsOff : Nat → Flags → Token → Reader Flags
  | 0, off, _ => pure off
  | fuel + 1, off, token => do
    match (token.plain? fun _ => true).bind Flags.ofLetter? with
    | none => fail .turnsOffCharacterFlag
    | some flag =>
      if flag.basicOnly || flag.allCharacters then fail .turnsOffCharacterFlag
      let off := off.union flag
      match ← next with
      | none => fail (.missing ":")
      | some token =>
        if token = .plain ':' then pure off
        else if isFlag token then readFlagsOff fuel off token
        else refuseFlag token ":"

/-- Flags from the token given on: of the whole pattern, or of a group. -/
def readFlags (token : Token) : Reader Opening := do
  let fuel := (← get).size + 1
  let (on, mark) ← if token = .plain '-' then pure ({}, token) else readFlagsOn fuel {} token
  if mark = .plain ')' then
    modify fun s => { s with flags := s.flags.union on }
    pure .wholePattern
  else
    if on.template then failBack .turnsOnWholePatternFlag 1
    let off ←
      if mark = .plain '-' then
        match ← next with
        | none => fail (.missing "flag")
        | some token => if isFlag token then readFlagsOff fuel {} token else refuseFlag token "flag"
      else pure {}
    if off.template then failBack .turnsOffWholePatternFlag 1
    if on.meets off then failBack .flagOnAndOff 1
    pure (.flagged on off)

/-! ### Names, references and conditions -/

/-- The name of a group up to a closing code point. -/
def readGroupName (closing : CodePoint) : Reader Text := do
  let name ← takeName closing "group name"
  if Unicode.isIdentifier name then pure name
  else failBack (.badGroupName name) (name.length + 1)

/-- The group of a name that has been read with a closing code point. -/
def groupNamed (name : Text) : Reader Nat := do
  match (← get).names.find? fun entry => entry.1 = name with
  | some (_, group) => pure group
  | none => failBack (.unknownGroupName name) (name.length + 1)

/-- A reference to a group by name. -/
def readNamedReference : Reader Opening := do
  let name ← readGroupName ')'
  let group ← groupNamed name
  if ((← get).width? group).isNone then failBack .openGroup (name.length + 1)
  checkLookBehind group
  pure (.reference group)

/-- Numbers of groups are below this. -/
def groupLimit : Nat := Nat.pow 2 31 - 1

/-- The group that a condition asks for by its number. -/
def groupNumbered (name : Text) : Reader Nat := do
  match Numeral.parseInt name with
  | .error _ => failBack (.badGroupName name) (name.length + 1)
  | .ok number =>
    if number < 0 then failBack (.badGroupName name) (name.length + 1)
    else if number = 0 then failBack .badGroupNumber (name.length + 1)
    else
      let group := number.toNat
      if groupLimit ≤ group then failBack (.unknownGroup group) (name.length + 1)
      modify fun s =>
        if s.asked.any (·.1 = group) then s
        else { s with asked := s.asked ++ [(group, s.offset - name.length - 1)] }
      pure group

/-- A condition on a group by name or number. -/
def readCondition : Reader Opening := do
  let name ← takeName ')' "group name"
  let group ← if Unicode.isIdentifier name then groupNamed name else groupNumbered name
  checkLookBehind group
  pure (.conditional group)

/-! ### The start of a group -/

/-- The next token, where the pattern must not end. -/
def nextOfConstruct : Reader Token := do
  match ← next with
  | none => fail .unexpectedEnd
  | some token => pure token

/-- What follows a letter `P`. -/
def readNamedConstruct : Reader Opening := do
  if ← accept '<' then pure (.capture (some (← readGroupName '>')))
  else if ← accept '=' then readNamedReference
  else
    let token ← nextOfConstruct
    failBack (.unknownExtension ("?P" ++ token.text)) (token.text.length + 2)

/-- What follows a less-than sign. -/
def readLookBehind : Reader Opening := do
  let token ← nextOfConstruct
  if token = .plain '=' then pure (.lookAround true false)
  else if token = .plain '!' then pure (.lookAround true true)
  else failBack (.unknownExtension ("?<" ++ token.text)) (token.text.length + 2)

/-- The start of a group whose parenthesis, at a place, has been read. -/
def readOpening (start : Nat) : Reader Opening := do
  if !(← accept '?') then return .capture none
  let token ← nextOfConstruct
  if token = .plain 'P' then readNamedConstruct
  else if token = .plain ':' then pure .plain
  else if token = .plain '#' then
    skipComment start (← get).size
    pure .comment
  else if token = .plain '=' then pure (.lookAround false false)
  else if token = .plain '!' then pure (.lookAround false true)
  else if token = .plain '<' then readLookBehind
  else if token = .plain '(' then readCondition
  else if token = .plain '>' then pure .atomic
  else if isFlag token || token = .plain '-' then readFlags token
  else failBack (.unknownExtension (("?" : Text) ++ token.text)) (token.text.length + 1)

end Reader
end Conformance.Pattern
