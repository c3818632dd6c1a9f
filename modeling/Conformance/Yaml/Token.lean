import Conformance.Yaml.Directive
import Conformance.Yaml.Scalar.Block
import Conformance.Yaml.Scalar.Quoted

/-!
# Tokens of a YAML text

Tokens make the layout explicit: deeper indentation opens a block collection, and every block
collection is closed. A mapping key needs no mark of its own; that something was a key shows only
at the colon after it, within one line and 1024 code points. Its mark is then put in front of it.

A text that breaks off with a fault still has the tokens before the fault, except that nothing is
handed on from a token that might yet have turned out to be a key.
-/
namespace Conformance.Yaml

inductive Token where
  | directive (content : Directive)
  | documentStart
  | documentEnd
  | blockSequenceStart
  | blockMappingStart
  | blockEnd
  | flowSequenceStart
  | flowSequenceEnd
  | flowMappingStart
  | flowMappingEnd
  | flowEntry
  | blockEntry
  | key
  | value
  | alias (name : Text)
  | anchor (name : Text)
  | tag (content : WrittenTag)
  | scalar (content : Text) (plain : Bool)
deriving DecidableEq

/-- What may turn out to be a mapping key. -/
structure KeyCandidate where
  /-- How many tokens stand before it. -/
  tokensBefore : Nat
  /-- Whether the layout allows nothing but a key here. -/
  required : Bool
  index : Nat
  line : Nat
  column : Nat

/-- The tokens so far and what the layout around the cursor is. -/
structure Layout where
  cursor : Cursor
  /-- From last to first. -/
  tokens : List Token
  /-- How many flow collections are open. -/
  flowLevel : Nat
  /-- The column of the innermost block collection; −1 outside of all. -/
  indent : Int
  /-- The columns around it, inner ones first. -/
  outerIndents : List Int
  /-- Whether a key without a mark may begin here. -/
  keyAllowed : Bool
  /-- Candidates by flow level, at most one for each. -/
  candidates : List (Nat × KeyCandidate)

/-- A step of reading tokens. -/
abbrev Tokenizer (α : Type) := StateT Layout (Except Fault) α

namespace Tokenizer

def malformed {α : Type} : Tokenizer α := throw .malformed

/-- Reads at the cursor. -/
def read {α : Type} (reader : Reader α) : Tokenizer α := do
  let s ← get
  match reader.run s.cursor with
  | .error fault => throw fault
  | .ok (result, cursor) =>
    set { s with cursor }
    pure result

def emit (token : Token) : Tokenizer Unit :=
  modify fun s => { s with tokens := token :: s.tokens }

def inFlow : Tokenizer Bool := do pure (0 < (← get).flowLevel)

def allowKey (allowed : Bool) : Tokenizer Unit := modify fun s => { s with keyAllowed := allowed }

/-! ### Keys without a mark -/

/-- Whether a candidate is on another line or too far back to be a key. -/
def isStale (c : Cursor) (k : KeyCandidate) : Bool := k.line ≠ c.line || 1024 < c.index - k.index

/-- Gives up the candidates that can no longer be keys. -/
def dropStale : Tokenizer Unit := do
  let s ← get
  if s.candidates.any fun (_, k) => isStale s.cursor k && k.required then malformed
  set { s with candidates := s.candidates.filter fun (_, k) => !isStale s.cursor k }

/-- Gives up the candidate of this flow level. -/
def dropCandidate : Tokenizer Unit := do
  let s ← get
  if s.candidates.any fun (level, k) => level = s.flowLevel && k.required then malformed
  set { s with candidates := s.candidates.filter fun (level, _) => level ≠ s.flowLevel }

/-- Notes that the next token may be a key. -/
def noteCandidate : Tokenizer Unit := do
  let s ← get
  if s.keyAllowed then
    let required := s.flowLevel = 0 && s.indent = s.cursor.column
    dropCandidate
    modify fun s =>
      { s with candidates := (s.flowLevel, ⟨s.tokens.length, required, s.cursor.index,
          s.cursor.line, s.cursor.column⟩) :: s.candidates }

/-- Puts a token in front of all but so many. -/
def insertAfter (count : Nat) (token : Token) (tokens : List Token) : List Token :=
  let later := tokens.length - count
  tokens.take later ++ token :: tokens.drop later

/-! ### Indentation -/

/-- Closes the block collections that are indented deeper than a column. -/
def closeBlocks (column : Int) : Nat → Tokenizer Unit
  | 0 => pure ()
  | fuel + 1 => do
    let s ← get
    if s.flowLevel = 0 ∧ column < s.indent then
      match s.outerIndents with
      | [] => pure ()
      | outer :: rest =>
        set { s with indent := outer, outerIndents := rest, tokens := .blockEnd :: s.tokens }
        closeBlocks column fuel

def closeTo (column : Int) : Tokenizer Unit := do
  closeBlocks column ((← get).outerIndents.length + 1)

/-- Enters a block collection at a column, unless it is open there; says whether it is new. -/
def indentTo (column : Nat) : Tokenizer Bool := do
  let s ← get
  if s.indent < column then
    set { s with indent := (column : Int), outerIndents := s.indent :: s.outerIndents }
    pure true
  else pure false

/-! ### Single tokens -/

/-- Goes over so many code points and gives a token for them. -/
def mark (length : Nat) (token : Token) : Tokenizer Unit := do
  read (Reader.forward length)
  emit token

/-- A token that stands at the left margin. -/
def atMargin (token : Tokenizer Unit) : Tokenizer Unit := do
  closeTo (-1)
  dropCandidate
  allowKey false
  token

def flowStart (token : Token) : Tokenizer Unit := do
  noteCandidate
  modify fun s => { s with flowLevel := s.flowLevel + 1, keyAllowed := true }
  mark 1 token

def flowEnd (token : Token) : Tokenizer Unit := do
  dropCandidate
  if !(← inFlow) then malformed
  modify fun s => { s with flowLevel := s.flowLevel - 1, keyAllowed := false }
  mark 1 token

def flowEntry : Tokenizer Unit := do
  allowKey true
  dropCandidate
  mark 1 .flowEntry

/-- Outside of flow collections, opens a block collection here; a key must be allowed here. -/
def openBlock (start : Token) : Tokenizer Unit := do
  if !(← inFlow) then
    if !(← get).keyAllowed then malformed
    if ← indentTo (← get).cursor.column then emit start

def blockEntry : Tokenizer Unit := do
  openBlock .blockSequenceStart
  allowKey true
  dropCandidate
  mark 1 .blockEntry

def keyMark : Tokenizer Unit := do
  openBlock .blockMappingStart
  allowKey (!(← inFlow))
  dropCandidate
  mark 1 .key

/-- A colon after a key. What stands before it on this flow level turns out to be that key. -/
def valueMark : Tokenizer Unit := do
  let s ← get
  match s.candidates.find? fun entry => entry.1 = s.flowLevel with
  | some (_, k) =>
    set { s with
      candidates := s.candidates.filter fun (level, _) => level ≠ s.flowLevel
      tokens := insertAfter k.tokensBefore .key s.tokens
      keyAllowed := false }
    if !(← inFlow) then
      if ← indentTo k.column then
        modify fun s =>
          { s with tokens := insertAfter k.tokensBefore .blockMappingStart s.tokens }
  | none =>
    openBlock .blockMappingStart
    allowKey (!(← inFlow))
    dropCandidate
  mark 1 .value

/-- A token that may be a key, after which none may begin. -/
def keyLike (token : Reader Token) : Tokenizer Unit := do
  noteCandidate
  allowKey false
  emit (← read token)

/-- The name of an anchor or alias, after its mark. -/
def takeName : Reader Text := do
  Reader.forward 1
  let name ← Reader.takeWhile isNamePoint
  let c ← get
  let ends := c.gapAt 0 || (c.peek 0).any fun x => (Text.ofString "?:,]\x7d%@\x60").contains x
  if name.isEmpty ∨ ¬ends then Reader.malformed
  pure name

def blockScalar (folded : Bool) : Tokenizer Unit := do
  allowKey true
  dropCandidate
  let content ← read (Scalar.takeBlock folded (← get).indent)
  emit (.scalar content false)

def plainScalar : Tokenizer Unit := do
  noteCandidate
  let s ← get
  let (content, atLineStart) ← read (Scalar.takePlain (0 < s.flowLevel) (s.indent + 1))
  allowKey atLineStart
  emit (.scalar content true)

/-- Whether a plain scalar may begin here. -/
def startsPlain (s : Layout) : Bool :=
  match s.cursor.peek 0 with
  | none => false
  | some x =>
    !(s.cursor.gapAt 0 || (Text.ofString "-?:,[]\x7b\x7d#&*!|>'\"%@\x60").contains x)
      || (!s.cursor.gapAt 1 && (x = '-' || (s.flowLevel = 0 && (x = '?' || x = ':'))))

/-! ### The next token -/

/-- Goes to the next token; a new line outside of flow collections may begin with a key. -/
def skipToToken : Nat → Tokenizer Unit
  | 0 => pure ()
  | fuel + 1 => do
    read Reader.skipSpaces
    read Reader.skipComment
    match ← read Reader.takeBreak with
    | [] => pure ()
    | _ =>
      if !(← inFlow) then allowKey true
      skipToToken fuel

/-- Reads the tokens that begin with a code point. -/
def token (x : CodePoint) : Tokenizer Unit := do
  let s ← get
  let c := s.cursor
  let block := s.flowLevel = 0
  if x = '%' ∧ c.column = 0 then
    atMargin do emit (.directive (← read Reader.takeDirective))
  else if c.column = 0 ∧ c.startsWith "---" ∧ c.gapAt 3 then atMargin (mark 3 .documentStart)
  else if c.column = 0 ∧ c.startsWith "..." ∧ c.gapAt 3 then atMargin (mark 3 .documentEnd)
  else if x = '[' then flowStart .flowSequenceStart
  else if x = '\x7b' then flowStart .flowMappingStart
  else if x = ']' then flowEnd .flowSequenceEnd
  else if x = '\x7d' then flowEnd .flowMappingEnd
  else if x = ',' then flowEntry
  else if x = '-' ∧ c.gapAt 1 then blockEntry
  else if x = '?' ∧ (¬block ∨ c.gapAt 1) then keyMark
  else if x = ':' ∧ (¬block ∨ c.gapAt 1) then valueMark
  else if x = '*' then keyLike do pure (.alias (← takeName))
  else if x = '&' then keyLike do pure (.anchor (← takeName))
  else if x = '!' then keyLike do pure (.tag (← Reader.takeTag))
  else if x = '|' ∧ block then blockScalar false
  else if x = '>' ∧ block then blockScalar true
  else if x = '\'' then keyLike do pure (.scalar (← Scalar.takeQuoted false) false)
  else if x = '"' then keyLike do pure (.scalar (← Scalar.takeQuoted true) false)
  else if startsPlain s then plainScalar
  else malformed

/-- Reads the next tokens; says whether the text went on. -/
def advance : Tokenizer Bool := do
  let s ← get
  skipToToken (s.cursor.rest.length + 1)
  dropStale
  closeTo (← get).cursor.column
  match (← get).cursor.peek 0 with
  | none =>
    closeTo (-1)
    dropCandidate
    pure false
  | some x =>
    token x
    pure true

/-- The tokens before the first one that may still turn out to be a key. -/
def settledTokens (s : Layout) : List Token :=
  let unsettled := s.candidates.filter fun (_, k) => !isStale s.cursor k
  s.tokens.reverse.take <|
    unsettled.foldl (fun count (_, k) => min count k.tokensBefore) s.tokens.length

/-- Tokens up to the end or the first fault. -/
def run : Nat → Layout → List Token × Option Fault
  | 0, s => (s.tokens.reverse, none)
  | fuel + 1, s =>
    match StateT.run advance s with
    | .error fault => (settledTokens s, some fault)
    | .ok (true, s) => run fuel s
    | .ok (false, s) => (s.tokens.reverse, none)

end Tokenizer

/-- The cursor at the start of a text, after a byte order mark. -/
def Cursor.atStart (t : Text) : Cursor :=
  match t with
  | [] => .ofText t
  | x :: _ => if x.toNat = 0xFEFF then (Cursor.ofText t).step else .ofText t

/-- The tokens of a text up to the end or the first fault, and that fault. -/
def Token.scan (t : Text) : List Token × Option Fault :=
  if t.all isPrintable then
    Tokenizer.run (t.length + 2)
      { cursor := .atStart t, tokens := [], flowLevel := 0, indent := -1, outerIndents := []
        keyAllowed := true, candidates := [] }
  else ([], some .malformed)

end Conformance.Yaml
