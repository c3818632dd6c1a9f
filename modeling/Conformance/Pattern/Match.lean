import Conformance.Pattern.Regex

/-!
# Matching by backtracking

A tree is matched at a cursor, and what follows it is a continuation: the first way to match the tree
from which the continuation succeeds is taken. The order of the ways is that of the branches, with
more repetitions first when greedy and fewer first when lazy.

A repetition that has its least count stops after a turn that read nothing. So beyond that count
every turn but the last reads something, and the count and the length of the text bound the turns.
-/
namespace Conformance.Pattern

/-- A place in a text and what groups have matched on the way to it. -/
structure Cursor where
  /-- What has been read, last first. -/
  before : Text
  after : Text
  position : Nat
  /-- Where groups last began, by their numbers. -/
  starts : List (Nat × Nat)
  /-- Where groups last ended, by their numbers. -/
  ends : List (Nat × Nat)
deriving DecidableEq

namespace Cursor

/-- The cursor at a place between two parts of a text, the first reversed. -/
def between (before after : Text) : Cursor := ⟨before, after, before.length, [], []⟩

/-- Steps over a code point that satisfies a predicate. -/
def step? (wanted : CodePoint → Bool) (c : Cursor) : Option Cursor :=
  match c.after with
  | [] => none
  | x :: rest =>
    if wanted x then some { c with before := x :: c.before, after := rest, position := c.position + 1 }
    else none

/-- Goes back so many code points, if there are as many. -/
def back? : Nat → Cursor → Option Cursor
  | 0, c => some c
  | n + 1, c =>
    match c.before with
    | [] => none
    | x :: rest => back? n { c with before := rest, after := x :: c.after, position := c.position - 1 }

/-- The value of a number in a list of pairs. -/
def mark? (group : Nat) (marks : List (Nat × Nat)) : Option Nat :=
  (marks.find? fun mark => mark.1 = group).map Prod.snd

def begin (group : Nat) (c : Cursor) : Cursor :=
  { c with starts := (group, c.position) :: c.starts.filter fun mark => mark.1 ≠ group }

def finish (group : Nat) (c : Cursor) : Cursor :=
  { c with ends := (group, c.position) :: c.ends.filter fun mark => mark.1 ≠ group }

/-- Start and end of what a group matched last. -/
def span? (group : Nat) (c : Cursor) : Option (Nat × Nat) := do
  let first ← mark? group c.starts
  let last ← mark? group c.ends
  if first ≤ last then some (first, last) else none

/-- This place, with what groups have matched on the way to another. -/
def withMarks (c other : Cursor) : Cursor := { c with starts := other.starts, ends := other.ends }

/-- Steps over a text, code points compared by a relation. -/
def follow? (same : CodePoint → CodePoint → Bool) : Text → Cursor → Option Cursor
  | [], c => some c
  | x :: rest, c => do follow? same rest (← c.step? (same x))

/-- Steps over what a group matched last. -/
def repeat? (subject : Text) (folding : Folding) (group : Nat) (c : Cursor) : Option Cursor := do
  let (first, last) ← c.span? group
  c.follow? folding.same ((subject.drop first).take (last - first))

end Cursor

namespace Anchor

/-- Whether words begin or end here; never in an empty text. -/
def atBoundary (basicOnly : Bool) (c : Cursor) : Bool :=
  let inWord (t : Text) : Bool := t.head?.any (Category.word.holds basicOnly)
  inWord c.before != inWord c.after

def holds (c : Cursor) : Anchor → Bool
  | .textStart => c.before.isEmpty
  | .textEnd => c.after.isEmpty
  | .lastLineEnd => c.after.isEmpty || c.after = "\n"
  | .lineStart => c.before.isEmpty || c.before.head? = some ('\n' : CodePoint)
  | .lineEnd => c.after.isEmpty || c.after.head? = some ('\n' : CodePoint)
  | .boundary basicOnly => atBoundary basicOnly c
  | .noBoundary basicOnly => !(c.before.isEmpty && c.after.isEmpty) && !atBoundary basicOnly c

end Anchor

/-- A way to go on from a cursor: the cursor at which all is matched, if there is one. -/
abbrev Continuation := Cursor → Option Cursor

namespace Repetition

/-- Whether a count may still grow. -/
def mayGrow (most : Option Nat) (count : Nat) : Bool :=
  match most with
  | some most => count < most
  | none => true

/-- Turns of a greedy repetition from a count on. `last` is where the last free turn began. -/
def greedy (turn : Continuation → Continuation) (least : Nat) (most : Option Nat)
    (go : Continuation) : Nat → Nat → Option Nat → Continuation
  | 0, _, _, c => go c
  | fuel + 1, count, last, c =>
    if count < least then turn (greedy turn least most go fuel (count + 1) last) c
    else if mayGrow most count ∧ last ≠ some c.position then
      (turn (greedy turn least most go fuel (count + 1) (some c.position)) c).orElse fun _ => go c
    else go c

/-- Turns of a lazy repetition from a count on. -/
def lazy (turn : Continuation → Continuation) (least : Nat) (most : Option Nat)
    (go : Continuation) : Nat → Nat → Option Nat → Continuation
  | 0, _, _, c => go c
  | fuel + 1, count, last, c =>
    if count < least then turn (lazy turn least most go fuel (count + 1) last) c
    else
      (go c).orElse fun _ =>
        if mayGrow most count ∧ last ≠ some c.position then
          turn (lazy turn least most go fuel (count + 1) (some c.position)) c
        else none

/-- Where a possessive repetition ends, from a count on; every turn is matched once and kept. -/
def possessive (turn : Continuation → Continuation) (least : Nat) (most : Option Nat) :
    Nat → Nat → Option Nat → Continuation
  | 0, _, _, c => some c
  | fuel + 1, count, last, c =>
    if count < least then (turn some c).bind (possessive turn least most fuel (count + 1) last)
    else if mayGrow most count ∧ last ≠ some c.position then
      match turn some c with
      | some reached => possessive turn least most fuel (count + 1) (some c.position) reached
      | none => some c
    else some c

/-- A repetition in its order of counts. -/
def run (turn : Continuation → Continuation) (least : Nat) (most : Option Nat) (greed : Greed)
    (go : Continuation) (c : Cursor) : Option Cursor :=
  let fuel := least + c.after.length + 2
  match greed with
  | .greedy => greedy turn least most go fuel 0 none c
  | .lazy => lazy turn least most go fuel 0 none c
  | .possessive => (possessive turn least most fuel 0 none c).bind go

end Repetition

namespace Regex

mutual

/-- Matches a tree at a cursor of a text and goes on. -/
def run (subject : Text) : Regex → Continuation → Continuation
  | .unit set, go, c => (c.step? set.contains).bind go
  | .anchor place, go, c => if place.holds c then go c else none
  | .sequence items, go, c => runAll subject items go c
  | .choice branches, go, c => runAny subject branches go c
  | .repeated least most greed body, go, c =>
    Repetition.run (run subject body) least most greed go c
  | .capture group body, go, c =>
    run subject body (fun reached => go (reached.finish group)) (c.begin group)
  | .atomic body, go, c => (run subject body some c).bind go
  | .lookAhead negative body, go, c =>
    match run subject body some c with
    | some reached => if negative then none else go (c.withMarks reached)
    | none => if negative then go c else none
  | .lookBehind negative width body, go, c =>
    match (c.back? width.least).bind (run subject body some) with
    | some reached => if negative then none else go (c.withMarks reached)
    | none => if negative then go c else none
  | .reference group folding, go, c => (c.repeat? subject folding group).bind go
  | .conditional group present absent, go, c =>
    if (c.span? group).isSome then run subject present go c
    else
      match absent with
      | some absent => run subject absent go c
      | none => go c

/-- Matches trees one after the other. -/
def runAll (subject : Text) : List Regex → Continuation → Continuation
  | [], go, c => go c
  | item :: rest, go, c => run subject item (runAll subject rest go) c

/-- Matches the first branch that leads on. -/
def runAny (subject : Text) : List Regex → Continuation → Continuation
  | [], _, _ => none
  | branch :: rest, go, c => (run subject branch go c).orElse fun _ => runAny subject rest go c

end

/-- Whether a tree matches at a place of a text or at a later one. -/
def foundFrom (tree : Regex) (subject : Text) (before : Text) : Text → Bool
  | [] => (tree.run subject some (.between before [])).isSome
  | x :: rest =>
    (tree.run subject some (.between before (x :: rest))).isSome
      || foundFrom tree subject (x :: before) rest

/-- Whether a tree matches somewhere in a text. -/
def foundIn (tree : Regex) (subject : Text) : Bool := tree.foundFrom subject [] subject

end Regex
end Conformance.Pattern
