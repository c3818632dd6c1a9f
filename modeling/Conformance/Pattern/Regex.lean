import Conformance.Pattern.CharSet

/-!
# The tree of a pattern

A pattern is a tree of sets of code points, anchors, sequences, choices, repetitions, groups,
look-around, back-references and conditionals. The width of a tree bounds the length of its matches;
a look-behind needs a body of one width.
-/
namespace Conformance.Pattern

/-- Places that a pattern can ask for without reading anything. -/
inductive Anchor where
  | textStart
  | textEnd
  /-- The end of the text, or the last line break if it ends the text. -/
  | lastLineEnd
  | lineStart
  | lineEnd
  | boundary (basicOnly : Bool)
  | noBoundary (basicOnly : Bool)
deriving DecidableEq

/-- In which order a repetition tries its counts. -/
inductive Greed where
  | greedy
  | lazy
  /-- As many as possible, and never fewer afterwards. -/
  | possessive
deriving DecidableEq

/-- Least and greatest length of a match. -/
structure Width where
  least : Nat
  greatest : Nat
deriving DecidableEq

namespace Width

/-- All longer matches count as this long. -/
def limit : Nat := Nat.pow 2 64

def none : Width := ⟨0, 0⟩

def one : Width := ⟨1, 1⟩

def add (a b : Width) : Width := ⟨a.least + b.least, a.greatest + b.greatest⟩

def either (a b : Width) : Width := ⟨min a.least b.least, max a.greatest b.greatest⟩

/-- The width of a repetition. -/
def repeated (least : Nat) (most : Option Nat) (w : Width) : Width :=
  ⟨w.least * least, match most with
    | some most => w.greatest * most
    | .none => if w.greatest = 0 then 0 else limit⟩

def clamp (w : Width) : Width := ⟨min w.least limit, min w.greatest limit⟩

end Width

inductive Regex where
  | unit (set : CharSet)
  | anchor (anchor : Anchor)
  | sequence (items : List Regex)
  | choice (branches : List Regex)
  | repeated (least : Nat) (most : Option Nat) (greed : Greed) (body : Regex)
  | capture (group : Nat) (body : Regex)
  | atomic (body : Regex)
  | lookAhead (negative : Bool) (body : Regex)
  | lookBehind (negative : Bool) (width : Width) (body : Regex)
  | reference (group : Nat) (folding : Folding)
  | conditional (group : Nat) (present : Regex) (absent : Option Regex)

instance : Inhabited Regex := ⟨.sequence []⟩

namespace Regex

mutual

/-- The width of a tree, given those of the groups that references mean. -/
def width (groups : Nat → Width) : Regex → Width
  | .unit _ => .one
  | .anchor _ => .none
  | .sequence items => (widthAll groups items).clamp
  | .choice branches => widthAny groups branches
  | .repeated least most _ body => (Width.repeated least most (width groups body)).clamp
  | .capture _ body => width groups body
  | .atomic body => width groups body
  | .lookAhead .. => .none
  | .lookBehind .. => .none
  | .reference group _ => groups group
  | .conditional _ present absent =>
    match absent with
    | some absent => (width groups present).either (width groups absent)
    | none => ⟨0, (width groups present).greatest⟩

def widthAll (groups : Nat → Width) : List Regex → Width
  | [] => .none
  | item :: rest => (width groups item).add (widthAll groups rest)

def widthAny (groups : Nat → Width) : List Regex → Width
  | [] => .none
  | [branch] => width groups branch
  | branch :: rest => (width groups branch).either (widthAny groups rest)

end

/-- Whether the tree only asks for a place. -/
def isAnchor : Regex → Bool
  | .anchor _ => true
  | _ => false

def isRepetition : Regex → Bool
  | .repeated .. => true
  | _ => false

end Regex
end Conformance.Pattern
