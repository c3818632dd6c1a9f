import Conformance.Pattern.Escape

/-!
# Sets between brackets

A set lists code points, escapes and ranges up to the closing bracket; right after the opening one, a
closing bracket stands for itself. A set of one code point is that code point.
-/
namespace Conformance.Pattern

namespace Token

/-- The item that a token of a set stands for. -/
def readItem (flags : Flags) : Token → Reader SetItem
  | .plain c => pure (.single c)
  | .escape c => Reader.readSetEscape flags c

end Token

namespace Reader

/-- The range from one item to another, which both have to be code points, in order. -/
def rangeOf (this that : Token) (low high : SetItem) : Reader SetItem := do
  let refused : Reader SetItem :=
    failBack (.badRange this.text that.text) (this.text.length + 1 + that.text.length)
  match low, high with
  | .single low, .single high => if high.toNat < low.toNat then refused else pure (.range low high)
  | _, _ => refused

/-- The items of a set that was opened at a place, up to the closing bracket. -/
def readItems (flags : Flags) (start : Nat) : Nat → List SetItem → Reader (List SetItem)
  | 0, items => pure items
  | fuel + 1, items => do
    match ← next with
    | none => failAt .unterminatedSet start
    | some this =>
      if this = .plain ']' ∧ ¬items.isEmpty then pure items
      else
        let low ← this.readItem flags
        if ← accept '-' then
          match ← next with
          | none => failAt .unterminatedSet start
          | some that =>
            if that = .plain ']' then pure (items ++ [low, .single '-'])
            else
              let high ← that.readItem flags
              readItems flags start fuel (items ++ [← rangeOf this that low high])
        else readItems flags start fuel (items ++ [low])

/-- Keeps the first of equal items. -/
def distinctItems (items : List SetItem) : List SetItem :=
  items.foldl (fun kept item => if kept.contains item then kept else kept ++ [item]) []

/-- A set whose opening bracket has been read. -/
def readSet (flags : Flags) : Reader CharSet := do
  let s ← get
  let negated ← accept '^'
  let items ← readItems flags (s.offset - 1) s.size []
  pure ⟨negated, distinctItems items, flags.folding⟩

end Reader
end Conformance.Pattern
