import Conformance.Text.Basic

/-!
# Places in a text

Offsets count code points from zero; lines and columns count from one. Lines end at line feeds only.
-/
namespace Conformance

structure Position where
  offset : Nat
  line : Nat
  column : Nat
deriving DecidableEq

namespace Position

/-- The place of an offset in a text. -/
def ofOffset (t : Text) (offset : Nat) : Position :=
  let before := t.take offset
  let lastLine := before.reverse.takeWhile (· ≠ ('\n' : CodePoint))
  ⟨offset, before.count ('\n' : CodePoint) + 1, lastLine.length + 1⟩

end Position
end Conformance
