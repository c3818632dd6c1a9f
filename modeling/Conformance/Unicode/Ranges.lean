import Conformance.Text.Basic

/-!
# Sets of code points as sorted ranges

A Unicode property is given by the closed ranges of its code points in increasing order, so a
search stops at the first range that starts past the code point. One of these properties is to be
blank: white space and the separators of lines, paragraphs, files, groups, records and units.
-/
namespace Conformance.Unicode

/-- Whether one of the sorted closed ranges holds the number. -/
def inRanges : List (Nat × Nat) → Nat → Bool
  | [], _ => false
  | (low, high) :: rest, n =>
    if n < low then false else if n ≤ high then true else inRanges rest n

/-- Ranges of blank code points. -/
def blankRanges : List (Nat × Nat) := [
  (0x9, 0xD), (0x1C, 0x20), (0x85, 0x85), (0xA0, 0xA0), (0x1680, 0x1680), (0x2000, 0x200A),
  (0x2028, 0x2029), (0x202F, 0x202F), (0x205F, 0x205F), (0x3000, 0x3000)]

def isBlank (c : CodePoint) : Bool := inRanges blankRanges c.toNat

end Conformance.Unicode
