import Conformance.Unicode.CaseKin
import Conformance.Unicode.DecimalDigit
import Conformance.Unicode.Ranges
import Conformance.Unicode.Word

/-!
# Sets of code points in patterns

A set lists code points, ranges and classes, or all that these leave out. Under a folding, code
points are compared up to case, either among the basic letters alone or among all letters.
-/
namespace Conformance.Pattern

/-- Which letters are equal up to case. -/
inductive Folding where
  | exact
  | basic
  | full
deriving DecidableEq

/-- Named classes, of the basic characters alone or of all. -/
inductive Category where
  | digit
  | space
  | word
deriving DecidableEq

namespace Category

def holds (basicOnly : Bool) (category : Category) (c : CodePoint) : Bool :=
  if basicOnly then
    match category with
    | .digit => c.isDigit
    | .space => c = ' ' || (9 ≤ c.toNat && c.toNat ≤ 13)
    | .word => c.isAscii && Unicode.isWord c
  else
    match category with
    | .digit => Unicode.isDecimalDigit c
    | .space => Unicode.isBlank c
    | .word => Unicode.isWord c

end Category

inductive SetItem where
  | single (point : CodePoint)
  | range (low high : CodePoint)
  | category (kind : Category) (negated basicOnly : Bool)
deriving DecidableEq

structure CharSet where
  negated : Bool
  items : List SetItem
  folding : Folding
deriving DecidableEq

namespace SetItem

/-- Whether a code point is equal up to case to a small letter. -/
def isLetter (point x : CodePoint) : Bool :=
  let small := Unicode.toSmall point
  x = small || (Unicode.kin small).contains x.toNat

/-- Whether an item holds a small letter up to case. Beside other items, a supplementary single code
point is compared as it is. -/
def holdsSmall (x : CodePoint) : SetItem → Bool
  | .single point =>
    if (Unicode.toSmall point).toNat < 0x10000 then isLetter point x else x = point
  | .range low high =>
    Unicode.rangeHoldsSmall low.toNat high.toNat x.toNat ||
      (Unicode.kin x).any (Unicode.rangeHoldsSmall low.toNat high.toNat)
  | .category kind negated basicOnly => kind.holds basicOnly x != negated

/-- Whether an item holds a code point in which basic capitals are already small. -/
def holdsBasicSmall (x : CodePoint) : SetItem → Bool
  | .single point => x = point.toAsciiLower
  | .range low high =>
    (low.toNat ≤ x.toNat && x.toNat ≤ high.toNat) ||
      (97 ≤ x.toNat && x.toNat ≤ 122 && low.toNat ≤ x.toNat - 32 && x.toNat - 32 ≤ high.toNat)
  | .category kind negated basicOnly => kind.holds basicOnly x != negated

def holds (x : CodePoint) : SetItem → Bool
  | .single point => x = point
  | .range low high => low.toNat ≤ x.toNat && x.toNat ≤ high.toNat
  | .category kind negated basicOnly => kind.holds basicOnly x != negated

end SetItem

namespace CharSet

/-- The set of one code point up to a folding. -/
def single (folding : Folding) (negated : Bool) (point : CodePoint) : CharSet :=
  ⟨negated, [.single point], folding⟩

/-- Whether the items list a code point. -/
def lists (set : CharSet) (c : CodePoint) : Bool :=
  match set.folding with
  | .exact => set.items.any (SetItem.holds c)
  | .basic => set.items.any (SetItem.holdsBasicSmall c.toAsciiLower)
  | .full =>
    match set.items with
    | [.single point] => SetItem.isLetter point (Unicode.toSmall c)
    | items => items.any (SetItem.holdsSmall (Unicode.toSmall c))

def contains (set : CharSet) (c : CodePoint) : Bool := set.lists c != set.negated

end CharSet

/-- Whether two code points are equal under a folding. -/
def Folding.same (folding : Folding) (a b : CodePoint) : Bool :=
  match folding with
  | .exact => a = b
  | .basic => a.toAsciiLower = b.toAsciiLower
  | .full => Unicode.toSmall a = Unicode.toSmall b

end Conformance.Pattern
