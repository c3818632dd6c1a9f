import Conformance.Number.Extended
import Conformance.Number.Rounding

/-!
# Sums and products of numbers

Each result is the exact one rounded to the nearest number; past the greatest finite number it is
infinite.
-/
namespace Conformance

namespace Binary64

/-- The nearest number to a sum. Opposite numbers give the positive zero. -/
def add (x y : Binary64) : Extended :=
  let sum := x.units + y.units
  let negative := if sum = 0 then x.negative && y.negative else sum < 0
  .ofRounded negative (ofRatio? negative sum.natAbs (Nat.pow 2 1074))

/-- The nearest number to a product. -/
def mul (x y : Binary64) : Extended :=
  let negative := x.negative != y.negative
  .ofRounded negative (ofRatio? negative (x.units.natAbs * y.units.natAbs) (Nat.pow 2 2148))

def negate (x : Binary64) : Binary64 := { x with negative := !x.negative }

end Binary64

namespace Extended

def ofNat (n : Nat) : Extended := .ofRounded false (Binary64.ofRatio? false n 1)

def add : Extended → Extended → Extended
  | .finite x, .finite y => x.add y
  | .infinite a, .infinite b => if a = b then .infinite a else .notNumber
  | .infinite a, .finite _ => .infinite a
  | .finite _, .infinite b => .infinite b
  | .notNumber, _ => .notNumber
  | _, .notNumber => .notNumber

def isZero : Extended → Bool
  | .finite x => x.mantissa = 0
  | _ => false

def isNegative : Extended → Bool
  | .finite x => x.negative
  | .infinite negative => negative
  | .notNumber => false

def mul (x y : Extended) : Extended :=
  match x, y with
  | .finite x, .finite y => x.mul y
  | .notNumber, _ => .notNumber
  | _, .notNumber => .notNumber
  | x, y => if x.isZero || y.isZero then .notNumber else .infinite (x.isNegative != y.isNegative)

def negate : Extended → Extended
  | .finite x => .finite x.negate
  | .infinite negative => .infinite !negative
  | .notNumber => .notNumber

end Extended
end Conformance
