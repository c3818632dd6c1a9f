/-!
# Finite binary64 numbers

Every finite binary64 number is a whole multiple of the least positive one, 2^-1074. That whole
number, `units`, decides order and equality; the two zeros differ as data and agree in value.
-/
namespace Conformance

/-- The one normal form: a full mantissa of 53 bits, or the least exponent. -/
def Binary64.IsNormal (mantissa : Nat) (exponent : Int) : Prop :=
  mantissa < Nat.pow 2 53 ∧ -1074 ≤ exponent ∧ exponent ≤ 971
    ∧ (Nat.pow 2 52 ≤ mantissa ∨ exponent = -1074)

instance (mantissa : Nat) (exponent : Int) : Decidable (Binary64.IsNormal mantissa exponent) :=
  inferInstanceAs (Decidable (_ ∧ _))

/-- A finite number ±mantissa · 2^exponent. -/
structure Binary64 where
  negative : Bool
  mantissa : Nat
  exponent : Int
  normal : Binary64.IsNormal mantissa exponent
deriving DecidableEq

namespace Binary64

def zero (negative : Bool) : Binary64 := ⟨negative, 0, -1074, by decide⟩

instance : Inhabited Binary64 := ⟨zero false⟩

/-- The number as a multiple of 2^-1074. -/
def units (x : Binary64) : Int :=
  let magnitude : Int := x.mantissa * Nat.pow 2 (x.exponent + 1074).toNat
  if x.negative then -magnitude else magnitude

/-- Equality of values: the two zeros are equal. -/
def same (x y : Binary64) : Bool := x.units = y.units

def less (x y : Binary64) : Bool := x.units < y.units

/-- Whether the value is a whole number. -/
def isInteger (x : Binary64) : Bool := x.units % Nat.pow 2 1074 = 0

/-- The whole part of the value, towards zero. -/
def toInt (x : Binary64) : Int := x.units.tdiv (Nat.pow 2 1074)

end Binary64
end Conformance
