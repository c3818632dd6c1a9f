import Conformance.Number.Binary64

/-!
# Rounding to binary64

A quotient of whole numbers is rounded to the nearest binary64 number, a half to the even mantissa.
Numbers that round past the greatest finite one are refused. A decimal whose first digit lies far
outside the range is decided by its order of magnitude alone.
-/
namespace Conformance.Binary64

/-- The nearest whole number to a quotient, a half to the even neighbour. -/
def roundDiv (numerator denominator : Nat) : Nat :=
  let quotient := numerator / denominator
  let twice := 2 * (numerator % denominator)
  if twice < denominator then quotient
  else if twice > denominator then quotient + 1
  else if quotient % 2 = 0 then quotient
  else quotient + 1

/-- A quotient counted in units of 2^exponent, as a fraction. -/
def scale (numerator denominator : Nat) (exponent : Int) : Nat × Nat :=
  (numerator * Nat.pow 2 (-exponent).toNat, denominator * Nat.pow 2 exponent.toNat)

/-- The exponent at which a positive quotient has a mantissa of 53 bits, or the least one. -/
def gridExponent (numerator denominator : Nat) : Int :=
  let guess := (numerator.log2 : Int) - denominator.log2 - 53
  let (n, d) := scale numerator denominator guess
  max (-1074) (if n / d < Nat.pow 2 53 then guess else guess + 1)

/-- The binary64 number nearest to ±numerator/denominator, if it is finite. -/
def ofRatio? (negative : Bool) (numerator denominator : Nat) : Option Binary64 :=
  if numerator = 0 then some (zero negative)
  else
    let exponent := gridExponent numerator denominator
    let (n, d) := scale numerator denominator exponent
    let rounded := roundDiv n d
    let (mantissa, exponent) :=
      if rounded = Nat.pow 2 53 then (Nat.pow 2 52, exponent + 1) else (rounded, exponent)
    if normal : IsNormal mantissa exponent then some ⟨negative, mantissa, exponent, normal⟩
    else none

/-- The binary64 number nearest to ±digits · 10^power, if it is finite. -/
def ofDecimal? (negative : Bool) (digits : Nat) (power : Int) : Option Binary64 :=
  if digits = 0 then some (zero negative)
  else
    let magnitude := power + (Nat.toDigits 10 digits).length
    if magnitude > 310 then none
    else if magnitude < -330 then some (zero negative)
    else ofRatio? negative (digits * Nat.pow 10 power.toNat) (Nat.pow 10 (-power).toNat)

/-- The binary64 number nearest to a whole number, if it is finite; zero is positive. -/
def ofInt? (i : Int) : Option Binary64 := ofRatio? (i < 0) i.natAbs 1

end Conformance.Binary64
