import Conformance.Number.Binary64
import Conformance.Text.Numeral

/-!
# The shortest decimal that reads back

A positive number owns the decimals that round to it: an interval half a step wide on each side,
ends included when its mantissa is even. For one digit, two, and so on the grid of decimals of that
many digits is searched at the two neighbours of the number; the first grid with a hit wins, of two
hits the nearer, and of two equally near the even one. Seventeen digits always suffice.
-/
namespace Conformance

/-- The decimal digits · 10^power. -/
structure Decimal where
  digits : Nat
  power : Int
deriving DecidableEq, Repr

namespace Binary64

/-- Four times the mantissa with the bounds of the interval in the same quarter steps. -/
def quarterSteps (x : Binary64) : Nat × Nat × Nat :=
  let center := 4 * x.mantissa
  let below := if x.mantissa = Nat.pow 2 52 ∧ x.exponent ≠ -1074 then 1 else 2
  (center - below, center, center + 2)

/-- The decimal exponent `k` of a positive quotient: 10^(k-1) ≤ quotient < 10^k. -/
def decimalExponent (numerator denominator : Nat) : Int :=
  if denominator ≤ numerator then (Nat.toDigits 10 (numerator / denominator)).length
  else 1 - (Nat.toDigits 10 ((denominator + numerator - 1) / numerator - 1)).length

/-- The nearer of the two grid neighbours that the interval holds, for one number of digits. -/
def gridHit? (low center high denominator : Nat) (inclusive : Bool) (power : Int) :
    Option Decimal :=
  let up := Nat.pow 10 (-power).toNat
  let step := denominator * Nat.pow 10 power.toNat
  let floor := center * up / step
  let holds (d : Nat) : Bool :=
    if inclusive then low * up ≤ d * step && d * step ≤ high * up
    else low * up < d * step && d * step < high * up
  let below := center * up - floor * step
  let above := (floor + 1) * step - center * up
  match holds floor && 0 < floor, holds (floor + 1) with
  | true, true =>
    if below < above || (below = above && floor % 2 = 0) then some ⟨floor, power⟩
    else some ⟨floor + 1, power⟩
  | true, false => some ⟨floor, power⟩
  | false, true => some ⟨floor + 1, power⟩
  | false, false => none

/-- The first hit among the grids of `count`, `count + 1`, … digits. -/
def firstHit (low center high denominator : Nat) (inclusive : Bool) (exponent : Int) :
    Nat → Nat → Decimal
  | 0, _ => ⟨center, 0⟩
  | tries + 1, count =>
    match gridHit? low center high denominator inclusive (exponent - count) with
    | some decimal => decimal
    | none => firstHit low center high denominator inclusive exponent tries (count + 1)

/-- The shortest decimal that rounds to the magnitude of a number. -/
def shortest (x : Binary64) : Decimal :=
  if x.mantissa = 0 then ⟨0, 0⟩
  else
    let (low, center, high) := x.quarterSteps
    let up := Nat.pow 2 x.exponent.toNat
    let denominator := 4 * Nat.pow 2 (-x.exponent).toNat
    firstHit (low * up) (center * up) (high * up) denominator (x.mantissa % 2 = 0)
      (decimalExponent (center * up) denominator) 17 1

/-- Digits and exponent of the scientific form d.ddd · 10^e; trailing zeros are dropped. -/
def scientific (x : Binary64) : Text × Int :=
  let decimal := x.shortest
  let digits := Text.ofNat decimal.digits
  let significant : Text := (digits.reverse.dropWhile (· = ('0' : CodePoint))).reverse
  (if significant.isEmpty then "0" else significant, decimal.power + digits.length - 1)

/-- How a number is written. Positional below 10^16 and from 10^-4, always with a point or an
exponent; the exponent has a sign and at least two digits. -/
def format (x : Binary64) : Text :=
  let (digits, exponent) := x.scientific
  let sign : Text := if x.negative then "-" else ""
  let body : Text :=
    if exponent < -4 ∨ 16 ≤ exponent then
      let fraction : Text := match digits.drop 1 with
        | [] => []
        | rest => "." ++ rest
      let mark : Text := if exponent < 0 then "e-" else "e+"
      digits.take 1 ++ fraction ++ mark ++ Text.padZeros 2 (Text.ofNat exponent.natAbs)
    else if exponent < 0 then
      "0." ++ List.replicate (exponent.natAbs - 1) ('0' : CodePoint) ++ digits
    else
      let whole := exponent.toNat + 1
      let front := digits.take whole ++ List.replicate (whole - digits.length) ('0' : CodePoint)
      match digits.drop whole with
      | [] => front ++ ".0"
      | rest => front ++ "." ++ rest
  sign ++ body

/-- A whole number is written in full without a point, any other as `format` does. -/
def formatPlain (x : Binary64) : Text :=
  if x.isInteger then Text.ofInt x.toInt else x.format

end Binary64
end Conformance
