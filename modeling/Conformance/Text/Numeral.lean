import Conformance.Text.Basic

/-!
# Numerals

Whole numbers are written with the fewest digits, and a minus sign in front of the negative ones.
-/
namespace Conformance.Text

/-- A number in a base up to sixteen, with small letters for the digits from ten. -/
def ofNatBase (base n : Nat) : Text := (Nat.toDigits base n).map CodePoint.ofChar

def ofNat (n : Nat) : Text := ofNatBase 10 n

def ofInt : Int → Text
  | .ofNat n => ofNat n
  | .negSucc n => "-" ++ ofNat (n + 1)

/-- Zeros in front bring a text up to a width. -/
def padZeros (width : Nat) (digits : Text) : Text :=
  List.replicate (width - digits.length) ('0' : CodePoint) ++ digits

/-- The value of basic digits, most significant first. -/
def natValue (digits : Text) : Nat :=
  digits.foldl (fun value c => 10 * value + c.digitValue) 0

end Conformance.Text
