import Conformance.Text.Basic

/-!
# Basic capitals

Names are compared in capitals. A name of basic capitals can only be met by code points that are
written in basic capitals themselves: the small basic letters, and the few others listed here. All
other code points stay as they are, and meet none of these names either way.
-/
namespace Conformance.Unicode

/-- Code points beyond the basic ones that are written in basic capitals. -/
def basicCapitalSpellings : List (Nat × Text) := [
  (0xDF, "SS"), (0x131, "I"), (0x17F, "S"), (0xFB00, "FF"), (0xFB01, "FI"), (0xFB02, "FL"),
  (0xFB03, "FFI"), (0xFB04, "FFL"), (0xFB05, "ST"), (0xFB06, "ST")]

/-- A code point in basic capitals, if it has them. -/
def basicCapitals (c : CodePoint) : Text :=
  if 97 ≤ c.toNat ∧ c.toNat ≤ 122 then [CodePoint.ofNat (c.toNat - 32)]
  else
    match basicCapitalSpellings.find? fun entry => entry.1 = c.toNat with
    | some entry => entry.2
    | none => [c]

/-- A text with the basic capitals it has. -/
def toBasicCapitals (t : Text) : Text := t.flatMap basicCapitals

end Conformance.Unicode
