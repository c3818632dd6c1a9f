import Conformance.Text.Encoding

/-!
# Octets written with 64 letters

Four letters write three octets. Code points that are no letters are passed over. Padding ends the
text when it fills up a group of four; without padding the last group has to be whole.
-/
namespace Conformance.Base64

/-- The value of a letter. -/
def value? (c : CodePoint) : Option Nat :=
  let n := c.toNat
  if 65 ≤ n && n ≤ 90 then some (n - 65)
  else if 97 ≤ n && n ≤ 122 then some (n - 71)
  else if c.isDigit then some (n + 4)
  else if c = '+' then some 62
  else if c = '/' then some 63
  else none

/-- Decodes letters after `place` letters of a group; `carry` holds the bits of the last letter that
are not yet part of an octet, and `pads` counts the padding just before. -/
def decodeFrom : (place carry pads : Nat) → Text → Option Bytes
  | place, _, _, [] => if place = 0 then some [] else none
  | place, carry, pads, c :: rest =>
    if c = '=' then
      if 2 ≤ place then
        if 4 ≤ place + pads + 1 then some [] else decodeFrom place carry (pads + 1) rest
      else decodeFrom place carry pads rest
    else
      match value? c with
      | none => decodeFrom place carry pads rest
      | some v =>
        match place with
        | 0 => decodeFrom 1 v 0 rest
        | 1 => (decodeFrom 2 (v % 16) 0 rest).map (UInt8.ofNat (carry * 4 + v / 16) :: ·)
        | 2 => (decodeFrom 3 (v % 4) 0 rest).map (UInt8.ofNat (carry * 16 + v / 4) :: ·)
        | _ => (decodeFrom 0 0 0 rest).map (UInt8.ofNat (carry * 64 + v) :: ·)

/-- The octets of a text of basic characters. -/
def decode? (t : Text) : Option Bytes := if t.isAscii then decodeFrom 0 0 0 t else none

end Conformance.Base64
