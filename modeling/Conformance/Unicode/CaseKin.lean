import Conformance.Unicode.SmallLetter

/-!
# Letters that differ only in case

Two letters match without regard to case when they have one small letter, or when their small
letters share a capital. The second relation is a short table.
-/
namespace Conformance.Unicode

/-- Small letters with the other small letters that share their capital. -/
def sharedCapitals : List (Nat × List Nat) := [
  (0x69, [0x131]), (0x73, [0x17F]), (0xB5, [0x3BC]), (0x131, [0x69]), (0x17F, [0x73]),
  (0x345, [0x3B9, 0x1FBE]), (0x390, [0x1FD3]), (0x3B0, [0x1FE3]), (0x3B2, [0x3D0]),
  (0x3B5, [0x3F5]), (0x3B8, [0x3D1]), (0x3B9, [0x345, 0x1FBE]), (0x3BA, [0x3F0]),
  (0x3BC, [0xB5]), (0x3C0, [0x3D6]), (0x3C1, [0x3F1]), (0x3C2, [0x3C3]), (0x3C3, [0x3C2]),
  (0x3C6, [0x3D5]), (0x3D0, [0x3B2]), (0x3D1, [0x3B8]), (0x3D5, [0x3C6]), (0x3D6, [0x3C0]),
  (0x3F0, [0x3BA]), (0x3F1, [0x3C1]), (0x3F5, [0x3B5]), (0x432, [0x1C80]), (0x434, [0x1C81]),
  (0x43E, [0x1C82]), (0x441, [0x1C83]), (0x442, [0x1C84, 0x1C85]), (0x44A, [0x1C86]),
  (0x463, [0x1C87]), (0x1C80, [0x432]), (0x1C81, [0x434]), (0x1C82, [0x43E]), (0x1C83, [0x441]),
  (0x1C84, [0x442, 0x1C85]), (0x1C85, [0x442, 0x1C84]), (0x1C86, [0x44A]), (0x1C87, [0x463]),
  (0x1C88, [0xA64B]), (0x1E61, [0x1E9B]), (0x1E9B, [0x1E61]), (0x1FBE, [0x345, 0x3B9]),
  (0x1FD3, [0x390]), (0x1FE3, [0x3B0]), (0xA64B, [0x1C88]), (0xFB05, [0xFB06]), (0xFB06, [0xFB05])]

/-- The small letters other than the given one that share its capital. -/
def kin (small : CodePoint) : List Nat :=
  ((sharedCapitals.find? fun entry => entry.1 = small.toNat).map Prod.snd).getD []

/-- Whether a closed range holds a code point with the given small letter. -/
def rangeHoldsSmall (low high : Nat) (small : Nat) : Bool :=
  (low ≤ small && small ≤ high) ||
    capitalRuns.any fun run =>
      let capital := (small : Int) - run.distance
      run.first ≤ capital && capital ≤ run.last && low ≤ capital && capital ≤ high
        && (capital - run.first) % run.step = 0

end Conformance.Unicode
