import Conformance.Text.Encoding
import Conformance.Yaml.Cursor

/-!
# Tags as they are written

A tag is a handle between exclamation marks and a suffix, or a suffix alone. Suffixes are addresses,
in which a percent sign and two digits stand for an octet.
-/
namespace Conformance.Yaml

/-- A tag before its handle is replaced by what it stands for. -/
structure WrittenTag where
  handle : Option Text
  suffix : Text
deriving DecidableEq

def isAddressPoint (c : CodePoint) : Bool :=
  isNamePoint c || (Text.ofString ";/?:@&=+$,.!~*'()[]%").contains c

namespace Reader

/-- Octets that are written with percent signs, in order. -/
def takeOctets : Nat → Reader Bytes
  | 0 => pure []
  | fuel + 1 => do
    match (← get).rest with
    | x :: rest =>
      if x = '%' then
        match rest with
        | a :: b :: _ =>
          match a.hexValue?, b.hexValue? with
          | some high, some low =>
            forward 3
            pure (UInt8.ofNat (16 * high + low) :: (← takeOctets fuel))
          | _, _ => malformed
        | _ => malformed
      else pure []
    | [] => pure []

/-- Pieces of an address: code points as they are, and octets that have to be UTF-8. -/
def takeAddressPieces : Nat → Text → Reader Text
  | 0, taken => pure taken
  | fuel + 1, taken => do
    let run ← takeWhile fun c => isAddressPoint c && c ≠ '%'
    if (← peek) = some ('%' : CodePoint) then
      match Encoding.decodeStrict (← takeOctets fuel) with
      | .ok decoded => takeAddressPieces fuel (taken ++ run ++ decoded)
      | .error _ => malformed
    else pure (taken ++ run)

/-- An address, which may not be empty. -/
def takeAddress : Reader Text := do
  let before := (← get).index
  let taken ← takeAddressPieces ((← get).rest.length + 1) []
  if (← get).index = before then malformed else pure taken

/-- A handle: one exclamation mark, or two with a name between them. -/
def takeHandle : Reader Text := do
  let c ← get
  if c.peek 0 ≠ some ('!' : CodePoint) then malformed
  if c.peek 1 = some (' ' : CodePoint) then
    forward 1
    pure "!"
  else
    forward 1
    let name ← takeWhile isNamePoint
    if (← peek) = some ('!' : CodePoint) then
      forward 1
      pure (("!" : Text) ++ name ++ "!")
    else malformed

/-- Whether an exclamation mark follows before the next space or break. -/
def hasHandle (t : Text) : Bool :=
  (t.takeWhile fun c => !(isSpace c || isBreak c)).contains ('!' : CodePoint)

/-- A tag, from its exclamation mark on. -/
def takeTag : Reader WrittenTag := do
  let c ← get
  let tag ←
    if c.peek 1 = some ('<' : CodePoint) then
      forward 2
      let suffix ← takeAddress
      if (← peek) ≠ some ('>' : CodePoint) then malformed
      forward 1
      pure ⟨none, suffix⟩
    else if c.gapAt 1 then
      forward 1
      pure ⟨none, "!"⟩
    else if hasHandle (c.rest.drop 1) then
      let handle ← takeHandle
      pure ⟨some handle, ← takeAddress⟩
    else
      forward 1
      pure ⟨some "!", ← takeAddress⟩
  if !(← get).atSpaceOrEnd then malformed
  pure tag

end Reader
end Conformance.Yaml
