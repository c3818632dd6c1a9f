import Conformance.Yaml.Tag

/-!
# Directives

A line that starts with a percent sign gives the version of the notation or what a handle of tags
stands for. Directives of other names are passed over.
-/
namespace Conformance.Yaml

inductive Directive where
  | version (major minor : Nat)
  | tag (handle beginning : Text)
  | other (name : Text)
deriving DecidableEq

namespace Reader

def takeVersionNumber : Reader Nat := do
  let digits ← takeWhile CodePoint.isDigit
  if digits.isEmpty then malformed
  if maxIntegerDigits < digits.length then throw (.numeral (.tooManyDigits digits.length))
  pure (Text.natValue digits)

/-- The name of a directive, which a space or the end of the line follows. -/
def takeDirectiveName : Reader Text := do
  let name ← takeWhile isNamePoint
  if name.isEmpty ∨ ¬(← get).atSpaceOrEnd then malformed
  pure name

/-- A directive, from its percent sign to the end of the line. -/
def takeDirective : Reader Directive := do
  forward 1
  let name ← takeDirectiveName
  let directive ←
    if name = "YAML" then
      skipSpaces
      let major ← takeVersionNumber
      if (← peek) ≠ some ('.' : CodePoint) then malformed
      forward 1
      let minor ← takeVersionNumber
      if !(← get).atSpaceOrEnd then malformed
      pure (.version major minor)
    else if name = "TAG" then
      skipSpaces
      let handle ← takeHandle
      if (← peek) ≠ some (' ' : CodePoint) then malformed
      skipSpaces
      let beginning ← takeAddress
      if !(← get).atSpaceOrEnd then malformed
      pure (.tag handle beginning)
    else
      let _ ← takeWhile fun c => !isBreak c
      pure (.other name)
  skipRestOfLine
  pure directive

end Reader
end Conformance.Yaml
