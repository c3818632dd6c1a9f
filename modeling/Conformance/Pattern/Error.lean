import Conformance.Number.Literal
import Conformance.Text.Position

/-!
# Faults of patterns

Most faults stand at a place of the pattern; a few concern the whole of it. In a pattern of several
lines the place is given by line and column too.
-/
namespace Conformance.Pattern

inductive Fault where
  | danglingBackslash
  | incompleteEscape (escape : Text)
  | unknownEscape (escape : Text)
  | octalOutOfRange (escape : Text)
  /-- A part of a construct is not there. -/
  | missing (part : Text)
  | unterminatedName (closing : CodePoint)
  | unknownCharacter (name : Text)
  | openGroup
  | groupInsideLookBehind
  | unknownGroup (group : Nat)
  | unterminatedSet
  | badRange (low high : Text)
  | leastAboveMost
  | nothingToRepeat
  | repeatedTwice
  | unexpectedEnd
  | badGroupName (name : Text)
  | unknownGroupName (name : Text)
  | unknownExtension (extension : Text)
  | unterminatedComment
  | unterminatedGroup
  | badGroupNumber
  | tooManyBranches
  | flagsNotFirst
  | redefinedGroup (name : Text) (group earlier : Nat)
  | localeFlag
  | clashingFlags
  | turnsOnWholePatternFlag
  | turnsOffCharacterFlag
  | turnsOffWholePatternFlag
  | flagOnAndOff
  | unknownFlag
  | unbalancedParenthesis
  | lookBehindTooLong
  | lookBehindWidth
  | repetitionInTemplate (name : Text)
deriving DecidableEq

namespace Fault

def message : Fault → Text
  | .danglingBackslash => "bad escape (end of pattern)"
  | .incompleteEscape escape => "incomplete escape " ++ escape
  | .unknownEscape escape => "bad escape " ++ escape
  | .octalOutOfRange escape =>
    "octal escape value " ++ escape ++ " outside of range 0-0o377"
  | .missing part => "missing " ++ part
  | .unterminatedName closing => "missing " ++ [closing] ++ ", unterminated name"
  | .unknownCharacter name => "undefined character name " ++ name.quoted
  | .openGroup => "cannot refer to an open group"
  | .groupInsideLookBehind =>
    "cannot refer to group defined in the same lookbehind subpattern"
  | .unknownGroup group => "invalid group reference " ++ Text.ofNat group
  | .unterminatedSet => "unterminated character set"
  | .badRange low high => "bad character range " ++ low ++ "-" ++ high
  | .leastAboveMost => "min repeat greater than max repeat"
  | .nothingToRepeat => "nothing to repeat"
  | .repeatedTwice => "multiple repeat"
  | .unexpectedEnd => "unexpected end of pattern"
  | .badGroupName name => "bad character in group name " ++ name.quoted
  | .unknownGroupName name => "unknown group name " ++ name.quoted
  | .unknownExtension extension => "unknown extension " ++ extension
  | .unterminatedComment => "missing ), unterminated comment"
  | .unterminatedGroup => "missing ), unterminated subpattern"
  | .badGroupNumber => "bad group number"
  | .tooManyBranches => "conditional backref with more than two branches"
  | .flagsNotFirst => "global flags not at the start of the expression"
  | .redefinedGroup name group earlier =>
    "redefinition of group name " ++ name.quoted ++ " as group " ++ Text.ofNat group
      ++ "; was group " ++ Text.ofNat earlier
  | .localeFlag => "bad inline flags: cannot use 'L' flag with a str pattern"
  | .clashingFlags => "bad inline flags: flags 'a', 'u' and 'L' are incompatible"
  | .turnsOnWholePatternFlag => "bad inline flags: cannot turn on global flag"
  | .turnsOffCharacterFlag => "bad inline flags: cannot turn off flags 'a', 'u' and 'L'"
  | .turnsOffWholePatternFlag => "bad inline flags: cannot turn off global flag"
  | .flagOnAndOff => "bad inline flags: flag turned on and off"
  | .unknownFlag => "unknown flag"
  | .unbalancedParenthesis => "unbalanced parenthesis"
  | .lookBehindTooLong => "looks too much behind"
  | .lookBehindWidth => "look-behind requires fixed-width pattern"
  | .repetitionInTemplate name => "internal: unsupported template operator " ++ name

end Fault

/-- Why a text is no pattern. -/
inductive Error where
  | placed (fault : Fault) (place : Position) (severalLines : Bool)
  | whole (fault : Fault)
  /-- A repetition count is beyond what a pattern can hold. -/
  | countTooLarge
  /-- A repetition count has too many digits to be read. -/
  | countTooLong (digits : Nat)
  /-- Flags at the start ask for basic and for all characters at once. -/
  | incompatibleFlags
deriving DecidableEq

namespace Error

/-- Whether the text itself breaks a rule of patterns, rather than asking for too much or for flags
that exclude each other. -/
def isSyntax : Error → Bool
  | .placed .. | .whole _ => true
  | .countTooLarge | .countTooLong _ | .incompatibleFlags => false

def message : Error → Text
  | .placed fault place severalLines =>
    let lined : Text :=
      if severalLines then
        " (line " ++ Text.ofNat place.line ++ ", column " ++ Text.ofNat place.column ++ ")"
      else ""
    fault.message ++ " at position " ++ Text.ofNat place.offset ++ lined
  | .whole fault => fault.message
  | .countTooLarge => "the repetition number is too large"
  | .countTooLong digits => (NumeralError.tooManyDigits digits).message
  | .incompatibleFlags => "ASCII and UNICODE flags are incompatible"

end Error
end Conformance.Pattern
