import Conformance.Text.Basic
import Conformance.Unicode.Names.Latin
import Conformance.Unicode.Names.Letters
import Conformance.Unicode.Names.Signs
import Conformance.Unicode.Names.Shapes
import Conformance.Unicode.Names.Pictures

/-!
# Names of code points

A code point by its name in Unicode 14, for the scripts, signs and symbols in common use. Case does
not matter in a listed name. Ideographs are named by their numbers, and syllables of Korean by the
short names of their sounds; both forms are computed, and are written in capitals only.

Some thirty thousand names are left out, those of other scripts (Arabic and Devanagari among them)
and of symbols in rare use. A name that is left out is not told apart from one that names nothing.
-/
namespace Conformance.Unicode

/-- Short names of the leading, middle and trailing sounds of a Korean syllable. -/
def leadingSounds : List String :=
  ["G", "GG", "N", "D", "DD", "R", "M", "B", "BB", "S", "SS", "", "J", "JJ", "C", "K", "T", "P", "H"]

def middleSounds : List String :=
  ["A", "AE", "YA", "YAE", "EO", "E", "YEO", "YE", "O", "WA", "WAE", "OE", "YO", "U", "WEO", "WE",
    "WI", "YU", "EU", "YI", "I"]

def trailingSounds : List String :=
  ["", "G", "GG", "GS", "N", "NJ", "NH", "D", "L", "LG", "LM", "LB", "LS", "LT", "LP", "LH", "M",
    "B", "BS", "S", "SS", "NG", "J", "C", "K", "T", "P", "H"]

/-- Places of the texts in a list that a text begins with, longest first, with what follows. -/
def leadingChoices (sounds : List String) (t : Text) : List (Nat × Text) :=
  let hits := sounds.zipIdx.filterMap fun (sound, place) =>
    (Text.after? (Text.ofString sound) t).map fun rest => (place, rest)
  hits.mergeSort fun a b => a.2.length ≤ b.2.length

/-- The syllable with the given short name. -/
def syllable? (t : Text) : Option Nat :=
  match leadingChoices leadingSounds t with
  | [] => none
  | (leading, rest) :: _ =>
    match leadingChoices middleSounds rest with
    | [] => none
    | (middle, rest) :: _ =>
      match leadingChoices trailingSounds rest with
      | (trailing, []) :: _ => some (0xAC00 + (leading * 21 + middle) * 28 + trailing)
      | _ => none

/-- Ranges of ideographs that are named by their numbers. -/
def ideographRanges : List (Nat × Nat) :=
  [(0x3400, 0x4DBF), (0x4E00, 0x9FFF), (0x20000, 0x2A6DF), (0x2A700, 0x2B738), (0x2B740, 0x2B81D),
    (0x2B820, 0x2CEA1), (0x2CEB0, 0x2EBE0), (0x30000, 0x3134A)]

/-- Capital letter of a basic small one. -/
def toBasicCapital (c : CodePoint) : CodePoint :=
  if 97 ≤ c.toNat && c.toNat ≤ 122 then .ofNat (c.toNat - 32) else c

/-- The ideograph whose number is given by four or five capital hexadecimal digits. -/
def ideograph? (t : Text) : Option Nat :=
  if (t.length = 4 ∨ t.length = 5) ∧ t = t.map toBasicCapital then
    match t.mapM CodePoint.hexValue? with
    | some digits =>
      let n := digits.foldl (fun value d => 16 * value + d) 0
      if ideographRanges.any fun (low, high) => low ≤ n && n ≤ high then some n else none
    | none => none
  else none

/-- Listed names with their code points. -/
def listedNames : List (String × Nat) :=
  latinNames ++ letterNames ++ signNames ++ shapeNames ++ pictureNames

/-- The code point of a listed name in any case, or of a computed name in capitals. -/
def named? (name : Text) : Option CodePoint :=
  let found :=
    match Text.after? "CJK UNIFIED IDEOGRAPH-" name with
    | some digits => ideograph? digits
    | none =>
      match Text.after? "HANGUL SYLLABLE " name with
      | some sounds => syllable? sounds
      | none =>
        let key := Text.toString (name.map toBasicCapital)
        (listedNames.find? fun (entry : String × Nat) => entry.1 = key).map Prod.snd
  found.map CodePoint.ofNat

end Conformance.Unicode
