/-!
# Text as a sequence of code points

A document may name a surrogate on its own, which no string of scalar values can hold. Text is
therefore a list of code points, surrogates included; lengths count code points.
-/
namespace Conformance

/-- A Unicode code point, surrogates included. -/
structure CodePoint where
  toNat : Nat
  toNat_lt : toNat < 0x110000
deriving DecidableEq

namespace CodePoint

def ofChar (c : Char) : CodePoint :=
  ⟨c.toNat, by
    have bound : c.val.toNat < 0xD800 ∨ (0xDFFF < c.val.toNat ∧ c.val.toNat < 0x110000) := c.valid
    show c.val.toNat < 0x110000
    omega⟩

instance : Coe Char CodePoint := ⟨ofChar⟩

/-- The replacement character stands for numbers past the last code point. -/
def ofNat (n : Nat) : CodePoint :=
  if bound : n < 0x110000 then ⟨n, bound⟩ else ⟨0xFFFD, by decide⟩

instance : Inhabited CodePoint := ⟨ofNat 0xFFFD⟩

def isSurrogate (c : CodePoint) : Bool := 0xD800 ≤ c.toNat && c.toNat ≤ 0xDFFF

def isHighSurrogate (c : CodePoint) : Bool := 0xD800 ≤ c.toNat && c.toNat ≤ 0xDBFF

def isLowSurrogate (c : CodePoint) : Bool := 0xDC00 ≤ c.toNat && c.toNat ≤ 0xDFFF

/-- The supplementary code point that a surrogate pair stands for. -/
def ofSurrogates (high low : CodePoint) : CodePoint :=
  ofNat (0x10000 + (high.toNat - 0xD800) * 0x400 + (low.toNat - 0xDC00))

/-- One of the basic digits `0` to `9`. -/
def isDigit (c : CodePoint) : Bool := 48 ≤ c.toNat && c.toNat ≤ 57

def isAscii (c : CodePoint) : Bool := c.toNat < 128

/-- The value of a basic digit. -/
def digitValue (c : CodePoint) : Nat := c.toNat - 48

/-- The value of a hexadecimal digit in either case. -/
def hexValue? (c : CodePoint) : Option Nat :=
  if c.isDigit then some c.digitValue
  else if 97 ≤ c.toNat && c.toNat ≤ 102 then some (c.toNat - 87)
  else if 65 ≤ c.toNat && c.toNat ≤ 70 then some (c.toNat - 55)
  else none

/-- Small letter of a basic capital; every other code point stands for itself. -/
def toAsciiLower (c : CodePoint) : CodePoint :=
  if 65 ≤ c.toNat && c.toNat ≤ 90 then ofNat (c.toNat + 32) else c

/-- The scalar value, where there is one. -/
def toChar? (c : CodePoint) : Option Char :=
  if c.isSurrogate then none else some (Char.ofNat c.toNat)

end CodePoint

/-- Text in the order of its code points. -/
abbrev Text := List CodePoint

namespace Text

def ofString (s : String) : Text := s.toList.map CodePoint.ofChar

instance : Coe String Text := ⟨ofString⟩

/-- A lone surrogate becomes the replacement character. -/
def toString (t : Text) : String :=
  String.ofList (t.map fun c => (c.toChar?).getD (Char.ofNat 0xFFFD))

def toAsciiLower (t : Text) : Text := t.map CodePoint.toAsciiLower

/-- Pieces of a text between the occurrences of a separator; one piece when there is none. -/
def splitOn (separator : CodePoint) : Text → List Text
  | [] => [[]]
  | c :: rest =>
    if c = separator then [] :: splitOn separator rest
    else
      match splitOn separator rest with
      | [] => [[c]]
      | piece :: pieces => (c :: piece) :: pieces

/-- The texts in order with a separator between neighbours. -/
def join (separator : Text) : List Text → Text
  | [] => []
  | [t] => t
  | t :: rest => t ++ separator ++ join separator rest

/-- Whether every code point is below 128. -/
def isAscii (t : Text) : Bool := t.all CodePoint.isAscii

/-- Order by code point, a proper beginning first. -/
def precedes : Text → Text → Bool
  | [], [] => false
  | [], _ :: _ => true
  | _ :: _, [] => false
  | a :: s, b :: t => if a = b then precedes s t else a.toNat < b.toNat

/-- The texts in code point order. -/
def sort (texts : List Text) : List Text :=
  texts.mergeSort fun a b => !precedes b a

/-- Drops the code points that satisfy the predicate at both ends. -/
def trim (drop : CodePoint → Bool) (t : Text) : Text :=
  ((t.dropWhile drop).reverse.dropWhile drop).reverse

/-- The text after a given beginning, if it begins so. -/
def after? : Text → Text → Option Text
  | [], t => some t
  | _ :: _, [] => none
  | a :: s, b :: t => if a = b then after? s t else none

/-- Whether a text begins with another. -/
def isBeginning (beginning t : Text) : Bool := beginning.isPrefixOf t

end Text
end Conformance
