import Conformance.Text.Numeral

/-!
# Text in bytes

UTF-8, UTF-16 and UTF-32 in both byte orders. A strict decoder of UTF-8 refuses surrogates; a lenient
decoder lets surrogates that stand alone through. The encoding of a text that begins with basic
characters is recognised by its byte-order mark or by the zero bytes among its first four.
-/
namespace Conformance

abbrev Bytes := List UInt8

inductive Encoding where
  | utf8
  | utf16 (bigEndian : Bool)
  | utf32 (bigEndian : Bool)
deriving DecidableEq

/-- What is wrong with a run of bytes. -/
inductive DecodeFault where
  | unexpectedEnd
  | invalidStart
  | invalidContinuation
  | truncated
  | outOfRange
deriving DecidableEq

/-- The bytes that could not be decoded, at their place in the input. -/
structure DecodeError where
  encoding : Encoding
  position : Nat
  bytes : Bytes
  fault : DecodeFault
deriving DecidableEq

/-- A run of surrogates that an encoding cannot hold, at its place in the text. -/
structure EncodeError where
  position : Nat
  run : Text
deriving DecidableEq

namespace Encoding

def name : Encoding → Text
  | .utf8 => "utf-8"
  | .utf16 false => "utf-16-le"
  | .utf16 true => "utf-16-be"
  | .utf32 false => "utf-32-le"
  | .utf32 true => "utf-32-be"

/-- A byte after the first one of a sequence. -/
def isContinuation (b : UInt8) : Bool := 0x80 ≤ b.toNat && b.toNat ≤ 0xBF

/-- The code point whose bits the bytes of a sequence carry. -/
def join2 (a b : UInt8) : CodePoint := .ofNat ((a.toNat % 32) * 64 + b.toNat % 64)

def join3 (a b c : UInt8) : CodePoint :=
  .ofNat ((a.toNat % 16) * 4096 + (b.toNat % 64) * 64 + c.toNat % 64)

def join4 (a b c d : UInt8) : CodePoint :=
  .ofNat ((a.toNat % 8) * 262144 + (b.toNat % 64) * 4096 + (c.toNat % 64) * 64 + d.toNat % 64)

/-- Whether a second byte may follow the first byte of a three-byte sequence. -/
def fitsThree (first second : UInt8) : Bool :=
  isContinuation second && !(first = 0xE0 && second < 0xA0) && !(first = 0xED && second ≥ 0xA0)

/-- Whether a second byte may follow the first byte of a four-byte sequence. -/
def fitsFour (first second : UInt8) : Bool :=
  isContinuation second && !(first = 0xF0 && second < 0x90) && !(first = 0xF4 && second ≥ 0x90)

/-- Text in UTF-8 from a position on; `lenient` lets surrogates pass. -/
def decodeUtf8 (lenient : Bool) (position : Nat) : Bytes → Except DecodeError Text
  | [] => .ok []
  | a :: rest =>
    let refuse (fault : DecodeFault) (bytes : Bytes) : Except DecodeError Text :=
      .error ⟨.utf8, position, bytes, fault⟩
    if a < 0x80 then (decodeUtf8 lenient (position + 1) rest).map (CodePoint.ofNat a.toNat :: ·)
    else if a < 0xC2 then refuse .invalidStart [a]
    else if a < 0xE0 then
      match rest with
      | [] => refuse .unexpectedEnd [a]
      | b :: rest =>
        if isContinuation b then
          (decodeUtf8 lenient (position + 2) rest).map (join2 a b :: ·)
        else refuse .invalidContinuation [a]
    else if a < 0xF0 then
      match rest with
      | [] => refuse .unexpectedEnd [a]
      | [b] =>
        if fitsThree a b then refuse .unexpectedEnd [a, b] else refuse .invalidContinuation [a]
      | b :: c :: rest =>
        if fitsThree a b then
          if isContinuation c then
            (decodeUtf8 lenient (position + 3) rest).map (join3 a b c :: ·)
          else refuse .invalidContinuation [a, b]
        else if lenient && a = 0xED && isContinuation b && isContinuation c then
          (decodeUtf8 lenient (position + 3) rest).map (join3 a b c :: ·)
        else refuse .invalidContinuation [a]
    else if a < 0xF5 then
      match rest with
      | [] => refuse .unexpectedEnd [a]
      | [b] =>
        if fitsFour a b then refuse .unexpectedEnd [a, b] else refuse .invalidContinuation [a]
      | [b, c] =>
        if fitsFour a b then
          if isContinuation c then refuse .unexpectedEnd [a, b, c]
          else refuse .invalidContinuation [a, b]
        else refuse .invalidContinuation [a]
      | b :: c :: d :: rest =>
        if fitsFour a b then
          if isContinuation c then
            if isContinuation d then
              (decodeUtf8 lenient (position + 4) rest).map (join4 a b c d :: ·)
            else refuse .invalidContinuation [a, b, c]
          else refuse .invalidContinuation [a, b]
        else refuse .invalidContinuation [a]
    else refuse .invalidStart [a]

/-- The units of two bytes from a position on. -/
def units16 (bigEndian : Bool) (position : Nat) : Bytes → Except DecodeError Text
  | [] => .ok []
  | [a] => .error ⟨.utf16 bigEndian, position, [a], .truncated⟩
  | a :: b :: rest =>
    let value := if bigEndian then a.toNat * 256 + b.toNat else b.toNat * 256 + a.toNat
    (units16 bigEndian (position + 2) rest).map (CodePoint.ofNat value :: ·)

/-- A high surrogate and the low one after it become one code point. -/
def pairSurrogates : Text → Text
  | high :: low :: rest =>
    if high.isHighSurrogate && low.isLowSurrogate then
      CodePoint.ofSurrogates high low :: pairSurrogates rest
    else high :: pairSurrogates (low :: rest)
  | t => t

/-- The units of four bytes from a position on. -/
def units32 (bigEndian : Bool) (position : Nat) : Bytes → Except DecodeError Text
  | [] => .ok []
  | a :: b :: c :: d :: rest =>
    let value :=
      if bigEndian then ((a.toNat * 256 + b.toNat) * 256 + c.toNat) * 256 + d.toNat
      else ((d.toNat * 256 + c.toNat) * 256 + b.toNat) * 256 + a.toNat
    if value < 0x110000 then
      (units32 bigEndian (position + 4) rest).map (CodePoint.ofNat value :: ·)
    else .error ⟨.utf32 bigEndian, position, [a, b, c, d], .outOfRange⟩
  | bytes => .error ⟨.utf32 bigEndian, position, bytes, .truncated⟩

/-- Text from bytes that start at a position of the whole input; surrogates pass. -/
def decodeAt (encoding : Encoding) (position : Nat) (bytes : Bytes) : Except DecodeError Text :=
  match encoding with
  | .utf8 => decodeUtf8 true position bytes
  | .utf16 bigEndian => (units16 bigEndian position bytes).map pairSurrogates
  | .utf32 bigEndian => units32 bigEndian position bytes

/-- The encoding that the zero bytes at the start give away, without a byte-order mark. -/
def detect : Bytes → Encoding
  | [a, b] => if a = 0 then .utf16 true else if b = 0 then .utf16 false else .utf8
  | a :: b :: c :: d :: _ =>
    if a = 0 then (if b = 0 then .utf32 true else .utf16 true)
    else if b = 0 then (if c = 0 && d = 0 then .utf32 false else .utf16 false)
    else .utf8
  | _ => .utf8

/-- Text from bytes of a detected encoding. A byte-order mark is no part of the text. -/
def decodeDetected (bytes : Bytes) : Except DecodeError Text :=
  match bytes with
  | 0x00 :: 0x00 :: 0xFE :: 0xFF :: rest => decodeAt (.utf32 true) 4 rest
  | 0xFF :: 0xFE :: 0x00 :: 0x00 :: rest => decodeAt (.utf32 false) 4 rest
  | 0xFE :: 0xFF :: rest => decodeAt (.utf16 true) 2 rest
  | 0xFF :: 0xFE :: rest => decodeAt (.utf16 false) 2 rest
  | 0xEF :: 0xBB :: 0xBF :: rest => decodeAt .utf8 0 rest
  | _ => decodeAt (detect bytes) 0 bytes

/-- Strict UTF-8. -/
def decodeStrict (bytes : Bytes) : Except DecodeError Text := decodeUtf8 false 0 bytes

/-- The bytes of one code point in UTF-8. -/
def utf8Bytes (c : CodePoint) : Bytes :=
  let n := c.toNat
  let tail (shift : Nat) : UInt8 := UInt8.ofNat (0x80 + n / Nat.pow 2 shift % 64)
  if n < 0x80 then [UInt8.ofNat n]
  else if n < 0x800 then [UInt8.ofNat (0xC0 + n / 64), tail 0]
  else if n < 0x10000 then [UInt8.ofNat (0xE0 + n / 4096), tail 6, tail 0]
  else [UInt8.ofNat (0xF0 + n / 262144), tail 12, tail 6, tail 0]

/-- Strict UTF-8 of a text, or its first run of surrogates. -/
def encodeStrict (t : Text) : Except EncodeError Bytes :=
  match t.findIdx? CodePoint.isSurrogate with
  | some position => .error ⟨position, (t.drop position).takeWhile CodePoint.isSurrogate⟩
  | none => .ok (t.flatMap utf8Bytes)

/-- The first of the texts that has no strict UTF-8, by what is wrong with it. -/
def firstUnencodable (texts : List Text) : Option EncodeError :=
  texts.findSome? fun t =>
    match encodeStrict t with
    | .error error => some error
    | .ok _ => none

end Encoding

namespace DecodeFault

def reason : DecodeFault → Text
  | .unexpectedEnd => "unexpected end of data"
  | .invalidStart => "invalid start byte"
  | .invalidContinuation => "invalid continuation byte"
  | .truncated => "truncated data"
  | .outOfRange => "code point not in range(0x110000)"

end DecodeFault

/-- The first and last place of a run, or its only one. -/
def DecodeError.message (e : DecodeError) : Text :=
  let place : Text := match e.bytes with
    | [b] => "byte 0x" ++ Text.padZeros 2 (Text.ofNatBase 16 b.toNat) ++ " in position "
        ++ Text.ofNat e.position
    | bytes => "bytes in position " ++ Text.ofNat e.position ++ "-"
        ++ Text.ofNat (e.position + bytes.length - 1)
  "'" ++ e.encoding.name ++ "' codec can't decode " ++ place ++ ": " ++ e.fault.reason

def EncodeError.message (e : EncodeError) : Text :=
  let place : Text := match e.run with
    | [c] => "character '\\u" ++ Text.padZeros 4 (Text.ofNatBase 16 c.toNat) ++ "' in position "
        ++ Text.ofNat e.position
    | run => "characters in position " ++ Text.ofNat e.position ++ "-"
        ++ Text.ofNat (e.position + run.length - 1)
  "'utf-8' codec can't encode " ++ place ++ ": surrogates not allowed"

end Conformance
