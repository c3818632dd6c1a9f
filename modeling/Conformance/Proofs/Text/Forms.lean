import Conformance.Proofs.Text.Encoding
import Conformance.Proofs.Text.Scalar

/-!
# Forms of a text in bytes

A text has one form in every encoding. In UTF-16 a code point past the first 65536 is written as two
surrogate units; surrogates of the text itself are written as they are, so that two of them may be
read back as one code point. A text without surrogates is read back from each of its forms
(`decodeAt_encode`), and bytes that are no form of any text are not read at all
(`exists_decodeAt_iff`).

Bytes come without their encoding. It is told by the byte-order mark, where there is one, and else
by the zero bytes among the first four. For a text that begins with a basic character and holds no
zero the guess is right in every encoding, with a mark and without (`decodeDetected_form`).
-/
namespace Conformance

namespace Encoding

/-- Bytes that are given from high to low, in the order of an encoding. -/
def ordered (bigEndian : Bool) (bytes : Bytes) : Bytes :=
  if bigEndian then bytes else bytes.reverse

/-- The two bytes of a unit. -/
def unitBytes (bigEndian : Bool) (unit : CodePoint) : Bytes :=
  ordered bigEndian [.ofNat (unit.toNat / 256), .ofNat (unit.toNat % 256)]

/-- The units of a code point. -/
def units (c : CodePoint) : Text :=
  if c.toNat < 0x10000 then [c]
  else
    [.ofNat (0xD800 + (c.toNat - 0x10000) / 0x400), .ofNat (0xDC00 + (c.toNat - 0x10000) % 0x400)]

/-- The four bytes of a code point. -/
def quadBytes (bigEndian : Bool) (c : CodePoint) : Bytes :=
  ordered bigEndian [.ofNat (c.toNat / 0x1000000), .ofNat (c.toNat / 0x10000 % 256),
    .ofNat (c.toNat / 256 % 256), .ofNat (c.toNat % 256)]

/-- The form of a text. -/
def encode : Encoding → Text → Bytes
  | .utf8, t => t.flatMap utf8Bytes
  | .utf16 bigEndian, t => (t.flatMap units).flatMap (unitBytes bigEndian)
  | .utf32 bigEndian, t => t.flatMap (quadBytes bigEndian)

theorem encode_cons (encoding : Encoding) (c : CodePoint) (t : Text) :
    encoding.encode (c :: t) = encoding.encode [c] ++ encoding.encode t := by
  cases encoding <;> simp [encode]

/-! ### UTF-8

A lenient reader takes the bytes of every code point, surrogates included, and no others. -/

theorem utf8Bytes_eq (c : CodePoint) :
    utf8Bytes c =
      if c.toNat < 0x80 then [.ofNat c.toNat]
      else if c.toNat < 0x800 then [.ofNat (0xC0 + c.toNat / 64), .ofNat (0x80 + c.toNat % 64)]
      else if c.toNat < 0x10000 then
        [.ofNat (0xE0 + c.toNat / 4096), .ofNat (0x80 + c.toNat / 64 % 64),
          .ofNat (0x80 + c.toNat % 64)]
      else
        [.ofNat (0xF0 + c.toNat / 262144), .ofNat (0x80 + c.toNat / 4096 % 64),
          .ofNat (0x80 + c.toNat / 64 % 64), .ofNat (0x80 + c.toNat % 64)] := by
  have last : c.toNat / Nat.pow 2 0 = c.toNat := Nat.div_one _
  rw [utf8Bytes]
  simp only [last]

theorem toNat_ofNat {n : Nat} (bound : n < 0x110000) : (CodePoint.ofNat n).toNat = n := by
  rw [CodePoint.ofNat, dif_pos bound]

section Sequences

variable {a b c d : UInt8}

/-- A byte is known by its number. -/
theorem byte_eq {n : Nat} (same : n = a.toNat) : UInt8.ofNat n = a := by
  rw [same, UInt8.ofNat_toNat]

theorem utf8Bytes_one (first : a.toNat < 0x80) : utf8Bytes (.ofNat a.toNat) = [a] := by
  have point : (CodePoint.ofNat a.toNat).toNat = a.toNat := toNat_ofNat (by omega)
  rw [utf8Bytes_eq, point, if_pos first, byte_eq rfl]

theorem utf8Bytes_two (least : 0xC2 ≤ a.toNat) (greatest : a.toNat < 0xE0)
    (second : isContinuation b = true) : utf8Bytes (join2 a b) = [a, b] := by
  rw [isContinuation_iff] at second
  have point : (join2 a b).toNat = a.toNat % 32 * 64 + b.toNat % 64 := toNat_ofNat (by omega)
  have high : UInt8.ofNat (0xC0 + (join2 a b).toNat / 64) = a := byte_eq (by omega)
  have low : UInt8.ofNat (0x80 + (join2 a b).toNat % 64) = b := byte_eq (by omega)
  rw [utf8Bytes_eq, if_neg (by omega), if_pos (by omega), high, low]

theorem utf8Bytes_three (least : 0xE0 ≤ a.toNat) (greatest : a.toNat < 0xF0)
    (long : a.toNat = 0xE0 → 0xA0 ≤ b.toNat) (second : isContinuation b = true)
    (third : isContinuation c = true) : utf8Bytes (join3 a b c) = [a, b, c] := by
  rw [isContinuation_iff] at second third
  have point : (join3 a b c).toNat =
      a.toNat % 16 * 4096 + b.toNat % 64 * 64 + c.toNat % 64 := toNat_ofNat (by omega)
  have high : UInt8.ofNat (0xE0 + (join3 a b c).toNat / 4096) = a := byte_eq (by omega)
  have middle : UInt8.ofNat (0x80 + (join3 a b c).toNat / 64 % 64) = b := byte_eq (by omega)
  have low : UInt8.ofNat (0x80 + (join3 a b c).toNat % 64) = c := byte_eq (by omega)
  rw [utf8Bytes_eq, if_neg (by omega), if_neg (by omega), if_pos (by omega), high, middle, low]

theorem utf8Bytes_four (least : 0xF0 ≤ a.toNat) (greatest : a.toNat < 0xF5)
    (long : a.toNat = 0xF0 → 0x90 ≤ b.toNat) (within : a.toNat = 0xF4 → b.toNat < 0x90)
    (second : isContinuation b = true) (third : isContinuation c = true)
    (fourth : isContinuation d = true) : utf8Bytes (join4 a b c d) = [a, b, c, d] := by
  rw [isContinuation_iff] at second third fourth
  have point : (join4 a b c d).toNat =
      a.toNat % 8 * 262144 + b.toNat % 64 * 4096 + c.toNat % 64 * 64 + d.toNat % 64 :=
    toNat_ofNat (by omega)
  have high : UInt8.ofNat (0xF0 + (join4 a b c d).toNat / 262144) = a := byte_eq (by omega)
  have next : UInt8.ofNat (0x80 + (join4 a b c d).toNat / 4096 % 64) = b := byte_eq (by omega)
  have middle : UInt8.ofNat (0x80 + (join4 a b c d).toNat / 64 % 64) = c := byte_eq (by omega)
  have low : UInt8.ofNat (0x80 + (join4 a b c d).toNat % 64) = d := byte_eq (by omega)
  rw [utf8Bytes_eq, if_neg (by omega), if_neg (by omega), if_neg (by omega), high, next, middle,
    low]

/-- What may follow the first byte of three: a continuation that the number is not too short for. -/
theorem of_fitsThree (fits : fitsThree a b = true) :
    isContinuation b = true ∧ (a.toNat = 0xE0 → 0xA0 ≤ b.toNat) := by
  simp only [fitsThree, Bool.and_eq_true, Bool.not_eq_true', Bool.and_eq_false_iff,
    decide_eq_false_iff_not, UInt8.lt_iff_toNat_lt, ← UInt8.toNat_inj, UInt8.reduceToNat] at fits
  refine ⟨fits.1.1, fun same => ?_⟩
  have long := fits.1.2
  omega

theorem of_fitsFour (fits : fitsFour a b = true) :
    isContinuation b = true ∧ (a.toNat = 0xF0 → 0x90 ≤ b.toNat) ∧
      (a.toNat = 0xF4 → b.toNat < 0x90) := by
  simp only [fitsFour, Bool.and_eq_true, Bool.not_eq_true', Bool.and_eq_false_iff,
    decide_eq_false_iff_not, UInt8.lt_iff_toNat_lt, ge_iff_le, UInt8.le_iff_toNat_le,
    ← UInt8.toNat_inj, UInt8.reduceToNat] at fits
  obtain ⟨⟨second, long⟩, within⟩ := fits
  exact ⟨second, by omega, by omega⟩

/-- A surrogate, which a strict reader refuses at its second byte. -/
theorem decodeUtf8_surrogate {position : Nat} (rest : Bytes) (high : 0xA0 ≤ b.toNat)
    (second : isContinuation b = true) (third : isContinuation c = true) :
    decodeUtf8 true position (0xED :: b :: c :: rest) =
      (decodeUtf8 true (position + 3) rest).map (join3 0xED b c :: ·) := by
  have unfit : fitsThree 0xED b = false := by
    have above : b ≥ 0xA0 := UInt8.le_iff_toNat_le.mpr high
    simp [fitsThree, above]
  rw [decodeUtf8.eq_def]
  simp only [unfit, second, third, Bool.and_true, decide_true, if_true, Bool.false_eq_true,
    if_false]
  rfl

end Sequences

theorem decodeUtf8_lenient {position : Nat} (c : CodePoint) (rest : Bytes) :
    decodeUtf8 true position (utf8Bytes c ++ rest) =
      (decodeUtf8 true (position + (utf8Bytes c).length) rest).map (c :: ·) := by
  cases scalar : c.isSurrogate with
  | false => exact decodeUtf8_utf8Bytes rest scalar
  | true =>
    obtain ⟨least, greatest⟩ : 0xD800 ≤ c.toNat ∧ c.toNat ≤ 0xDFFF := by
      simpa [CodePoint.isSurrogate] using scalar
    -- All surrogates take three bytes and share the first of them.
    have first : UInt8.ofNat (0xE0 + c.toNat / 4096) = 0xED := byte_eq (by
      show _ = 237
      omega)
    have same : join3 0xED (.ofNat (0x80 + c.toNat / 64 % 64)) (.ofNat (0x80 + c.toNat % 64)) =
        c := by
      rw [← first, join3_bytes (by omega), c.ofNat_toNat]
    have high := toNat_tail (c.toNat / 64)
    rw [utf8Bytes_eq, if_neg (by omega), if_neg (by omega), if_pos (by omega), first]
    refine (decodeUtf8_surrogate rest (by omega) (isContinuation_tail _)
      (isContinuation_tail _)).trans ?_
    rw [same]
    rfl

/-- Bytes are read exactly if they are those of a text. -/
theorem decodeUtf8_eq_ok_iff {position : Nat} {bytes : Bytes} {t : Text} :
    decodeUtf8 true position bytes = .ok t ↔ t.flatMap utf8Bytes = bytes := by
  constructor
  · intro read
    -- The cases are those of the reader; it takes a sequence of each length in one or two of them.
    fun_induction decodeUtf8 true position bytes generalizing t with
    | case1 =>
      cases read
      rfl
    | case2 position a rest one ih =>
      obtain ⟨others, more, rfl⟩ := map_eq_ok_iff.mp read
      rw [List.flatMap_cons, ih more, utf8Bytes_one (UInt8.lt_iff_toNat_lt.mp one)]
      rfl
    | case5 position a _ least greatest b rest second ih =>
      obtain ⟨others, more, rfl⟩ := map_eq_ok_iff.mp read
      rw [UInt8.not_lt, UInt8.le_iff_toNat_le] at least
      rw [List.flatMap_cons, ih more,
        utf8Bytes_two least (UInt8.lt_iff_toNat_lt.mp greatest) second]
      rfl
    | case10 position a _ _ least greatest b c rest fits third ih =>
      obtain ⟨others, more, rfl⟩ := map_eq_ok_iff.mp read
      rw [UInt8.not_lt, UInt8.le_iff_toNat_le] at least
      obtain ⟨second, long⟩ := of_fitsThree fits
      rw [List.flatMap_cons, ih more,
        utf8Bytes_three least (UInt8.lt_iff_toNat_lt.mp greatest) long second third]
      rfl
    | case12 position a _ _ least greatest b c rest unfit surrogate ih =>
      obtain ⟨others, more, rfl⟩ := map_eq_ok_iff.mp read
      simp only [Bool.true_and, Bool.and_eq_true, decide_eq_true_eq] at surrogate
      obtain ⟨⟨rfl, second⟩, third⟩ := surrogate
      rw [List.flatMap_cons, ih more,
        utf8Bytes_three (by decide) (by decide) (fun other => absurd other (by decide)) second third]
      rfl
    | case20 position a _ _ _ least greatest b c d rest fits third fourth ih =>
      obtain ⟨others, more, rfl⟩ := map_eq_ok_iff.mp read
      rw [UInt8.not_lt, UInt8.le_iff_toNat_le] at least
      obtain ⟨second, long, within⟩ := of_fitsFour fits
      rw [List.flatMap_cons, ih more, utf8Bytes_four least (UInt8.lt_iff_toNat_lt.mp greatest) long
        within second third fourth]
      rfl
    | _ => exact nomatch read
  · rintro rfl
    induction t generalizing position with
    | nil => rfl
    | cons c rest ih =>
      rw [List.flatMap_cons, decodeUtf8_lenient, ih]
      rfl

/-! ### UTF-16 -/

section Units

variable {bigEndian : Bool} {position : Nat} {c : CodePoint}

theorem units16_unitBytes (small : c.toNat < 0x10000) (rest : Bytes) :
    units16 bigEndian position (unitBytes bigEndian c ++ rest) =
      (units16 bigEndian (position + 2) rest).map (c :: ·) := by
  have high : (UInt8.ofNat (c.toNat / 256)).toNat = c.toNat / 256 := toNat_byte (by omega)
  have low : (UInt8.ofNat (c.toNat % 256)).toNat = c.toNat % 256 := toNat_byte (by omega)
  have whole : CodePoint.ofNat (c.toNat / 256 * 256 + c.toNat % 256) = c := by
    rw [Nat.div_add_mod', c.ofNat_toNat]
  cases bigEndian with
  | true =>
    show units16 true position (_ :: _ :: rest) = _
    rw [units16, if_pos rfl, high, low, whole]
  | false =>
    show units16 false position (_ :: _ :: rest) = _
    rw [units16, if_neg Bool.false_ne_true, high, low, whole]

/-- The bytes of a unit tell it. -/
theorem unitBytes_ofNat (a b : UInt8) :
    unitBytes bigEndian (.ofNat (a.toNat * 256 + b.toNat)) = ordered bigEndian [a, b] := by
  have first := a.toNat_lt
  have second := b.toNat_lt
  have point : (CodePoint.ofNat (a.toNat * 256 + b.toNat)).toNat = a.toNat * 256 + b.toNat :=
    toNat_ofNat (by omega)
  rw [unitBytes, point, byte_eq (a := a) (by omega), byte_eq (a := b) (by omega)]

theorem units16_eq_ok_iff {bytes : Bytes} {t : Text} :
    units16 bigEndian position bytes = .ok t ↔
      t.flatMap (unitBytes bigEndian) = bytes ∧ ∀ c ∈ t, c.toNat < 0x10000 := by
  constructor
  · intro read
    fun_induction units16 bigEndian position bytes generalizing t with
    | case1 =>
      cases read
      exact ⟨rfl, List.forall_mem_nil _⟩
    | case2 => cases read
    | case3 position a b rest value =>
      rename_i ih
      obtain ⟨others, more, rfl⟩ := map_eq_ok_iff.mp read
      obtain ⟨same, small⟩ := ih more
      have first := a.toNat_lt
      have second := b.toNat_lt
      have bound : value < 0x10000 := by
        simp only [value]
        split <;> omega
      have bytes : unitBytes bigEndian (.ofNat value) = [a, b] := by
        cases bigEndian with
        | true => exact unitBytes_ofNat a b
        | false => exact unitBytes_ofNat b a
      refine ⟨by rw [List.flatMap_cons, same, bytes]; rfl, List.forall_mem_cons.mpr ⟨?_, small⟩⟩
      rwa [toNat_ofNat (by omega)]
  · rintro ⟨rfl, small⟩
    induction t generalizing position with
    | nil => rfl
    | cons c rest ih =>
      obtain ⟨first, others⟩ := List.forall_mem_cons.mp small
      rw [List.flatMap_cons, units16_unitBytes first, ih others]
      rfl

theorem lt_of_mem_units {u : CodePoint} (member : u ∈ units c) : u.toNat < 0x10000 := by
  have bound := c.toNat_lt
  rw [units] at member
  split at member
  next small =>
    obtain rfl := List.mem_singleton.mp member
    exact small
  next =>
    simp only [List.mem_cons, List.not_mem_nil, or_false] at member
    rcases member with high | low
    · rw [high, toNat_ofNat (by omega)]
      omega
    · rw [low, toNat_ofNat (by omega)]
      omega

theorem pairSurrogates_cons (single : c.isHighSurrogate = false) (rest : Text) :
    pairSurrogates (c :: rest) = c :: pairSurrogates rest := by
  cases rest with
  | nil => rfl
  | cons d rest => rw [pairSurrogates, single, Bool.false_and, if_neg Bool.false_ne_true]

/-- The units of a scalar value are joined to it again. -/
theorem pairSurrogates_units (scalar : c.isSurrogate = false) (rest : Text) :
    pairSurrogates (units c ++ rest) = c :: pairSurrogates rest := by
  have bound := c.toNat_lt
  rw [units]
  split
  next small =>
    apply pairSurrogates_cons
    simp only [CodePoint.isSurrogate, CodePoint.isHighSurrogate, Bool.and_eq_false_iff,
      decide_eq_false_iff_not] at scalar ⊢
    omega
  next large =>
    have high : (CodePoint.ofNat (0xD800 + (c.toNat - 0x10000) / 0x400)).toNat =
        0xD800 + (c.toNat - 0x10000) / 0x400 := toNat_ofNat (by omega)
    have low : (CodePoint.ofNat (0xDC00 + (c.toNat - 0x10000) % 0x400)).toNat =
        0xDC00 + (c.toNat - 0x10000) % 0x400 := toNat_ofNat (by omega)
    have pair : ((CodePoint.ofNat (0xD800 + (c.toNat - 0x10000) / 0x400)).isHighSurrogate &&
        (CodePoint.ofNat (0xDC00 + (c.toNat - 0x10000) % 0x400)).isLowSurrogate) = true := by
      simp only [CodePoint.isHighSurrogate, CodePoint.isLowSurrogate, high, low, Bool.and_eq_true,
        decide_eq_true_eq]
      omega
    have same : CodePoint.ofSurrogates (.ofNat (0xD800 + (c.toNat - 0x10000) / 0x400))
        (.ofNat (0xDC00 + (c.toNat - 0x10000) % 0x400)) = c := by
      rw [CodePoint.ofSurrogates, high, low]
      have sum : 0x10000 + (0xD800 + (c.toNat - 0x10000) / 0x400 - 0xD800) * 0x400 +
          (0xDC00 + (c.toNat - 0x10000) % 0x400 - 0xDC00) = c.toNat := by omega
      rw [sum, c.ofNat_toNat]
    rw [List.cons_append, List.cons_append, List.nil_append, pairSurrogates, if_pos pair, same]

/-- A pair of surrogates and the code point that it stands for have the same units. -/
theorem units_ofSurrogates {high low : CodePoint} (first : high.isHighSurrogate = true)
    (second : low.isLowSurrogate = true) : units (.ofSurrogates high low) = [high, low] := by
  simp only [CodePoint.isHighSurrogate, CodePoint.isLowSurrogate, Bool.and_eq_true,
    decide_eq_true_eq] at first second
  have point : (CodePoint.ofSurrogates high low).toNat =
      0x10000 + (high.toNat - 0xD800) * 0x400 + (low.toNat - 0xDC00) := toNat_ofNat (by omega)
  have upper : 0xD800 + ((CodePoint.ofSurrogates high low).toNat - 0x10000) / 0x400 =
      high.toNat := by omega
  have lower : 0xDC00 + ((CodePoint.ofSurrogates high low).toNat - 0x10000) % 0x400 =
      low.toNat := by omega
  rw [units, if_neg (by omega), upper, lower, high.ofNat_toNat, low.ofNat_toNat]

theorem flatMap_units_pairSurrogates {t : Text} (small : ∀ c ∈ t, c.toNat < 0x10000) :
    (pairSurrogates t).flatMap units = t := by
  have single {c : CodePoint} (bound : c.toNat < 0x10000) : units c = [c] := if_pos bound
  fun_induction pairSurrogates t with
  | case1 high low rest pair ih =>
    obtain ⟨_, later⟩ := List.forall_mem_cons.mp small
    obtain ⟨_, others⟩ := List.forall_mem_cons.mp later
    rw [Bool.and_eq_true] at pair
    rw [List.flatMap_cons, ih others, units_ofSurrogates pair.1 pair.2]
    rfl
  | case2 high low rest _ ih =>
    obtain ⟨first, later⟩ := List.forall_mem_cons.mp small
    rw [List.flatMap_cons, ih later, single first]
    rfl
  | case3 t short =>
    cases t with
    | nil => rfl
    | cons c rest =>
      cases rest with
      | nil =>
        rw [List.flatMap_cons, single (small c List.mem_cons_self)]
        rfl
      | cons d rest => exact absurd rfl (short c d rest)

end Units

/-! ### UTF-32 -/

section Quads

variable {bigEndian : Bool} {position : Nat}

theorem units32_quadBytes (c : CodePoint) (rest : Bytes) :
    units32 bigEndian position (quadBytes bigEndian c ++ rest) =
      (units32 bigEndian (position + 4) rest).map (c :: ·) := by
  have bound := c.toNat_lt
  have byte {n : Nat} (small : n < 256) : (UInt8.ofNat n).toNat = n := toNat_byte small
  have first := byte (n := c.toNat / 0x1000000) (by omega)
  have second := byte (n := c.toNat / 0x10000 % 256) (by omega)
  have third := byte (n := c.toNat / 256 % 256) (by omega)
  have fourth := byte (n := c.toNat % 256) (by omega)
  have whole : ((c.toNat / 0x1000000 * 256 + c.toNat / 0x10000 % 256) * 256 +
      c.toNat / 256 % 256) * 256 + c.toNat % 256 = c.toNat := by omega
  cases bigEndian with
  | true =>
    show units32 true position (_ :: _ :: _ :: _ :: rest) = _
    rw [units32, if_pos rfl, first, second, third, fourth, whole, if_pos bound, c.ofNat_toNat]
  | false =>
    show units32 false position (_ :: _ :: _ :: _ :: rest) = _
    rw [units32, if_neg Bool.false_ne_true, first, second, third, fourth, whole, if_pos bound,
      c.ofNat_toNat]

/-- The bytes of a code point tell it. -/
theorem quadBytes_ofNat {a b c d : UInt8}
    (bound : ((a.toNat * 256 + b.toNat) * 256 + c.toNat) * 256 + d.toNat < 0x110000) :
    quadBytes bigEndian (.ofNat (((a.toNat * 256 + b.toNat) * 256 + c.toNat) * 256 + d.toNat)) =
      ordered bigEndian [a, b, c, d] := by
  have second := b.toNat_lt
  have third := c.toNat_lt
  have fourth := d.toNat_lt
  rw [quadBytes, toNat_ofNat bound, byte_eq (a := a) (by omega), byte_eq (a := b) (by omega),
    byte_eq (a := c) (by omega), byte_eq (a := d) (by omega)]

theorem units32_eq_ok_iff {bytes : Bytes} {t : Text} :
    units32 bigEndian position bytes = .ok t ↔ t.flatMap (quadBytes bigEndian) = bytes := by
  constructor
  · intro read
    fun_induction units32 bigEndian position bytes generalizing t with
    | case1 =>
      cases read
      rfl
    | case2 position a b c d rest value bound =>
      rename_i ih
      obtain ⟨others, more, rfl⟩ := map_eq_ok_iff.mp read
      have bytes : quadBytes bigEndian (.ofNat value) = [a, b, c, d] := by
        cases bigEndian with
        | true => exact quadBytes_ofNat bound
        | false => exact quadBytes_ofNat bound
      rw [List.flatMap_cons, ih more, bytes]
      rfl
    | case3 => cases read
    | case4 => cases read
  · rintro rfl
    induction t generalizing position with
    | nil => rfl
    | cons c rest ih =>
      rw [List.flatMap_cons, units32_quadBytes, ih]
      rfl

end Quads

/-! ### Any encoding -/

/-- Bytes are read exactly if they are the form of a text. -/
theorem exists_decodeAt_iff (encoding : Encoding) (position : Nat) (bytes : Bytes) :
    (∃ t, decodeAt encoding position bytes = .ok t) ↔ ∃ t, encoding.encode t = bytes := by
  cases encoding with
  | utf8 => exact exists_congr fun t => decodeUtf8_eq_ok_iff
  | utf32 bigEndian => exact exists_congr fun t => units32_eq_ok_iff
  | utf16 bigEndian =>
    constructor
    · rintro ⟨t, read⟩
      obtain ⟨us, units, rfl⟩ := map_eq_ok_iff.mp read
      obtain ⟨same, small⟩ := units16_eq_ok_iff.mp units
      exact ⟨pairSurrogates us, by rw [encode, flatMap_units_pairSurrogates small, same]⟩
    · rintro ⟨t, rfl⟩
      -- Surrogates of the text may be paired in reading, so another text may be read than this.
      have small : ∀ u ∈ t.flatMap units, u.toNat < 0x10000 := by
        intro u member
        obtain ⟨c, _, inside⟩ := List.mem_flatMap.mp member
        exact lt_of_mem_units inside
      exact ⟨_, map_eq_ok_iff.mpr ⟨_, units16_eq_ok_iff.mpr ⟨rfl, small⟩, rfl⟩⟩

/-- A text without surrogates is read back from each of its forms. -/
theorem decodeAt_encode {t : Text} (scalar : t.Scalar) (encoding : Encoding) (position : Nat) :
    decodeAt encoding position (encoding.encode t) = .ok t := by
  cases encoding with
  | utf8 => exact decodeUtf8_eq_ok_iff.mpr rfl
  | utf32 bigEndian => exact units32_eq_ok_iff.mpr rfl
  | utf16 bigEndian =>
    have small : ∀ u ∈ t.flatMap units, u.toNat < 0x10000 := by
      intro u member
      obtain ⟨c, _, inside⟩ := List.mem_flatMap.mp member
      exact lt_of_mem_units inside
    have paired : pairSurrogates (t.flatMap units) = t := by
      induction t with
      | nil => rfl
      | cons c rest ih =>
        obtain ⟨first, others⟩ := List.forall_mem_cons.mp scalar
        rw [List.flatMap_cons, List.forall_mem_append] at small
        rw [List.flatMap_cons, pairSurrogates_units first, ih others small.2]
    exact map_eq_ok_iff.mpr ⟨_, units16_eq_ok_iff.mpr ⟨rfl, small⟩, paired⟩

/-! ### Bytes without their encoding -/

/-- The code point that may lead a text in bytes, to show their order. -/
def mark : CodePoint := .ofNat 0xFEFF

/-- A text in bytes, with a byte-order mark or without. -/
def form (encoding : Encoding) (marked : Bool) (t : Text) : Bytes :=
  encoding.encode (if marked then mark :: t else t)

/-- The encoding that bytes give away, and the bytes behind the mark if there is one. -/
def detected (bytes : Bytes) : Encoding × Bytes :=
  match bytes with
  | 0x00 :: 0x00 :: 0xFE :: 0xFF :: rest => (.utf32 true, rest)
  | 0xFF :: 0xFE :: 0x00 :: 0x00 :: rest => (.utf32 false, rest)
  | 0xFE :: 0xFF :: rest => (.utf16 true, rest)
  | 0xFF :: 0xFE :: rest => (.utf16 false, rest)
  | 0xEF :: 0xBB :: 0xBF :: rest => (.utf8, rest)
  | _ => (detect bytes, bytes)

theorem exists_decodeDetected_eq (bytes : Bytes) :
    ∃ position, decodeDetected bytes =
      decodeAt (detected bytes).1 position (detected bytes).2 := by
  fun_cases detected bytes with
  | case1 rest => exact ⟨4, rfl⟩
  | case2 rest => exact ⟨4, rfl⟩
  | case3 rest => exact ⟨2, rfl⟩
  | case4 rest unlike => exact ⟨2, decodeDetected.eq_4 rest unlike⟩
  | case5 rest => exact ⟨0, rfl⟩
  | case6 bytes first second third fourth fifth =>
    exact ⟨0, decodeDetected.eq_6 bytes first second third fourth fifth⟩

/-- Bytes are the form of some text in the encoding that they give away. -/
def IsForm (bytes : Bytes) : Prop := ∃ t, (detected bytes).1.encode t = (detected bytes).2

theorem exists_decodeDetected_iff (bytes : Bytes) :
    (∃ t, decodeDetected bytes = .ok t) ↔ IsForm bytes := by
  obtain ⟨position, same⟩ := exists_decodeDetected_eq bytes
  rw [same]
  exact exists_decodeAt_iff _ _ _

section Detection

/-! A byte-order mark does not begin with a basic character. Behind one, a zero byte comes of the
order of bytes, or of a zero in the text. -/

variable {a b : UInt8} {more : Bytes}

theorem detected_basic (basic : a.toNat < 0x80) (inked : a ≠ 0) :
    detected (a :: more) = (detect (a :: more), a :: more) := by
  have other {b : UInt8} {rest : Bytes} (strange : b = 0 ∨ 0x80 ≤ b.toNat) :
      a :: more = b :: rest → False := by
    intro same
    obtain rfl := (List.cons.inj same).1
    rcases strange with zero | high
    · exact inked zero
    · omega
  exact detected.eq_6 _ (fun _ => other (.inl rfl)) (fun _ => other (.inr (by decide)))
    (fun _ => other (.inr (by decide))) (fun _ => other (.inr (by decide)))
    (fun _ => other (.inr (by decide)))

theorem detected_zero (unmarked : ∀ rest, more ≠ 0 :: 0xFE :: 0xFF :: rest) :
    detected (0 :: more) = (detect (0 :: more), 0 :: more) := by
  have other {b : UInt8} {rest : Bytes} (strange : b ≠ 0) : 0 :: more = b :: rest → False :=
    fun same => strange (List.cons.inj same).1.symm
  exact detected.eq_6 _ (fun rest same => unmarked rest (List.cons.inj same).2)
    (fun _ => other (by decide)) (fun _ => other (by decide)) (fun _ => other (by decide))
    (fun _ => other (by decide))

theorem detect_utf8 (first : a ≠ 0) (second : ∀ b ∈ more.head?, b ≠ 0) :
    detect (a :: more) = .utf8 := by
  match more with
  | [] => rfl
  | [b] => rw [detect, if_neg first, if_neg (second b rfl)]
  | [b, c] => rfl
  | b :: c :: d :: rest => rw [detect, if_neg first, if_neg (second b rfl)]

theorem detect_utf16_little (first : a ≠ 0)
    (unit : more = [] ∨ ∃ x y rest, more = x :: y :: rest ∧ ¬(x = 0 ∧ y = 0)) :
    detect (a :: 0 :: more) = .utf16 false := by
  rcases unit with rfl | ⟨x, y, rest, rfl, inked⟩
  · rw [detect, if_neg first, if_pos rfl]
  · have other : (decide (x = 0) && decide (y = 0)) = false := by simpa using inked
    rw [detect, if_neg first, if_pos rfl, other, if_neg Bool.false_ne_true]

theorem detect_utf16_big (first : a ≠ 0) (even : more = [] ∨ ∃ x y rest, more = x :: y :: rest) :
    detect (0 :: a :: more) = .utf16 true := by
  rcases even with rfl | ⟨x, y, rest, rfl⟩
  · rw [detect, if_pos rfl]
  · rw [detect, if_pos rfl, if_neg first]

theorem not_mem_utf8Bytes {c : CodePoint} (inked : c.toNat ≠ 0) : 0 ∉ utf8Bytes c := by
  have bound := c.toNat_lt
  have other {n : Nat} (small : n < 256) (some_bit : n ≠ 0) : 0 ≠ UInt8.ofNat n := by
    intro same
    have zero := congrArg UInt8.toNat same
    rw [toNat_byte small] at zero
    exact some_bit zero.symm
  rw [utf8Bytes_eq]
  split_ifs
  all_goals
    simp only [List.mem_cons, List.not_mem_nil, or_false, not_or]
  · exact other (by omega) inked
  · exact ⟨other (by omega) (by omega), other (by omega) (by omega)⟩
  · exact ⟨other (by omega) (by omega), other (by omega) (by omega), other (by omega) (by omega)⟩
  · exact ⟨other (by omega) (by omega), other (by omega) (by omega), other (by omega) (by omega),
      other (by omega) (by omega)⟩

/-- The bytes of a text's units, where none is zero. -/
theorem unitBytes_shape (bigEndian : Bool) {t : Text}
    (inked : ∀ u ∈ t, u.toNat ≠ 0 ∧ u.toNat < 0x10000) :
    t.flatMap (unitBytes bigEndian) = [] ∨ ∃ x y rest,
      t.flatMap (unitBytes bigEndian) = x :: y :: rest ∧ ¬(x = 0 ∧ y = 0) := by
  cases t with
  | nil => exact .inl rfl
  | cons u rest =>
    obtain ⟨some_bit, small⟩ := inked u List.mem_cons_self
    have zero {n : Nat} (bound : n < 256) (same : UInt8.ofNat n = 0) : n = 0 := by
      rw [← toNat_byte bound, same]
      rfl
    have parts (high : UInt8.ofNat (u.toNat / 256) = 0) (low : UInt8.ofNat (u.toNat % 256) = 0) :
        False := by
      have upper := zero (by omega) high
      have lower := zero (by omega) low
      omega
    cases bigEndian with
    | true => exact .inr ⟨_, _, _, rfl, fun both => parts both.1 both.2⟩
    | false => exact .inr ⟨_, _, _, rfl, fun both => parts both.2 both.1⟩

theorem ne_zero_of_mem_units {c u : CodePoint} (inked : c.toNat ≠ 0) (member : u ∈ units c) :
    u.toNat ≠ 0 := by
  have bound := c.toNat_lt
  rw [units] at member
  split at member
  · obtain rfl := List.mem_singleton.mp member
    exact inked
  · simp only [List.mem_cons, List.not_mem_nil, or_false] at member
    rcases member with high | low
    · rw [high, toNat_ofNat (by omega)]
      omega
    · rw [low, toNat_ofNat (by omega)]
      omega

end Detection

section Beginning

variable {c : CodePoint} {rest : Text}

/-- A basic character is one byte, or one byte among zeros. -/
theorem toNat_basic (basic : c.toNat < 0x80) : (UInt8.ofNat c.toNat).toNat = c.toNat :=
  toNat_byte (by omega)

theorem byte_ne_zero (basic : c.toNat < 0x80) (inked : c.toNat ≠ 0) : UInt8.ofNat c.toNat ≠ 0 := by
  intro zero
  apply inked
  rw [← toNat_basic basic, zero]
  rfl

theorem encode_utf8 (basic : c.toNat < 0x80) :
    encode .utf8 (c :: rest) = .ofNat c.toNat :: rest.flatMap utf8Bytes := by
  rw [encode, List.flatMap_cons, utf8Bytes_eq, if_pos basic]
  rfl

theorem encode_utf16 (basic : c.toNat < 0x80) (bigEndian : Bool) :
    encode (.utf16 bigEndian) (c :: rest) =
      ordered bigEndian [0, .ofNat c.toNat] ++
        (rest.flatMap units).flatMap (unitBytes bigEndian) := by
  have high : c.toNat / 256 = 0 := Nat.div_eq_of_lt (by omega)
  have low : c.toNat % 256 = c.toNat := Nat.mod_eq_of_lt (by omega)
  have single : units c = [c] := if_pos (by omega)
  rw [encode, List.flatMap_cons, single, List.singleton_append, List.flatMap_cons, unitBytes, high,
    low]
  rfl

theorem encode_utf32 (basic : c.toNat < 0x80) (bigEndian : Bool) :
    encode (.utf32 bigEndian) (c :: rest) =
      ordered bigEndian [0, 0, 0, .ofNat c.toNat] ++ rest.flatMap (quadBytes bigEndian) := by
  have first : c.toNat / 0x1000000 = 0 := Nat.div_eq_of_lt (by omega)
  have second : c.toNat / 0x10000 % 256 = 0 := by omega
  have third : c.toNat / 256 % 256 = 0 := by omega
  have low : c.toNat % 256 = c.toNat := Nat.mod_eq_of_lt (by omega)
  rw [encode, List.flatMap_cons, quadBytes, first, second, third, low]
  rfl

/-- The marks of the encodings differ: that of UTF-16 begins that of UTF-32, but goes on with what
cannot be the first character. -/
theorem detected_marked (basic : c.toNat < 0x80) (inked : c.toNat ≠ 0) (encoding : Encoding) :
    detected (encoding.encode (mark :: c :: rest)) = (encoding, encoding.encode (c :: rest)) := by
  rw [encode_cons]
  cases encoding with
  | utf8 => rfl
  | utf32 bigEndian => cases bigEndian <;> rfl
  | utf16 bigEndian =>
    cases bigEndian with
    | true => rfl
    | false =>
      -- The mark of UTF-32 goes on with two zeros, and here the character comes first.
      refine detected.eq_4 _ fun more same => byte_ne_zero basic inked ?_
      rw [encode_utf16 basic] at same
      exact (List.cons.inj same).1

/-- Without a mark the zero bytes lie where the encoding puts them. -/
theorem detected_unmarked (basic : c.toNat < 0x80) (inked : ∀ d ∈ c :: rest, d.toNat ≠ 0)
    (encoding : Encoding) :
    detected (encoding.encode (c :: rest)) = (encoding, encoding.encode (c :: rest)) := by
  obtain ⟨first, others⟩ := List.forall_mem_cons.mp inked
  have some_bit := byte_ne_zero basic first
  have small : (UInt8.ofNat c.toNat).toNat < 0x80 := by rwa [toNat_basic basic]
  cases encoding with
  | utf8 =>
    have next : ∀ b ∈ (rest.flatMap utf8Bytes).head?, b ≠ 0 := by
      rintro b member rfl
      obtain ⟨d, present, inside⟩ := List.mem_flatMap.mp (List.mem_of_mem_head? member)
      exact not_mem_utf8Bytes (others d present) inside
    rw [encode_utf8 basic, detected_basic small some_bit, detect_utf8 some_bit next]
  | utf16 bigEndian =>
    have shape := unitBytes_shape bigEndian (t := rest.flatMap units) (by
      intro u member
      obtain ⟨d, present, inside⟩ := List.mem_flatMap.mp member
      exact ⟨ne_zero_of_mem_units (others d present) inside, lt_of_mem_units inside⟩)
    rw [encode_utf16 basic]
    generalize (rest.flatMap units).flatMap (unitBytes bigEndian) = tail at shape
    cases bigEndian with
    | true =>
      have even : tail = [] ∨ ∃ x y more, tail = x :: y :: more :=
        shape.imp_right fun ⟨x, y, more, same, _⟩ => ⟨x, y, more, same⟩
      show detected (0 :: UInt8.ofNat c.toNat :: tail) = (_, 0 :: UInt8.ofNat c.toNat :: tail)
      rw [detected_zero fun more same => some_bit (List.cons.inj same).1,
        detect_utf16_big some_bit even]
    | false =>
      show detected (UInt8.ofNat c.toNat :: 0 :: tail) = (_, UInt8.ofNat c.toNat :: 0 :: tail)
      rw [detected_basic small some_bit, detect_utf16_little some_bit shape]
  | utf32 bigEndian =>
    rw [encode_utf32 basic]
    cases bigEndian with
    | true =>
      show detected (0 :: 0 :: 0 :: UInt8.ofNat c.toNat :: _) = _
      rw [detected_zero (by simp)]
      rfl
    | false =>
      show detected (UInt8.ofNat c.toNat :: 0 :: 0 :: 0 :: _) = _
      rw [detected_basic small some_bit, detect, if_neg some_bit]
      rfl

/-- A text that begins with a basic character and holds neither a zero nor a surrogate is read back
from each of its forms. -/
theorem decodeDetected_form (basic : c.toNat < 0x80) (inked : ∀ d ∈ c :: rest, d.toNat ≠ 0)
    (scalar : Text.Scalar (c :: rest)) (encoding : Encoding) (marked : Bool) :
    decodeDetected (encoding.form marked (c :: rest)) = .ok (c :: rest) := by
  obtain ⟨position, same⟩ := exists_decodeDetected_eq (encoding.form marked (c :: rest))
  have known : detected (encoding.form marked (c :: rest)) =
      (encoding, encoding.encode (c :: rest)) := by
    cases marked with
    | true => exact detected_marked basic (inked c List.mem_cons_self) encoding
    | false => exact detected_unmarked basic inked encoding
  rw [same, known, decodeAt_encode scalar]

end Beginning

end Encoding
end Conformance
