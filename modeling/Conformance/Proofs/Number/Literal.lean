import Conformance.Number.Literal
import Conformance.Proofs.Text.Order
import Mathlib.Tactic.Common

/-!
# Plain numerals

A run of digits of a base is read as a whole number of that base, and digits with a point and an
exponent as a real number. Only the limit on the digits of a decimal number stands in the way.
-/
namespace Conformance.Numeral

/-- A basic code point that is neither a blank nor a low line. -/
structure Solid (c : CodePoint) : Prop where
  ascii : c.isAscii = true
  visible : isAsciiSpace c = false
  mark : c ≠ '_'

variable {base : Nat} {c : CodePoint} {t : Text}

theorem toBasic_of_solid (solid : ∀ c ∈ t, Solid c) : toBasic t = t :=
  if_pos (List.all_eq_true.mpr fun c member => (solid c member).ascii)

theorem dropWhile_of_solid (solid : ∀ c ∈ t, Solid c) : t.dropWhile isAsciiSpace = t := by
  cases t with
  | nil => rfl
  | cons c rest =>
    rw [List.dropWhile_cons_of_neg]
    simp [(solid c List.mem_cons_self).visible]

theorem trim_of_solid (solid : ∀ c ∈ t, Solid c) : t.trim isAsciiSpace = t := by
  have back : ∀ c ∈ t.reverse, Solid c := fun c member => solid c (List.mem_reverse.mp member)
  rw [Text.trim, dropWhile_of_solid solid, dropWhile_of_solid back, List.reverse_reverse]

theorem dropLowLines?_of_solid {last : CodePoint} (first : last ≠ '_')
    (solid : ∀ c ∈ t, Solid c) : dropLowLines? last t = some t := by
  induction t generalizing last with
  | nil => rw [dropLowLines?, if_neg first]
  | cons c rest ih =>
    obtain ⟨here, later⟩ := List.forall_mem_cons.mp solid
    rw [dropLowLines?, if_neg here.mark, if_neg (fun both => first both.1), ih here.mark later]
    rfl

/-! ### Whole numbers -/

theorem hexValue?_isSome_iff : c.hexValue?.isSome = true ↔
    (48 ≤ c.toNat ∧ c.toNat ≤ 57) ∨ (97 ≤ c.toNat ∧ c.toNat ≤ 102) ∨
      (65 ≤ c.toNat ∧ c.toNat ≤ 70) := by
  simp only [CodePoint.hexValue?, CodePoint.isDigit, Bool.and_eq_true, decide_eq_true_eq]
  split_ifs <;> simp <;> omega

theorem hexValue?_isSome_of_digitIn (digit : (digitIn? base c).isSome = true) :
    c.hexValue?.isSome = true := by
  rw [digitIn?] at digit
  cases known : c.hexValue? with
  | none =>
    rw [known] at digit
    cases digit
  | some value => rfl

theorem solid_of_hexValue (digit : c.hexValue?.isSome = true) : Solid c where
  ascii := by
    rw [hexValue?_isSome_iff] at digit
    exact decide_eq_true (by omega)
  visible := by
    rw [Bool.eq_false_iff]
    intro blank
    rw [isAsciiSpace, Bool.or_eq_true, Bool.and_eq_true] at blank
    rw [hexValue?_isSome_iff] at digit
    rcases blank with space | ⟨-, low⟩
    · rw [of_decide_eq_true space] at digit
      revert digit
      decide
    · have := of_decide_eq_true low
      omega
  mark := by
    rintro rfl
    cases digit

variable {digits : Text}

/-- Digits that are read on from a digit. -/
theorem digitRun?_true (each : ∀ c ∈ digits, (digitIn? base c).isSome = true) :
    digitRun? base true digits = some (digits, []) := by
  induction digits with
  | nil => rfl
  | cons c rest ih =>
    obtain ⟨here, later⟩ := List.forall_mem_cons.mp each
    rw [digitRun?, if_pos here, ih later]
    rfl

theorem digitRun?_of_digits (inhabited : digits ≠ [])
    (each : ∀ c ∈ digits, (digitIn? base c).isSome = true) :
    digitRun? base false digits = some (digits, []) := by
  cases digits with
  | nil => exact absurd rfl inhabited
  | cons c rest =>
    obtain ⟨here, later⟩ := List.forall_mem_cons.mp each
    rw [digitRun?, if_pos here, digitRun?_true later]
    rfl

/-- A digit is no sign. -/
theorem splitSign_of_digits (each : ∀ c ∈ digits, c.hexValue?.isSome = true) :
    splitSign digits = (false, digits) := by
  cases digits with
  | nil => rfl
  | cons c rest =>
    have here := each c List.mem_cons_self
    have minus : c ≠ '-' := by
      rintro rfl
      cases here
    have plus : c ≠ '+' := by
      rintro rfl
      cases here
    rw [splitSign, if_neg minus, if_neg plus]

theorem toNat_of_toAsciiLower {letter : CodePoint} (lower : c.toAsciiLower = letter) :
    c.toNat = letter.toNat ∨ c.toNat + 32 = letter.toNat := by
  subst lower
  rw [CodePoint.toAsciiLower]
  split_ifs with capital
  · right
    rw [Bool.and_eq_true, decide_eq_true_eq, decide_eq_true_eq] at capital
    rw [CodePoint.ofNat, dif_pos (by omega)]
  · exact .inl rfl

theorem exists_splitSign {sign : CodePoint} (rest : Text) (mark : sign = '+' ∨ sign = '-') :
    ∃ negative, splitSign (sign :: rest) = (negative, rest) := by
  rcases mark with rfl | rfl
  · exact ⟨false, rfl⟩
  · exact ⟨true, rfl⟩

/-- The letter of a base is no digit of it. -/
theorem letter_not_digit (named : baseLetter? base = some c.toAsciiLower) :
    ¬(digitIn? base c).isSome = true := by
  intro digit
  have hexadecimal := hexValue?_isSome_iff.mp (hexValue?_isSome_of_digitIn digit)
  rw [baseLetter?] at named
  split_ifs at named with binary octal sixteen
  -- The letter of base two is a digit of base sixteen, but not of its own.
  · subst binary
    rcases toNat_of_toAsciiLower (Option.some.inj named).symm with small | capital
    · rw [CodePoint.toNat_injective small] at digit
      cases digit
    · have letter : c = 'B' := CodePoint.toNat_injective (Nat.add_right_cancel (m := 32) capital)
      rw [letter] at digit
      cases digit
  · have code := toNat_of_toAsciiLower (Option.some.inj named).symm
    have : (CodePoint.ofChar 'o').toNat = 111 := rfl
    omega
  · have code := toNat_of_toAsciiLower (Option.some.inj named).symm
    have : (CodePoint.ofChar 'x').toNat = 120 := rfl
    omega

theorem dropBaseMark_of_digits (each : ∀ c ∈ digits, (digitIn? base c).isSome = true) :
    dropBaseMark base digits = digits := by
  rcases digits with _ | ⟨zero, _ | ⟨letter, rest⟩⟩
  · rfl
  · rfl
  · have digit := each letter (List.mem_cons_of_mem _ List.mem_cons_self)
    have unmarked : ¬(zero = '0' ∧ baseLetter? base = some letter.toAsciiLower) := by
      rintro ⟨-, named⟩
      exact letter_not_digit named digit
    exact if_neg unmarked

/-- Digits of a base are a whole number of that base, unless there are too many. -/
theorem parseIntIn_of_digits (inhabited : digits ≠ [])
    (each : ∀ c ∈ digits, (digitIn? base c).isSome = true) :
    parseIntIn base digits =
      if base = 10 ∧ maxIntegerDigits < digits.length then .error (.tooManyDigits digits.length)
      else .ok (valueIn base digits) := by
  have hexadecimal : ∀ c ∈ digits, c.hexValue?.isSome = true :=
    fun c member => hexValue?_isSome_of_digitIn (each c member)
  have solid : ∀ c ∈ digits, Solid c := fun c member => solid_of_hexValue (hexadecimal c member)
  rw [parseIntIn, toBasic_of_solid solid, dropWhile_of_solid solid,
    splitSign_of_digits hexadecimal]
  simp only [dropBaseMark_of_digits each, digitRun?_of_digits inhabited each]
  rfl

/-! ### Real numbers -/

theorem hexValue?_isSome_of_isDigit (digit : c.isDigit = true) : c.hexValue?.isSome = true := by
  rw [CodePoint.hexValue?, if_pos digit]
  rfl

theorem solid_of_isDigit (digit : c.isDigit = true) : Solid c :=
  solid_of_hexValue (hexValue?_isSome_of_isDigit digit)

def point : CodePoint := '.'

/-- An exponent of ten with its sign, or nothing. -/
inductive Scale : Text → Prop where
  | none : Scale []
  | signed {sign : CodePoint} {digits : Text} (mark : sign = '+' ∨ sign = '-')
      (inhabited : digits ≠ []) (each : ∀ c ∈ digits, c.isDigit = true) :
      Scale (CodePoint.ofChar 'e' :: sign :: digits)

/-- Digits, or digits around a point with an exponent behind them. -/
inductive Magnitude : Text → Prop where
  | whole {digits : Text} (inhabited : digits ≠ []) (each : ∀ c ∈ digits, c.isDigit = true) :
      Magnitude digits
  | pointed {whole fraction scale : Text} (inhabited : whole ++ fraction ≠ [])
      (before : ∀ c ∈ whole, c.isDigit = true) (behind : ∀ c ∈ fraction, c.isDigit = true)
      (scaled : Scale scale) : Magnitude (whole ++ point :: (fraction ++ scale))

theorem Scale.solid (scaled : Scale t) : ∀ c ∈ t, Solid c := by
  cases scaled with
  | none => exact List.forall_mem_nil _
  | @signed sign digits mark inhabited each =>
    have letter : Solid 'e' := ⟨rfl, rfl, by decide⟩
    have signed : Solid sign := by
      rcases mark with rfl | rfl
      · exact ⟨rfl, rfl, by decide⟩
      · exact ⟨rfl, rfl, by decide⟩
    exact List.forall_mem_cons.mpr ⟨letter, List.forall_mem_cons.mpr
      ⟨signed, fun c member => solid_of_isDigit (each c member)⟩⟩

theorem Magnitude.solid (magnitude : Magnitude t) : ∀ c ∈ t, Solid c := by
  cases magnitude with
  | whole inhabited each => exact fun c member => solid_of_isDigit (each c member)
  | pointed inhabited before behind scaled =>
    have dot : Solid point := ⟨rfl, rfl, by decide⟩
    exact List.forall_mem_append.mpr ⟨fun c member => solid_of_isDigit (before c member),
      List.forall_mem_cons.mpr ⟨dot, List.forall_mem_append.mpr
        ⟨fun c member => solid_of_isDigit (behind c member), scaled.solid⟩⟩⟩

/-- A magnitude begins with a digit or a point. -/
theorem Magnitude.exists_cons (magnitude : Magnitude t) :
    ∃ c rest, t = c :: rest ∧ (c.isDigit = true ∨ c = point) := by
  cases magnitude with
  | whole inhabited each =>
    obtain ⟨c, rest, rfl⟩ := List.exists_cons_of_ne_nil inhabited
    exact ⟨c, rest, rfl, .inl (each c List.mem_cons_self)⟩
  | @pointed whole fraction scale inhabited before behind scaled =>
    cases whole with
    | nil => exact ⟨_, _, rfl, .inr rfl⟩
    | cons c rest => exact ⟨c, _, rfl, .inl (before c List.mem_cons_self)⟩

/-- A run is taken up to where it stops. -/
theorem takeWhile_run {kind : CodePoint → Bool} {run : Text} (rest : Text)
    (each : ∀ c ∈ run, kind c = true) (stop : ∀ c ∈ rest.head?, kind c = false) :
    (run ++ rest).takeWhile kind = run ∧ (run ++ rest).dropWhile kind = rest := by
  rw [List.takeWhile_append_of_pos each, List.dropWhile_append_of_pos each]
  cases rest with
  | nil => exact ⟨List.append_nil run, rfl⟩
  | cons c rest =>
    have other : ¬kind c = true := by simp [stop c rfl]
    rw [List.takeWhile_cons_of_neg other, List.dropWhile_cons_of_neg other]
    exact ⟨List.append_nil run, rfl⟩

theorem Scale.stop (scaled : Scale t) : ∀ c ∈ t.head?, c.isDigit = false := by
  cases scaled with
  | none => rintro c ⟨⟩
  | signed mark inhabited each =>
    rintro c ⟨⟩
    rfl

theorem Magnitude.parse (magnitude : Magnitude t) (negative : Bool) :
    ∃ value, parseMagnitude? negative t = some value := by
  cases magnitude with
  | whole inhabited each =>
    obtain ⟨run, rest⟩ := takeWhile_run [] each (by rintro c ⟨⟩)
    rw [List.append_nil] at run rest
    rw [parseMagnitude?, run, rest]
    simp [inhabited]
  | @pointed whole fraction scale inhabited before behind scaled =>
    obtain ⟨run, rest⟩ := takeWhile_run (point :: (fraction ++ scale)) before
      (by rintro c ⟨⟩; rfl)
    obtain ⟨run', rest'⟩ := takeWhile_run scale behind scaled.stop
    have some_digit : (whole.isEmpty && fraction.isEmpty) = false := by
      cases whole <;> cases fraction <;> first | rfl | exact absurd rfl inhabited
    rw [parseMagnitude?, run, rest]
    simp only [show point = CodePoint.ofChar '.' from rfl, if_true, run', rest', some_digit]
    cases scaled with
    | none => exact ⟨_, rfl⟩
    | @signed sign digits mark inhabited each =>
      obtain ⟨down, split⟩ := exists_splitSign digits mark
      have all : digits.all CodePoint.isDigit = true := List.all_eq_true.mpr each
      simp [split, all, inhabited]

theorem splitSign_of_first (rest : Text) (first : c.isDigit = true ∨ c = point) :
    splitSign (c :: rest) = (false, c :: rest) := by
  rw [splitSign, if_neg, if_neg]
  · rintro rfl
    rcases first with digit | dot <;> contradiction
  · rintro rfl
    rcases first with digit | dot <;> contradiction

/-- What begins with a digit or a point is no word. -/
theorem toAsciiLower_ne_word {rest word : Text} {letter : CodePoint}
    (first : c.isDigit = true ∨ c = point) (other : letter.isDigit = false ∧ letter ≠ point) :
    Text.toAsciiLower (c :: rest) ≠ letter :: word := by
  intro same
  have lower : c.toAsciiLower = c := by
    rcases first with digit | rfl
    · rw [CodePoint.isDigit, Bool.and_eq_true, decide_eq_true_eq, decide_eq_true_eq] at digit
      rw [CodePoint.toAsciiLower, if_neg]
      rw [Bool.and_eq_true, decide_eq_true_eq, decide_eq_true_eq]
      omega
    · rfl
  have head : c.toAsciiLower = letter := (List.cons.inj same).1
  rw [lower] at head
  subst head
  rcases first with digit | dot
  · rw [other.1] at digit
    cases digit
  · exact other.2 dot

theorem parseReal_of_magnitude (magnitude : Magnitude t) : ∃ value, parseReal t = .ok value := by
  obtain ⟨value, parsed⟩ := magnitude.parse false
  have solid := magnitude.solid
  obtain ⟨c, rest, rfl, first⟩ := magnitude.exists_cons
  refine ⟨value, ?_⟩
  rw [parseReal, toBasic_of_solid solid, trim_of_solid solid,
    dropLowLines?_of_solid (by decide) solid]
  simp only [Option.bind_some, splitSign_of_first rest first]
  -- The words for no number and for infinity begin with letters.
  rw [if_neg, if_neg, parsed]
  · exact toAsciiLower_ne_word first ⟨rfl, by decide⟩
  · rintro (word | word)
    · exact toAsciiLower_ne_word first ⟨rfl, by decide⟩ word
    · exact toAsciiLower_ne_word first ⟨rfl, by decide⟩ word

end Conformance.Numeral
