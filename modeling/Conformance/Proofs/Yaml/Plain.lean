import Conformance.Proofs.Yaml.Form

/-!
# Plain scalars have values

The form of a plain scalar decides its tag, and nearly always the scalar has a value of that tag. A
truth value and a real number are always read. A whole number is read unless it has too many digits
or no digit behind the letter of its base, and a time stamp unless the calendar has no such day or
the day no such time.
-/
namespace Conformance.Yaml

open Implicit Numeral

variable {c : CodePoint} {t : Text}

/-- A sign is taken from what begins with a digit or a point. -/
theorem exists_takeSign {sign : Text} (rest : Text) (first : c.isDigit = true ∨ c = point)
    (signed : sign = [] ∨ ∃ mark : CodePoint, sign = [mark] ∧ (mark = '+' ∨ mark = '-')) :
    ∃ negative, takeSign (sign ++ c :: rest) = .ok (negative, c :: rest) := by
  rcases signed with rfl | ⟨mark, rfl, known⟩
  · exact ⟨false, congrArg Except.ok (splitSign_of_first rest first)⟩
  · obtain ⟨negative, split⟩ := exists_splitSign (c :: rest) known
    exact ⟨negative, congrArg Except.ok split⟩

/-! ### Real numbers -/

theorem not_mem_colon_of_digits (each : ∀ c ∈ t, c.isDigit = true) : colon ∉ t :=
  fun member => absurd (each _ member) (by decide)

theorem not_mem_colon_of_scale (scaled : Scale t) : colon ∉ t := by
  cases scaled with
  | none => exact List.not_mem_nil
  | signed mark inhabited each =>
    have letter : colon ≠ CodePoint.ofChar 'e' := by decide
    rcases mark with rfl | rfl
    · have sign : colon ≠ CodePoint.ofChar '+' := by decide
      simp [letter, sign, not_mem_colon_of_digits each]
    · have sign : colon ≠ CodePoint.ofChar '-' := by decide
      simp [letter, sign, not_mem_colon_of_digits each]

theorem not_mem_colon_of_magnitude (magnitude : Magnitude t) : colon ∉ t := by
  cases magnitude with
  | whole inhabited each => exact not_mem_colon_of_digits each
  | pointed inhabited before behind scaled =>
    have dot : colon ≠ point := by decide
    simp [dot, not_mem_colon_of_digits before, not_mem_colon_of_digits behind,
      not_mem_colon_of_scale scaled]

/-- The value of a real number without its sign. -/
def readRealMagnitude (body : Text) : Except Fault Extended :=
  if body = ".inf" then .ok (.infinite false)
  else if body = ".nan" then .ok .notNumber
  else if body.contains colon then
    ((Text.splitOn colon body).mapM readRealPart).map fun parts =>
      sexagesimalSum 1 (.finite (.zero false)) parts.reverse
  else readRealPart body

theorem readReal_of_takeSign {negative : Bool} {body : Text}
    (signed : takeSign (realText t) = .ok (negative, body)) :
    readReal t = (readRealMagnitude body).map fun magnitude =>
      if negative then magnitude.negate else magnitude := by
  have opened : toSmallText (withoutLowLines t) = realText t := rfl
  have mark : CodePoint.ofChar ':' = colon := rfl
  simp only [readReal, opened, signed, readRealMagnitude, mark, bind, Except.bind, pure,
    Except.pure]
  by_cases infinite : body = ".inf"
  · simp only [if_pos infinite]
    rfl
  by_cases nan : body = ".nan"
  · simp only [if_neg infinite, if_pos nan]
    rfl
  by_cases several : body.contains colon = true
  · simp only [if_neg infinite, if_neg nan, if_pos several]
    cases (Text.splitOn colon body).mapM readRealPart <;> rfl
  · simp only [if_neg infinite, if_neg nan, if_neg several]
    cases readRealPart body <;> rfl

/-- A number is read if the pieces between its colons are magnitudes. -/
theorem exists_readReal {negative : Bool} {body : Text}
    (signed : takeSign (realText t) = .ok (negative, body))
    (known : body = ".inf" ∨ body = ".nan" ∨ ∀ piece ∈ Text.splitOn colon body, Magnitude piece) :
    ∃ x, readReal t = .ok x := by
  have part {piece : Text} (magnitude : Magnitude piece) : ∃ x, readRealPart piece = .ok x := by
    obtain ⟨x, read⟩ := parseReal_of_magnitude magnitude
    exact ⟨x, by rw [readRealPart, read]; rfl⟩
  obtain ⟨magnitude, read⟩ : ∃ magnitude, readRealMagnitude body = .ok magnitude := by
    rw [readRealMagnitude]
    -- A word has its value at once, and without a colon there is a single piece.
    split_ifs with infinite nan several
    · exact ⟨_, rfl⟩
    · exact ⟨_, rfl⟩
    · obtain word | word | pieces := known
      · exact absurd word infinite
      · exact absurd word nan
      · obtain ⟨parts, all⟩ := exists_mapM_ok_iff.mpr fun piece member => part (pieces piece member)
        exact ⟨_, by rw [all]; rfl⟩
    · obtain word | word | pieces := known
      · exact absurd word infinite
      · exact absurd word nan
      · have single : colon ∉ body := fun member => several (List.contains_iff_mem.mpr member)
        rw [Text.splitOn_of_not_mem single] at pieces
        exact part (List.forall_mem_singleton.mp pieces)
  rw [readReal_of_takeSign signed, read]
  exact ⟨_, rfl⟩

theorem realText_sign {sign : Text}
    (signed : sign = [] ∨ ∃ mark : CodePoint, sign = [mark] ∧ (mark = '+' ∨ mark = '-')) :
    realText sign = sign := by
  rcases signed with rfl | ⟨mark, rfl, rfl | rfl⟩
  · rfl
  · decide +kernel
  · decide +kernel

/-- A text with a sign is read if the pieces of the rest are magnitudes. -/
theorem exists_readReal_signed {sign body : Text}
    (signed : sign = [] ∨ ∃ mark : CodePoint, sign = [mark] ∧ (mark = '+' ∨ mark = '-'))
    (split : realText t = sign ++ body)
    (first : ∃ c rest, body = c :: rest ∧ (c.isDigit = true ∨ c = point))
    (known : body = ".inf" ∨ body = ".nan" ∨ ∀ piece ∈ Text.splitOn colon body, Magnitude piece) :
    ∃ x, readReal t = .ok x := by
  obtain ⟨c, rest, rfl, first⟩ := first
  obtain ⟨negative, taken⟩ := exists_takeSign rest first signed
  exact exists_readReal (split ▸ taken) known

theorem exists_readReal_of_magnitude {sign body : Text}
    (signed : sign = [] ∨ ∃ mark : CodePoint, sign = [mark] ∧ (mark = '+' ∨ mark = '-'))
    (split : realText t = sign ++ body) (magnitude : Magnitude body) :
    ∃ x, readReal t = .ok x := by
  refine exists_readReal_signed signed split magnitude.exists_cons (.inr (.inr ?_))
  rw [Text.splitOn_of_not_mem (not_mem_colon_of_magnitude magnitude)]
  exact List.forall_mem_singleton.mpr magnitude

theorem realText_of_lowDigits (each : ∀ c ∈ t, isDigitOrLow c = true) :
    realText t = withoutLowLines t := by
  rw [realText, toSmallText_of_digits (isDigit_of_mem_withoutLowLines each)]

theorem Implicit.Run.lowDigits (run : Run t) : ∀ c ∈ t, isDigitOrLow c = true := by
  obtain ⟨first, rest, rfl, digit, others⟩ := run
  refine List.forall_mem_cons.mpr ⟨?_, others⟩
  rw [isDigitOrLow, digit]
  rfl

theorem realText_led {parts : List Text}
    (each : ∀ part ∈ parts, part ≠ [] ∧ ∀ c ∈ part, c.isDigit = true) :
    realText (led parts) = led parts := by
  rw [realText, withoutLowLines_led each, toSmallText_led each]

theorem realText_point (t : Text) : realText (point :: t) = point :: realText t := by
  have dot : realText [point] = [point] := by decide +kernel
  rw [← List.singleton_append, realText_append, dot]
  rfl

/-- Digits and low lines and then an exponent. -/
theorem exists_realText_fraction (exponent : isExponent (t.dropWhile isDigitOrLow) = true) :
    ∃ fraction scale, realText t = fraction ++ scale ∧ (∀ c ∈ fraction, c.isDigit = true) ∧
      Scale scale := by
  have low : ∀ c ∈ t.takeWhile isDigitOrLow, isDigitOrLow c = true :=
    fun c member => List.mem_takeWhile_imp member
  refine ⟨_, _, ?_, isDigit_of_mem_withoutLowLines low, scale_of_isExponent exponent⟩
  rw [← realText_of_lowDigits low, ← realText_append, List.takeWhile_append_dropWhile]

/-- A decimal number without its sign is a magnitude. -/
theorem magnitude_of_isDecimal (decimal : isDecimal t = true) :
    Magnitude (realText (dropSign t)) := by
  obtain ⟨run, fraction, split, digits, exponent⟩ := exists_of_isDecimal decimal
  obtain ⟨behind, scale, read, each, scaled⟩ := exists_realText_fraction exponent
  obtain ⟨inhabited, whole⟩ := digits.digits
  rw [split, realText_append, realText_of_lowDigits digits.lowDigits, realText_point, read]
  exact .pointed (fun none => inhabited (List.append_eq_nil_iff.mp none).1) whole each scaled

/-- A fraction is a magnitude without digits before the point. -/
theorem magnitude_of_isFraction (fraction : isFraction t = true) : Magnitude (realText t) := by
  obtain ⟨run, scale, rfl, digits, exponent⟩ := exists_of_isFraction fraction
  obtain ⟨inhabited, each⟩ := digits.digits
  rw [realText_point, realText_append, realText_of_lowDigits digits.lowDigits]
  exact .pointed inhabited (List.forall_mem_nil _) each (scale_of_isExponent exponent)

/-- The parts of a number in base sixty are magnitudes. -/
theorem magnitudes_of_isSexagesimalReal (sexagesimal : isSexagesimalReal t = true) :
    (∃ c rest, realText (dropSign t) = c :: rest ∧ (c.isDigit = true ∨ c = point)) ∧
      ∀ piece ∈ Text.splitOn colon (realText (dropSign t)), Magnitude piece := by
  obtain ⟨run, parts, fraction, split, digits, each, low⟩ := exists_of_isSexagesimalReal sexagesimal
  have behind := isDigit_of_mem_withoutLowLines low
  obtain ⟨inhabited, whole⟩ := digits.digits
  rw [split, realText_append, realText_append, realText_of_lowDigits digits.lowDigits,
    realText_led each, realText_point, realText_of_lowDigits low]
  constructor
  · obtain ⟨c, others, cons⟩ := List.exists_cons_of_ne_nil inhabited
    rw [cons] at whole ⊢
    exact ⟨c, _, rfl, .inl (whole c List.mem_cons_self)⟩
  · have apart : colon ∉ point :: withoutLowLines fraction :=
      List.not_mem_cons_of_ne_of_not_mem (by decide) (not_mem_colon_of_digits behind)
    have last (digits : Text) (inhabited : digits ≠ []) (each : ∀ c ∈ digits, c.isDigit = true) :
        Magnitude (digits ++ point :: withoutLowLines fraction) := by
      have pointed := Magnitude.pointed
        (fun none => inhabited (List.append_eq_nil_iff.mp none).1) each behind .none
      rwa [List.append_nil] at pointed
    exact forall_splitOn_led apart (fun _ => .whole) last inhabited whole each

/-- What has the form of a real number is read as one. -/
theorem exists_readReal_of_isReal (real : isReal t = true) : ∃ x, readReal t = .ok x := by
  obtain ⟨sign, whole, signed⟩ := exists_dropSign t
  have lower : realText t = sign ++ realText (dropSign t) := by
    rw [whole, realText_append, realText_sign signed, ← whole]
  simp only [isReal, Bool.or_eq_true] at real
  rcases real with (((decimal | fraction) | sexagesimal) | infinite) | nan
  · exact exists_readReal_of_magnitude signed lower (magnitude_of_isDecimal decimal)
  -- The form of a fraction has no place for a sign.
  · exact exists_readReal_of_magnitude (.inl rfl) rfl (magnitude_of_isFraction fraction)
  · obtain ⟨begins, pieces⟩ := magnitudes_of_isSexagesimalReal sexagesimal
    exact exists_readReal_signed signed lower begins (.inr (.inr pieces))
  · obtain ⟨word, listed, same⟩ := exists_of_spelled infinite
    have table : ∀ word ∈ [".inf", ".Inf", ".INF"], realText (Text.ofString word) = ".inf" := by
      decide +kernel
    have split : realText t = sign ++ (".inf" : Text) := by rw [lower, ← same, table word listed]
    exact exists_readReal_signed signed split ⟨point, _, rfl, .inr rfl⟩ (.inl rfl)
  · obtain ⟨word, listed, same⟩ := exists_of_spelled nan
    have table : ∀ word ∈ [".nan", ".NaN", ".NAN"], realText (Text.ofString word) = ".nan" := by
      decide +kernel
    have split : realText t = [] ++ (".nan" : Text) := by rw [← same, table word listed]; rfl
    exact exists_readReal_signed (.inl rfl) split ⟨point, _, rfl, .inr rfl⟩ (.inr (.inl rfl))

/-! ### Truth values -/

/-- What has the form of a truth value is read as one. -/
theorem exists_readBoolean_of_isBoolean (boolean : isBoolean t = true) :
    ∃ value, readBoolean t = .ok value := by
  obtain ⟨word, listed, rfl⟩ := exists_of_spelled boolean
  have table : ∀ word ∈ ["yes", "Yes", "YES", "no", "No", "NO", "true", "True", "TRUE", "false",
      "False", "FALSE", "on", "On", "ON", "off", "Off", "OFF"],
      (readBoolean (Text.ofString word)).isOk = true := by
    decide +kernel
  have known := table word listed
  cases read : readBoolean (Text.ofString word) with
  | ok value => exact ⟨value, rfl⟩
  | error fault =>
    rw [read] at known
    cases known

/-! ### Whole numbers -/

/-- Why what has the form of a whole number has no value: it has too many digits, or none but low
lines behind the letter of its base. -/
inductive Uncounted : Fault → Prop where
  | long {count : Nat} (above : maxIntegerDigits < count) :
      Uncounted (.numeral (.tooManyDigits count))
  | bare {base : Nat} (lettered : base = 2 ∨ base = 16) : Uncounted (.numeral (.notInteger base []))

variable {base : Nat} {digits : Text} {fault : Fault}

theorem uncounted_of_readIn (known : digits ≠ [] ∨ base = 2 ∨ base = 16)
    (each : ∀ c ∈ digits, (digitIn? base c).isSome = true)
    (refused : readIn base digits = .error fault) : Uncounted fault := by
  by_cases inhabited : digits = []
  · subst inhabited
    have lettered := known.resolve_left (fun other => other rfl)
    have empty : readIn base [] = .error (.numeral (.notInteger base [])) := by
      rcases lettered with rfl | rfl <;> rfl
    rw [empty] at refused
    cases refused
    exact .bare lettered
  · rw [readIn, parseIntIn_of_digits inhabited each] at refused
    split at refused
    next many =>
      cases refused
      exact .long many.2
    next => cases refused

theorem digitIn?_ten (digit : c.isDigit = true) : (digitIn? 10 c).isSome = true := by
  have small : c.digitValue < 10 := by
    rw [CodePoint.isDigit, Bool.and_eq_true, decide_eq_true_eq, decide_eq_true_eq] at digit
    rw [CodePoint.digitValue]
    omega
  rw [digitIn?, CodePoint.hexValue?, if_pos digit]
  simp [Option.filter, small]

theorem digitIn?_eight (low : 48 ≤ c.toNat) (high : c.toNat ≤ 55) :
    (digitIn? 8 c).isSome = true := by
  have digit : c.isDigit = true := by
    rw [CodePoint.isDigit, Bool.and_eq_true, decide_eq_true_eq, decide_eq_true_eq]
    omega
  have small : c.digitValue < 8 := by
    rw [CodePoint.digitValue]
    omega
  rw [digitIn?, CodePoint.hexValue?, if_pos digit]
  simp [Option.filter, small]

theorem digitIn?_sixteen (digit : c.hexValue?.isSome = true) : (digitIn? 16 c).isSome = true := by
  have small : ∀ value ∈ c.hexValue?, value < 16 := by
    intro value held
    have code := hexValue?_isSome_iff.mp digit
    simp only [CodePoint.hexValue?, CodePoint.isDigit, CodePoint.digitValue, Bool.and_eq_true,
      decide_eq_true_eq] at held
    split_ifs at held <;> cases held <;> omega
  rw [digitIn?]
  obtain ⟨value, held⟩ := Option.isSome_iff_exists.mp digit
  simp [held, Option.filter, small value held]

/-- Digits and low lines of a base without the low lines. -/
theorem digits_of_oneOrMore {kind : CodePoint → Bool}
    (digit : ∀ c, kind c = true → (digitIn? base c).isSome = true)
    (taken : oneOrMore? (fun c => kind c || c = '_') t = some []) :
    ∀ c ∈ withoutLowLines t, (digitIn? base c).isSome = true := by
  intro c member
  obtain ⟨present, solid⟩ := List.mem_filter.mp member
  rcases Bool.or_eq_true _ _ ▸ (exists_of_oneOrMore? taken).2 c present with own | low
  · exact digit c own
  · exact absurd (of_decide_eq_true low) (of_decide_eq_true solid)

/-- A zero, the letter of a base and then digits of that base. -/
theorem uncounted_of_isBased {letter : CodePoint} {kind : CodePoint → Bool}
    (named : ∀ digits, readMagnitude ('0' :: letter :: digits) = readIn base digits)
    (solid : letter ≠ '_') (lettered : base = 2 ∨ base = 16)
    (digit : ∀ c, kind c = true → (digitIn? base c).isSome = true)
    (based : isBased letter kind t = true)
    (refused : readMagnitude (withoutLowLines t) = .error fault) : Uncounted fault := by
  rcases t with _ | ⟨zero, _ | ⟨x, rest⟩⟩
  · cases based
  · cases based
  · simp only [isBased, Bool.and_eq_true, decide_eq_true_eq] at based
    obtain ⟨⟨known, rfl⟩, taken⟩ := based
    have first : zero ≠ '_' := by
      rintro rfl
      revert known
      decide
    rw [withoutLowLines_cons first, withoutLowLines_cons solid, known, named] at refused
    exact uncounted_of_readIn (.inr lettered) (digits_of_oneOrMore digit taken) refused

/-- A numeral without the letter of a base. -/
theorem readMagnitude_cons {rest : Text} (several : c :: rest ≠ "0")
    (binary : Text.after? "0b" (c :: rest) = none) (sixteen : Text.after? "0x" (c :: rest) = none) :
    readMagnitude (c :: rest) =
      if c = '0' then readIn 8 (c :: rest)
      else if (c :: rest).contains colon then
        ((Text.splitOn colon (c :: rest)).mapM (readIn 10)).map sexagesimalValue
      else readIn 10 (c :: rest) := by
  simp only [readMagnitude, if_neg several, binary, sixteen]
  rfl

/-- A zero and octal digits are always read. -/
theorem exists_readMagnitude_of_isOctalNumeral (octal : isOctalNumeral t = true) :
    ∃ value, readMagnitude (withoutLowLines t) = .ok value := by
  cases t with
  | nil => cases octal
  | cons zero rest =>
    simp only [isOctalNumeral, Bool.and_eq_true, decide_eq_true_eq] at octal
    obtain ⟨rfl, taken⟩ := octal
    have octal (c : CodePoint) (held : (48 ≤ c.toNat && c.toNat ≤ 55) = true) :
        (digitIn? 8 c).isSome = true := by
      rw [Bool.and_eq_true, decide_eq_true_eq, decide_eq_true_eq] at held
      exact digitIn?_eight held.1 held.2
    have each := digits_of_oneOrMore octal taken
    rw [withoutLowLines_cons (by decide)]
    cases digits : withoutLowLines rest with
    | nil => exact ⟨0, rfl⟩
    | cons d others =>
      rw [digits] at each
      -- An octal digit is no letter of another base, so the zero before it stands for base eight.
      have zero : (digitIn? 8 (CodePoint.ofChar '0')).isSome = true := rfl
      have letter (c : CodePoint) (other : (digitIn? 8 c).isSome = false) : c ≠ d := by
        rintro rfl
        rw [each _ List.mem_cons_self] at other
        cases other
      have binary : Text.after? "0b" (CodePoint.ofChar '0' :: d :: others) = none :=
        if_neg (letter 'b' rfl)
      have sixteen : Text.after? "0x" (CodePoint.ofChar '0' :: d :: others) = none :=
        if_neg (letter 'x' rfl)
      have several : CodePoint.ofChar '0' :: d :: others ≠ "0" :=
        fun same => List.cons_ne_nil d others (List.cons.inj same).2
      have read := parseIntIn_of_digits (List.cons_ne_nil (CodePoint.ofChar '0') _)
        (List.forall_mem_cons.mpr ⟨zero, each⟩)
      rw [readMagnitude_cons several binary sixteen, if_pos rfl, readIn, read, if_neg (by simp)]
      exact ⟨_, rfl⟩

/-- Digits that begin with no zero, and parts in base sixty behind them. -/
theorem uncounted_of_decimal {run : Text} {parts : List Text}
    (positive : startsPositive (run ++ led parts) = true) (digits : Run run)
    (each : ∀ part ∈ parts, part ≠ [] ∧ ∀ c ∈ part, c.isDigit = true)
    (refused : readMagnitude (withoutLowLines (run ++ led parts)) = .error fault) :
    Uncounted fault := by
  obtain ⟨inhabited, whole⟩ := digits.digits
  obtain ⟨first, rest, rfl, digit, -⟩ := digits
  have nonzero : first ≠ '0' := by
    rw [List.cons_append, startsPositive, Bool.and_eq_true, decide_eq_true_eq] at positive
    exact positive.2
  have piece {piece : Text} (inhabited : piece ≠ []) (each : ∀ c ∈ piece, c.isDigit = true)
      (refused : readIn 10 piece = .error fault) : Uncounted fault :=
    uncounted_of_readIn (.inl inhabited) (fun c member => digitIn?_ten (each c member)) refused
  -- Here nothing stands behind the last part, so it is read like the others.
  have last (digits : Text) (inhabited : digits ≠ []) (each : ∀ c ∈ digits, c.isDigit = true) :
      readIn 10 (digits ++ []) = .error fault → Uncounted fault := by
    rw [List.append_nil]
    exact piece inhabited each
  have pieces := forall_splitOn_led (P := fun piece =>
    readIn 10 piece = .error fault → Uncounted fault) List.not_mem_nil
    (fun _ => piece) last inhabited whole each
  rw [List.append_nil] at pieces
  rw [withoutLowLines_append, withoutLowLines_led each] at refused
  rw [withoutLowLines_cons (solid_of_isDigit digit).mark, List.cons_append] at refused pieces
  rw [readMagnitude_cons, if_neg nonzero] at refused
  · split at refused
    next =>
      obtain ⟨found, listed, own⟩ := exists_of_mapM_eq_error (map_eq_error_iff.mp refused)
      exact pieces found listed own
    next single =>
      rw [Text.splitOn_of_not_mem fun member => single (List.contains_iff_mem.mpr member)] at pieces
      exact pieces _ (List.mem_singleton.mpr rfl) refused
  · exact fun same => nonzero (List.cons.inj same).1
  · exact if_neg (Ne.symm nonzero)
  · exact if_neg (Ne.symm nonzero)

theorem exists_zero_of_isBased {letter : CodePoint} {kind : CodePoint → Bool}
    (based : isBased letter kind t = true) : ∃ rest, t = CodePoint.ofChar '0' :: rest := by
  rcases t with _ | ⟨zero, _ | ⟨x, rest⟩⟩
  · cases based
  · cases based
  · simp only [isBased, Bool.and_eq_true, decide_eq_true_eq] at based
    exact ⟨_, congrArg (· :: x :: rest) based.1.1⟩

/-- What has the form of a whole number begins with a digit behind its sign. -/
theorem exists_digit_of_isInteger (integer : isInteger t = true) :
    ∃ c rest, dropSign t = c :: rest ∧ c.isDigit = true := by
  have ofZero (begins : ∃ rest, dropSign t = CodePoint.ofChar '0' :: rest) :
      ∃ c rest, dropSign t = c :: rest ∧ c.isDigit = true := by
    obtain ⟨rest, split⟩ := begins
    exact ⟨_, rest, split, rfl⟩
  have ofPositive (positive : startsPositive (dropSign t) = true) :
      ∃ c rest, dropSign t = c :: rest ∧ c.isDigit = true := by
    cases body : dropSign t with
    | nil =>
      rw [body] at positive
      cases positive
    | cons c rest =>
      rw [body, startsPositive, Bool.and_eq_true] at positive
      exact ⟨c, rest, rfl, positive.1⟩
  simp only [isInteger, Bool.or_eq_true, Bool.and_eq_true, decide_eq_true_eq] at integer
  rcases integer with ((((binary | octal) | zero) | ⟨positive, -⟩) | sixteen) | ⟨positive, -⟩
  · exact ofZero (exists_zero_of_isBased binary)
  · refine ofZero ?_
    cases body : dropSign t with
    | nil =>
      rw [body] at octal
      cases octal
    | cons zero rest =>
      simp only [body, isOctalNumeral, Bool.and_eq_true, decide_eq_true_eq] at octal
      exact ⟨rest, congrArg (· :: rest) octal.1⟩
  · exact ofZero ⟨[], zero⟩
  · exact ofPositive positive
  · exact ofZero (exists_zero_of_isBased sixteen)
  · exact ofPositive positive

/-- What has the form of a whole number is read as one, but for the number and lack of digits. -/
theorem uncounted_of_isInteger (integer : isInteger t = true)
    (refused : readInteger t = .error fault) : Uncounted fault := by
  obtain ⟨sign, whole, signed⟩ := exists_dropSign t
  obtain ⟨c, rest, begins, digit⟩ := exists_digit_of_isInteger integer
  have magnitude : readMagnitude (withoutLowLines (dropSign t)) = .error fault := by
    have mark : withoutLowLines sign = sign := by
      rcases signed with rfl | ⟨mark, rfl, rfl | rfl⟩ <;> decide +kernel
    have solid := (solid_of_isDigit digit).mark
    obtain ⟨negative, taken⟩ := exists_takeSign (withoutLowLines rest) (.inl digit) signed
    rw [whole, begins, readInteger, withoutLowLines_append, mark, withoutLowLines_cons solid,
      taken] at refused
    rw [begins, withoutLowLines_cons solid]
    exact map_eq_error_iff.mp refused
  simp only [isInteger, Bool.or_eq_true, Bool.and_eq_true, decide_eq_true_eq] at integer
  rcases integer with ((((binary | octal) | zero) | ⟨positive, decimal⟩) | sixteen) |
    ⟨positive, sexagesimal⟩
  · refine uncounted_of_isBased (fun digits => rfl) (by decide) (.inl rfl) (fun c held => ?_) binary
      magnitude
    have either : c = '0' ∨ c = '1' := by simpa using held
    rcases either with rfl | rfl <;> rfl
  · obtain ⟨value, read⟩ := exists_readMagnitude_of_isOctalNumeral octal
    rw [read] at magnitude
    cases magnitude
  · rw [zero] at magnitude
    cases magnitude
  · obtain ⟨run, split, digits⟩ := exists_of_digits? decimal
    rw [List.append_nil] at split
    have led_nil : run ++ led [] = dropSign t := by
      rw [split, led, List.flatMap_nil, List.append_nil]
    exact uncounted_of_decimal (led_nil ▸ positive) digits (List.forall_mem_nil _)
      (led_nil ▸ magnitude)
  · exact uncounted_of_isBased (fun digits => rfl) (by decide) (.inr rfl)
      (fun _ => digitIn?_sixteen) sixteen magnitude
  · obtain ⟨run, parts, split, digits, each⟩ := exists_of_sexagesimalRun sexagesimal
    rw [List.append_nil] at split
    rw [split] at positive magnitude
    exact uncounted_of_decimal positive digits each magnitude

/-! ### Time stamps -/

/-- What has the form of a time stamp is refused by the calendar only. -/
theorem exists_calendar_of_isTimestamp (stamp : isTimestamp (dropFinalBreak t) = true)
    (refused : readTimestamp t = .error fault) : ∃ error, fault = .calendar error := by
  have calendar {α β : Type} {step : Except CalendarError α} {f : α → β}
      (refused : (step.mapError Fault.calendar).map f = .error fault) :
      ∃ error, fault = .calendar error := by
    cases step with
    | ok value => cases refused
    | error error =>
      cases refused
      exact ⟨error, rfl⟩
  rw [isTimestamp] at stamp
  rw [readTimestamp] at refused
  cases taken : stamp? (dropFinalBreak t) with
  | none =>
    rw [taken] at stamp
    cases stamp
  | some fields =>
    rw [taken] at refused
    dsimp only at refused
    split at refused
    · exact calendar refused
    · exact calendar refused

/-! ### Plain scalars -/

/-- The form behind the tag of a plain scalar. -/
theorem form_of_ofPlain (t : Text) :
    match Tag.ofPlain t with
    | .boolean => isBoolean (dropFinalBreak t) = true
    | .real => isReal (dropFinalBreak t) = true
    | .integer => isInteger (dropFinalBreak t) = true
    | .timestamp => isTimestamp (dropFinalBreak t) = true
    | .null | .text | .merge | .value | .unknown => True
    | _ => False := by
  rw [Tag.ofPlain]
  split_ifs <;> trivial

/-- Why a scalar has no value of the tag that its form asks for. -/
theorem fault_of_plain (unbroken : t.getLast? ≠ some ('\n' : CodePoint))
    (refused : (Tag.ofPlain t).read t = .error fault) :
    fault = .malformed ∨ (Tag.ofPlain t = .integer ∧ Uncounted fault) ∨
      (Tag.ofPlain t = .timestamp ∧ ∃ error, fault = .calendar error) := by
  have whole : dropFinalBreak t = t := if_neg unbroken
  have form := form_of_ofPlain t
  cases known : Tag.ofPlain t with
  | null | text =>
    rw [known] at refused
    cases refused
  | boolean =>
    rw [known, whole] at form
    obtain ⟨value, read⟩ := exists_readBoolean_of_isBoolean form
    rw [known, Tag.read, read] at refused
    cases refused
  | real =>
    rw [known, whole] at form
    obtain ⟨value, read⟩ := exists_readReal_of_isReal form
    rw [known, Tag.read, read] at refused
    cases refused
  | integer =>
    rw [known, whole] at form
    rw [known] at refused
    exact .inr (.inl ⟨rfl, uncounted_of_isInteger form (map_eq_error_iff.mp refused)⟩)
  | timestamp =>
    rw [known] at form refused
    exact .inr (.inr ⟨rfl, exists_calendar_of_isTimestamp form refused⟩)
  | merge | value | unknown =>
    rw [known] at refused
    exact .inl (Except.error.inj refused).symm
  | binary | sequence | mapping | set | orderedMap | pairs =>
    rw [known] at form
    exact form.elim

end Conformance.Yaml
