import Conformance.Proofs.Number.Literal
import Conformance.Proofs.Text.Lines
import Conformance.Yaml.Value

/-!
# Forms of plain scalars

What a form takes from the front of a text, as a split of the text: a run of digits and low lines, a
sign, an exponent, parts in base sixty behind colons. Numbers are read without low lines and in
small letters, which leaves digits as they are.
-/
namespace Conformance.Yaml

open Numeral

/-! ### Low lines and capitals -/

variable {c : CodePoint} {s t : Text}

theorem withoutLowLines_append :
    withoutLowLines (s ++ t) = withoutLowLines s ++ withoutLowLines t :=
  List.filter_append ..

theorem withoutLowLines_cons (solid : c ≠ '_') :
    withoutLowLines (c :: t) = c :: withoutLowLines t :=
  List.filter_cons_of_pos (decide_eq_true solid)

theorem toSmallText_append : toSmallText (s ++ t) = toSmallText s ++ toSmallText t :=
  List.flatMap_append

/-- A text as it is read as a real number. -/
def realText (t : Text) : Text := toSmallText (withoutLowLines t)

theorem realText_append : realText (s ++ t) = realText s ++ realText t := by
  rw [realText, withoutLowLines_append, toSmallText_append, realText, realText]

theorem withoutLowLines_of_digits (each : ∀ c ∈ t, c.isDigit = true) : withoutLowLines t = t := by
  refine List.filter_eq_self.mpr fun c member => decide_eq_true ?_
  exact (solid_of_isDigit (each c member)).mark

theorem toSmallText_digit (digit : c.isDigit = true) : toSmallText [c] = [c] := by
  have table : ∀ n : Fin 58, 48 ≤ n.val → toSmallText [.ofNat n.val] = [.ofNat n.val] := by
    decide +kernel
  rw [CodePoint.isDigit, Bool.and_eq_true, decide_eq_true_eq, decide_eq_true_eq] at digit
  have same : c = .ofNat c.toNat := by rw [CodePoint.ofNat, dif_pos c.toNat_lt]
  rw [same]
  exact table ⟨c.toNat, by omega⟩ digit.1

theorem toSmallText_of_digits (each : ∀ c ∈ t, c.isDigit = true) : toSmallText t = t := by
  induction t with
  | nil => rfl
  | cons c rest ih =>
    obtain ⟨here, later⟩ := List.forall_mem_cons.mp each
    have first := toSmallText_digit here
    rw [← List.singleton_append, toSmallText_append, first, ih later]

theorem realText_of_digits (each : ∀ c ∈ t, c.isDigit = true) : realText t = t := by
  rw [realText, withoutLowLines_of_digits each, toSmallText_of_digits each]

namespace Implicit

/-! ### Forms of plain scalars -/

/-- A digit with digits and low lines behind it. -/
def Run (t : Text) : Prop :=
  ∃ first rest, t = first :: rest ∧ first.isDigit = true ∧ ∀ c ∈ rest, isDigitOrLow c = true

theorem exists_of_one? {kind : CodePoint → Bool} {rest : Text} (taken : one? kind t = some rest) :
    ∃ c, t = c :: rest ∧ kind c = true := by
  cases t with
  | nil => cases taken
  | cons c others =>
    rw [one?] at taken
    split at taken
    next held =>
      cases taken
      exact ⟨c, rfl, held⟩
    next => cases taken

theorem exists_of_oneOrMore? {kind : CodePoint → Bool} (taken : oneOrMore? kind t = some []) :
    t ≠ [] ∧ ∀ c ∈ t, kind c = true := by
  cases t with
  | nil => cases taken
  | cons c others =>
    rw [oneOrMore?] at taken
    split at taken
    next held =>
      refine ⟨List.cons_ne_nil _ _, List.forall_mem_cons.mpr ⟨held, ?_⟩⟩
      exact List.dropWhile_eq_nil_iff.mp (Option.some.inj taken)
    next => cases taken

theorem exists_of_spelled {words : List String} (spelt : spelled words t = true) :
    ∃ word ∈ words, Text.ofString word = t := by
  obtain ⟨word, listed, same⟩ := List.any_eq_true.mp spelt
  exact ⟨word, listed, of_decide_eq_true same⟩

theorem exists_of_digits? {rest : Text} (taken : digits? t = some rest) :
    ∃ run, t = run ++ rest ∧ Run run := by
  rw [digits?] at taken
  obtain ⟨others, first, rfl⟩ := Option.map_eq_some_iff.mp taken
  obtain ⟨c, rfl, digit⟩ := exists_of_one? first
  refine ⟨c :: others.takeWhile isDigitOrLow, ?_, c, _, rfl, digit, ?_⟩
  · rw [List.cons_append, List.takeWhile_append_dropWhile]
  · exact fun d member => List.mem_takeWhile_imp member

theorem isDigit_of_mem_withoutLowLines (each : ∀ c ∈ t, isDigitOrLow c = true) :
    ∀ c ∈ withoutLowLines t, c.isDigit = true := by
  intro c member
  obtain ⟨present, solid⟩ := List.mem_filter.mp member
  rcases Bool.or_eq_true _ _ ▸ each c present with digit | low
  · exact digit
  · exact absurd (of_decide_eq_true low) (of_decide_eq_true solid)

/-- What is left of a run without its low lines is digits. -/
theorem Run.digits (run : Run t) :
    withoutLowLines t ≠ [] ∧ ∀ c ∈ withoutLowLines t, c.isDigit = true := by
  obtain ⟨first, rest, rfl, digit, others⟩ := run
  rw [withoutLowLines_cons (solid_of_isDigit digit).mark]
  exact ⟨List.cons_ne_nil _ _,
    List.forall_mem_cons.mpr ⟨digit, isDigit_of_mem_withoutLowLines others⟩⟩

theorem exists_dropSign (t : Text) : ∃ sign, t = sign ++ dropSign t ∧
    (sign = [] ∨ ∃ c : CodePoint, sign = [c] ∧ (c = '+' ∨ c = '-')) := by
  rw [dropSign]
  cases taken : one? isSign t with
  | none => exact ⟨[], rfl, .inl rfl⟩
  | some rest =>
    obtain ⟨c, rfl, mark⟩ := exists_of_one? taken
    exact ⟨[c], rfl, .inr ⟨c, rfl, by simpa [isSign] using mark⟩⟩

/-- An exponent as it is read. -/
theorem scale_of_isExponent (exponent : isExponent t = true) : Scale (realText t) := by
  rw [isExponent, Bool.or_eq_true] at exponent
  rcases exponent with nothing | exponent
  · rw [List.isEmpty_iff.mp nothing]
    exact .none
  · split at exponent
    next => cases exponent
    next afterLetter letter =>
      split at exponent
      next => cases exponent
      next digits signed =>
        obtain ⟨e, rfl, capital⟩ := exists_of_one? letter
        obtain ⟨sign, rfl, mark⟩ := exists_of_one? signed
        obtain ⟨inhabited, each⟩ := exists_of_oneOrMore? (of_decide_eq_true exponent)
        have known : sign = '+' ∨ sign = '-' := by simpa [isSign] using mark
        have front : realText [e, sign] = [CodePoint.ofChar 'e', sign] := by
          have either : e = 'e' ∨ e = 'E' := by simpa using capital
          rcases either with rfl | rfl <;> rcases known with rfl | rfl <;> decide +kernel
        have split : realText (e :: sign :: digits) = CodePoint.ofChar 'e' :: sign :: digits := by
          rw [show e :: sign :: digits = [e, sign] ++ digits from rfl, realText_append, front,
            realText_of_digits each]
          rfl
        rw [split]
        exact .signed known inhabited each

/-! ### Parts in base sixty -/

def colon : CodePoint := ':'

/-- Texts with a colon in front of each. -/
def led (parts : List Text) : Text := parts.flatMap fun part => colon :: part

/-- What is taken as parts in base sixty are digits behind colons. -/
theorem exists_sexagesimalParts (fuel : Nat) (t : Text) : ∃ parts : List Text,
    t = led parts ++ sexagesimalParts fuel t ∧
      ∀ part ∈ parts, part ≠ [] ∧ ∀ c ∈ part, c.isDigit = true := by
  induction fuel generalizing t with
  | zero => exact ⟨[], rfl, List.forall_mem_nil _⟩
  | succ fuel ih =>
    have none (t : Text) : ∃ parts : List Text, t = led parts ++ t ∧
        ∀ part ∈ parts, part ≠ [] ∧ ∀ c ∈ part, c.isDigit = true :=
      ⟨[], rfl, List.forall_mem_nil _⟩
    rcases t with _ | ⟨x, _ | ⟨a, _ | ⟨b, rest⟩⟩⟩
    · exact none []
    · exact none [x]
    · rw [sexagesimalParts]
      split
      next both =>
        obtain ⟨rfl, digit⟩ := both
        exact ⟨[[a]], rfl, List.forall_mem_singleton.mpr
          ⟨List.cons_ne_nil _ _, List.forall_mem_singleton.mpr digit⟩⟩
      next => exact none _
    · rw [sexagesimalParts]
      split
      next both =>
        obtain ⟨rfl, digit⟩ := both
        -- Two digits are one part if they are below sixty, and else none is taken.
        split
        next second =>
          split
          next =>
            obtain ⟨parts, whole, each⟩ := ih rest
            refine ⟨[a, b] :: parts, congrArg (fun rest => colon :: a :: b :: rest) whole,
              List.forall_mem_cons.mpr ⟨⟨List.cons_ne_nil _ _, ?_⟩, each⟩⟩
            exact List.forall_mem_cons.mpr ⟨digit, List.forall_mem_singleton.mpr second⟩
          next => exact none _
        next =>
          obtain ⟨parts, whole, each⟩ := ih (b :: rest)
          refine ⟨[a] :: parts, congrArg (fun rest => colon :: a :: rest) whole,
            List.forall_mem_cons.mpr ⟨⟨List.cons_ne_nil _ _, ?_⟩, each⟩⟩
          exact List.forall_mem_singleton.mpr digit
      next => exact none _

theorem exists_of_sexagesimal? {rest : Text} (taken : sexagesimal? t = some rest) :
    ∃ parts : List Text, t = led parts ++ rest ∧
      ∀ part ∈ parts, part ≠ [] ∧ ∀ c ∈ part, c.isDigit = true := by
  rw [sexagesimal?] at taken
  split at taken
  next =>
    cases taken
    exact exists_sexagesimalParts _ t
  next => cases taken

/-- Digits and then parts in base sixty. -/
theorem exists_of_sexagesimalRun {rest : Text}
    (taken : (digits? t).bind sexagesimal? = some rest) : ∃ (run : Text) (parts : List Text),
      t = run ++ led parts ++ rest ∧ Run run ∧
        ∀ part ∈ parts, part ≠ [] ∧ ∀ c ∈ part, c.isDigit = true := by
  obtain ⟨behind, first, later⟩ := Option.bind_eq_some_iff.mp taken
  obtain ⟨run, rfl, digits⟩ := exists_of_digits? first
  obtain ⟨parts, rfl, each⟩ := exists_of_sexagesimal? later
  exact ⟨run, parts, (List.append_assoc ..).symm, digits, each⟩

theorem withoutLowLines_led {parts : List Text}
    (each : ∀ part ∈ parts, part ≠ [] ∧ ∀ c ∈ part, c.isDigit = true) :
    withoutLowLines (led parts) = led parts := by
  induction parts with
  | nil => rfl
  | cons part rest ih =>
    obtain ⟨⟨_, digits⟩, later⟩ := List.forall_mem_cons.mp each
    have split : led (part :: rest) = [colon] ++ part ++ led rest := rfl
    rw [split, withoutLowLines_append, withoutLowLines_append, withoutLowLines_of_digits digits,
      ih later]
    rfl

theorem toSmallText_led {parts : List Text}
    (each : ∀ part ∈ parts, part ≠ [] ∧ ∀ c ∈ part, c.isDigit = true) :
    toSmallText (led parts) = led parts := by
  induction parts with
  | nil => rfl
  | cons part rest ih =>
    obtain ⟨⟨_, digits⟩, later⟩ := List.forall_mem_cons.mp each
    have split : led (part :: rest) = [colon] ++ part ++ led rest := rfl
    have mark : toSmallText [colon] = [colon] := by decide +kernel
    rw [split, toSmallText_append, toSmallText_append, toSmallText_of_digits digits, ih later, mark]

/-- The pieces between colons, of which the last has something behind its digits. -/
theorem forall_splitOn_led {P : Text → Prop} {tail : Text} (apart : colon ∉ tail)
    (whole : ∀ digits : Text, digits ≠ [] → (∀ c ∈ digits, c.isDigit = true) → P digits)
    (last : ∀ digits : Text, digits ≠ [] → (∀ c ∈ digits, c.isDigit = true) → P (digits ++ tail))
    {first : Text} (inhabited : first ≠ []) (digits : ∀ c ∈ first, c.isDigit = true)
    {parts : List Text} (each : ∀ part ∈ parts, part ≠ [] ∧ ∀ c ∈ part, c.isDigit = true) :
    ∀ piece ∈ Text.splitOn colon (first ++ led parts ++ tail), P piece := by
  have plain {digits : Text} (each : ∀ c ∈ digits, c.isDigit = true) : colon ∉ digits :=
    fun member => absurd (each _ member) (by decide)
  -- Each colon ends a piece; the tail holds none, so it stays with the last part.
  induction parts generalizing first with
  | nil =>
    have single : colon ∉ first ++ tail := by
      rw [List.mem_append, not_or]
      exact ⟨plain digits, apart⟩
    have shape : first ++ led [] ++ tail = first ++ tail := by
      rw [led, List.flatMap_nil, List.append_nil]
    rw [shape, Text.splitOn_of_not_mem single]
    exact List.forall_mem_singleton.mpr (last first inhabited digits)
  | cons part rest ih =>
    obtain ⟨⟨filled, own⟩, later⟩ := List.forall_mem_cons.mp each
    have shape : first ++ led (part :: rest) ++ tail =
        first ++ colon :: (part ++ led rest ++ tail) := by
      simp [led]
    rw [shape, Text.splitOn_append, Text.splitOn_of_not_mem (plain digits)]
    exact List.forall_mem_cons.mpr ⟨whole first inhabited digits, ih filled own later⟩

/-! ### Forms of real numbers -/

theorem eq_of_one?_point {rest : Text} (taken : one? (· = '.') t = some rest) :
    t = point :: rest := by
  obtain ⟨dot, rfl, isDot⟩ := exists_of_one? taken
  exact congrArg (· :: rest) (of_decide_eq_true isDot)

/-- Digits, a point, and then digits and an exponent. -/
theorem exists_of_isDecimal (decimal : isDecimal t = true) : ∃ run fraction,
    dropSign t = run ++ point :: fraction ∧ Run run ∧
      isExponent (fraction.dropWhile isDigitOrLow) = true := by
  rw [isDecimal] at decimal
  split at decimal
  next => cases decimal
  next rest first =>
    split at decimal
    next => cases decimal
    next fraction dotted =>
      obtain ⟨run, split, digits⟩ := exists_of_digits? first
      exact ⟨run, fraction, by rw [split, eq_of_one?_point dotted], digits, decimal⟩

/-- A point, and then digits and an exponent. -/
theorem exists_of_isFraction (fraction : isFraction t = true) : ∃ run scale,
    t = point :: (run ++ scale) ∧ Run run ∧ isExponent scale = true := by
  rw [isFraction] at fraction
  split at fraction
  next => cases fraction
  next rest dotted =>
    split at fraction
    next => cases fraction
    next scale first =>
      obtain ⟨run, rfl, digits⟩ := exists_of_digits? first
      exact ⟨run, scale, eq_of_one?_point dotted, digits, fraction⟩

/-- Digits, parts in base sixty, a point, and then digits. -/
theorem exists_of_isSexagesimalReal (sexagesimal : isSexagesimalReal t = true) :
    ∃ (run : Text) (parts : List Text) (fraction : Text),
      dropSign t = run ++ led parts ++ point :: fraction ∧ Run run ∧
        (∀ part ∈ parts, part ≠ [] ∧ ∀ c ∈ part, c.isDigit = true) ∧
          ∀ c ∈ fraction, isDigitOrLow c = true := by
  rw [isSexagesimalReal] at sexagesimal
  split at sexagesimal
  next => cases sexagesimal
  next rest first =>
    split at sexagesimal
    next => cases sexagesimal
    next fraction dotted =>
      obtain ⟨run, parts, split, digits, each⟩ := exists_of_sexagesimalRun first
      rw [eq_of_one?_point dotted] at split
      exact ⟨run, parts, fraction, split, digits, each, List.all_eq_true.mp sexagesimal⟩

end Implicit
end Conformance.Yaml
