import Conformance.Yaml.Scalar.Block
import Conformance.Yaml.Scalar.Quoted
import Conformance.Yaml.Directive
import Mathlib.Data.List.TakeWhile
import Mathlib.Tactic.Common

/-!
# What breaks a text off

Reading goes forward through a text, so the cursor always stands in it, and what a text is refused
for stands in it too. There are no more than three causes: a rule of the notation is broken, an
escape names no code point, or a number of a version has too many digits.

Each step of reading has a triple to that effect. Those of the steps that are no more than other
steps in order follow from the triples of these.
-/
set_option mvcgen.warning false

open Std.Do

namespace Conformance.Yaml

/-- What a text is refused for before it has nodes. -/
inductive Flaw (t : Text) : Fault → Prop where
  | malformed : Flaw t .malformed
  /-- The digits behind a backslash and a letter are those of no code point. -/
  | escape {letter : CodePoint} {digits : Text}
      (written : CodePoint.ofChar '\\' :: letter :: digits <:+: t)
      (known : Scalar.lookUp letter Scalar.numberedEscapes = some digits.length)
      (each : ∀ c ∈ digits, c.hexValue?.isSome = true)
      (past : 0x110000 ≤ Numeral.valueIn 16 digits) :
      Flaw t (.noCodePoint (Numeral.valueIn 16 digits))
  /-- There is a directive for the version, and digits that are too many. -/
  | version {digits : Text} (named : "YAML" <:+: t) (written : digits <:+: t)
      (each : ∀ c ∈ digits, c.isDigit = true) (above : maxIntegerDigits < digits.length) :
      Flaw t (.numeral (.tooManyDigits digits.length))

/-! ### Steps that may fail -/

section Step

variable {σ α : Type} {fault : Fault} {P : σ → Prop} {Q : α → σ → Prop} {R : Fault → Prop}

@[spec 2000]
theorem throw_spec {Q : PostCond α (.arg σ (.except Fault .pure))} :
    ⦃fun _ => Q.2.1 fault⦄ (throw fault : StateT σ (Except Fault) α) ⦃Q⦄ := by
  simp [Triple.iff]

/-- What a triple says of a run. -/
theorem run_cases {step : StateT σ (Except Fault) α}
    (triple : ⦃fun s => ⌜P s⌝⦄ step ⦃post⟨fun value s => ⌜Q value s⌝, fun fault => ⌜R fault⌝⟩⦄)
    {s : σ} (before : P s) :
    match step.run s with
    | .ok (value, after) => Q value after
    | .error fault => R fault := by
  have weakest : (wp⟦step.run s⟧ post⟨fun result => ⌜Q result.1 result.2⌝,
      fun fault => ⌜R fault⌝⟩).down := triple s before
  cases outcome : step.run s with
  | ok result =>
    rw [outcome] at weakest
    change (wp⟦(pure result : Except Fault (α × σ))⟧ _).down at weakest
    rwa [WP.pure] at weakest
  | error fault =>
    rw [outcome] at weakest
    change (wp⟦(MonadExceptOf.throw fault : Except Fault (α × σ))⟧ _).down at weakest
    rwa [WP.throw_Except] at weakest

end Step

variable {t : Text} {c : Cursor}

/-! ### The cursor -/

namespace Cursor

/-- What is left of a text is its end. -/
def Within (t : Text) (c : Cursor) : Prop := c.rest <:+ t

theorem Within.step (within : Within t c) : Within t c.step := by
  rw [Within, Cursor.step]
  split
  next empty => exact within
  next x rest split =>
    have shorter : rest <:+ t := by
      rw [Within, split] at within
      exact (List.suffix_cons x rest).trans within
    split_ifs <;> exact shorter

theorem Within.forward (count : Nat) (within : Within t c) : Within t (c.forward count) := by
  induction count generalizing c with
  | zero => exact within
  | succ count ih => exact ih within.step

theorem Within.takeWhile (kind : CodePoint → Bool) (within : Within t c) :
    c.rest.takeWhile kind <:+: t :=
  (List.takeWhile_prefix kind).isInfix.trans within.isInfix

end Cursor

open Cursor

namespace Reader

/-- The cursor stands in a text before a step of reading. -/
abbrev Before (t : Text) : Assertion (.arg Cursor (.except Fault .pure)) := fun c => ⌜Within t c⌝

/-- It stands there after the step, or the text is refused. -/
abbrev After (α : Type) (t : Text) : PostCond α (.arg Cursor (.except Fault .pure)) :=
  post⟨fun _ c => ⌜Within t c⌝, fun fault => ⌜Flaw t fault⌝⟩

/-- It stands there after a step that took a run of a kind from the text. -/
abbrev AfterRun (kind : CodePoint → Bool) (t : Text) :
    PostCond Text (.arg Cursor (.except Fault .pure)) :=
  post⟨fun run c => ⌜Within t c ∧ run <:+: t ∧ ∀ x ∈ run, kind x = true⌝,
    fun fault => ⌜Flaw t fault⌝⟩

@[spec]
theorem malformed_spec {α : Type} {P : α → Assertion (.arg Cursor (.except Fault .pure))} :
    ⦃⌜True⌝⦄ (malformed : Reader α) ⦃post⟨P, fun fault => ⌜Flaw t fault⌝⟩⦄ := by
  mvcgen [Reader.malformed]
  exact Flaw.malformed

@[spec]
theorem forward_spec (count : Nat) : ⦃Before t⦄ forward count ⦃After Unit t⦄ := by
  mvcgen [forward]
  exact Within.forward count ‹_›

@[spec]
theorem peek_spec : ⦃Before t⦄ peek ⦃After (Option CodePoint) t⦄ := by
  mvcgen [peek]

theorem takeRun_spec (kind : CodePoint → Bool) :
    ⦃Before t⦄ takeWhile kind ⦃AfterRun kind t⦄ := by
  mvcgen [takeWhile, -forward_spec, Reader.forward]
  next within _ _ =>
    exact ⟨within.forward _, within.takeWhile kind, fun x member => List.mem_takeWhile_imp member⟩

@[spec]
theorem takeWhile_spec (kind : CodePoint → Bool) : ⦃Before t⦄ takeWhile kind ⦃After Text t⦄ := by
  mvcgen [takeWhile]

@[spec]
theorem skipSpaces_spec : ⦃Before t⦄ skipSpaces ⦃After Unit t⦄ := by
  mvcgen [skipSpaces]

@[spec]
theorem takeBreak_spec : ⦃Before t⦄ takeBreak ⦃After Text t⦄ := by
  mvcgen [takeBreak]

@[spec]
theorem skipComment_spec : ⦃Before t⦄ skipComment ⦃After Unit t⦄ := by
  mvcgen [skipComment]

@[spec]
theorem skipRestOfLine_spec : ⦃Before t⦄ skipRestOfLine ⦃After Unit t⦄ := by
  mvcgen [skipRestOfLine]

/-! ### Tags and directives -/

@[spec]
theorem takeOctets_spec (fuel : Nat) : ⦃Before t⦄ takeOctets fuel ⦃After Bytes t⦄ := by
  induction fuel with
  | zero => mvcgen [takeOctets]
  | succ fuel ih => mvcgen [takeOctets, ih]

@[spec]
theorem takeAddressPieces_spec (fuel : Nat) (taken : Text) :
    ⦃Before t⦄ takeAddressPieces fuel taken ⦃After Text t⦄ := by
  induction fuel generalizing taken with
  | zero => mvcgen [takeAddressPieces]
  | succ fuel ih => mvcgen [takeAddressPieces, ih]

@[spec]
theorem takeAddress_spec : ⦃Before t⦄ takeAddress ⦃After Text t⦄ := by
  mvcgen [takeAddress]

@[spec]
theorem takeHandle_spec : ⦃Before t⦄ takeHandle ⦃After Text t⦄ := by
  mvcgen [takeHandle]

@[spec]
theorem takeTag_spec : ⦃Before t⦄ takeTag ⦃After WrittenTag t⦄ := by
  mvcgen [takeTag]

/-- A number of a version is refused for its digits, which stand in the text. -/
@[spec]
theorem takeVersionNumber_spec (named : "YAML" <:+: t) :
    ⦃Before t⦄ takeVersionNumber ⦃After Nat t⦄ := by
  mvcgen [takeVersionNumber, -takeWhile_spec, takeRun_spec]
  next above _ held => exact Flaw.version named held.2.1 held.2.2 above
  next held => exact held.1

theorem takeDirectiveName_spec :
    ⦃Before t⦄ takeDirectiveName ⦃AfterRun isNamePoint t⦄ := by
  mvcgen [takeDirectiveName, -takeWhile_spec, takeRun_spec]

@[spec]
theorem takeDirective_spec : ⦃Before t⦄ takeDirective ⦃After Directive t⦄ := by
  mvcgen [takeDirective, takeDirectiveName_spec]
  all_goals grind

end Reader
end Conformance.Yaml
