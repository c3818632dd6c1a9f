import Conformance.Proofs.Document.Dump
import Conformance.Proofs.Json.Clean
import Conformance.Proofs.Report.Pointer

/-!
# Lines of texts

A text has one line more than it has line feeds, and texts that are joined with line feeds keep
their own lines. Numerals, quoted texts and documents that are shown as JSON stand on one line
whatever they hold: a line feed inside a text is escaped, and no other part has one.
-/
namespace Conformance

open Json

namespace Text

variable {t u : Text} {separator : CodePoint}

/-- What stands between two lines. -/
def feed : CodePoint := '\n'

def lines (t : Text) : List Text := splitOn feed t

/-- No line feed is in the text. -/
def OneLine (t : Text) : Prop := feed ∉ t

instance (t : Text) : Decidable t.OneLine := inferInstanceAs (Decidable (_ ∉ _))

/-! ### Pieces -/

theorem length_splitOn (separator : CodePoint) (t : Text) :
    (splitOn separator t).length = t.count separator + 1 := by
  induction t with
  | nil => rfl
  | cons c t ih =>
    rw [splitOn, List.count_cons]
    by_cases same : c = separator
    · rw [if_pos same, List.length_cons, ih]
      simp [same]
    · rw [if_neg same]
      obtain ⟨piece, pieces, split⟩ := exists_splitOn separator t
      rw [split] at ih ⊢
      simpa [same] using ih

/-- Texts with separators between them fall into their own pieces. -/
theorem splitOn_join {parts : List Text} (inhabited : parts ≠ []) :
    splitOn separator (join [separator] parts) = parts.flatMap (splitOn separator) := by
  induction parts with
  | nil => exact absurd rfl inhabited
  | cons part others ih =>
    cases others with
    | nil => rw [join, List.flatMap_singleton]
    | cons second others =>
      have joined : join [separator] (part :: second :: others) =
          part ++ separator :: join [separator] (second :: others) := by
        rw [join_cons_cons]
        rfl
      rw [joined, splitOn_append, ih (List.cons_ne_nil _ _)]
      rfl

theorem lines_join {parts : List Text} (inhabited : parts ≠ []) :
    lines (join "\n" parts) = parts.flatMap lines := splitOn_join inhabited

theorem OneLine.lines_eq (single : t.OneLine) : t.lines = [t] := splitOn_of_not_mem single

theorem oneLine_iff : t.OneLine ↔ t.count feed = 0 := List.count_eq_zero.symm

/-! ### Texts on one line -/

theorem oneLine_singleton {c : CodePoint} : OneLine [c] ↔ c ≠ feed := by
  rw [OneLine, List.mem_singleton, ne_comm]

theorem OneLine.append (first : OneLine t) (second : OneLine u) : OneLine (t ++ u) :=
  List.not_mem_append first second

theorem OneLine.join {parts : List Text} (between : OneLine t)
    (each : ∀ part ∈ parts, OneLine part) : OneLine (join t parts) := by
  intro member
  rcases mem_join member with inside | ⟨part, present, inside⟩
  · exact between inside
  · exact each part present inside

theorem oneLine_of_numeral (each : ∀ c ∈ t, InNumeral c) : OneLine t := by
  intro member
  rcases each feed member with digit | mark
  · exact absurd digit (by decide)
  · exact absurd mark (by decide)

theorem oneLine_ofNat (n : Nat) : OneLine (ofNat n) :=
  oneLine_of_numeral fun _ member => .inl (isDigit_of_mem_ofNat member)

theorem oneLine_ofInt (value : Int) : OneLine (ofInt value) := by
  cases value with
  | ofNat n => exact oneLine_ofNat n
  | negSucc n => exact .append (by decide) (oneLine_ofNat (n + 1))

/-- The digits of a base up to sixteen are figures and letters. -/
theorem oneLine_ofNatBase {base : Nat} (proper : 1 < base) (few : base ≤ 16) (n : Nat) :
    OneLine (ofNatBase base n) := by
  have digit : ∀ d : Fin 16, OneLine [CodePoint.ofChar d.val.digitChar] := by decide
  induction n using Nat.strong_induction_on with
  | h n ih =>
    rw [ofNatBase, Nat.toDigits_eq_if proper]
    split_ifs with small
    · exact digit ⟨n, by omega⟩
    · have last : n % base < base := Nat.mod_lt n (by omega)
      rw [List.map_append]
      exact .append (ih _ (Nat.div_lt_self (by omega) proper)) (digit ⟨n % base, by omega⟩)

theorem oneLine_hexPadded (width n : Nat) : OneLine (hexPadded width n) := by
  refine .append (fun member => ?_) (oneLine_ofNatBase (by decide) (by decide) n)
  exact absurd (List.eq_of_mem_replicate member) (by decide)

theorem oneLine_hexEscape (c : CodePoint) : OneLine (hexEscape c) := by
  rw [hexEscape]
  split_ifs
  · exact .append (by decide) (oneLine_hexPadded 2 _)
  · exact .append (by decide) (oneLine_hexPadded 4 _)
  · exact .append (by decide) (oneLine_hexPadded 8 _)

theorem oneLine_quotedPoint {quote : CodePoint} (mark : quote ≠ feed) (c : CodePoint) :
    OneLine (quotedPoint quote c) := by
  rw [quotedPoint]
  split_ifs with escaped isFeed
  · have other : c ≠ feed := by
      rcases escaped with rfl | rfl
      · exact mark
      · decide
    exact .append (t := ['\\']) (by decide) (oneLine_singleton.mpr other)
  · decide
  · decide
  · decide
  · exact oneLine_singleton.mpr isFeed
  · exact oneLine_hexEscape c

/-- A quoted text stays on one line, whatever it holds. -/
theorem oneLine_quoted (t : Text) : OneLine t.quoted := by
  have mark : quoteMark t ≠ feed := by
    rw [quoteMark]
    split_ifs <;> decide
  have own : OneLine [quoteMark t] := oneLine_singleton.mpr mark
  refine (own.append fun member => ?_).append own
  obtain ⟨c, _, inside⟩ := List.mem_flatMap.mp member
  exact oneLine_quotedPoint mark c inside

theorem oneLine_writeString (t : Text) : OneLine (writeString false t) := by
  refine (OneLine.append (by decide) fun member => ?_).append (by decide)
  obtain ⟨c, _, inside⟩ := List.mem_flatMap.mp member
  revert inside
  rw [writePoint]
  simp only [Bool.false_and, Bool.false_eq_true, if_false]
  split_ifs with quote backslash isFeed carriage tab back form control
  iterate 7 · decide
  · exact List.not_mem_append (by decide) (oneLine_hexPadded 4 _)
  · exact oneLine_singleton.mpr isFeed

end Text

open Text

/-! ### Numbers and documents -/

theorem Binary64.oneLine_format (x : Binary64) : x.format.OneLine :=
  oneLine_of_numeral (inNumeral_format x)

theorem Binary64.oneLine_formatPlain (x : Binary64) : x.formatPlain.OneLine := by
  rw [formatPlain]
  split_ifs
  · exact oneLine_ofInt _
  · exact x.oneLine_format

theorem Extended.oneLine_formatPlain (x : Extended) : x.formatPlain.OneLine := by
  cases x with
  | finite value => exact value.oneLine_formatPlain
  | infinite negative => cases negative <;> decide
  | notNumber => decide

namespace Document

theorem oneLine_enclose_plainSorted {level : Nat} {opening closing : CodePoint} {parts : List Text}
    (first : OneLine [opening]) (last : OneLine [closing]) (each : ∀ part ∈ parts, part.OneLine) :
    OneLine (enclose plainSorted level opening closing parts) := by
  cases parts with
  | nil => exact first.append last
  | cons part others =>
    have comma : OneLine ("," ++ " ") := by decide
    exact (first.append (comma.join each)).append last

/-- A document is shown on one line, whatever its texts and names hold. -/
theorem oneLine_write (d : Document) (level : Nat) :
    OneLine (write plainSorted level d.toDatum) := by
  induction d generalizing level with
  | null => exact (by decide : OneLine "null")
  | boolean value =>
    cases value with
    | true => exact (by decide : OneLine "true")
    | false => exact (by decide : OneLine "false")
  | number value =>
    rw [toDatum]
    split_ifs
    · exact oneLine_ofInt _
    · exact value.oneLine_format
  | string content => exact oneLine_writeString content
  | array elements ih =>
    rw [toDatum, Json.write, writeItems_toItems]
    refine oneLine_enclose_plainSorted (by decide) (by decide) fun part member => ?_
    obtain ⟨element, present, rfl⟩ := List.mem_map.mp member
    exact ih element present (level + 1)
  | object members ih =>
    rw [toDatum, Json.write, writeEntries_toEntries]
    refine oneLine_enclose_plainSorted (by decide) (by decide) fun part member => ?_
    obtain ⟨line, arranged, rfl⟩ := List.mem_map.mp member
    have sorted : plainSorted.sorted = true := rfl
    rw [arrange, if_pos sorted, List.mem_mergeSort] at arranged
    obtain ⟨entry, present, rfl⟩ := List.mem_map.mp arranged
    exact (((oneLine_writeString entry.1).append (by decide)).append (by decide)).append
      (ih entry present (level + 1))

theorem oneLine_dump (d : Document) : d.dump.OneLine := d.oneLine_write 0

end Document
end Conformance
