import Conformance.Proofs.Json.Written

/-!
# Code points of written JSON

A carriage return inside a string is escaped, and nothing else that is written has one, so lines in
a file end as they were written. Where the texts hold no surrogates, none is written either.
-/
namespace Conformance.Json

open Grammar

/-- A code point that UTF-8 has, and that no reader of lines replaces. -/
def Clean (c : CodePoint) : Prop := c ≠ '\r' ∧ c.isSurrogate = false

instance (c : CodePoint) : Decidable (Clean c) := inferInstanceAs (Decidable (_ ∧ _))

theorem clean_of_isDigit {c : CodePoint} (digit : c.isDigit = true) : Clean c := by
  refine ⟨ne_of_isDigit digit rfl, ?_⟩
  simp only [CodePoint.isDigit, Bool.and_eq_true, decide_eq_true_eq] at digit
  simp only [CodePoint.isSurrogate, Bool.and_eq_false_iff, decide_eq_false_iff_not]
  omega

theorem clean_unitEscape : ∀ n : Fin 0x20, ∀ c ∈ unitEscape n.val, Clean c := by
  decide +kernel

theorem clean_writePoint {c : CodePoint} (scalar : c.isSurrogate = false) :
    ∀ d ∈ writePoint false c, Clean d := by
  rw [writePoint]
  simp only [Bool.false_and, Bool.false_eq_true, if_false]
  split_ifs with quote backslash feed carriage tab back form control
  iterate 7 · decide
  · exact clean_unitEscape ⟨c.toNat, control⟩
  · exact List.forall_mem_singleton.mpr ⟨carriage, scalar⟩

theorem clean_writeString {content : Text} (scalar : ∀ c ∈ content, c.isSurrogate = false) :
    ∀ c ∈ writeString false content, Clean c := by
  have quote : ∀ c ∈ [CodePoint.ofChar '"'], Clean c := by decide
  refine List.forall_mem_append.mpr ⟨List.forall_mem_append.mpr ⟨quote, ?_⟩, quote⟩
  intro d member
  obtain ⟨c, present, within⟩ := List.mem_flatMap.mp member
  exact clean_writePoint (scalar c present) d within

theorem clean_ofInt (value : Int) : ∀ c ∈ Text.ofInt value, Clean c := by
  have digits (n : Nat) : ∀ c ∈ Text.ofNat n, Clean c := fun _ member =>
    clean_of_isDigit (Text.isDigit_of_mem_ofNat member)
  cases value with
  | ofNat n => exact digits n
  | negSucc n => exact List.forall_mem_append.mpr ⟨by decide, digits (n + 1)⟩

/-- What a numeral is made of: digits, the point, the letters and the signs of an exponent. -/
def InNumeral (c : CodePoint) : Prop :=
  c.isDigit = true ∨ c ∈ [CodePoint.ofChar '.', .ofChar 'e', .ofChar 'E', .ofChar '+', .ofChar '-']

/-- A text up to what follows a lexeme of numerals. -/
def Numeric (t rest : Text) : Prop := ∃ lexeme, t = lexeme ++ rest ∧ ∀ c ∈ lexeme, InNumeral c

theorem Numeric.refl (t : Text) : Numeric t t := ⟨[], rfl, List.forall_mem_nil _⟩

theorem Numeric.trans {t behind rest : Text} (first : Numeric t behind)
    (second : Numeric behind rest) : Numeric t rest := by
  obtain ⟨lexeme, rfl, inside⟩ := first
  obtain ⟨others, rfl, more⟩ := second
  exact ⟨lexeme ++ others, (List.append_assoc ..).symm, List.forall_mem_append.mpr ⟨inside, more⟩⟩

theorem Numeric.cons {c : CodePoint} {t rest : Text} (inside : InNumeral c)
    (numeric : Numeric t rest) : Numeric (c :: t) rest :=
  .trans ⟨[c], rfl, List.forall_mem_singleton.mpr inside⟩ numeric

theorem Grammar.Digits.numeric {t digits rest : Text} (run : Digits t digits rest) :
    Numeric t rest :=
  ⟨digits, run.1, fun c member => .inl (run.2.2 c member)⟩

theorem Grammar.Whole.numeric {t digits rest : Text} (spelled : Whole t digits rest) :
    Numeric t rest := by
  cases spelled with
  | zero => exact .cons (.inl rfl) (.refl _)
  | digits run _ => exact run.numeric

theorem Grammar.Fraction.numeric {t digits rest : Text} (spelled : Fraction t digits rest) :
    Numeric t rest := by
  cases spelled with
  | absent => exact .refl _
  | present run => exact .cons (.inr (by decide)) run.numeric

theorem Grammar.Exponent.numeric {t rest : Text} {exponent : Option (Bool × Text)}
    (spelled : Exponent t exponent rest) : Numeric t rest := by
  cases spelled with
  | absent => exact .refl _
  | @present letter _ _ _ _ _ mark sign run =>
    have inside : InNumeral letter := .inr (by rcases mark with rfl | rfl <;> decide)
    refine .cons inside (Numeric.trans ?_ run.numeric)
    cases sign with
    | absent => exact .refl _
    | plus | minus => exact .cons (.inr (by decide)) (.refl _)

theorem Grammar.Number.numeric {t rest : Text} {n : Numeral} (spelled : Number t n rest) :
    Numeric t rest := by
  obtain ⟨start, first, second, third, _⟩ := spelled
  have body := first.numeric.trans (second.numeric.trans third.numeric)
  rw [start]
  split_ifs
  · exact .cons (.inr (by decide)) body
  · exact body

/-- A real number is written with the code points of numerals. -/
theorem inNumeral_format (value : Binary64) : ∀ c ∈ value.format, InNumeral c := by
  obtain ⟨n, number, _⟩ := exists_number_format value
  obtain ⟨lexeme, whole, inside⟩ := (number []).numeric
  rw [List.append_nil, List.append_nil] at whole
  rw [whole]
  exact inside

theorem mem_join {separator : Text} {parts : List Text} {c : CodePoint}
    (member : c ∈ Text.join separator parts) : c ∈ separator ∨ ∃ part ∈ parts, c ∈ part := by
  induction parts with
  | nil => cases member
  | cons part others ih =>
    cases others with
    | nil => exact .inr ⟨part, List.mem_cons_self, member⟩
    | cons second others =>
      rw [join_cons_cons, List.mem_append, List.mem_append] at member
      rcases member with here | between | later
      · exact .inr ⟨part, List.mem_cons_self, here⟩
      · exact .inl between
      · rcases ih later with between | ⟨other, present, within⟩
        · exact .inl between
        · exact .inr ⟨other, List.mem_cons_of_mem _ present, within⟩

variable {style : Style}

theorem Layout.clean {t : Text} (layout : Layout t) : ∀ c ∈ t, Clean c := by
  intro c member
  rcases layout c member with rfl | rfl
  · decide
  · decide

theorem clean_enclose (plain : style.Plain) {level : Nat} {opening closing : CodePoint}
    (first : Clean opening) (last : Clean closing) {parts : List Text}
    (each : ∀ part ∈ parts, ∀ c ∈ part, Clean c) :
    ∀ c ∈ enclose style level opening closing parts, Clean c := by
  rcases Decidable.em (parts = []) with rfl | inhabited
  · exact List.forall_mem_cons.mpr ⟨first, List.forall_mem_singleton.mpr last⟩
  · obtain ⟨before, between, after, lead, gap, tail, shape⟩ :=
      enclose_eq plain level opening closing inhabited
    have commas : ∀ c ∈ comma between, Clean c :=
      List.forall_mem_cons.mpr ⟨by decide, gap.clean⟩
    have joined : ∀ c ∈ Text.join (comma between) parts, Clean c := by
      intro c member
      rcases mem_join member with between | ⟨part, present, within⟩
      · exact commas c between
      · exact each part present c within
    rw [shape]
    refine List.forall_mem_cons.mpr ⟨first, List.forall_mem_append.mpr ⟨lead.clean, ?_⟩⟩
    refine List.forall_mem_append.mpr ⟨joined, List.forall_mem_append.mpr ⟨tail.clean, ?_⟩⟩
    exact List.forall_mem_singleton.mpr last

/-! ### Written data -/

theorem clean_text (plain : style.Plain) {content : Text}
    (scalar : ∀ c ∈ content, c.isSurrogate = false) (level : Nat) :
    ∀ c ∈ write style level (.text content), Clean c := by
  rw [write, plain.unescaped]
  exact clean_writeString scalar

/-- A sequence is written with clean code points if its items are. -/
theorem clean_sequence (plain : style.Plain) {items : List Datum} {level : Nat}
    (each : ∀ item ∈ items, ∀ c ∈ write style (level + 1) item, Clean c) :
    ∀ c ∈ write style level (.sequence items), Clean c := by
  rw [write_sequence]
  refine clean_enclose plain (by decide) (by decide) fun part member => ?_
  obtain ⟨item, present, rfl⟩ := List.mem_map.mp member
  exact each item present

/-- A mapping is written with clean code points if its names have no surrogates and its values are
written so. -/
theorem clean_mapping (plain : style.Plain) {members : List (Text × Datum)} {level : Nat}
    (names : ∀ member ∈ members, ∀ c ∈ member.1, c.isSurrogate = false)
    (each : ∀ member ∈ members, ∀ c ∈ write style (level + 1) member.2, Clean c) :
    ∀ c ∈ write style level (.mapping (members.map entry)), Clean c := by
  rw [write_mapping plain]
  refine clean_enclose plain (by decide) (by decide) fun part listed => ?_
  obtain ⟨member, present, rfl⟩ := List.mem_map.mp listed
  refine List.forall_mem_append.mpr
    ⟨clean_writeString (names member present), List.forall_mem_cons.mpr ⟨by decide, ?_⟩⟩
  exact List.forall_mem_append.mpr ⟨plain.colons.clean, each member present⟩

end Conformance.Json
