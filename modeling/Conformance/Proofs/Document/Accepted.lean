import Conformance.Failure
import Conformance.Proofs.Document.Converted
import Conformance.Proofs.Document.Kept
import Conformance.Proofs.Json.Unambiguous
import Conformance.Proofs.Text.Encoding
import Conformance.Proofs.Text.Numeral

/-!
# Which JSON texts are documents

A text is accepted if it derives from the grammar, its numbers are legible and those that are kept
are finite; it then is the document that it denotes. Legible is less than finite: a whole number may
lie past the greatest finite one, so long as a later member replaces the one that holds it.
-/
namespace Conformance

namespace Json

open Grammar

/-! ### The numbers of a phrase -/

namespace Phrase

/-- A number that is read whatever becomes of it: a whole one without too many digits, or another
one that is finite. -/
inductive Legible : Phrase → Prop where
  | whole {n : Numeral} (whole : n.isWhole = true) (short : n.whole.length ≤ maxIntegerDigits) :
      Legible (.number n)
  | real {n : Numeral} (real : n.isWhole = false) (finite : n.nearest? ≠ none) :
      Legible (.number n)

/-- Every number is legible, also one that is not kept. -/
def Readable (phrase : Phrase) : Prop := ∀ number ∈ phrase.numbers, Legible number

theorem legible_iff {n : Numeral} :
    Legible (.number n) ↔ ∃ datum, n.value .document = .ok datum := by
  cases whole : n.isWhole with
  | true =>
    rw [Numeral.value_whole whole]
    by_cases long : maxIntegerDigits < n.whole.length
    · rw [if_pos long]
      refine ⟨fun legible => ?_, nofun⟩
      cases legible with
      | whole _ short => exact absurd long (Nat.not_lt.mpr short)
      | real real _ => cases whole.symm.trans real
    · rw [if_neg long]
      exact ⟨fun _ => ⟨_, rfl⟩, fun _ => .whole whole (Nat.not_lt.mp long)⟩
  | false =>
    rw [Numeral.value_real whole]
    cases known : n.nearest? with
    | none =>
      refine ⟨fun legible => ?_, nofun⟩
      cases legible with
      | whole other _ => cases whole.symm.trans other
      | real _ finite => exact absurd known finite
    | some value => exact ⟨fun _ => ⟨_, rfl⟩, fun _ => .real whole (by simp [known])⟩

mutual

/-- Weights that are no less give no less nesting. -/
theorem nesting_mono {weight heavier : Nat} (more : weight ≤ heavier) :
    ∀ phrase : Phrase, phrase.nesting weight ≤ phrase.nesting heavier
  | .array elements => Nat.add_le_add (nestingOfAll_mono more elements) more
  | .object members => Nat.add_le_add_right (nestingOfMembers_mono more members) 1
  | .null | .boolean _ | .number _ | .notNumber | .infinite _ | .string _ => Nat.le_refl 0

theorem nestingOfAll_mono {weight heavier : Nat} (more : weight ≤ heavier) :
    ∀ elements : List Phrase, nestingOfAll weight elements ≤ nestingOfAll heavier elements
  | [] => Nat.le_refl 0
  | element :: rest => max_le_max (nesting_mono more element) (nestingOfAll_mono more rest)

theorem nestingOfMembers_mono {weight heavier : Nat} (more : weight ≤ heavier) :
    ∀ members : List (Text × Phrase),
      nestingOfMembers weight members ≤ nestingOfMembers heavier members
  | [] => Nat.le_refl 0
  | (_, value) :: rest => max_le_max (nesting_mono more value) (nestingOfMembers_mono more rest)

end

theorem holds_document (content : Text) : Holds .document content := .inl rfl

mutual

/-- A phrase denotes a datum if its numbers are legible. -/
theorem exists_datum? : ∀ phrase : Phrase, phrase.Readable →
    ∃ datum, phrase.datum? .document = some datum
  | .null, _ | .boolean _, _ | .string _, _ => ⟨_, rfl⟩
  | .notNumber, readable | .infinite _, readable => by
    cases readable _ List.mem_cons_self
  | .number n, readable => by
    obtain ⟨datum, read⟩ := legible_iff.mp (readable _ List.mem_cons_self)
    exact ⟨datum, by rw [datum?, read]; rfl⟩
  | .array elements, readable => by
    obtain ⟨items, each⟩ := exists_items? elements readable
    exact ⟨.sequence items, by rw [datum?, each]; rfl⟩
  | .object members, readable => by
    obtain ⟨entries, each⟩ := exists_entries? members readable
    exact ⟨Datum.ofEntries entries, by rw [datum?, each]; rfl⟩

theorem exists_items? : ∀ elements : List Phrase,
    (∀ number ∈ numbersOfAll elements, Legible number) →
      ∃ items, items? .document elements = some items
  | [], _ => ⟨[], rfl⟩
  | element :: rest, readable => by
    obtain ⟨first, others⟩ := List.forall_mem_append.mp readable
    obtain ⟨item, known⟩ := exists_datum? element first
    obtain ⟨items, each⟩ := exists_items? rest others
    exact ⟨_, items?_cons_eq_some_iff.mpr ⟨item, items, known, each, rfl⟩⟩

theorem exists_entries? : ∀ members : List (Text × Phrase),
    (∀ number ∈ numbersOfMembers members, Legible number) →
      ∃ entries, entries? .document members = some entries
  | [], _ => ⟨[], rfl⟩
  | (name, value) :: rest, readable => by
    obtain ⟨first, others⟩ := List.forall_mem_append.mp readable
    obtain ⟨datum, known⟩ := exists_datum? value first
    obtain ⟨entries, each⟩ := exists_entries? rest others
    exact ⟨_, entries?_cons_eq_some_iff.mpr
      ⟨datum, entries, holds_document name, known, each, rfl⟩⟩

end

mutual

/-- Every numeral of a phrase that denotes a datum is legible. -/
theorem legible_of_datum? {n : Numeral} : ∀ {phrase : Phrase} {datum : Datum},
    phrase.datum? .document = some datum → .number n ∈ phrase.numbers → Legible (.number n)
  | .number m, _, denoted, member => by
    cases List.mem_singleton.mp member
    rw [datum?] at denoted
    refine legible_iff.mpr ?_
    cases read : n.value .document with
    | error stop =>
      rw [read] at denoted
      cases denoted
    | ok value => exact ⟨value, rfl⟩
  | .notNumber, _, _, member | .infinite _, _, _, member => by
    cases List.mem_singleton.mp member
  | .array elements, _, denoted, member => by
    obtain ⟨items, each, _⟩ := Option.map_eq_some_iff.mp denoted
    exact legible_of_items? each member
  | .object members, _, denoted, member => by
    obtain ⟨entries, each, _⟩ := Option.map_eq_some_iff.mp denoted
    exact legible_of_entries? each member

theorem legible_of_items? {n : Numeral} : ∀ {elements : List Phrase} {items : List Datum},
    items? .document elements = some items → .number n ∈ numbersOfAll elements →
      Legible (.number n)
  | element :: rest, _, denoted, member => by
    obtain ⟨item, others, known, each, _⟩ := items?_cons_eq_some_iff.mp denoted
    rcases List.mem_append.mp member with first | later
    · exact legible_of_datum? known first
    · exact legible_of_items? each later

theorem legible_of_entries? {n : Numeral} :
    ∀ {members : List (Text × Phrase)} {entries : List (Datum × Datum)},
      entries? .document members = some entries → .number n ∈ numbersOfMembers members →
        Legible (.number n)
  | (name, value) :: rest, _, denoted, member => by
    obtain ⟨datum, others, _, known, each, _⟩ := entries?_cons_eq_some_iff.mp denoted
    rcases List.mem_append.mp member with first | later
    · exact legible_of_datum? known first
    · exact legible_of_entries? each later

end

end Phrase

/-! ### The numbers of a text -/

/-- Every number that a part writes. -/
def Grammar.Part.numbers : Part → List Phrase
  | .value phrase => phrase.numbers
  | .elements phrases => Phrase.numbersOfAll phrases
  | .member written => written.2.numbers
  | .members written => Phrase.numbersOfMembers written

/-- A text of the standard grammar has no numbers but numerals. -/
theorem Grammar.Derives.numeral {t rest : Text} {part : Part}
    (derived : Derives false t part rest) :
    ∀ number ∈ part.numbers, ∃ n t rest, number = .number n ∧ Number t n rest := by
  induction derived with
  | null | yes | no | string | emptyArray | emptyObject => exact List.forall_mem_nil _
  | constant known _ => cases known
  | number spelled => exact List.forall_mem_singleton.mpr ⟨_, _, _, rfl, spelled⟩
  | array _ _ ih | object _ _ ih | member _ _ _ _ ih => exact ih
  | lastElement _ _ ih | lastMember _ _ ih =>
    exact List.forall_mem_append.mpr ⟨ih, List.forall_mem_nil _⟩
  | nextElement _ _ _ _ first later | nextMember _ _ _ _ first later =>
    exact List.forall_mem_append.mpr ⟨first, later⟩

theorem Grammar.Writes.numeral {t : Text} {phrase : Phrase} (writes : Writes false t phrase) :
    ∀ number ∈ phrase.numbers, ∃ n t rest, number = .number n ∧ Number t n rest := by
  obtain ⟨_, _, _, derived, _⟩ := writes
  exact derived.numeral

/-- Digits of which the first is no zero have a value that grows with their number. -/
theorem pow_le_natValue {c : CodePoint} {rest : Text} (digit : c.isDigit = true)
    (nonzero : c ≠ CodePoint.ofChar '0') : 10 ^ rest.length ≤ Text.natValue (c :: rest) := by
  have positive : 1 ≤ Text.natValue [c] := by
    have other : c.toNat ≠ 48 := fun same =>
      nonzero (by rw [← c.ofNat_toNat, same]; rfl)
    rw [CodePoint.isDigit, Bool.and_eq_true, decide_eq_true_eq, decide_eq_true_eq] at digit
    show 1 ≤ 10 * 0 + c.digitValue
    rw [CodePoint.digitValue]
    omega
  calc 10 ^ rest.length ≤ Text.natValue [c] * 10 ^ rest.length := Nat.le_mul_of_pos_left _ positive
    _ ≤ Text.natValue [c] * 10 ^ rest.length + Text.natValue rest := Nat.le_add_right _ _
    _ = Text.natValue (c :: rest) := (Text.natValue_append [c] rest).symm

/-- A finite whole number has no more digits than are read. -/
theorem Grammar.Number.short {t rest : Text} {n : Numeral} (spelled : Number t n rest)
    (whole : n.isWhole = true) (finite : n.nearest? ≠ none) :
    n.whole.length ≤ maxIntegerDigits := by
  by_contra long
  refine finite ?_
  rw [Numeral.nearest?_whole whole]
  refine Binary64.ofInt?_eq_none ?_
  have magnitude : (if n.negative then -(n.digits : Int) else n.digits).natAbs =
      Text.natValue n.whole := by
    have plain : n.fraction = [] := by
      rw [Numeral.isWhole, Bool.and_eq_true] at whole
      exact List.isEmpty_iff.mp whole.1
    rw [Numeral.digits, plain, List.append_nil]
    split_ifs <;> simp
  rw [magnitude]
  -- With so many digits and no zero in front the number is past the greatest finite one.
  obtain ⟨_, first, _, _, _⟩ := spelled
  cases first with
  | zero => exact absurd (show 1 ≤ maxIntegerDigits by decide) long
  | digits run leading =>
    obtain ⟨c, more, rfl, digit, _⟩ := run.exists_cons
    have nonzero : c ≠ CodePoint.ofChar '0' := fun same => leading (congrArg some same)
    refine Binary64.bits_of_pow_le ?_ (pow_le_natValue digit nonzero)
    simp only [List.length_cons, maxIntegerDigits] at long
    omega

/-- Numbers that are finite in a text of the standard grammar are legible. -/
theorem Grammar.Writes.readable {t : Text} {phrase : Phrase} (writes : Writes false t phrase)
    (finite : phrase.Finite) : phrase.Readable := by
  intro number member
  obtain ⟨n, _, _, rfl, spelled⟩ := writes.numeral number member
  have inRange : n.nearest? ≠ none := fun none =>
    finite _ member (by rw [Phrase.document?, none]; rfl)
  cases whole : n.isWhole with
  | true => exact .whole whole (spelled.short whole inRange)
  | false => exact .real whole inRange

end Json

/-! ### Accepted texts -/

namespace Document

open Json Json.Grammar

variable {t : Text} {document : Document}

theorem ofJson_text_eq_ok_iff :
    ofJson (.text t) = .ok document ↔
      ∃ datum, decode .document t = .ok datum ∧ ofDatum datum = .ok document :=
  ofJson_eq_ok_iff

/-- A text becomes a document exactly if its numbers are legible, those that are kept are finite,
and neither the text nor the document is nested too deeply. -/
theorem ofJson_eq_ok_iff_of_writes {phrase : Phrase} (writes : Writes false t phrase) :
    ofJson (.text t) = .ok document ↔ phrase.Readable ∧
      phrase.nesting 1 ≤ Dialect.document.maxNesting ∧ phrase.document? = some document ∧
        document.Within maxNesting := by
  rw [ofJson_text_eq_ok_iff]
  constructor
  · rintro ⟨datum, decoded, converted⟩
    obtain ⟨other, spelled, denoted, shallow⟩ := decode_eq_ok_iff.mp decoded
    obtain rfl := writes.unique spelled
    refine ⟨fun number member => ?_, shallow, (agrees_datum maxNesting denoted).sound converted,
      (denotes_of_ofDatumWithin converted).2⟩
    obtain ⟨n, _, _, rfl, _⟩ := writes.numeral number member
    exact Phrase.legible_of_datum? denoted member
  · rintro ⟨readable, shallow, denoted, within⟩
    obtain ⟨datum, known⟩ := phrase.exists_datum? readable
    refine ⟨datum, decode_eq_ok_iff.mpr ⟨phrase, writes, known, shallow⟩, ?_⟩
    -- With enough levels the datum becomes the document, which then needs no more than there are.
    exact ofDatumWithin_of_within ((agrees_datum _ known).complete le_rfl denoted) within

/-- A text that is accepted denotes the document that comes of it. -/
theorem exists_writes_of_ofJson (read : ofJson (.text t) = .ok document) :
    ∃ phrase, Writes false t phrase ∧ phrase.Readable ∧ phrase.document? = some document := by
  obtain ⟨_, decoded, _⟩ := ofJson_text_eq_ok_iff.mp read
  obtain ⟨phrase, writes, _⟩ := decode_eq_ok_iff.mp decoded
  obtain ⟨readable, _, denoted, _⟩ := (ofJson_eq_ok_iff_of_writes writes).mp read
  exact ⟨phrase, writes, readable, denoted⟩

/-- A text that denotes a document is accepted if all of it is legible. -/
theorem ofJson_of_writes {phrase : Phrase} (writes : Writes false t phrase)
    (shallow : phrase.nesting 2 ≤ maxNesting) (readable : phrase.Readable)
    (denoted : phrase.document? = some document) : ofJson (.text t) = .ok document := by
  obtain ⟨datum, known⟩ := phrase.exists_datum? readable
  have within : phrase.nesting 1 ≤ Dialect.document.maxNesting :=
    (phrase.nesting_mono (by decide)).trans shallow
  exact ofJson_text_eq_ok_iff.mpr ⟨datum, decode_eq_ok_iff.mpr ⟨phrase, writes, known, within⟩,
    (agrees_datum maxNesting known).complete shallow denoted⟩

/-- What keeps JSON from being a document is never a key that cannot be shown. -/
theorem ofDatum_ne_keyTooLong {dialect : Dialect} {datum : Datum}
    (read : readText dialect t = .ok datum) : ofDatum datum ≠ .error .keyTooLong := by
  obtain ⟨phrase, _, denoted, _⟩ := readText_eq_ok_iff.mp read
  exact (agrees_datum maxNesting denoted).shown

/-- JSON is read from a text, whether it comes as text or as bytes. -/
theorem exists_readText_of_source {source : Source} {datum : Datum}
    (decoded : (match source with
      | .text content => decode .document content
      | .bytes content => decodeBytes .document content) = .ok datum) :
    ∃ t, readText .document t = .ok datum := by
  cases source with
  | text content =>
    simp only [decode] at decoded
    split at decoded
    · cases decoded
    · exact ⟨content, mapError_eq_ok_iff.mp decoded⟩
  | bytes content =>
    simp only [decodeBytes] at decoded
    split at decoded
    · cases decoded
    · exact ⟨_, mapError_eq_ok_iff.mp decoded⟩

/-- Whatever is wrong with JSON, whether text or bytes, is a fault of the document. -/
theorem classified_of_ofJson {source : Source} {error : DocumentError}
    (refused : ofJson source = .error error) :
    (Failure.document error).className = "DocumentSyntaxError" ∧
      (Failure.document error).family = .inputs := by
  rw [ofJson.eq_def] at refused
  simp only at refused
  split at refused
  · cases refused
    exact ⟨rfl, rfl⟩
  next decoded =>
    obtain ⟨t, read⟩ := exists_readText_of_source decoded
    rw [ofJsonDatum.eq_def] at refused
    split at refused
    · cases refused
    · cases refused
      exact ⟨rfl, rfl⟩
    next fault other converted =>
      cases refused
      -- What is too deep was told apart before, and no key of JSON is too long to be shown.
      cases fault with
      | tooDeep => exact absurd rfl other
      | keyTooLong => exact absurd converted (ofDatum_ne_keyTooLong read)
      | _ => exact ⟨rfl, rfl⟩

/-- A text is accepted exactly if it derives from the grammar, all its numbers are legible, and
those that are kept are finite. Every other text is refused as malformed. Of an object are kept its
names, in the order in which they first came, each with the last of its values. -/
theorem ofJson_text (t : Text) :
    (∀ document, ofJson (.text t) = .ok document →
      ∃ phrase, Writes false t phrase ∧ phrase.Readable ∧ phrase.document? = some document) ∧
    (∀ phrase, Writes false t phrase → phrase.nesting 2 ≤ maxNesting →
      (∀ document, phrase.Readable → phrase.document? = some document →
        ofJson (.text t) = .ok document) ∧
      (phrase.Finite → ∃ document, phrase.document? = some document ∧
        ofJson (.text t) = .ok document)) ∧
    (∀ error, ofJson (.text t) = .error error →
      (Failure.document error).className = "DocumentSyntaxError") ∧
    ∀ (members : List (Text × Phrase)) document,
      (Phrase.object members).document? = some document →
        ∃ values : Named Document, document = .object values ∧
          values.names = (Named.names members).eraseDups ∧
          ∀ name, values.get? name = (Named.get? members.reverse name).bind Phrase.document? := by
  refine ⟨fun _ => exists_writes_of_ofJson, fun phrase writes shallow => ⟨fun _ =>
    ofJson_of_writes writes shallow, fun finite => ?_⟩, fun _ refused =>
    (classified_of_ofJson refused).1, fun _ _ => Phrase.document?_object⟩
  obtain ⟨document, denoted⟩ := phrase.exists_document? finite
  exact ⟨document, denoted, ofJson_of_writes writes shallow (writes.readable finite) denoted⟩

/-! ### A number that is replaced -/

/-- An object with one name twice: a number first, and then one. -/
def twice (literal : Text) : Text := "\x7b\"a\":" ++ (literal ++ ",\"a\":1\x7d")

/-- The numeral of the digit one. -/
def one : Numeral := ⟨false, "1", [], none, "1"⟩

/-- The binary64 number one. -/
def unit : Binary64 := ⟨false, 2 ^ 52, -52, by decide⟩

theorem nearest?_one : one.nearest? = some unit := by decide +kernel

theorem quoted_name (rest : Text) :
    Quoted (("a" : Text) ++ CodePoint.ofChar '"' :: rest) "a" rest :=
  .of_plain (by decide)

theorem number_whole {digits rest : Text} (some_digit : digits ≠ [])
    (each : ∀ c ∈ digits, c.isDigit = true) (leading : digits.head? ≠ some (CodePoint.ofChar '0')) :
    Number (digits ++ rest) ⟨false, digits, [], none, digits⟩ rest :=
  .intro rfl (.digits ⟨rfl, some_digit, each⟩ leading) .absent .absent rfl

theorem writes_twice {unbounded : Bool} {literal : Text} {phrase : Phrase}
    (spelled : Derives unbounded (literal ++ ",\"a\":1\x7d") (.value phrase) ",\"a\":1\x7d") :
    Writes unbounded (twice literal) (.object [("a", phrase), ("a", .number one)]) := by
  have digit : Number (("1" : Text) ++ "\x7d") one "\x7d" :=
    number_whole (by decide) (by decide) (by decide)
  have last : Derives unbounded "1\x7d" (.value (.number one)) "\x7d" := .number digit
  have second : Derives unbounded "\"a\":1\x7d" (.members [("a", .number one)]) [] :=
    .lastMember (.member (quoted_name _) (.refl _) (.refl _) last) (.refl _)
  have first := Derives.member (quoted_name _) (.refl _) (.refl _) spelled
  exact ⟨_, [], .refl _,
    .object (.refl _) (.nextMember first (.refl _) (.refl _) second), .refl _⟩

/-- The document of such an object is that of its second member. -/
theorem document?_twice {phrase : Phrase} (absent : phrase.document? = none) :
    (Phrase.object [("a", phrase), ("a", .number one)]).document? =
      some (.object [("a", .number unit)]) := by
  simp only [Phrase.document?, Phrase.denotations, absent, nearest?_one]
  rfl

/-- A one and so many zeros that no finite number is near. -/
def huge : Numeral :=
  let digits : Text := CodePoint.ofChar '1' :: List.replicate 309 (CodePoint.ofChar '0')
  ⟨false, digits, [], none, digits⟩

theorem nearest?_huge : huge.nearest? = none := by decide +kernel

/-- A whole number past the greatest finite one goes unnoticed if another member replaces it. -/
theorem ofJson_twice_huge : ∃ phrase, Writes false (twice huge.literal) phrase ∧
    phrase.nesting 2 ≤ maxNesting ∧ ¬phrase.Finite ∧
    ofJson (.text (twice huge.literal)) = .ok (.object [("a", .number unit)]) := by
  have digits : ∀ c ∈ huge.literal, c.isDigit = true :=
    List.forall_mem_cons.mpr ⟨rfl, fun c member => by rw [List.eq_of_mem_replicate member]; rfl⟩
  have spelled (rest : Text) : Number (huge.literal ++ rest) huge rest :=
    number_whole (List.cons_ne_nil _ _) digits (by decide)
  have absent : (Phrase.number huge).document? = none := by
    rw [Phrase.document?, nearest?_huge]
    rfl
  have writes := writes_twice (.number (spelled _) : Derives false _ _ _)
  have readable : (Phrase.object [("a", .number huge), ("a", .number one)]).Readable :=
    List.forall_mem_cons.mpr ⟨.whole rfl (by decide +kernel),
      List.forall_mem_singleton.mpr (.whole rfl (by decide))⟩
  exact ⟨_, writes, by decide, fun finite => finite (.number huge) List.mem_cons_self absent,
    ofJson_of_writes writes (by decide) readable (document?_twice absent)⟩

end Document
end Conformance
