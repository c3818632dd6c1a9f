import Conformance.Json.Writer
import Conformance.Proofs.Document.Members
import Conformance.Proofs.Json.Real
import Conformance.Proofs.Text.Encoding

/-!
# Written JSON read back

Inside strings the quote, the backslash and the control characters are escaped, and everything else
stands for itself; whole numbers are written in digits, and real ones with a point or an exponent. A
style without escapes beyond the needed ones, and with members in their own order, writes a text
that derives from the grammar by a phrase that denotes the datum, provided that the datum is
legible: numbers short enough, texts that the dialect holds, names apart from one another, and no
more levels than the reader goes through. The decoder therefore hands the datum over again.
-/
namespace Conformance.Json

open Grammar

/-! ### Strings -/

/-- The four digits of a control character denote it. -/
theorem unit_control : ∀ n : Fin 0x20,
    (match Text.hexPadded 4 n.val with
      | [a, b, c, d] => unit? a b c d
      | _ => none) = some (.ofNat n.val) := by
  decide +kernel

theorem exists_digits_of_control {n : Nat} (control : n < 0x20) :
    ∃ a b c d, Text.hexPadded 4 n = [a, b, c, d] ∧ unit? a b c d = some (.ofNat n) := by
  have known := unit_control ⟨n, control⟩
  split at known
  next a b c d spelled => exact ⟨a, b, c, d, spelled, known⟩
  next => cases known

theorem chars_unitEscape {n : Nat} (control : n < 0x20) {t rest : Text} {pieces : List Piece}
    (more : Chars t pieces rest) : Chars (unitEscape n ++ t) (⟨.ofNat n, true⟩ :: pieces) rest := by
  obtain ⟨a, b, c, d, spelled, known⟩ := exists_digits_of_control control
  have digits : unitEscape n ++ t =
      CodePoint.ofChar '\\' :: CodePoint.ofChar 'u' :: a :: b :: c :: d :: t := by
    simp only [unitEscape, spelled]
    rfl
  rw [digits]
  exact .unit known more

/-- A code point is written as one piece, and only a control character as an escaped one. -/
theorem chars_writePoint (c : CodePoint) :
    ∃ piece : Piece, piece.point = c ∧ (piece.escaped = true → c.toNat < 0x20) ∧
      ∀ {t rest : Text} {pieces : List Piece}, Chars t pieces rest →
        Chars (writePoint false c ++ t) (piece :: pieces) rest := by
  have plain : ((⟨c, false⟩ : Piece).escaped = true → c.toNat < 0x20) := nofun
  rw [writePoint]
  simp only [Bool.false_and, Bool.false_eq_true, if_false]
  split_ifs with quote backslash feed carriage tab back form control
  · subst quote
    exact ⟨_, rfl, plain, .short (by decide)⟩
  · subst backslash
    exact ⟨_, rfl, plain, .short (by decide)⟩
  · subst feed
    exact ⟨_, rfl, plain, .short (by decide)⟩
  · subst carriage
    exact ⟨_, rfl, plain, .short (by decide)⟩
  · subst tab
    exact ⟨_, rfl, plain, .short (by decide)⟩
  · have known : CodePoint.ofNat 8 = c := by rw [← back, c.ofNat_toNat]
    exact ⟨⟨.ofNat 8, false⟩, known, plain, .short (by decide)⟩
  · have known : CodePoint.ofNat 12 = c := by rw [← form, c.ofNat_toNat]
    exact ⟨⟨.ofNat 12, false⟩, known, plain, .short (by decide)⟩
  · exact ⟨⟨.ofNat c.toNat, true⟩, c.ofNat_toNat, fun _ => control, chars_unitEscape control⟩
  · exact ⟨⟨c, false⟩, rfl, plain, .plain (Nat.not_lt.mp control) quote backslash⟩

/-- The pieces of a written text are its code points, and no surrogate among them is escaped. -/
theorem quoted_write (content rest : Text) :
    Quoted (content.flatMap (writePoint false) ++ CodePoint.ofChar '"' :: rest) content rest := by
  have written : ∃ pieces : List Piece, pieces.map Piece.point = content ∧
      (∀ piece ∈ pieces, piece.escaped = true → piece.point.toNat < 0x20) ∧
      Chars (content.flatMap (writePoint false) ++ CodePoint.ofChar '"' :: rest) pieces rest := by
    induction content with
    | nil => exact ⟨[], rfl, List.forall_mem_nil _, .close⟩
    | cons c content ih =>
      obtain ⟨pieces, points, escaped, chars⟩ := ih
      obtain ⟨piece, rfl, control, first⟩ := chars_writePoint c
      refine ⟨piece :: pieces, congrArg _ points, List.forall_mem_cons.mpr ⟨control, escaped⟩, ?_⟩
      rw [List.flatMap_cons, List.append_assoc]
      exact first chars
  obtain ⟨pieces, points, single, chars⟩ := written
  exact ⟨pieces, chars, by rw [join_eq_map single, points]⟩

theorem writeString_append (content rest : Text) :
    writeString false content ++ rest = CodePoint.ofChar '"' ::
      (content.flatMap (writePoint false) ++ CodePoint.ofChar '"' :: rest) := by
  simp [writeString, Text.ofString]

/-! ### Whole numbers -/

theorem whole_ofNat (n : Nat) (rest : Text) : Whole (Text.ofNat n ++ rest) (Text.ofNat n) rest := by
  obtain ⟨c, digits, spelled, leading⟩ := Text.ofNat_eq_cons n
  have each : ∀ c ∈ Text.ofNat n, c.isDigit = true := fun _ => Text.isDigit_of_mem_ofNat
  rw [spelled] at each ⊢
  exact whole_of_leading each leading rest

/-- The numeral that a whole number is written as. -/
def numeralOf (value : Int) : Numeral :=
  ⟨decide (value < 0), Text.ofNat value.natAbs, [], none, Text.ofInt value⟩

theorem number_ofInt (value : Int) (rest : Text) :
    Number (Text.ofInt value ++ rest) (numeralOf value) rest := by
  have whole := whole_ofNat value.natAbs rest
  refine .intro ?_ whole .absent .absent rfl
  cases value with
  | ofNat n =>
    rw [Int.ofNat_eq_natCast, decide_eq_false (Int.not_lt.mpr (Int.natCast_nonneg n))]
    rfl
  | negSucc n =>
    rw [decide_eq_true (Int.negSucc_lt_zero n)]
    rfl

theorem value_numeral {dialect : Dialect} {value : Int}
    (short : (Text.ofNat value.natAbs).length ≤ maxIntegerDigits) :
    (numeralOf value).value dialect = .ok (.integer value) := by
  rw [numeralOf, Numeral.value]
  simp only [List.isEmpty_nil, Option.isNone_none, Bool.and_true, if_true, decide_eq_true_eq,
    if_neg (Nat.not_lt.mpr short), Text.natValue_ofNat]
  split_ifs with negative
  · rw [Int.ofNat_natAbs_of_nonpos (Int.le_of_lt negative), Int.neg_neg]
  · rw [Int.natAbs_of_nonneg (Int.not_lt.mp negative)]

/-! ### Texts that spell a datum -/

variable {dialect : Dialect} {levels : Nat}

/-- Whatever follows the text, a phrase that denotes the datum is derived up to there. -/
def Spells (dialect : Dialect) (levels : Nat) (t : Text) (datum : Datum) : Prop :=
  ∃ phrase : Phrase, (∀ rest, Derives dialect.unbounded (t ++ rest) (.value phrase) rest) ∧
    phrase.datum? dialect = some datum ∧ phrase.nesting 1 ≤ levels

theorem spells_boolean (value : Bool) :
    Spells dialect levels (if value then "true" else "false") (.boolean value) := by
  cases value with
  | true => exact ⟨.boolean true, fun _ => .yes, rfl, Nat.zero_le _⟩
  | false => exact ⟨.boolean false, fun _ => .no, rfl, Nat.zero_le _⟩

theorem spells_integer {value : Int} (short : (Text.ofNat value.natAbs).length ≤ maxIntegerDigits) :
    Spells dialect levels (Text.ofInt value) (.integer value) := by
  refine ⟨.number (numeralOf value), fun rest => .number (number_ofInt value rest), ?_,
    Nat.zero_le _⟩
  rw [Phrase.datum?, value_numeral short]
  rfl

/-- A real number is written with a point or an exponent, so it is not read as a whole number. -/
theorem spells_real (value : Binary64) :
    Spells dialect levels value.format (.real (.finite value)) := by
  obtain ⟨n, number, real, nearest⟩ := exists_number_format value
  refine ⟨.number n, fun rest => .number (number rest), ?_, Nat.zero_le _⟩
  rw [Phrase.datum?, Numeral.value_real real, nearest]
  rfl

theorem spells_text {content : Text} (held : Holds dialect content) :
    Spells dialect levels (writeString false content) (.text content) := by
  refine ⟨.string content, fun rest => ?_, if_pos held, Nat.zero_le _⟩
  rw [writeString_append]
  exact .string (quoted_write content rest)

/-! ### Parts with commas between them -/

/-- A comma and the space behind it. -/
def comma (between : Text) : Text := CodePoint.ofChar ',' :: between

theorem join_cons_cons (separator t second : Text) (others : List Text) :
    Text.join separator (t :: second :: others) =
      t ++ (separator ++ Text.join separator (second :: others)) :=
  List.append_assoc ..

section Containers

variable {unbounded : Bool} {between after : Text}

theorem derives_elements (gap : Blank between) (tail : Blank after) {texts : List Text}
    {phrases : List Phrase} (each : List.Forall₂ (fun t phrase =>
      ∀ rest, Derives unbounded (t ++ rest) (.value phrase) rest) texts phrases)
    (inhabited : texts ≠ []) (rest : Text) :
    Derives unbounded
      (Text.join (comma between) texts ++ (after ++ CodePoint.ofChar ']' :: rest))
      (.elements phrases) rest := by
  induction each with
  | nil => exact absurd rfl inhabited
  | @cons t _ others _ first more ih =>
    cases more with
    | nil => exact .lastElement (first _) ⟨after, tail, rfl⟩
    | @cons second _ others _ next more =>
      rw [join_cons_cons, List.append_assoc, List.append_assoc]
      exact .nextElement (first _) (.refl _) ⟨between, gap, rfl⟩ (ih (List.cons_ne_nil _ _))

theorem derives_members (gap : Blank between) (tail : Blank after) {texts : List Text}
    {members : List (Text × Phrase)} (each : List.Forall₂ (fun t member =>
      ∀ rest, Derives unbounded (t ++ rest) (.member member) rest) texts members)
    (inhabited : texts ≠ []) (rest : Text) :
    Derives unbounded
      (Text.join (comma between) texts ++ (after ++ CodePoint.ofChar '\x7d' :: rest))
      (.members members) rest := by
  induction each with
  | nil => exact absurd rfl inhabited
  | @cons t _ others _ first more ih =>
    cases more with
    | nil => exact .lastMember (first _) ⟨after, tail, rfl⟩
    | @cons second _ others _ next more =>
      rw [join_cons_cons, List.append_assoc, List.append_assoc]
      exact .nextMember (first _) (.refl _) ⟨between, gap, rfl⟩ (ih (List.cons_ne_nil _ _))

/-- Elements that are all spelled have phrases that denote them together. -/
theorem exists_phrases {spelling : Datum → Text} {items : List Datum}
    (each : ∀ item ∈ items, Spells dialect levels (spelling item) item) :
    ∃ phrases, List.Forall₂ (fun t phrase =>
        ∀ rest, Derives dialect.unbounded (t ++ rest) (.value phrase) rest)
          (items.map spelling) phrases ∧
      Phrase.items? dialect phrases = some items ∧ Phrase.nestingOfAll 1 phrases ≤ levels := by
  induction items with
  | nil => exact ⟨[], .nil, rfl, Nat.zero_le _⟩
  | cons item items ih =>
    obtain ⟨first, others⟩ := List.forall_mem_cons.mp each
    obtain ⟨phrase, derives, denoted, shallow⟩ := first
    obtain ⟨phrases, all, later, below⟩ := ih others
    exact ⟨phrase :: phrases, .cons derives all,
      Phrase.items?_cons_eq_some_iff.mpr ⟨item, items, denoted, later, rfl⟩,
      max_le shallow below⟩

end Containers

/-! ### Written data -/

/-- Line feeds and spaces, which are all that stands between tokens. -/
def Layout (t : Text) : Prop := ∀ c ∈ t, c = '\n' ∨ c = ' '

theorem Layout.blank {t : Text} (layout : Layout t) : Blank t := by
  intro c member
  rcases layout c member with rfl | rfl
  · rfl
  · rfl

/-- A style that escapes what it has to and nothing else, and keeps members in their order. -/
structure Style.Plain (style : Style) : Prop where
  unescaped : style.basicOnly = false
  unsorted : style.sorted = false
  commas : Layout style.afterComma
  colons : Layout style.afterColon

theorem plain_compact : compact.Plain :=
  ⟨rfl, rfl, List.forall_mem_nil _, List.forall_mem_nil _⟩

theorem plain_indented (width : Nat) : (indented width).Plain :=
  ⟨rfl, rfl, List.forall_mem_nil _, List.forall_mem_singleton.mpr (.inr rfl)⟩

/-- What a reader takes back from its own text within so many levels. -/
inductive Legible (dialect : Dialect) : Nat → Datum → Prop where
  | null {levels : Nat} : Legible dialect levels .null
  | boolean {levels : Nat} (value : Bool) : Legible dialect levels (.boolean value)
  | integer {levels : Nat} {value : Int}
      (short : (Text.ofNat value.natAbs).length ≤ maxIntegerDigits) :
      Legible dialect levels (.integer value)
  | real {levels : Nat} (value : Binary64) : Legible dialect levels (.real (.finite value))
  | text {levels : Nat} {content : Text} (held : Holds dialect content) :
      Legible dialect levels (.text content)
  | sequence {levels : Nat} {items : List Datum}
      (each : ∀ item ∈ items, Legible dialect levels item) :
      Legible dialect (levels + 1) (.sequence items)
  | mapping {levels : Nat} {members : List (Text × Datum)}
      (distinct : (members.map Prod.fst).Nodup) (held : ∀ member ∈ members, Holds dialect member.1)
      (each : ∀ member ∈ members, Legible dialect levels member.2) :
      Legible dialect (levels + 1) (.mapping (members.map entry))

variable {style : Style}

/-- The space around parts, whatever the style. -/
theorem enclose_eq (plain : style.Plain) (level : Nat) (opening closing : CodePoint)
    {parts : List Text} (inhabited : parts ≠ []) :
    ∃ before between after, Layout before ∧ Layout between ∧ Layout after ∧
      enclose style level opening closing parts =
        opening :: (before ++ (Text.join (comma between) parts ++ (after ++ [closing]))) := by
  obtain ⟨part, others, rfl⟩ := List.exists_cons_of_ne_nil inhabited
  rw [enclose.eq_def]
  cases shape : style.indent with
  | none =>
    exact ⟨[], style.afterComma, [], List.forall_mem_nil _, plain.commas, List.forall_mem_nil _,
      rfl⟩
  | some width =>
    have line (depth : Nat) : Layout
        (CodePoint.ofChar '\n' :: List.replicate (width * depth) (CodePoint.ofChar ' ')) :=
      List.forall_mem_cons.mpr
        ⟨.inl rfl, fun _ member => .inr (List.eq_of_mem_replicate member)⟩
    refine ⟨_, _, _, line (level + 1), line (level + 1), line level, ?_⟩
    simp [comma, Text.ofString]

theorem writeItems_eq_map (style : Style) (level : Nat) (items : List Datum) :
    writeItems style level items = items.map (write style level) := by
  induction items with
  | nil => rfl
  | cons item rest ih => rw [writeItems, ih, List.map_cons]

theorem writeEntries_entry (style : Style) (level : Nat) (members : List (Text × Datum)) :
    writeEntries style level (members.map entry) =
      members.map fun member => (member.1, write style level member.2) := by
  induction members with
  | nil => rfl
  | cons member rest ih =>
    rw [List.map_cons, List.map_cons, ← ih]
    rfl

/-- The text of a member. -/
def writeMember (style : Style) (level : Nat) (member : Text × Datum) : Text :=
  writeString false member.1 ++
    CodePoint.ofChar ':' :: (style.afterColon ++ write style level member.2)

theorem write_sequence (style : Style) (level : Nat) (items : List Datum) :
    write style level (.sequence items) =
      enclose style level '[' ']' (items.map (write style (level + 1))) := by
  rw [write, writeItems_eq_map]

theorem write_mapping (plain : style.Plain) (level : Nat) (members : List (Text × Datum)) :
    write style level (.mapping (members.map entry)) =
      enclose style level '\x7b' '\x7d' (members.map (writeMember style (level + 1))) := by
  rw [write, writeEntries_entry, plain.unsorted, plain.unescaped]
  simp only [arrange, List.map_map, Bool.false_eq_true, if_false]
  congr 1
  refine List.map_congr_left fun member _ => ?_
  simp [writeMember, Text.ofString]

/-- The text of a member derives a member if the text of its value spells that value. -/
theorem exists_member (plain : style.Plain) {level : Nat} {member : Text × Datum}
    (spelled : Spells dialect levels (write style level member.2) member.2) :
    ∃ phrase : Phrase, (∀ rest, Derives dialect.unbounded (writeMember style level member ++ rest)
        (.member (member.1, phrase)) rest) ∧
      phrase.datum? dialect = some member.2 ∧ phrase.nesting 1 ≤ levels := by
  obtain ⟨phrase, derives, denoted, shallow⟩ := spelled
  refine ⟨phrase, fun rest => ?_, denoted, shallow⟩
  rw [writeMember, List.append_assoc, List.cons_append, List.append_assoc, writeString_append]
  exact .member (quoted_write _ _) (.refl _) ⟨style.afterColon, plain.colons.blank, rfl⟩
    (derives rest)

/-- Members of which all values are spelled have phrases that denote them together. -/
theorem exists_members (plain : style.Plain) {level : Nat} {members : List (Text × Datum)}
    (held : ∀ member ∈ members, Holds dialect member.1)
    (each : ∀ member ∈ members, Spells dialect levels (write style level member.2) member.2) :
    ∃ phrases, List.Forall₂ (fun t phrase =>
        ∀ rest, Derives dialect.unbounded (t ++ rest) (.member phrase) rest)
          (members.map (writeMember style level)) phrases ∧
      Phrase.entries? dialect phrases = some (members.map entry) ∧
      Phrase.nestingOfMembers 1 phrases ≤ levels := by
  induction members with
  | nil => exact ⟨[], .nil, rfl, Nat.zero_le _⟩
  | cons member members ih =>
    obtain ⟨named, names⟩ := List.forall_mem_cons.mp held
    obtain ⟨first, others⟩ := List.forall_mem_cons.mp each
    obtain ⟨phrase, derives, denoted, shallow⟩ := exists_member plain first
    obtain ⟨phrases, all, later, below⟩ := ih names others
    exact ⟨(member.1, phrase) :: phrases, .cons derives all,
      Phrase.entries?_cons_eq_some_iff.mpr ⟨member.2, _, named, denoted, later, rfl⟩,
      max_le shallow below⟩

/-- A written datum is read back if it is legible. -/
theorem spells_write (plain : style.Plain) {datum : Datum} (legible : Legible dialect levels datum)
    (level : Nat) : Spells dialect levels (write style level datum) datum := by
  -- The level of indentation grows on the way down; it is no part of what is read.
  induction legible generalizing level with
  | null => exact ⟨.null, fun _ => .null, rfl, Nat.zero_le _⟩
  | boolean value =>
    cases value with
    | true => exact spells_boolean true
    | false => exact spells_boolean false
  | integer short => exact spells_integer short
  | real value => exact spells_real value
  | text held =>
    rw [write, plain.unescaped]
    exact spells_text held
  | @sequence levels items each ih =>
    rw [write_sequence]
    obtain ⟨phrases, all, denoted, shallow⟩ :=
      exists_phrases fun item member => ih item member (level + 1)
    refine ⟨.array phrases, fun rest => ?_, by rw [Phrase.datum?, denoted]; rfl,
      Nat.succ_le_succ shallow⟩
    -- Between brackets with nothing inside the style puts no space.
    cases items with
    | nil =>
      cases all
      exact .emptyArray (.refl _)
    | cons first others =>
      have inhabited : (first :: others).map (write style (level + 1)) ≠ [] :=
        List.cons_ne_nil _ _
      obtain ⟨before, between, after, lead, gap, tail, shape⟩ :=
        enclose_eq plain level '[' ']' inhabited
      have inside := derives_elements gap.blank tail.blank all inhabited rest
      rw [shape, List.cons_append]
      refine .array ⟨before, lead.blank, ?_⟩ inside
      simp only [List.append_assoc, List.singleton_append]
  | @mapping levels members distinct held each ih =>
    rw [write_mapping plain]
    obtain ⟨phrases, all, denoted, shallow⟩ :=
      exists_members plain held fun member present => ih member present (level + 1)
    -- Names are apart, so no member replaces another one.
    have kept : (Phrase.object phrases).datum? dialect = some (.mapping (members.map entry)) := by
      rw [Phrase.datum?, denoted, Option.map_some, ofEntries_entry, Named.settle_of_nodup distinct]
    refine ⟨.object phrases, fun rest => ?_, kept, Nat.succ_le_succ shallow⟩
    cases members with
    | nil =>
      cases all
      exact .emptyObject (.refl _)
    | cons first others =>
      have inhabited : (first :: others).map (writeMember style (level + 1)) ≠ [] :=
        List.cons_ne_nil _ _
      obtain ⟨before, between, after, lead, gap, tail, shape⟩ :=
        enclose_eq plain level '\x7b' '\x7d' inhabited
      have inside := derives_members gap.blank tail.blank all inhabited rest
      rw [shape, List.cons_append]
      refine .object ⟨before, lead.blank, ?_⟩ inside
      simp only [List.append_assoc, List.singleton_append]

/-- A text that holds a written datum, with space behind it, is read as that datum. -/
theorem decode_write (plain : style.Plain) {datum : Datum}
    (legible : Legible dialect dialect.maxNesting datum) (level : Nat) {blank : Text}
    (space : Blank blank) : decode dialect (write style level datum ++ blank) = .ok datum := by
  obtain ⟨phrase, derives, denoted, within⟩ := spells_write plain legible level
  have tail : Space blank [] := ⟨blank, space, (List.append_nil blank).symm⟩
  exact decode_eq_ok_iff.mpr ⟨phrase, ⟨_, _, .refl _, derives blank, tail⟩, denoted, within⟩

end Conformance.Json
