import Conformance.Document.OfJson
import Conformance.Proofs.Document.Conversion
import Conformance.Proofs.Document.Members
import Conformance.Proofs.Json.Derivation
import Conformance.Proofs.Number.Range

/-!
# The document that a JSON text denotes

A phrase denotes a document if the numbers that are kept are finite: a member that a later one of
its name replaces does not count. The denotation goes by the grammar alone. It is what becomes of
the datum that a decoder hands over, as long as the datum is not nested too deeply.
-/
namespace Conformance

namespace Json

/-! ### Numbers -/

namespace Numeral

/-- A whole number, with neither a fraction nor an exponent. -/
def isWhole (n : Numeral) : Bool := n.fraction.isEmpty && n.exponent.isNone

/-- The digits without the point. -/
def digits (n : Numeral) : Nat := Text.natValue (n.whole ++ n.fraction)

/-- The power of ten that the digits are multiplied by. -/
def power (n : Numeral) : Int :=
  (match n.exponent with
    | none => 0
    | some (down, digits) =>
      let size : Int := Text.natValue digits
      if down then -size else size) - n.fraction.length

/-- The nearest number, if it is finite. A whole zero has no sign. -/
def nearest? (n : Numeral) : Option Binary64 :=
  Binary64.ofDecimal? (n.negative && !(n.isWhole && n.digits = 0)) n.digits n.power

variable {n : Numeral} {dialect : Dialect}

theorem value_whole (whole : n.isWhole = true) :
    n.value dialect =
      if maxIntegerDigits < n.whole.length then .error (.tooManyDigits n.whole.length)
      else .ok (.integer (if n.negative then -(n.digits : Int) else n.digits)) := by
  have plain : n.fraction = [] := by
    rw [isWhole, Bool.and_eq_true] at whole
    exact List.isEmpty_iff.mp whole.1
  rw [value, ← isWhole, if_pos whole, digits, plain, List.append_nil]

/-- Whole numbers are rounded in another place than decimals and to the same number. -/
theorem nearest?_whole (whole : n.isWhole = true) :
    n.nearest? = Binary64.ofInt? (if n.negative then -(n.digits : Int) else n.digits) := by
  have flat : n.power = 0 := by
    rw [isWhole, Bool.and_eq_true, List.isEmpty_iff, Option.isNone_iff_eq_none] at whole
    rw [power, whole.1, whole.2]
    rfl
  rw [nearest?, whole, flat, Binary64.ofInt?]
  -- Only a zero could differ, by its sign, and a whole zero has none either way.
  by_cases zero : n.digits = 0
  · rw [zero]
    cases n.negative <;> rfl
  · rw [Binary64.ofDecimal?_zero_power zero]
    cases n.negative with
    | true => simp [zero, Nat.pos_of_ne_zero zero]
    | false => simp [zero, Int.not_lt.mpr (Int.natCast_nonneg n.digits)]

theorem value_real (real : n.isWhole = false) :
    n.value dialect =
      match n.nearest? with
      | some value => .ok (.real (.finite value))
      | none =>
        if dialect.unbounded then .ok (.real (.infinite n.negative))
        else .error (.outOfRange n.literal) := by
  have rounded : Binary64.ofDecimal? n.negative n.digits n.power = n.nearest? := by
    rw [nearest?, real, Bool.false_and, Bool.not_false, Bool.and_true]
  rw [value, ← isWhole, real, ← rounded]
  cases known : Binary64.ofDecimal? n.negative n.digits n.power with
  | some value => exact known ▸ rfl
  | none => exact known ▸ rfl

end Numeral

/-! ### What phrases denote -/

end Json

namespace Named

variable {α : Type}

/-- The members, if all of them have a value. -/
def all? : Named (Option α) → Option (Named α)
  | [] => some []
  | (name, some value) :: rest => (all? rest).map ((name, value) :: ·)
  | (_, none) :: _ => none

theorem all?_cons (name : Text) (value : Option α) (rest : Named (Option α)) :
    all? ((name, value) :: rest) =
      value.bind fun value => (all? rest).map ((name, value) :: ·) := by
  cases value <;> rfl

theorem eq_map_of_all? {members : Named (Option α)} {values : Named α}
    (known : all? members = some values) :
    members = values.map fun member => (member.1, some member.2) := by
  induction members generalizing values with
  | nil =>
    cases known
    rfl
  | cons member rest ih =>
    obtain ⟨name, value⟩ := member
    rw [all?_cons] at known
    obtain ⟨value, rfl, known⟩ := Option.bind_eq_some_iff.mp known
    obtain ⟨others, all, rfl⟩ := Option.map_eq_some_iff.mp known
    rw [ih all, List.map_cons]

end Named

namespace Json.Phrase

mutual

/-- The document that a phrase denotes. -/
def document? : Phrase → Option Document
  | .null => some .null
  | .boolean value => some (.boolean value)
  | .number numeral => numeral.nearest?.map .number
  | .notNumber | .infinite _ => none
  | .string content => some (.string content)
  | .array elements => (documents? elements).map .array
  | .object members => (Named.all? (denotations members).settle).map .object

def documents? : List Phrase → Option (List Document)
  | [] => some []
  | element :: rest =>
    match document? element, documents? rest with
    | some document, some documents => some (document :: documents)
    | _, _ => none

/-- Members with what their values denote, whether or not they are kept. -/
def denotations : List (Text × Phrase) → Named (Option Document)
  | [] => []
  | (name, value) :: rest => (name, document? value) :: denotations rest

end

theorem documents?_cons (element : Phrase) (rest : List Phrase) :
    documents? (element :: rest) =
      element.document?.bind fun document => (documents? rest).map (document :: ·) := by
  rw [documents?]
  cases element.document? with
  | none => rfl
  | some document => cases documents? rest <;> rfl

theorem denotations_eq_map (members : List (Text × Phrase)) :
    denotations members = members.map fun member => (member.1, member.2.document?) := by
  induction members with
  | nil => rfl
  | cons member rest ih => exact congrArg ((member.1, member.2.document?) :: ·) ih

/-- An object denotes its names in the order in which they first came, each with what the last of
its values denotes. -/
theorem document?_object {members : List (Text × Phrase)} {document : Document}
    (denoted : (Phrase.object members).document? = some document) :
    ∃ values : Named Document, document = .object values ∧
      values.names = (Named.names members).eraseDups ∧
      ∀ name, values.get? name = (Named.get? members.reverse name).bind document? := by
  obtain ⟨values, kept, rfl⟩ := Option.map_eq_some_iff.mp denoted
  have settled := Named.eq_map_of_all? kept
  refine ⟨values, rfl, ?_, fun name => ?_⟩
  · rw [← Named.names_map some values, ← settled, Named.names_settle, denotations_eq_map,
      Named.names_map]
  · have found := Named.get?_settle (denotations members) name
    rw [settled, Named.get?_map, denotations_eq_map, ← List.map_reverse, Named.get?_map] at found
    -- From the back the first member of a name is the one that is kept.
    cases last : Named.get? members.reverse name with
    | none =>
      rw [last] at found
      exact Option.map_eq_none_iff.mp found
    | some value =>
      rw [last] at found
      obtain ⟨result, held, same⟩ := Option.map_eq_some_iff.mp found
      rw [held, same]
      rfl

end Json.Phrase

/-! ### From data to what is denoted -/

/-- What a conversion hands over is what is denoted, and what is denoted is handed over as long as
the nesting is shallow. A conversion that fails can say why: there are no keys but texts. -/
structure Agrees {α : Type} (shallow : Prop) (denoted : Option α)
    (converted : Except DatumError α) : Prop where
  sound : ∀ {result : α}, converted = .ok result → denoted = some result
  complete : shallow → ∀ {result : α}, denoted = some result → converted = .ok result
  bounded : shallow → converted ≠ .error .tooDeep
  shown : converted ≠ .error .keyTooLong

namespace Agrees

variable {α β : Type} {shallow : Prop}

theorem ok (result : α) : Agrees shallow (some result) (.ok result) where
  sound same := by
    cases same
    rfl
  complete _ _ same := by
    cases same
    rfl
  bounded _ := nofun
  shown := nofun

theorem error {fault : DatumError} (other : fault ≠ .tooDeep) (short : fault ≠ .keyTooLong) :
    Agrees shallow (none : Option α) (.error fault) where
  sound := nofun
  complete _ _ := nofun
  bounded _ same := other (Except.error.inj same)
  shown same := short (Except.error.inj same)

theorem deep {denoted : Option α} (deep : ¬shallow) :
    Agrees shallow denoted (.error .tooDeep) where
  sound := nofun
  complete within := absurd within deep
  bounded within := absurd within deep
  shown := nofun

theorem imp {other : Prop} {denoted : Option α} {converted : Except DatumError α}
    (agrees : Agrees shallow denoted converted) (implies : other → shallow) :
    Agrees other denoted converted where
  sound := agrees.sound
  complete within := agrees.complete (implies within)
  bounded within := agrees.bounded (implies within)
  shown := agrees.shown

theorem map {denoted : Option α} {converted : Except DatumError α}
    (agrees : Agrees shallow denoted converted) (f : α → β) :
    Agrees shallow (denoted.map f) (converted.map f) where
  sound same := by
    obtain ⟨value, read, rfl⟩ := map_eq_ok_iff.mp same
    rw [agrees.sound read]
    rfl
  complete within _ same := by
    obtain ⟨value, denoted, rfl⟩ := Option.map_eq_some_iff.mp same
    rw [agrees.complete within denoted]
    rfl
  bounded within same := agrees.bounded within (map_eq_error_iff.mp same)
  shown same := agrees.shown (map_eq_error_iff.mp same)

/-- Two conversions one after the other. -/
theorem both {γ : Type} {denoted : Option α} {converted : Except DatumError α}
    {others : Option β} {later : Except DatumError β} (first : Agrees shallow denoted converted)
    (second : Agrees shallow others later) (f : α → β → γ) :
    Agrees shallow (denoted.bind fun x => others.map (f x))
      (converted.bind fun x => later.map (f x)) where
  sound same := by
    obtain ⟨x, read, same⟩ := bind_eq_ok_iff.mp same
    rw [first.sound read]
    exact (second.map (f x)).sound same
  complete within _ same := by
    obtain ⟨x, known, same⟩ := Option.bind_eq_some_iff.mp same
    rw [first.complete within known]
    exact (second.map (f x)).complete within same
  bounded within same := by
    rcases bind_eq_error_iff.mp same with here | ⟨x, _, there⟩
    · exact first.bounded within here
    · exact (second.map (f x)).bounded within there
  shown same := by
    rcases bind_eq_error_iff.mp same with here | ⟨x, _, there⟩
    · exact first.shown here
    · exact (second.map (f x)).shown there

end Agrees

namespace Json

/-- A number is finite exactly if its numeral denotes one. -/
theorem agrees_numeral {dialect : Dialect} {n : Numeral} {datum : Datum} {levels : Nat}
    {shallow : Prop} (read : n.value dialect = .ok datum) :
    Agrees shallow (n.nearest?.map Document.number) (Document.ofDatumWithin levels datum) := by
  cases whole : n.isWhole with
  | true =>
    rw [Numeral.value_whole whole] at read
    split at read
    · cases read
    · cases read
      rw [Numeral.nearest?_whole whole, Document.ofDatumWithin]
      cases Binary64.ofInt? (if n.negative then -(n.digits : Int) else n.digits) with
      | some value => exact .ok _
      | none => exact .error (by simp) (by simp)
  | false =>
    rw [Numeral.value_real whole] at read
    cases known : n.nearest? with
    | some value =>
      rw [known] at read
      cases read
      exact .ok _
    | none =>
      simp only [known] at read
      split_ifs at read
      cases read
      exact .error (by simp) (by simp)

variable {dialect : Dialect}

/-- Members of which each one agrees with its entry are converted together. -/
theorem agrees_all {levels : Nat} {shallow : Prop} {denoted : Named (Option Document)}
    {data : Named Datum}
    (each : List.Forall₂ (fun x y => x.1 = y.1 ∧
      Agrees shallow x.2 (Document.ofDatumWithin levels y.2)) denoted data) :
    Agrees shallow (Named.all? denoted) (Document.ofEntries levels (data.map entry)) := by
  induction each with
  | nil => exact .ok _
  | @cons x y _ rest first _ ih =>
    obtain ⟨name, value⟩ := x
    obtain ⟨other, datum⟩ := y
    obtain ⟨rfl, agrees⟩ := first
    rw [Named.all?_cons, List.map_cons, entry, Document.ofEntries_cons]
    exact agrees.both ih fun member members => (name, member) :: members

mutual

/-- What becomes of the datum is what the phrase denotes. -/
theorem agrees_datum (levels : Nat) : ∀ {phrase : Phrase} {datum : Datum},
    phrase.datum? dialect = some datum →
      Agrees (phrase.nesting 2 ≤ levels) phrase.document? (Document.ofDatumWithin levels datum)
  | .null, _, denoted => by
    cases denoted
    exact .ok _
  | .boolean _, _, denoted => by
    cases denoted
    exact .ok _
  | .number numeral, _, denoted => by
    rw [Phrase.datum?] at denoted
    cases read : numeral.value dialect with
    | error stop =>
      rw [read] at denoted
      cases denoted
    | ok value =>
      rw [read] at denoted
      cases denoted
      exact agrees_numeral read
  | .notNumber, _, denoted | .infinite _, _, denoted => by
    cases denoted
    exact .error nofun nofun
  | .string content, _, denoted => by
    rw [Phrase.datum?] at denoted
    split_ifs at denoted
    cases denoted
    exact .ok _
  | .array elements, _, denoted => by
    obtain ⟨items, each, rfl⟩ := Option.map_eq_some_iff.mp denoted
    rw [Document.ofDatumWithin, Phrase.nesting]
    -- The conversion gives an array two levels, and so does the measure of the phrase.
    split_ifs with flat
    · exact .deep (by omega)
    · have shallower (within : Phrase.nestingOfAll 2 elements + 2 ≤ levels) :
          Phrase.nestingOfAll 2 elements ≤ levels - 2 := by omega
      exact ((agrees_items (levels - 2) each).imp shallower).map Document.array
  | .object members, _, denoted => by
    obtain ⟨entries, each, rfl⟩ := Option.map_eq_some_iff.mp denoted
    obtain ⟨data, rfl, agree⟩ := agrees_entries (levels - 1) each
    rw [ofEntries_entry, Document.ofDatumWithin, Phrase.nesting]
    split_ifs with flat
    · exact .deep (by omega)
    · -- Members agree one by one before any is replaced, and settling replaces the same ones.
      have settled := Named.forall₂_settle (fun _ _ both => both.1) agree
      have shallower (within : Phrase.nestingOfMembers 2 members + 1 ≤ levels) :
          Phrase.nestingOfMembers 2 members ≤ levels - 1 := by omega
      exact ((agrees_all settled).imp shallower).map Document.object

theorem agrees_items (levels : Nat) : ∀ {phrases : List Phrase} {items : List Datum},
    Phrase.items? dialect phrases = some items →
      Agrees (Phrase.nestingOfAll 2 phrases ≤ levels) (Phrase.documents? phrases)
        (Document.ofItems levels items)
  | [], _, denoted => by
    cases denoted
    exact .ok _
  | phrase :: rest, _, denoted => by
    obtain ⟨item, others, known, each, rfl⟩ := Phrase.items?_cons_eq_some_iff.mp denoted
    have first := agrees_datum levels known
    have later := agrees_items levels each
    rw [Phrase.documents?_cons, Document.ofItems_cons]
    exact (first.imp (le_trans (le_max_left _ _))).both (later.imp (le_trans (le_max_right _ _)))
      fun document documents => document :: documents

theorem agrees_entries (levels : Nat) :
    ∀ {members : List (Text × Phrase)} {entries : List (Datum × Datum)},
      Phrase.entries? dialect members = some entries → ∃ data : Named Datum,
        entries = data.map entry ∧ List.Forall₂ (fun x y => x.1 = y.1 ∧
          Agrees (Phrase.nestingOfMembers 2 members ≤ levels) x.2
            (Document.ofDatumWithin levels y.2)) (Phrase.denotations members) data
  | [], _, denoted => by
    cases denoted
    exact ⟨[], rfl, .nil⟩
  | (name, phrase) :: rest, _, denoted => by
    obtain ⟨datum, others, _, known, each, rfl⟩ := Phrase.entries?_cons_eq_some_iff.mp denoted
    have first := agrees_datum levels known
    obtain ⟨data, rfl, later⟩ := agrees_entries levels each
    refine ⟨(name, datum) :: data, rfl, .cons ⟨rfl, first.imp (le_trans (le_max_left _ _))⟩ ?_⟩
    exact later.imp fun _ _ both => ⟨both.1, both.2.imp (le_trans (le_max_right _ _))⟩

end

end Json
end Conformance
