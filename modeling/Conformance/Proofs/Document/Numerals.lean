import Conformance.Proofs.Document.Accepted
import Conformance.Proofs.Document.Equality
import Conformance.Proofs.Json.Rational

/-!
# Texts that differ in how their numbers are spelled

A number may be written whole, with a fraction or with an exponent. Texts that differ in nothing
else, where each numeral and the one in its place denote one rational, are read alike: both are
refused, or both are accepted and their documents are structurally equal. There is one exception.
A number out of range in a member that a later one of its name replaces is refused if it is not
whole, and if it is whole it is refused only for having too many digits.
-/
namespace Conformance

/-! ### Members that are related one by one -/

namespace Named

/-- Two related options one after the other. -/
theorem rel_both {α β γ α' β' γ' : Type} {R : α → α' → Prop} {S : β → β' → Prop}
    {T : γ → γ' → Prop} {a : Option α} {a' : Option α'} {b : Option β} {b' : Option β'}
    {f : α → β → γ} {f' : α' → β' → γ'} (first : Option.Rel R a a') (later : Option.Rel S b b')
    (joins : ∀ x x' y y', R x x' → S y y' → T (f x y) (f' x' y')) :
    Option.Rel T (a.bind fun x => b.map (f x)) (a'.bind fun x => b'.map (f' x)) := by
  cases first with
  | none => exact .none
  | some related =>
    cases later with
    | none => exact .none
    | some others => exact .some (joins _ _ _ _ related others)

theorem rel_all? {α β : Type} {R : α → β → Prop} {xs : Named (Option α)} {ys : Named (Option β)}
    (each : List.Forall₂ (fun x y => x.1 = y.1 ∧ Option.Rel R x.2 y.2) xs ys) :
    Option.Rel (List.Forall₂ fun x y => x.1 = y.1 ∧ R x.2 y.2) (all? xs) (all? ys) := by
  induction each with
  | nil => exact .some .nil
  | @cons x y _ _ first _ ih =>
    obtain ⟨name, x⟩ := x
    obtain ⟨other, y⟩ := y
    obtain ⟨rfl, first⟩ := first
    rw [all?_cons, all?_cons]
    exact rel_both first ih fun _ _ _ _ related others => .cons ⟨rfl, related⟩ others

theorem nodup_of_all? {α : Type} {members : Named (Option α)} {values : Named α}
    (kept : all? members.settle = some values) : values.names.Nodup := by
  have settled := members.nodup_settle
  rw [eq_map_of_all? kept, names_map] at settled
  exact settled

end Named

namespace Json.Phrase

/-! ### Spelling numbers otherwise -/

/-- Phrases that differ in nothing but numerals, each of which denotes the same rational in both. -/
inductive Respelt : Phrase → Phrase → Prop where
  | null : Respelt .null .null
  | boolean (value : Bool) : Respelt (.boolean value) (.boolean value)
  | string (content : Text) : Respelt (.string content) (.string content)
  | number {n m : Numeral} (equal : n.rational = m.rational) : Respelt (.number n) (.number m)
  | array {xs ys : List Phrase} (each : List.Forall₂ Respelt xs ys) :
      Respelt (.array xs) (.array ys)
  | object {xs ys : Named Phrase} (names : xs.names = ys.names)
      (each : List.Forall₂ Respelt xs.values ys.values) : Respelt (.object xs) (.object ys)

namespace Respelt

variable {p q : Phrase}

/-- Induction over two phrases at once. -/
@[elab_as_elim]
theorem induction {motive : Phrase → Phrase → Prop} (null : motive .null .null)
    (boolean : ∀ value, motive (.boolean value) (.boolean value))
    (string : ∀ content, motive (.string content) (.string content))
    (number : ∀ n m : Numeral, n.rational = m.rational → motive (.number n) (.number m))
    (array : ∀ xs ys, List.Forall₂ motive xs ys → motive (.array xs) (.array ys))
    (object : ∀ xs ys : Named Phrase,
      List.Forall₂ (fun x y => x.1 = y.1 ∧ motive x.2 y.2) xs ys →
        motive (.object xs) (.object ys)) (respelt : p.Respelt q) : motive p q :=
  -- The values of members are related as elements are, so two motives serve for everything.
  @Respelt.rec (fun p q _ => motive p q) (fun xs ys _ => List.Forall₂ motive xs ys) null boolean
    string (number _ _) (fun _ ih => array _ _ ih)
    (fun names _ ih => object _ _ (Named.forall₂_iff_values.mpr ⟨names, ih⟩)) .nil
    (fun _ _ first later => .cons first later) p q respelt

theorem symm (respelt : p.Respelt q) : q.Respelt p := by
  refine respelt.induction .null .boolean .string (fun _ _ equal => .number equal.symm)
    (fun _ _ each => .array each.flip) ?object
  case object =>
    intro xs ys each
    obtain ⟨names, values⟩ :=
      (Named.forall₂_iff_values (R := fun x y => Respelt y x)).mp each
    exact .object names.symm values.flip

theorem nesting_eq (respelt : p.Respelt q) (weight : Nat) :
    p.nesting weight = q.nesting weight := by
  refine respelt.induction rfl (fun _ => rfl) (fun _ => rfl) (fun _ _ _ => rfl) ?array ?object
  case array =>
    intro xs ys each
    have parts : nestingOfAll weight xs = nestingOfAll weight ys := by
      induction each with
      | nil => rfl
      | cons first _ ih => rw [nestingOfAll, nestingOfAll, first, ih]
    rw [nesting, nesting, parts]
  case object =>
    intro xs ys each
    have parts : nestingOfMembers weight xs = nestingOfMembers weight ys := by
      induction each with
      | nil => rfl
      | cons first _ ih => rw [nestingOfMembers, nestingOfMembers, first.2, ih]
    rw [nesting, nesting, parts]

/-- The numbers of both stand in the same places. -/
theorem numbers (respelt : p.Respelt q) : List.Forall₂ Respelt p.numbers q.numbers := by
  refine respelt.induction .nil (fun _ => .nil) (fun _ => .nil) ?number ?array ?object
  case number =>
    intro n m equal
    exact .cons (.number equal) .nil
  case array =>
    intro xs ys each
    show List.Forall₂ Respelt (numbersOfAll xs) (numbersOfAll ys)
    induction each with
    | nil => exact .nil
    | cons first _ ih => exact List.rel_append first ih
  case object =>
    intro xs ys each
    show List.Forall₂ Respelt (numbersOfMembers xs) (numbersOfMembers ys)
    induction each with
    | nil => exact .nil
    | cons first _ ih => exact List.rel_append first.2 ih

/-- Phrases that are spelled otherwise denote alike documents. -/
theorem document? (respelt : p.Respelt q) :
    Option.Rel Document.Alike p.document? q.document? := by
  refine respelt.induction (.some .null) (fun value => .some (.boolean value))
    (fun content => .some (.string content)) ?number ?array ?object
  case number =>
    intro n m equal
    rw [Phrase.document?, Phrase.document?, Named.rel_map_iff]
    exact Named.rel_imp (fun _ _ => .number) (Numeral.rel_nearest?_of_rational_eq equal)
  case array =>
    intro xs ys each
    have parts : Option.Rel (List.Forall₂ Document.Alike) (documents? xs) (documents? ys) := by
      induction each with
      | nil => exact .some .nil
      | cons first _ ih =>
        rw [documents?_cons, documents?_cons]
        exact Named.rel_both first ih fun _ _ _ _ alike others => .cons alike others
    rw [Phrase.document?, Phrase.document?, Named.rel_map_iff]
    exact Named.rel_imp (fun _ _ => .array) parts
  case object =>
    intro xs ys each
    have denoted : List.Forall₂ (fun x y => x.1 = y.1 ∧ Option.Rel Document.Alike x.2 y.2)
        (denotations xs) (denotations ys) := by
      rw [denotations_eq_map, denotations_eq_map, List.forall₂_map_left_iff,
        List.forall₂_map_right_iff]
      exact each
    -- Settling replaces the same members in both.
    have settled := Named.rel_all? (Named.forall₂_settle (fun _ _ both => both.1) denoted)
    rw [Phrase.document?, Phrase.document?]
    rcases Named.rel_cases settled with ⟨none, none'⟩ | ⟨values, values', kept, kept', alike⟩
    · rw [none, none']
      exact .none
    · rw [kept, kept']
      exact .some (.of_aligned (Named.nodup_of_all? kept) alike)

end Respelt

/-! ### Numbers out of range -/

/-- Some of these numbers lies past the greatest finite one, so far that none is nearest to it. -/
def Exceeds (numbers : List Phrase) : Prop :=
  ∃ n : Numeral, .number n ∈ numbers ∧ Binary64.bound ≤ |n.rational|

theorem document?_number_eq_none_iff (n : Numeral) :
    (Phrase.number n).document? = none ↔ Binary64.bound ≤ |n.rational| := by
  rw [document?, Option.map_eq_none_iff, Numeral.nearest?_eq_none_iff]

theorem exceeds_iff {numbers : List Phrase}
    (numerals : ∀ number ∈ numbers, ∃ n, number = .number n) :
    Exceeds numbers ↔ ∃ number ∈ numbers, number.document? = none := by
  constructor
  · rintro ⟨n, member, past⟩
    exact ⟨_, member, (document?_number_eq_none_iff n).mpr past⟩
  · rintro ⟨number, member, none⟩
    obtain ⟨n, rfl⟩ := numerals number member
    exact ⟨n, member, (document?_number_eq_none_iff n).mp none⟩

/-- Whether a number is out of range is not a matter of its spelling. -/
theorem Respelt.exceeds {p q : Phrase} (respelt : p.Respelt q) (exceeds : Exceeds q.numbers) :
    Exceeds p.numbers := by
  obtain ⟨m, member, past⟩ := exceeds
  obtain ⟨number, present, related⟩ :=
    Document.exists_mem_of_forall₂ respelt.numbers _ member
  cases related with
  | number equal => exact ⟨_, present, equal ▸ past⟩

end Json.Phrase

namespace Json.Grammar.Writes

open Phrase

variable {t : Text} {phrase : Phrase}

theorem numerals (writes : Writes false t phrase) :
    ∀ number ∈ phrase.numbers, ∃ n, number = .number n := by
  intro number member
  obtain ⟨n, _, _, same, _⟩ := writes.numeral number member
  exact ⟨n, same⟩

theorem exceeds_kept_iff (writes : Writes false t phrase) :
    Exceeds phrase.kept ↔ phrase.document? = none := by
  rw [document?_eq_none_iff]
  exact exceeds_iff fun number member => writes.numerals number (mem_numbers_of_mem_kept member)

theorem finite_iff (writes : Writes false t phrase) :
    phrase.Finite ↔ ¬Exceeds phrase.numbers := by
  rw [exceeds_iff writes.numerals]
  simp only [Phrase.Finite, not_exists, not_and, ne_eq]

end Json.Grammar.Writes

/-! ### Texts that are read alike -/

namespace Document

open Json Json.Grammar

/-- A text that is refused as malformed. -/
def Refused (t : Text) : Prop :=
  ∃ error, ofJson (.text t) = .error error ∧
    (Failure.document error).className = "DocumentSyntaxError"

/-- Both texts are refused, or both are accepted and their documents are structurally equal. -/
def ReadAlike (t t' : Text) : Prop :=
  Refused t ∧ Refused t' ∨ ∃ d d', ofJson (.text t) = .ok d ∧ ofJson (.text t') = .ok d' ∧
    d.structurallyEqual d' = true

variable {t t' : Text} {p q : Phrase}

theorem refused_iff : Refused t ↔ ¬∃ document, ofJson (.text t) = .ok document := by
  constructor
  · rintro ⟨error, refused, _⟩ ⟨document, read⟩
    rw [refused] at read
    cases read
  · intro none
    cases read : ofJson (.text t) with
    | error error => exact ⟨error, read, (classified_of_ofJson read).1⟩
    | ok document => exact absurd ⟨document, read⟩ none

/-- What is kept and out of range is refused. -/
theorem refused_of_exceeds (writes : Writes false t p) (exceeds : Phrase.Exceeds p.kept) :
    Refused t := by
  rw [refused_iff]
  rintro ⟨document, read⟩
  have denoted := ((ofJson_eq_ok_iff_of_writes writes).mp read).2.2.1
  rw [writes.exceeds_kept_iff.mp exceeds] at denoted
  cases denoted

theorem refused_of_respelt (writes : Writes false t p) (writes' : Writes false t' q)
    (respelt : p.Respelt q) (exceeds : Phrase.Exceeds p.kept) : Refused t ∧ Refused t' := by
  have related := respelt.document?
  rw [writes.exceeds_kept_iff.mp exceeds] at related
  rcases Named.rel_cases related with ⟨_, none⟩ | ⟨_, _, known, _⟩
  · exact ⟨refused_of_exceeds writes exceeds,
      refused_of_exceeds writes' (writes'.exceeds_kept_iff.mpr none)⟩
  · cases known

/-- A text that is accepted becomes a document alike to that of any other spelling of it that is
legible as well. -/
theorem exists_ofJson_of_respelt (writes : Writes false t p) (writes' : Writes false t' q)
    (respelt : p.Respelt q) (legible : p.Readable → q.Readable) {document : Document}
    (read : ofJson (.text t) = .ok document) :
    ∃ other, ofJson (.text t') = .ok other ∧ document.Alike other := by
  obtain ⟨readable, shallow, denoted, within⟩ := (ofJson_eq_ok_iff_of_writes writes).mp read
  have related := respelt.document?
  rw [denoted] at related
  rcases Named.rel_cases related with ⟨none, _⟩ | ⟨_, other, same, known, alike⟩
  · cases none
  cases same
  refine ⟨other, (ofJson_eq_ok_iff_of_writes writes').mpr ?_, alike⟩
  exact ⟨legible readable, respelt.nesting_eq 1 ▸ shallow, known, alike.within within⟩

theorem readAlike_of_accepted {d d' : Document} (read : ofJson (.text t) = .ok d)
    (read' : ofJson (.text t') = .ok d') (alike : d.Alike d') : ReadAlike t t' :=
  .inr ⟨d, d', read, read', structurallyEqual_of_alike alike⟩

/-- Texts that differ in how their numbers are spelled are read alike if both are legible, or
neither. -/
theorem readAlike_of_respelt (writes : Writes false t p) (writes' : Writes false t' q)
    (respelt : p.Respelt q) (legible : p.Readable ↔ q.Readable) : ReadAlike t t' := by
  by_cases accepted : ∃ document, ofJson (.text t) = .ok document
  · obtain ⟨d, read⟩ := accepted
    obtain ⟨d', read', alike⟩ := exists_ofJson_of_respelt writes writes' respelt legible.mp read
    exact readAlike_of_accepted read read' alike
  · -- If the other text were accepted, so would this one be.
    refine .inl ⟨refused_iff.mpr accepted, refused_iff.mpr ?_⟩
    rintro ⟨d', read'⟩
    obtain ⟨d, read, _⟩ :=
      exists_ofJson_of_respelt writes' writes respelt.symm legible.mpr read'
    exact accepted ⟨d, read⟩

/-- Without a number out of range a text is accepted, unless it is nested too deeply. -/
theorem accepted_of_not_exceeds (writes : Writes false t p) (shallow : p.nesting 2 ≤ maxNesting)
    (inRange : ¬Phrase.Exceeds p.numbers) : ∃ document, ofJson (.text t) = .ok document := by
  have finite := writes.finite_iff.mpr inRange
  obtain ⟨document, denoted⟩ := p.exists_document? finite
  exact ⟨document, ofJson_of_writes writes shallow (writes.readable finite) denoted⟩

/-- A numeral is read as the number nearest to the rational that it denotes, whatever its spelling,
and is out of range if that is not finite. Texts that differ in the spelling of numerals are read
alike, and are refused exactly for a number out of range, unless each such number stands in a member
that is replaced. A text that is accepted has no other ones, and they are whole and not too long. -/
theorem ofJson_of_respelt (writes : Writes false t p) (writes' : Writes false t' q)
    (respelt : p.Respelt q) :
    (∀ n : Numeral, (n.nearest? = none ↔ Binary64.bound ≤ |n.rational|) ∧
      ∀ x, n.nearest? = some x → x.IsNearest n.rational) ∧
    ((Phrase.Exceeds p.numbers → Phrase.Exceeds p.kept) → ReadAlike t t' ∧
      (p.nesting 2 ≤ maxNesting → (Refused t ↔ Phrase.Exceeds p.numbers))) ∧
    ((p.Readable ↔ q.Readable) → ReadAlike t t') ∧
    (p.Distinct → p.kept = p.numbers) ∧
    ∀ document, ofJson (.text t) = .ok document →
      p.document? = some document ∧ ¬Phrase.Exceeds p.kept ∧
        ∀ n, .number n ∈ p.numbers → Binary64.bound ≤ |n.rational| →
          n.isWhole = true ∧ n.whole.length ≤ maxIntegerDigits := by
  refine ⟨fun n => ⟨n.nearest?_eq_none_iff, fun _ => Numeral.isNearest_of_nearest?⟩,
    fun noticed => ⟨?_, fun shallow => ⟨?_, ?_⟩⟩, readAlike_of_respelt writes writes' respelt,
    Phrase.Distinct.kept_eq, ?_⟩
  · -- A number out of range that is kept is refused in both; without any, both are legible.
    by_cases exceeds : Phrase.Exceeds p.numbers
    · exact .inl (refused_of_respelt writes writes' respelt (noticed exceeds))
    · have exceeds' : ¬Phrase.Exceeds q.numbers := fun past => exceeds (respelt.exceeds past)
      have finite := writes.finite_iff.mpr exceeds
      have finite' := writes'.finite_iff.mpr exceeds'
      exact readAlike_of_respelt writes writes' respelt
        (iff_of_true (writes.readable finite) (writes'.readable finite'))
  · intro refused
    by_contra inRange
    exact refused_iff.mp refused (accepted_of_not_exceeds writes shallow inRange)
  · exact fun exceeds => refused_of_exceeds writes (noticed exceeds)
  · intro document read
    obtain ⟨readable, _, denoted, _⟩ := (ofJson_eq_ok_iff_of_writes writes).mp read
    refine ⟨denoted, fun exceeds => ?_, fun n member past => ?_⟩
    · rw [writes.exceeds_kept_iff.mp exceeds] at denoted
      cases denoted
    · cases readable _ member with
      | whole whole short => exact ⟨whole, short⟩
      | real _ finite => exact absurd (n.nearest?_eq_none_iff.mpr past) finite

theorem number_exponent (digits places rest : Text) (some_digit : digits ≠ [])
    (each : ∀ c ∈ digits, c.isDigit = true) (leading : digits.head? ≠ some (CodePoint.ofChar '0'))
    (some_place : places ≠ []) (each_place : ∀ c ∈ places, c.isDigit = true) :
    Number (digits ++ (CodePoint.ofChar 'e' :: places) ++ rest)
      ⟨false, digits, [], some (false, places), digits ++ (CodePoint.ofChar 'e' :: places)⟩ rest :=
  .intro rfl (.digits ⟨List.append_assoc _ _ _, some_digit, each⟩ leading) .absent
    (.present (.inl rfl) .absent ⟨rfl, some_place, each_place⟩) rfl

/-- The number ten without an exponent and with one. -/
def ten : Numeral := ⟨false, "10", [], none, "10"⟩

def tenShort : Numeral := ⟨false, "1", [], some (false, "1"), "1e1"⟩

theorem ofJson_of_respelt_ten :
    Writes false "[10]" (.array [.number ten]) ∧ Writes false "[1e1]" (.array [.number tenShort]) ∧
      (Phrase.array [.number ten]).Respelt (.array [.number tenShort]) ∧
        ReadAlike "[10]" "[1e1]" := by
  have long : Number (("10" : Text) ++ "]") ten "]" :=
    number_whole (by decide) (by decide) (by decide)
  have short : Number (("1e1" : Text) ++ "]") tenShort "]" :=
    number_exponent "1" "1" "]" (by decide) (by decide) (by decide) (by decide) (by decide)
  have writes : Writes false "[10]" (.array [.number ten]) :=
    ⟨_, [], .refl _, .array (.refl _) (.lastElement (.number long) (.refl _)), .refl _⟩
  have writes' : Writes false "[1e1]" (.array [.number tenShort]) :=
    ⟨_, [], .refl _, .array (.refl _) (.lastElement (.number short) (.refl _)), .refl _⟩
  have equal : ten.rational = tenShort.rational :=
    Numeral.rational_eq_of_zeros 1 rfl (by decide) (by decide)
  have respelt : (Phrase.array [.number ten]).Respelt (.array [.number tenShort]) :=
    .array (.cons (.number equal) .nil)
  exact ⟨writes, writes', respelt, ((ofJson_of_respelt writes writes' respelt).2.1 id).1⟩

/-! ### A number that is replaced -/

/-- The huge number with an exponent in place of its zeros. -/
def hugeShort : Numeral := ⟨false, "1", [], some (false, "309"), "1e309"⟩

theorem rational_huge : huge.rational = hugeShort.rational :=
  Numeral.rational_eq_of_zeros 309 rfl (by decide +kernel) (by decide +kernel)

/-- Of two spellings of a number out of range in a member that is replaced, one is taken and the
other is refused. -/
theorem not_readAlike_twice_huge : ∃ p q, Writes false (twice huge.literal) p ∧
    Writes false (twice hugeShort.literal) q ∧ p.Respelt q ∧
      ¬ReadAlike (twice huge.literal) (twice hugeShort.literal) := by
  have digits : ∀ c ∈ huge.literal, c.isDigit = true :=
    List.forall_mem_cons.mpr ⟨rfl, fun c member => by rw [List.eq_of_mem_replicate member]; rfl⟩
  have long (rest : Text) : Number (huge.literal ++ rest) huge rest :=
    number_whole (List.cons_ne_nil _ _) digits (by decide)
  have short (rest : Text) : Number (hugeShort.literal ++ rest) hugeShort rest :=
    number_exponent "1" "309" rest (by decide) (by decide) (by decide) (by decide) (by decide)
  have writes := writes_twice (.number (long _) : Derives false _ _ _)
  have writes' := writes_twice (.number (short _) : Derives false _ _ _)
  refine ⟨_, _, writes, writes', .object rfl (.cons (.number rational_huge)
    (.cons (.number rfl) .nil)), ?_⟩
  -- The whole number is legible and gone; the other is not legible, so nothing comes of its text.
  have accepted : ∃ document, ofJson (.text (twice huge.literal)) = .ok document := by
    have absent : (Phrase.number huge).document? = none := by
      rw [Phrase.document?, nearest?_huge, Option.map_none]
    have readable : (Phrase.object [("a", .number huge), ("a", .number one)]).Readable :=
      List.forall_mem_cons.mpr ⟨.whole rfl (by decide +kernel),
        List.forall_mem_singleton.mpr (.whole rfl (by decide))⟩
    exact ⟨_, ofJson_of_writes writes (by decide) readable (document?_twice absent)⟩
  have refused : ¬∃ document, ofJson (.text (twice hugeShort.literal)) = .ok document := by
    rintro ⟨document, read⟩
    have readable := ((ofJson_eq_ok_iff_of_writes writes').mp read).1
    have past := (Numeral.nearest?_eq_none_iff huge).mp nearest?_huge
    rw [rational_huge, ← Numeral.nearest?_eq_none_iff] at past
    cases readable (.number hugeShort) List.mem_cons_self with
    | whole whole _ => cases whole
    | real _ finite => exact finite past
  rintro (⟨lost, _⟩ | ⟨_, other, _, read, _⟩)
  · exact refused_iff.mp lost accepted
  · exact refused ⟨other, read⟩

end Document
end Conformance
