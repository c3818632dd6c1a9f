import Conformance.Proofs.Json.Lexemes

/-!
# Decoding against the grammar

A phrase denotes a datum for a dialect, unless a number of it is too long or too large or a string
holds what the dialect does not let strings hold. The decoder of a dialect hands over a datum
exactly if the text derives from the grammar with a phrase that denotes the datum and is not nested
deeper than the dialect lets it be.
-/
namespace Conformance.Json

open Grammar

instance (dialect : Dialect) (content : Text) : Decidable (Holds dialect content) :=
  inferInstanceAs (Decidable (_ ∨ _))

/-! ### What phrases denote -/

namespace Phrase

mutual

/-- The levels of nesting, of which an array takes as many as it weighs and an object takes one. -/
def nesting (weight : Nat) : Phrase → Nat
  | .array elements => nestingOfAll weight elements + weight
  | .object members => nestingOfMembers weight members + 1
  | _ => 0

def nestingOfAll (weight : Nat) : List Phrase → Nat
  | [] => 0
  | element :: rest => max (nesting weight element) (nestingOfAll weight rest)

def nestingOfMembers (weight : Nat) : List (Text × Phrase) → Nat
  | [] => 0
  | (_, value) :: rest => max (nesting weight value) (nestingOfMembers weight rest)

end

mutual

/-- The datum that a phrase denotes for a dialect. -/
def datum? (dialect : Dialect) : Phrase → Option Datum
  | .null => some .null
  | .boolean value => some (.boolean value)
  | .number numeral => (numeral.value dialect).toOption
  | .notNumber => some (.real .notNumber)
  | .infinite negative => some (.real (.infinite negative))
  | .string content => if Holds dialect content then some (.text content) else none
  | .array elements => (items? dialect elements).map .sequence
  | .object members => (entries? dialect members).map Datum.ofEntries

def items? (dialect : Dialect) : List Phrase → Option (List Datum)
  | [] => some []
  | element :: rest =>
    match datum? dialect element, items? dialect rest with
    | some item, some items => some (item :: items)
    | _, _ => none

def entries? (dialect : Dialect) : List (Text × Phrase) → Option (List (Datum × Datum))
  | [] => some []
  | (name, value) :: rest =>
    match datum? dialect value, entries? dialect rest with
    | some datum, some entries =>
      if Holds dialect name then some ((.text name, datum) :: entries) else none
    | _, _ => none

end

variable {dialect : Dialect}

theorem items?_cons_eq_some_iff {element : Phrase} {rest : List Phrase} {items : List Datum} :
    items? dialect (element :: rest) = some items ↔
      ∃ item others, datum? dialect element = some item ∧ items? dialect rest = some others ∧
        items = item :: others := by
  rw [items?]
  cases datum? dialect element with
  | none => simp
  | some item =>
    cases items? dialect rest with
    | none => simp
    | some others => simp [eq_comm]

theorem entries?_cons_eq_some_iff {name : Text} {value : Phrase} {rest : List (Text × Phrase)}
    {entries : List (Datum × Datum)} :
    entries? dialect ((name, value) :: rest) = some entries ↔
      ∃ datum others, Holds dialect name ∧ datum? dialect value = some datum ∧
        entries? dialect rest = some others ∧ entries = (.text name, datum) :: others := by
  rw [entries?]
  cases datum? dialect value with
  | none => simp
  | some datum =>
    cases entries? dialect rest with
    | none => simp
    | some others => simp [eq_comm]

end Phrase

/-! ### What is decoded derives -/

section Sound

variable {dialect : Dialect} {fuel levels : Nat} {t rest : Text} {datum : Datum}

/-- A part of the text is derived by a phrase that denotes what was read. -/
def Derived (dialect : Dialect) (levels : Nat) (t : Text) (datum : Datum) (rest : Text) : Prop :=
  ∃ phrase : Phrase, Derives dialect.unbounded t (.value phrase) rest ∧
    phrase.datum? dialect = some datum ∧ phrase.nesting 1 ≤ levels

theorem derived_of_word {word : Text × Except Stop Datum} (member : word ∈ words dialect)
    (means : word.2 = .ok datum) : Derived dialect levels (word.1 ++ rest) datum rest := by
  simp only [words, List.mem_cons, List.not_mem_nil, or_false] at member
  -- The last three words are constants, which not every dialect knows.
  have constant {letters : Text} {value : Extended} (phrase : Phrase)
      (listed : (letters, phrase) ∈ constants) (denoted : phrase.datum? dialect = some (.real value))
      (flat : phrase.nesting 1 = 0) (means : (extended dialect letters value).2 = .ok datum) :
      Derived dialect levels (letters ++ rest) datum rest := by
    rw [extended] at means
    simp only at means
    split_ifs at means with known
    cases means
    exact ⟨phrase, .constant known listed, denoted, flat ▸ Nat.zero_le _⟩
  rcases member with rfl | rfl | rfl | rfl | rfl | rfl
  · cases means
    exact ⟨.null, .null, rfl, Nat.zero_le _⟩
  · cases means
    exact ⟨.boolean true, .yes, rfl, Nat.zero_le _⟩
  · cases means
    exact ⟨.boolean false, .no, rfl, Nat.zero_le _⟩
  · exact constant .notNumber (by simp [constants, extended]) rfl rfl means
  · exact constant (.infinite false) (by simp [constants, extended]) rfl rfl means
  · exact constant (.infinite true) (by simp [constants, extended]) rfl rfl means

theorem derived_of_readScalar (read : readScalar dialect t = .ok (datum, rest)) :
    Derived dialect levels t datum rest := by
  rw [readScalar] at read
  split at read
  next found =>
    obtain ⟨word, member, known⟩ := List.exists_of_findSome?_eq_some found
    obtain ⟨behind, after, equal⟩ := Option.map_eq_some_iff.mp known
    cases equal
    obtain ⟨_, means, equal⟩ := map_eq_ok_iff.mp read
    cases equal
    rw [after?_eq_some_iff.mp after]
    exact derived_of_word member means
  · split at read
    next numeral behind spelled =>
      obtain ⟨_, means, equal⟩ := map_eq_ok_iff.mp read
      cases equal
      refine ⟨.number numeral, .number (number_of_readNumeral spelled), ?_, Nat.zero_le _⟩
      rw [Phrase.datum?, means]
      rfl
    · cases read

/-- What is neither a string nor a container is read as a scalar. -/
theorem readValue_scalar {fuel levels : Nat} {c : CodePoint} {t : Text}
    (other : c ≠ '"' ∧ c ≠ '[' ∧ c ≠ '\x7b') :
    readValue dialect (fuel + 1) levels (c :: t) = readScalar dialect (c :: t) := by
  obtain ⟨quote, bracket, brace⟩ := other
  rw [readValue, if_neg quote, if_neg bracket, if_neg brace]

/-- With so much fuel the readers take what derives from the grammar. -/
structure Sound (dialect : Dialect) (fuel : Nat) : Prop where
  value : ∀ {levels : Nat} {t rest : Text} {datum : Datum},
    readValue dialect fuel levels t = .ok (datum, rest) → Derived dialect levels t datum rest
  elements : ∀ {levels : Nat} {t rest : Text} {items : List Datum},
    readElements dialect fuel levels t = .ok (items, rest) →
      ∃ phrases, Derives dialect.unbounded t (.elements phrases) rest ∧
        Phrase.items? dialect phrases = some items ∧ Phrase.nestingOfAll 1 phrases ≤ levels
  members : ∀ {levels : Nat} {t rest : Text} {entries : List (Datum × Datum)},
    readMembers dialect fuel levels t = .ok (entries, rest) →
      ∃ members, Derives dialect.unbounded t (.members members) rest ∧
        Phrase.entries? dialect members = some entries ∧
        Phrase.nestingOfMembers 1 members ≤ levels

theorem Sound.derived_array (sound : Sound dialect fuel)
    (read : readValue dialect (fuel + 1) levels (CodePoint.ofChar '[' :: t) = .ok (datum, rest)) :
    Derived dialect levels (CodePoint.ofChar '[' :: t) datum rest := by
  rw [readValue, if_neg (by decide), if_pos rfl] at read
  have space := space_skipSpace t
  split at read
  · cases read
  next deep =>
    -- Behind the bracket and space the array is closed, or its elements follow.
    split at read
    · cases read
    next d after start =>
      rw [start] at space
      split at read
      next close =>
        subst close
        cases read
        exact ⟨.array [], .emptyArray space, rfl, Nat.pos_of_ne_zero deep⟩
      · obtain ⟨_, inner, equal⟩ := map_eq_ok_iff.mp read
        cases equal
        obtain ⟨phrases, derived, denoted, shallow⟩ := sound.elements inner
        refine ⟨.array phrases, .array space derived, ?_, ?_⟩
        · rw [Phrase.datum?, denoted]
          rfl
        · rw [Phrase.nesting]
          omega

theorem Sound.derived_object (sound : Sound dialect fuel)
    (read : readValue dialect (fuel + 1) levels (CodePoint.ofChar '\x7b' :: t) =
      .ok (datum, rest)) :
    Derived dialect levels (CodePoint.ofChar '\x7b' :: t) datum rest := by
  rw [readValue, if_neg (by decide), if_neg (by decide), if_pos rfl] at read
  have space := space_skipSpace t
  split at read
  · cases read
  next deep =>
    -- Behind the brace and space the object is closed, or its members follow.
    split at read
    · cases read
    next d after start =>
      rw [start] at space
      split at read
      next close =>
        subst close
        cases read
        exact ⟨.object [], .emptyObject space, rfl, Nat.pos_of_ne_zero deep⟩
      · obtain ⟨_, inner, equal⟩ := map_eq_ok_iff.mp read
        cases equal
        obtain ⟨members, derived, denoted, shallow⟩ := sound.members inner
        refine ⟨.object members, .object space derived, ?_, ?_⟩
        · rw [Phrase.datum?, denoted]
          rfl
        · rw [Phrase.nesting]
          omega

/-- The first code point tells a string, an array, an object or a scalar. -/
theorem Sound.readValue_succ (sound : Sound dialect fuel)
    (read : readValue dialect (fuel + 1) levels t = .ok (datum, rest)) :
    Derived dialect levels t datum rest := by
  cases t with
  | nil => cases read
  | cons c t =>
    by_cases quote : c = CodePoint.ofChar '"'
    · rw [readValue, if_pos quote] at read
      subst quote
      obtain ⟨⟨content, _⟩, inner, equal⟩ := map_eq_ok_iff.mp read
      cases equal
      obtain ⟨quoted, held⟩ := readString_eq_ok_iff.mp inner
      exact ⟨.string content, .string quoted, if_pos held, Nat.zero_le _⟩
    by_cases bracket : c = CodePoint.ofChar '['
    · subst bracket
      exact sound.derived_array read
    by_cases brace : c = CodePoint.ofChar '\x7b'
    · subst brace
      exact sound.derived_object read
    rw [readValue_scalar ⟨quote, bracket, brace⟩] at read
    exact derived_of_readScalar read

theorem Sound.readElements_succ {items : List Datum} (sound : Sound dialect fuel)
    (read : readElements dialect (fuel + 1) levels t = .ok (items, rest)) :
    ∃ phrases, Derives dialect.unbounded t (.elements phrases) rest ∧
      Phrase.items? dialect phrases = some items ∧ Phrase.nestingOfAll 1 phrases ≤ levels := by
  rw [readElements] at read
  split at read
  · cases read
  next item behind firstRead =>
    obtain ⟨first, derived, denoted, shallow⟩ := sound.value firstRead
    have space := space_skipSpace behind
    -- Behind an element the text ends, the array is closed, or another element follows.
    split at read
    · cases read
    next c after start =>
      rw [start] at space
      split at read
      next close =>
        subst close
        cases read
        refine ⟨[first], .lastElement derived space, ?_, max_le shallow (Nat.zero_le _)⟩
        exact Phrase.items?_cons_eq_some_iff.mpr ⟨item, [], denoted, rfl, rfl⟩
      split at read
      next comma =>
        subst comma
        obtain ⟨⟨others, _⟩, inner, equal⟩ := map_eq_ok_iff.mp read
        cases equal
        obtain ⟨phrases, more, later, below⟩ := sound.elements inner
        refine ⟨first :: phrases, .nextElement derived space (space_skipSpace after) more, ?_,
          max_le shallow below⟩
        exact Phrase.items?_cons_eq_some_iff.mpr ⟨item, others, denoted, later, rfl⟩
      · cases read

/-- The first member, and what is read behind it: the closing brace, or a comma and more. -/
theorem Sound.exists_first_member {entries : List (Datum × Datum)} (sound : Sound dialect fuel)
    (read : readMembers dialect (fuel + 1) levels t = .ok (entries, rest)) :
    ∃ name value datum behind c after,
      Derives dialect.unbounded t (.member (name, value)) behind ∧ Holds dialect name ∧
      value.datum? dialect = some datum ∧ value.nesting 1 ≤ levels ∧ Space behind (c :: after) ∧
      (c = '\x7d' ∧ entries = [(.text name, datum)] ∧ rest = after ∨
        c = ',' ∧ ∃ others, entries = (.text name, datum) :: others ∧
          readMembers dialect fuel levels (skipSpace after) = .ok (others, rest)) := by
  cases t with
  | nil => cases read
  | cons quote inside =>
    rw [readMembers] at read
    -- A quote, a name, something behind it, a colon and a value are needed, in this order.
    split at read
    · cases read
    next opened =>
      cases not_not.mp opened
      split at read
      · cases read
      next name behindName nameRead =>
        obtain ⟨quoted, held⟩ := readString_eq_ok_iff.mp nameRead
        have beforeColon := space_skipSpace behindName
        split at read
        · cases read
        next colon gap colonStart =>
          rw [colonStart] at beforeColon
          split at read
          · cases read
          next present =>
            cases not_not.mp present
            split at read
            · cases read
            next datum behind valueRead =>
              obtain ⟨value, derived, denoted, shallow⟩ := sound.value valueRead
              have member := Derives.member quoted beforeColon (space_skipSpace gap) derived
              have space := space_skipSpace behind
              split at read
              · cases read
              next c after start =>
                rw [start] at space
                refine ⟨name, value, datum, behind, c, after, member, held, denoted, shallow,
                  space, ?_⟩
                split_ifs at read with close comma
                · cases read
                  exact .inl ⟨close, rfl, rfl⟩
                · obtain ⟨⟨others, _⟩, inner, equal⟩ := map_eq_ok_iff.mp read
                  cases equal
                  exact .inr ⟨comma, others, rfl, inner⟩

theorem Sound.readMembers_succ {entries : List (Datum × Datum)} (sound : Sound dialect fuel)
    (read : readMembers dialect (fuel + 1) levels t = .ok (entries, rest)) :
    ∃ members, Derives dialect.unbounded t (.members members) rest ∧
      Phrase.entries? dialect members = some entries ∧
      Phrase.nestingOfMembers 1 members ≤ levels := by
  obtain ⟨name, value, datum, behind, c, after, member, held, denoted, shallow, space, ends⟩ :=
    sound.exists_first_member read
  rcases ends with ⟨rfl, rfl, rfl⟩ | ⟨rfl, others, rfl, inner⟩
  · refine ⟨[(name, value)], .lastMember member space, ?_, max_le shallow (Nat.zero_le _)⟩
    exact Phrase.entries?_cons_eq_some_iff.mpr ⟨datum, [], held, denoted, rfl, rfl⟩
  · obtain ⟨members, more, later, below⟩ := sound.members inner
    refine ⟨(name, value) :: members, .nextMember member space (space_skipSpace after) more, ?_,
      max_le shallow below⟩
    exact Phrase.entries?_cons_eq_some_iff.mpr ⟨datum, others, held, denoted, later, rfl⟩

/-- Each reader relies on the others with less fuel. -/
theorem sound (dialect : Dialect) (fuel : Nat) : Sound dialect fuel := by
  induction fuel with
  | zero =>
    refine ⟨fun read => ?_, fun read => ?_, fun read => ?_⟩
    · cases read
    · cases read
    · cases read
  | succ fuel ih => exact ⟨ih.readValue_succ, ih.readElements_succ, ih.readMembers_succ⟩

end Sound

/-! ### What derives is decoded -/

theorem Grammar.Number.length_le {t rest : Text} {numeral : Numeral}
    (spelled : Number t numeral rest) : rest.length ≤ t.length := by
  cases spelled with
  | intro _ _ _ _ all =>
    rw [all, List.length_append]
    omega

/-- What follows a part is no longer than the text. -/
theorem Grammar.Derives.length_le {unbounded : Bool} {t rest : Text} {part : Part}
    (derived : Derives unbounded t part rest) : rest.length ≤ t.length := by
  induction derived with
  | null | yes | no => simp
  | constant _ _ => simp
  | number spelled => exact spelled.length_le
  | string quoted => exact quoted.suffix.length_le.trans (Nat.le_succ _)
  | emptyArray space | emptyObject space =>
    have behind := space.length_le
    simp only [List.length_cons] at behind ⊢
    omega
  | array space _ ih | object space _ ih =>
    have inside := space.length_le
    simp only [List.length_cons]
    omega
  | lastElement _ close ih | lastMember _ close ih =>
    have behind := close.length_le
    simp only [List.length_cons] at behind
    omega
  | nextElement _ comma space _ first more | nextMember _ comma space _ first more =>
    have behind := comma.length_le
    have next := space.length_le
    simp only [List.length_cons] at behind
    omega
  | member quoted colon space _ ih =>
    have name := quoted.suffix.length_le
    have behind := colon.length_le
    have next := space.length_le
    simp only [List.length_cons] at behind ⊢
    omega

/-- What a part starts with: no space, no byte-order mark and nothing that closes a container. -/
def Solid (c : CodePoint) : Prop :=
  isSpace c = false ∧ c ≠ ']' ∧ c ≠ '\x7d' ∧ c ≠ .ofNat 0xFEFF

instance (c : CodePoint) : Decidable (Solid c) := inferInstanceAs (Decidable (_ ∧ _))

theorem solid_of_isDigit {c : CodePoint} (digit : c.isDigit = true) : Solid c := by
  have other {k : CodePoint} : k.isDigit = false → c ≠ k := ne_of_isDigit digit
  refine ⟨?_, other rfl, other rfl, other rfl⟩
  simp [isSpace, other (k := ' ') rfl, other (k := '\t') rfl, other (k := '\n') rfl,
    other (k := '\r') rfl]

theorem Grammar.Derives.starts {unbounded : Bool} {t rest : Text} {part : Part}
    (derived : Derives unbounded t part rest) : ∃ c more, t = c :: more ∧ Solid c := by
  induction derived with
  | null | yes | no => exact ⟨_, _, rfl, by decide⟩
  | constant _ listed =>
    simp only [constants, List.mem_cons, Prod.mk.injEq, List.not_mem_nil, or_false] at listed
    rcases listed with ⟨rfl, _⟩ | ⟨rfl, _⟩ | ⟨rfl, _⟩
    all_goals exact ⟨_, _, rfl, by decide⟩
  | number spelled =>
    obtain ⟨c, more, digit, rfl | rfl⟩ := spelled.starts
    · exact ⟨_, _, rfl, solid_of_isDigit digit⟩
    · exact ⟨_, _, rfl, by decide⟩
  | string | emptyArray | array | emptyObject | object | member => exact ⟨_, _, rfl, by decide⟩
  | lastElement _ _ ih | lastMember _ _ ih => exact ih
  | nextElement _ _ _ _ ih _ | nextMember _ _ _ _ ih _ => exact ih

/-- Behind space a part is where skipping stops. -/
theorem Grammar.Space.skip_derives {unbounded : Bool} {t inside rest : Text} {part : Part}
    (space : Space t inside) (derived : Derives unbounded inside part rest) :
    skipSpace t = inside := by
  obtain ⟨c, more, rfl, solid⟩ := derived.starts
  exact space.skip_cons solid.1

theorem Grammar.Space.delimited {t rest : Text} {c : CodePoint} (space : Space t (c :: rest))
    (ends : c = ',' ∨ c = ']' ∨ c = '\x7d') : Delimited t := by
  obtain ⟨blank, each, rfl⟩ := space
  exact delimited_blank_append each ends

section Complete

variable {dialect : Dialect}

/-- How much fuel a part of a text takes: an element and the reading of the elements after it take
one unit each. -/
def Grammar.Part.ReadFrom (dialect : Dialect) (t rest : Text) : Part → Prop
  | .value phrase => ∀ ⦃fuel levels : Nat⦄ ⦃datum : Datum⦄, 2 * t.length ≤ fuel →
      Delimited rest → phrase.datum? dialect = some datum → phrase.nesting 1 ≤ levels →
        readValue dialect fuel levels t = .ok (datum, rest)
  | .elements phrases => ∀ ⦃fuel levels : Nat⦄ ⦃items : List Datum⦄, 2 * t.length < fuel →
      Phrase.items? dialect phrases = some items → Phrase.nestingOfAll 1 phrases ≤ levels →
        readElements dialect fuel levels t = .ok (items, rest)
  | .member (name, phrase) => ∀ ⦃fuel levels : Nat⦄ ⦃datum : Datum⦄, 2 * t.length ≤ fuel →
      Delimited rest → Holds dialect name → phrase.datum? dialect = some datum →
        phrase.nesting 1 ≤ levels →
          readMembers dialect (fuel + 1) levels t =
            match skipSpace rest with
            | [] => .error (.malformed .expectedComma 0)
            | c :: after =>
              if c = '\x7d' then .ok ([(.text name, datum)], after)
              else if c = ',' then
                (readMembers dialect fuel levels (skipSpace after)).map fun (others, rest) =>
                  ((.text name, datum) :: others, rest)
              else .error (.malformed .expectedComma (after.length + 1))
  | .members written => ∀ ⦃fuel levels : Nat⦄ ⦃entries : List (Datum × Datum)⦄,
      2 * t.length < fuel → Phrase.entries? dialect written = some entries →
        Phrase.nestingOfMembers 1 written ≤ levels →
          readMembers dialect fuel levels t = .ok (entries, rest)

theorem readFrom_scalar {t rest : Text} {phrase : Phrase} {c : CodePoint} {letters : Text}
    (starts : t = c :: letters) (other : c ≠ '"' ∧ c ≠ '[' ∧ c ≠ '\x7b')
    (reads : ∀ datum, Delimited rest → phrase.datum? dialect = some datum →
      readScalar dialect t = .ok (datum, rest)) :
    Part.ReadFrom dialect t rest (.value phrase) := by
  intro fuel levels datum enough delimited denoted _
  subst starts
  rw [List.length_cons] at enough
  obtain ⟨fuel, rfl⟩ : ∃ less, fuel = less + 1 := Nat.exists_eq_add_of_le' (by omega)
  rw [readValue_scalar other]
  exact reads datum delimited denoted

theorem readScalar_constant (known : dialect.unbounded = true) {word rest : Text}
    {phrase : Phrase} {datum : Datum} (listed : (word, phrase) ∈ constants)
    (denoted : phrase.datum? dialect = some datum) :
    readScalar dialect (word ++ rest) = .ok (datum, rest) := by
  obtain ⟨maxNesting, unbounded, loneSurrogates⟩ := dialect
  cases known
  simp only [constants, List.mem_cons, Prod.mk.injEq, List.not_mem_nil, or_false] at listed
  rcases listed with ⟨rfl, rfl⟩ | ⟨rfl, rfl⟩ | ⟨rfl, rfl⟩
  all_goals
    cases denoted
    rfl

theorem readFrom_constant (known : dialect.unbounded = true) {word rest : Text}
    {phrase : Phrase} (listed : (word, phrase) ∈ constants) :
    Part.ReadFrom dialect (word ++ rest) rest (.value phrase) := by
  have reads (datum : Datum) (_ : Delimited rest) (denoted : phrase.datum? dialect = some datum) :
      readScalar dialect (word ++ rest) = .ok (datum, rest) :=
    readScalar_constant known listed denoted
  simp only [constants, List.mem_cons, Prod.mk.injEq, List.not_mem_nil, or_false] at listed
  rcases listed with ⟨rfl, rfl⟩ | ⟨rfl, rfl⟩ | ⟨rfl, rfl⟩
  all_goals exact readFrom_scalar rfl (by decide) reads

theorem readFrom_number {t rest : Text} {numeral : Numeral} (spelled : Number t numeral rest) :
    Part.ReadFrom dialect t rest (.value (.number numeral)) := by
  obtain ⟨c, more, digit, starts⟩ := spelled.starts
  have reads (datum : Datum) (delimited : Delimited rest)
      (denoted : (Phrase.number numeral).datum? dialect = some datum) :
      readScalar dialect t = .ok (datum, rest) := by
    rw [readScalar_number digit starts, spelled.read delimited]
    rw [Phrase.datum?] at denoted
    cases means : numeral.value dialect with
    | error stop =>
      rw [means] at denoted
      cases denoted
    | ok value =>
      rw [means] at denoted
      cases denoted
      simp only [means]
      rfl
  have other {k : CodePoint} : k.isDigit = false → c ≠ k := ne_of_isDigit digit
  rcases starts with starts | starts
  · exact readFrom_scalar starts ⟨other rfl, other rfl, other rfl⟩ reads
  · exact readFrom_scalar starts (by decide) reads

theorem readFrom_string {t content rest : Text} (quoted : Quoted t content rest) :
    Part.ReadFrom dialect (CodePoint.ofChar '"' :: t) rest (.value (.string content)) := by
  intro fuel levels datum enough _ denoted _
  rw [List.length_cons] at enough
  obtain ⟨fuel, rfl⟩ : ∃ less, fuel = less + 1 := Nat.exists_eq_add_of_le' (by omega)
  rw [Phrase.datum?] at denoted
  split_ifs at denoted with held
  cases denoted
  rw [readValue, if_pos rfl, readString_eq_ok_iff.mpr ⟨quoted, held⟩]
  rfl

/-! #### Containers -/

/-- A container is read from its opening mark on if a level is left for it. -/
theorem readValue_array {fuel levels : Nat} {t inside : Text} {c : CodePoint}
    (skipped : skipSpace t = c :: inside) :
    readValue dialect (fuel + 1) (levels + 1) (CodePoint.ofChar '[' :: t) =
      if c = ']' then .ok (.sequence [], inside)
      else (readElements dialect fuel levels (c :: inside)).map fun (items, after) =>
        (.sequence items, after) := by
  rw [readValue, if_neg (by decide), if_pos rfl, if_neg (Nat.succ_ne_zero levels), skipped]
  rfl

theorem readValue_object {fuel levels : Nat} {t inside : Text} {c : CodePoint}
    (skipped : skipSpace t = c :: inside) :
    readValue dialect (fuel + 1) (levels + 1) (CodePoint.ofChar '\x7b' :: t) =
      if c = '\x7d' then .ok (.mapping [], inside)
      else (readMembers dialect fuel levels (c :: inside)).map fun (entries, after) =>
        (Datum.ofEntries entries, after) := by
  rw [readValue, if_neg (by decide), if_neg (by decide), if_pos rfl,
    if_neg (Nat.succ_ne_zero levels), skipped]
  rfl

theorem readFrom_emptyArray {t rest : Text} (space : Space t (CodePoint.ofChar ']' :: rest)) :
    Part.ReadFrom dialect (CodePoint.ofChar '[' :: t) rest (.value (.array [])) := by
  intro fuel levels datum enough _ denoted shallow
  cases denoted
  rw [List.length_cons] at enough
  rw [Phrase.nesting] at shallow
  obtain ⟨fuel, rfl⟩ : ∃ less, fuel = less + 1 := Nat.exists_eq_add_of_le' (by omega)
  obtain ⟨levels, rfl⟩ : ∃ less, levels = less + 1 := Nat.exists_eq_add_of_le' (by omega)
  rw [readValue_array (space.skip_cons (by decide)), if_pos rfl]

theorem readFrom_emptyObject {t rest : Text} (space : Space t (CodePoint.ofChar '\x7d' :: rest)) :
    Part.ReadFrom dialect (CodePoint.ofChar '\x7b' :: t) rest (.value (.object [])) := by
  intro fuel levels datum enough _ denoted shallow
  cases denoted
  rw [List.length_cons] at enough
  rw [Phrase.nesting] at shallow
  obtain ⟨fuel, rfl⟩ : ∃ less, fuel = less + 1 := Nat.exists_eq_add_of_le' (by omega)
  obtain ⟨levels, rfl⟩ : ∃ less, levels = less + 1 := Nat.exists_eq_add_of_le' (by omega)
  rw [readValue_object (space.skip_cons (by decide)), if_pos rfl]
  rfl

theorem readFrom_array {t inside rest : Text} {elements : List Phrase} (space : Space t inside)
    (derived : Derives dialect.unbounded inside (.elements elements) rest)
    (reads : Part.ReadFrom dialect inside rest (.elements elements)) :
    Part.ReadFrom dialect (CodePoint.ofChar '[' :: t) rest (.value (.array elements)) := by
  intro fuel levels datum enough _ denoted shallow
  -- The opening bracket pays for one unit of fuel and the elements have the rest.
  have shorter := space.length_le
  rw [List.length_cons] at enough
  rw [Phrase.nesting] at shallow
  obtain ⟨fuel, rfl⟩ : ∃ less, fuel = less + 1 := Nat.exists_eq_add_of_le' (by omega)
  obtain ⟨levels, rfl⟩ : ∃ less, levels = less + 1 := Nat.exists_eq_add_of_le' (by omega)
  obtain ⟨items, each, rfl⟩ := Option.map_eq_some_iff.mp denoted
  have read := reads (by omega : 2 * inside.length < fuel) each (Nat.le_of_succ_le_succ shallow)
  have skipped := space.skip_derives derived
  obtain ⟨c, more, rfl, _, unclosed, _⟩ := derived.starts
  rw [readValue_array skipped, if_neg unclosed, read]
  rfl

theorem readFrom_object {t inside rest : Text} {members : List (Text × Phrase)}
    (space : Space t inside)
    (derived : Derives dialect.unbounded inside (.members members) rest)
    (reads : Part.ReadFrom dialect inside rest (.members members)) :
    Part.ReadFrom dialect (CodePoint.ofChar '\x7b' :: t) rest (.value (.object members)) := by
  intro fuel levels datum enough _ denoted shallow
  have shorter := space.length_le
  rw [List.length_cons] at enough
  rw [Phrase.nesting] at shallow
  obtain ⟨fuel, rfl⟩ : ∃ less, fuel = less + 1 := Nat.exists_eq_add_of_le' (by omega)
  obtain ⟨levels, rfl⟩ : ∃ less, levels = less + 1 := Nat.exists_eq_add_of_le' (by omega)
  obtain ⟨entries, each, rfl⟩ := Option.map_eq_some_iff.mp denoted
  have read := reads (by omega : 2 * inside.length < fuel) each (Nat.le_of_succ_le_succ shallow)
  have skipped := space.skip_derives derived
  obtain ⟨c, more, rfl, _, _, unclosed, _⟩ := derived.starts
  rw [readValue_object skipped, if_neg unclosed, read]
  rfl

theorem readFrom_lastElement {t behind rest : Text} {element : Phrase}
    (close : Space behind (CodePoint.ofChar ']' :: rest))
    (reads : Part.ReadFrom dialect t behind (.value element)) :
    Part.ReadFrom dialect t rest (.elements [element]) := by
  intro fuel levels items enough denoted shallow
  obtain ⟨fuel, rfl⟩ : ∃ less, fuel = less + 1 := Nat.exists_eq_add_of_le' (by omega)
  obtain ⟨item, others, known, later, rfl⟩ := Phrase.items?_cons_eq_some_iff.mp denoted
  cases later
  have first := reads (by omega : 2 * t.length ≤ fuel) (close.delimited (.inr (.inl rfl))) known
    (le_trans (le_max_left _ _) shallow)
  have closed : isSpace (CodePoint.ofChar ']') = false := rfl
  rw [readElements, first]
  simp only [close.skip_cons closed]
  rfl

theorem readFrom_nextElement {t behind gap next rest : Text} {element : Phrase}
    {others : List Phrase} (first : Derives dialect.unbounded t (.value element) behind)
    (comma : Space behind (CodePoint.ofChar ',' :: gap)) (space : Space gap next)
    (more : Derives dialect.unbounded next (.elements others) rest)
    (reads : Part.ReadFrom dialect t behind (.value element))
    (later : Part.ReadFrom dialect next rest (.elements others)) :
    Part.ReadFrom dialect t rest (.elements (element :: others)) := by
  intro fuel levels items enough denoted shallow
  obtain ⟨fuel, rfl⟩ : ∃ less, fuel = less + 1 := Nat.exists_eq_add_of_le' (by omega)
  obtain ⟨item, items, known, each, rfl⟩ := Phrase.items?_cons_eq_some_iff.mp denoted
  -- The comma makes the text of the other elements shorter than the whole one.
  have afterFirst := first.length_le
  have afterComma := comma.length_le
  have afterSpace := space.length_le
  rw [List.length_cons] at afterComma
  have head := reads (by omega : 2 * t.length ≤ fuel) (comma.delimited (.inl rfl)) known
    (le_trans (le_max_left _ _) shallow)
  have tail := later (by omega : 2 * next.length < fuel) each
    (le_trans (le_max_right _ _) shallow)
  have continued : isSpace (CodePoint.ofChar ',') = false := rfl
  rw [readElements, head]
  simp only [comma.skip_cons continued, space.skip_derives more, tail]
  rfl

theorem readFrom_member {t name behind gap next rest : Text} {phrase : Phrase}
    (quoted : Quoted t name behind) (colon : Space behind (CodePoint.ofChar ':' :: gap))
    (space : Space gap next) (value : Derives dialect.unbounded next (.value phrase) rest)
    (reads : Part.ReadFrom dialect next rest (.value phrase)) :
    Part.ReadFrom dialect (CodePoint.ofChar '"' :: t) rest (.member (name, phrase)) := by
  intro fuel levels datum enough delimited held denoted shallow
  have afterName := quoted.suffix.length_le
  have afterColon := colon.length_le
  have afterSpace := space.length_le
  rw [List.length_cons] at afterColon enough
  have read := reads (by omega : 2 * next.length ≤ fuel) delimited denoted shallow
  have mark : isSpace (CodePoint.ofChar ':') = false := rfl
  rw [readMembers, if_neg (fun other => other rfl), readString_eq_ok_iff.mpr ⟨quoted, held⟩]
  simp only [colon.skip_cons mark]
  rw [if_neg (fun other => other rfl), space.skip_derives value]
  exact read ▸ rfl

theorem readFrom_lastMember {t behind rest : Text} {member : Text × Phrase}
    (close : Space behind (CodePoint.ofChar '\x7d' :: rest))
    (reads : Part.ReadFrom dialect t behind (.member member)) :
    Part.ReadFrom dialect t rest (.members [member]) := by
  intro fuel levels entries enough denoted shallow
  obtain ⟨fuel, rfl⟩ : ∃ less, fuel = less + 1 := Nat.exists_eq_add_of_le' (by omega)
  obtain ⟨datum, others, held, known, later, rfl⟩ := Phrase.entries?_cons_eq_some_iff.mp denoted
  cases later
  have first := reads (by omega : 2 * t.length ≤ fuel) (close.delimited (.inr (.inr rfl))) held
    known (le_trans (le_max_left _ _) shallow)
  rw [first, close.skip_cons (by decide)]
  rfl

theorem readFrom_nextMember {t behind gap next rest : Text} {member : Text × Phrase}
    {others : List (Text × Phrase)} (first : Derives dialect.unbounded t (.member member) behind)
    (comma : Space behind (CodePoint.ofChar ',' :: gap)) (space : Space gap next)
    (more : Derives dialect.unbounded next (.members others) rest)
    (reads : Part.ReadFrom dialect t behind (.member member))
    (later : Part.ReadFrom dialect next rest (.members others)) :
    Part.ReadFrom dialect t rest (.members (member :: others)) := by
  intro fuel levels entries enough denoted shallow
  obtain ⟨fuel, rfl⟩ : ∃ less, fuel = less + 1 := Nat.exists_eq_add_of_le' (by omega)
  obtain ⟨datum, entries, held, known, each, rfl⟩ := Phrase.entries?_cons_eq_some_iff.mp denoted
  -- As with elements, the comma makes the text of the others shorter.
  have afterFirst := first.length_le
  have afterComma := comma.length_le
  have afterSpace := space.length_le
  rw [List.length_cons] at afterComma
  have head := reads (by omega : 2 * t.length ≤ fuel) (comma.delimited (.inl rfl)) held known
    (le_trans (le_max_left _ _) shallow)
  have tail := later (by omega : 2 * next.length < fuel) each
    (le_trans (le_max_right _ _) shallow)
  rw [head, comma.skip_cons (by decide)]
  simp only [space.skip_derives more, tail]
  rfl

/-- Whatever derives is read, if it denotes a datum and is not nested too deeply. -/
theorem Grammar.Derives.readFrom {t rest : Text} {part : Part}
    (derived : Derives dialect.unbounded t part rest) : part.ReadFrom dialect t rest := by
  induction derived with
  | null | yes | no =>
    refine readFrom_scalar rfl (by decide) fun datum _ denoted => ?_
    cases denoted
    rfl
  | constant known listed => exact readFrom_constant known listed
  | number spelled => exact readFrom_number spelled
  | string quoted => exact readFrom_string quoted
  | emptyArray space => exact readFrom_emptyArray space
  | emptyObject space => exact readFrom_emptyObject space
  | array space derived ih => exact readFrom_array space derived ih
  | object space derived ih => exact readFrom_object space derived ih
  | lastElement _ close ih => exact readFrom_lastElement close ih
  | nextElement first comma space more ih later =>
    exact readFrom_nextElement first comma space more ih later
  | member quoted colon space value ih => exact readFrom_member quoted colon space value ih
  | lastMember _ close ih => exact readFrom_lastMember close ih
  | nextMember first comma space more ih later =>
    exact readFrom_nextMember first comma space more ih later

end Complete

/-! ### Whole texts -/

variable {dialect : Dialect} {t : Text} {datum : Datum}

theorem readText_eq_ok_iff :
    readText dialect t = .ok datum ↔
      ∃ phrase, Writes dialect.unbounded t phrase ∧ phrase.datum? dialect = some datum ∧
        phrase.nesting 1 ≤ dialect.maxNesting := by
  rw [readText.eq_def]
  constructor
  · intro read
    split at read
    · cases read
    next rest valueRead =>
      obtain ⟨phrase, derived, denoted, shallow⟩ := (sound dialect _).value valueRead
      have space := space_skipSpace rest
      split at read
      next ended =>
        cases read
        rw [ended] at space
        exact ⟨phrase, ⟨_, _, space_skipSpace t, derived, space⟩, denoted, shallow⟩
      · cases read
  · rintro ⟨phrase, ⟨inside, behind, lead, derived, ⟨blank, tail, equal⟩⟩, denoted, shallow⟩
    rw [List.append_nil] at equal
    subst equal
    -- Space in front only makes the value shorter, so the fuel for the whole text is enough.
    have shorter := lead.length_le
    have read := derived.readFrom (by omega : 2 * inside.length ≤ 2 * t.length + 2)
      (delimited_blank tail) denoted shallow
    have ended : skipSpace behind = [] := List.dropWhile_eq_nil_iff.mpr tail
    rw [lead.skip_derives derived, read]
    simp only [ended]

/-- A text that starts with a byte-order mark derives nothing. -/
theorem Grammar.Writes.unmarked {unbounded : Bool} {phrase : Phrase}
    (writes : Writes unbounded t phrase) : t.head? ≠ some (.ofNat 0xFEFF) := by
  obtain ⟨inside, behind, ⟨blank, each, rfl⟩, derived, _⟩ := writes
  intro marked
  -- The mark is neither space nor the start of a part.
  cases blank with
  | nil =>
    obtain ⟨c, more, rfl, _, _, _, unmarked⟩ := derived.starts
    exact unmarked (Option.some.inj marked)
  | cons c blank =>
    have space := each c List.mem_cons_self
    rw [Option.some.inj marked] at space
    exact absurd space (by decide)

/-- A decoder hands over a datum exactly if the text is derived by a phrase that denotes the datum
and is not nested too deeply. -/
theorem decode_eq_ok_iff :
    decode dialect t = .ok datum ↔
      ∃ phrase, Writes dialect.unbounded t phrase ∧ phrase.datum? dialect = some datum ∧
        phrase.nesting 1 ≤ dialect.maxNesting := by
  rw [← readText_eq_ok_iff, decode]
  split_ifs with marked
  · refine ⟨nofun, fun read => ?_⟩
    obtain ⟨phrase, writes, _⟩ := readText_eq_ok_iff.mp read
    exact absurd marked writes.unmarked
  · exact mapError_eq_ok_iff

end Conformance.Json
