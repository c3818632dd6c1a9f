import Conformance.Proofs.Json.Derivation

/-!
# The grammar is unambiguous

A text writes one phrase at most. The first code point of a value tells which production it comes
from. Within a production the lexemes are those that the readers take, and where parts follow each
other a mark stands between them that can belong to neither. Only a number could be cut short and
still be a number, so a value is determined by what does not go on with a number behind it.
-/
namespace Conformance.Json

open Grammar

variable {t rest rest' : Text}

/-! ### Lexemes -/

/-- Space ends where something else begins. -/
theorem Grammar.Space.cons_unique {c d : CodePoint} (first : Space t (c :: rest))
    (second : Space t (d :: rest')) (solid : isSpace c = false) (solid' : isSpace d = false) :
    c = d ∧ rest = rest' :=
  List.cons.inj ((first.skip_cons solid).symm.trans (second.skip_cons solid'))

theorem Grammar.Space.unique {unbounded : Bool} {part part' : Part} {behind behind' : Text}
    (first : Space t rest) (second : Space t rest') (derived : Derives unbounded rest part behind)
    (derived' : Derives unbounded rest' part' behind') : rest = rest' :=
  (first.skip_derives derived).symm.trans (second.skip_derives derived')

/-- A numeral is as long as it can be. -/
theorem Grammar.Number.unique {n m : Numeral} (first : Number t n rest)
    (second : Number t m rest') (ends : Delimited rest) (ends' : Delimited rest') :
    n = m ∧ rest = rest' := by
  have same := (first.read ends).symm.trans (second.read ends')
  exact Prod.mk.inj (Option.some.inj same)

theorem Grammar.Quoted.unique {content content' : Text} (first : Quoted t content rest)
    (second : Quoted t content' rest') : content = content' ∧ rest = rest' := by
  -- The reader of a dialect whose strings may hold anything is a function of the text.
  have read {content rest : Text} (quoted : Quoted t content rest) :
      readString .document 0 t = .ok (content, rest) :=
    readString_eq_ok_iff.mpr ⟨quoted, .inl rfl⟩
  exact Prod.mk.inj (Except.ok.inj ((read first).symm.trans (read second)))

/-! ### Which production a value comes from -/

/-- The forms of values. -/
inductive Form where
  | null | yes | no | number | string | array | object
deriving DecidableEq

def Phrase.form : Phrase → Form
  | .null => .null
  | .boolean value => if value then .yes else .no
  | .number _ | .notNumber | .infinite _ => .number
  | .string _ => .string
  | .array _ => .array
  | .object _ => .object

section Form

variable {phrase : Phrase}

theorem Phrase.eq_null_of_form (form : phrase.form = .null) : phrase = .null := by
  cases phrase with
  | null => rfl
  | boolean value => cases value <;> cases form
  | _ => cases form

theorem Phrase.eq_yes_of_form (form : phrase.form = .yes) : phrase = .boolean true := by
  cases phrase with
  | boolean value =>
    cases value with
    | true => rfl
    | false => cases form
  | _ => cases form

theorem Phrase.eq_no_of_form (form : phrase.form = .no) : phrase = .boolean false := by
  cases phrase with
  | boolean value =>
    cases value with
    | true => cases form
    | false => rfl
  | _ => cases form

theorem Phrase.exists_string_of_form (form : phrase.form = .string) :
    ∃ content, phrase = .string content := by
  cases phrase with
  | string content => exact ⟨content, rfl⟩
  | boolean value => cases value <;> cases form
  | _ => cases form

theorem Phrase.exists_array_of_form (form : phrase.form = .array) :
    ∃ elements, phrase = .array elements := by
  cases phrase with
  | array elements => exact ⟨elements, rfl⟩
  | boolean value => cases value <;> cases form
  | _ => cases form

theorem Phrase.exists_object_of_form (form : phrase.form = .object) :
    ∃ members, phrase = .object members := by
  cases phrase with
  | object members => exact ⟨members, rfl⟩
  | boolean value => cases value <;> cases form
  | _ => cases form

end Form

/-- The form of values that start with a code point. -/
def Form.startingWith (c : CodePoint) : Form :=
  if c = 'n' then .null
  else if c = 't' then .yes
  else if c = 'f' then .no
  else if c = '"' then .string
  else if c = '[' then .array
  else if c = '\x7b' then .object
  else .number

theorem Form.startingWith_digit {c : CodePoint} (digit : c.isDigit = true) :
    Form.startingWith c = .number := by
  have other {k : CodePoint} : k.isDigit = false → c ≠ k := ne_of_isDigit digit
  rw [startingWith, if_neg (other rfl), if_neg (other rfl), if_neg (other rfl),
    if_neg (other rfl), if_neg (other rfl), if_neg (other rfl)]

theorem Grammar.Derives.starts_form {phrase : Phrase}
    (derived : Derives false t (.value phrase) rest) :
    ∃ c more, t = c :: more ∧ phrase.form = Form.startingWith c := by
  cases derived with
  | null | yes | no => exact ⟨_, _, rfl, rfl⟩
  | constant known _ => cases known
  | number spelled =>
    obtain ⟨c, more, digit, rfl | rfl⟩ := spelled.starts
    · exact ⟨_, _, rfl, (Form.startingWith_digit digit).symm⟩
    · exact ⟨_, _, rfl, rfl⟩
  | string _ | emptyArray _ | array _ _ | emptyObject _ | object _ _ => exact ⟨_, _, rfl, rfl⟩

/-- Values of one text have one form. -/
theorem Grammar.Derives.form_eq {phrase phrase' : Phrase}
    (first : Derives false t (.value phrase) rest)
    (second : Derives false t (.value phrase') rest') : phrase.form = phrase'.form := by
  obtain ⟨c, more, rfl, form⟩ := first.starts_form
  obtain ⟨d, _, same, form'⟩ := second.starts_form
  rw [form, form', (List.cons.inj same).1]

section Inversion

variable {unbounded : Bool}

theorem Grammar.Derives.of_string {content : Text}
    (derived : Derives unbounded t (.value (.string content)) rest) :
    ∃ inside, t = CodePoint.ofChar '"' :: inside ∧ Quoted inside content rest := by
  cases derived with
  | constant _ listed => simp [constants] at listed
  | string quoted => exact ⟨_, rfl, quoted⟩

theorem Grammar.Derives.of_array {elements : List Phrase}
    (derived : Derives unbounded t (.value (.array elements)) rest) :
    ∃ inside, t = CodePoint.ofChar '[' :: inside ∧
      (elements = [] ∧ Space inside (CodePoint.ofChar ']' :: rest) ∨
        ∃ start, Space inside start ∧ Derives unbounded start (.elements elements) rest) := by
  cases derived with
  | constant _ listed => simp [constants] at listed
  | emptyArray space => exact ⟨_, rfl, .inl ⟨rfl, space⟩⟩
  | array space derived => exact ⟨_, rfl, .inr ⟨_, space, derived⟩⟩

theorem Grammar.Derives.of_object {members : List (Text × Phrase)}
    (derived : Derives unbounded t (.value (.object members)) rest) :
    ∃ inside, t = CodePoint.ofChar '\x7b' :: inside ∧
      (members = [] ∧ Space inside (CodePoint.ofChar '\x7d' :: rest) ∨
        ∃ start, Space inside start ∧ Derives unbounded start (.members members) rest) := by
  cases derived with
  | constant _ listed => simp [constants] at listed
  | emptyObject space => exact ⟨_, rfl, .inl ⟨rfl, space⟩⟩
  | object space derived => exact ⟨_, rfl, .inr ⟨_, space, derived⟩⟩

/-- Behind the first element stands a mark that tells whether there are more. -/
theorem Grammar.Derives.of_elements {elements : List Phrase}
    (derived : Derives unbounded t (.elements elements) rest) :
    ∃ element behind c after, Derives unbounded t (.value element) behind ∧
      Space behind (c :: after) ∧
      (c = ']' ∧ elements = [element] ∧ rest = after ∨
        c = ',' ∧ ∃ next others, Space after next ∧
          Derives unbounded next (.elements others) rest ∧ elements = element :: others) := by
  cases derived with
  | lastElement first close =>
    exact ⟨_, _, _, _, first, close, .inl ⟨rfl, rfl, rfl⟩⟩
  | nextElement first comma space more =>
    exact ⟨_, _, _, _, first, comma, .inr ⟨rfl, _, _, space, more, rfl⟩⟩

theorem Grammar.Derives.of_member {member : Text × Phrase}
    (derived : Derives unbounded t (.member member) rest) :
    ∃ inside behind gap next, t = CodePoint.ofChar '"' :: inside ∧
      Quoted inside member.1 behind ∧ Space behind (CodePoint.ofChar ':' :: gap) ∧
      Space gap next ∧ Derives unbounded next (.value member.2) rest := by
  cases derived with
  | member quoted colon space value => exact ⟨_, _, _, _, rfl, quoted, colon, space, value⟩

theorem Grammar.Derives.of_members {members : List (Text × Phrase)}
    (derived : Derives unbounded t (.members members) rest) :
    ∃ member behind c after, Derives unbounded t (.member member) behind ∧
      Space behind (c :: after) ∧
      (c = '\x7d' ∧ members = [member] ∧ rest = after ∨
        c = ',' ∧ ∃ next others, Space after next ∧
          Derives unbounded next (.members others) rest ∧ members = member :: others) := by
  cases derived with
  | lastMember first close =>
    exact ⟨_, _, _, _, first, close, .inl ⟨rfl, rfl, rfl⟩⟩
  | nextMember first comma space more =>
    exact ⟨_, _, _, _, first, comma, .inr ⟨rfl, _, _, space, more, rfl⟩⟩

end Inversion

/-! ### Parts -/

/-- No other part of the sort stands at the beginning of the text. Elements and members end with
their bracket or brace; a value, and so a member, must not be followed by more of a number. -/
def Grammar.Part.Unique (t rest : Text) : Part → Prop
  | .value phrase => ∀ ⦃phrase' rest'⦄, Derives false t (.value phrase') rest' →
      Delimited rest → Delimited rest' → phrase = phrase' ∧ rest = rest'
  | .elements phrases => ∀ ⦃phrases' rest'⦄, Derives false t (.elements phrases') rest' →
      phrases = phrases' ∧ rest = rest'
  | .member written => ∀ ⦃written' rest'⦄, Derives false t (.member written') rest' →
      Delimited rest → Delimited rest' → written = written' ∧ rest = rest'
  | .members written => ∀ ⦃written' rest'⦄, Derives false t (.members written') rest' →
      written = written' ∧ rest = rest'

/-- A word is alone with its form, and is spelled in one way. -/
theorem unique_word {word : Text} {phrase : Phrase}
    (derived : Derives false (word ++ rest) (.value phrase) rest)
    (alone : ∀ {phrase' : Phrase}, phrase'.form = phrase.form → phrase' = phrase)
    (spelled : ∀ {t rest}, Derives false t (.value phrase) rest → t = word ++ rest) :
    Part.Unique (word ++ rest) rest (.value phrase) := by
  intro phrase' rest' other _ _
  obtain rfl := alone (derived.form_eq other).symm
  exact ⟨rfl, List.append_cancel_left (spelled other)⟩

theorem unique_number {n : Numeral} (spelled : Number t n rest) :
    Part.Unique t rest (.value (.number n)) := by
  intro phrase' rest' other ends ends'
  have form := (Derives.number spelled).form_eq other
  cases other with
  | number spelled' =>
    obtain ⟨rfl, same⟩ := spelled.unique spelled' ends ends'
    exact ⟨rfl, same⟩
  | constant known _ => cases known
  | _ => cases form

theorem unique_string {content : Text} (quoted : Quoted t content rest) :
    Part.Unique (CodePoint.ofChar '"' :: t) rest (.value (.string content)) := by
  intro phrase' rest' other _ _
  obtain ⟨content', rfl⟩ :=
    Phrase.exists_string_of_form ((Derives.string quoted).form_eq other).symm
  obtain ⟨_, same, quoted'⟩ := other.of_string
  cases same
  obtain ⟨rfl, same⟩ := quoted.unique quoted'
  exact ⟨rfl, same⟩

/-- Where a container is closed no part begins. -/
theorem not_begun_of_closed {closing : CodePoint} {start behind : Text} {part : Part}
    (closed : Space t (closing :: rest)) (closes : closing = ']' ∨ closing = '\x7d')
    (begun : Space t start) (derived : Derives false start part behind) : False := by
  obtain ⟨c, more, rfl, solid, bracket, brace, _⟩ := derived.starts
  have solid' : isSpace closing = false := by rcases closes with rfl | rfl <;> decide
  obtain ⟨rfl, _⟩ := closed.cons_unique begun solid' solid
  rcases closes with same | same
  · exact bracket same
  · exact brace same

/-- Behind a part that is unique stands one mark. -/
theorem mark_unique {c d : CodePoint} {after after' : Text} (first : Space t (c :: after))
    (second : Space t (d :: after')) (mark : c = ',' ∨ c = ']' ∨ c = '\x7d')
    (mark' : d = ',' ∨ d = ']' ∨ d = '\x7d') : c = d ∧ after = after' := by
  have solid {c : CodePoint} (mark : c = ',' ∨ c = ']' ∨ c = '\x7d') : isSpace c = false := by
    rcases mark with rfl | rfl | rfl <;> decide
  exact first.cons_unique second (solid mark) (solid mark')

theorem item_unique {α : Type} {item item' : α} {behind behind' after after' : Text}
    {c d : CodePoint} (unique : Delimited behind → Delimited behind' →
      item = item' ∧ behind = behind') (first : Space behind (c :: after))
    (second : Space behind' (d :: after')) (mark : c = ',' ∨ c = ']' ∨ c = '\x7d')
    (mark' : d = ',' ∨ d = ']' ∨ d = '\x7d') : item = item' ∧ c = d ∧ after = after' := by
  obtain ⟨same, rfl⟩ := unique (first.delimited mark) (second.delimited mark')
  exact ⟨same, mark_unique first second mark mark'⟩

/-- A part of a text is determined by what follows it. -/
theorem Grammar.Derives.unique {part : Part} (derived : Derives false t part rest) :
    part.Unique t rest := by
  -- The second derivation is taken apart along the first one, which the induction is on.
  induction derived with
  | null =>
    refine unique_word .null Phrase.eq_null_of_form fun other => ?_
    cases other with
    | null => rfl
    | constant known _ => cases known
  | yes =>
    refine unique_word .yes Phrase.eq_yes_of_form fun other => ?_
    cases other with
    | yes => rfl
    | constant known _ => cases known
  | no =>
    refine unique_word .no Phrase.eq_no_of_form fun other => ?_
    cases other with
    | no => rfl
    | constant known _ => cases known
  | constant known _ => cases known
  | number spelled => exact unique_number spelled
  | string quoted => exact unique_string quoted
  | emptyArray space =>
    intro phrase' rest' other _ _
    obtain ⟨elements', rfl⟩ :=
      Phrase.exists_array_of_form ((Derives.emptyArray space).form_eq other).symm
    obtain ⟨_, same, ⟨rfl, space'⟩ | ⟨_, begun, within⟩⟩ := other.of_array
    · cases same
      exact ⟨rfl, (mark_unique space space' (.inr (.inl rfl)) (.inr (.inl rfl))).2⟩
    · cases same
      exact (not_begun_of_closed space (.inl rfl) begun within).elim
  | array space derived ih =>
    intro phrase' rest' other _ _
    obtain ⟨elements', rfl⟩ :=
      Phrase.exists_array_of_form ((Derives.array space derived).form_eq other).symm
    obtain ⟨_, same, ⟨rfl, closed⟩ | ⟨_, begun, within⟩⟩ := other.of_array
    · cases same
      exact (not_begun_of_closed closed (.inl rfl) space derived).elim
    · cases same
      obtain rfl := space.unique begun derived within
      obtain ⟨rfl, same⟩ := ih within
      exact ⟨rfl, same⟩
  | emptyObject space =>
    intro phrase' rest' other _ _
    obtain ⟨members', rfl⟩ :=
      Phrase.exists_object_of_form ((Derives.emptyObject space).form_eq other).symm
    obtain ⟨_, same, ⟨rfl, space'⟩ | ⟨_, begun, within⟩⟩ := other.of_object
    · cases same
      exact ⟨rfl, (mark_unique space space' (.inr (.inr rfl)) (.inr (.inr rfl))).2⟩
    · cases same
      exact (not_begun_of_closed space (.inr rfl) begun within).elim
  | object space derived ih =>
    intro phrase' rest' other _ _
    obtain ⟨members', rfl⟩ :=
      Phrase.exists_object_of_form ((Derives.object space derived).form_eq other).symm
    obtain ⟨_, same, ⟨rfl, closed⟩ | ⟨_, begun, within⟩⟩ := other.of_object
    · cases same
      exact (not_begun_of_closed closed (.inr rfl) space derived).elim
    · cases same
      obtain rfl := space.unique begun derived within
      obtain ⟨rfl, same⟩ := ih within
      exact ⟨rfl, same⟩
  | lastElement first close ih =>
    intro elements' rest' other
    obtain ⟨element', _, c, after, first', mark, ends⟩ := other.of_elements
    rcases ends with ⟨rfl, rfl, rfl⟩ | ⟨rfl, _⟩
    · obtain ⟨rfl, _, same⟩ :=
        item_unique (ih first') close mark (.inr (.inl rfl)) (.inr (.inl rfl))
      exact ⟨rfl, same⟩
    · have marks := (item_unique (ih first') close mark (.inr (.inl rfl)) (.inl rfl)).2.1
      exact absurd marks (by decide)
  | nextElement first comma space more ih later =>
    intro elements' rest' other
    obtain ⟨element', _, c, after, first', mark, ends⟩ := other.of_elements
    rcases ends with ⟨rfl, _⟩ | ⟨rfl, next', others', space', more', rfl⟩
    · have marks := (item_unique (ih first') comma mark (.inl rfl) (.inr (.inl rfl))).2.1
      exact absurd marks (by decide)
    · obtain ⟨rfl, _, rfl⟩ := item_unique (ih first') comma mark (.inl rfl) (.inl rfl)
      obtain rfl := space.unique space' more more'
      obtain ⟨rfl, same⟩ := later more'
      exact ⟨rfl, same⟩
  | member quoted colon space value ih =>
    intro written' rest' other ends ends'
    obtain ⟨_, _, _, _, same, quoted', colon', space', value'⟩ := other.of_member
    cases same
    obtain ⟨name, rfl⟩ := quoted.unique quoted'
    obtain ⟨_, rfl⟩ := colon.cons_unique colon' (by decide) (by decide)
    obtain rfl := space.unique space' value value'
    obtain ⟨phrase, same⟩ := ih value' ends ends'
    exact ⟨Prod.ext name phrase, same⟩
  | lastMember first close ih =>
    intro written' rest' other
    obtain ⟨member', _, c, after, first', mark, ends⟩ := other.of_members
    rcases ends with ⟨rfl, rfl, rfl⟩ | ⟨rfl, _⟩
    · obtain ⟨rfl, _, same⟩ :=
        item_unique (ih first') close mark (.inr (.inr rfl)) (.inr (.inr rfl))
      exact ⟨rfl, same⟩
    · have marks := (item_unique (ih first') close mark (.inr (.inr rfl)) (.inl rfl)).2.1
      exact absurd marks (by decide)
  | nextMember first comma space more ih later =>
    intro written' rest' other
    obtain ⟨member', _, c, after, first', mark, ends⟩ := other.of_members
    rcases ends with ⟨rfl, _⟩ | ⟨rfl, next', others', space', more', rfl⟩
    · have marks := (item_unique (ih first') comma mark (.inl rfl) (.inr (.inr rfl))).2.1
      exact absurd marks (by decide)
    · obtain ⟨rfl, _, rfl⟩ := item_unique (ih first') comma mark (.inl rfl) (.inl rfl)
      obtain rfl := space.unique space' more more'
      obtain ⟨rfl, same⟩ := later more'
      exact ⟨rfl, same⟩

/-- A text writes one phrase at most. -/
theorem Grammar.Writes.unique {phrase phrase' : Phrase} (first : Writes false t phrase)
    (second : Writes false t phrase') : phrase = phrase' := by
  obtain ⟨inside, behind, space, derived, ⟨blank, each, equal⟩⟩ := first
  obtain ⟨inside', behind', space', derived', ⟨blank', each', equal'⟩⟩ := second
  rw [List.append_nil] at equal equal'
  subst equal equal'
  obtain rfl := space.unique space' derived derived'
  exact (derived.unique derived' (delimited_blank each) (delimited_blank each')).1

end Conformance.Json
