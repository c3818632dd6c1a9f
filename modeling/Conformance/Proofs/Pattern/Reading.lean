import Conformance.Pattern.Parse
import Conformance.Proofs.Pattern.Lexemes

/-!
# Patterns as they are read

A text that the grammar derives is read to a regular tree with the language of the derivation,
unless it is refused. The reader handles an atom and the counts behind it in two turns, and the
branches behind a bar apart from the first one, so what is said of a part is told in the way the
reader meets it. What the reader notes of groups, their numbers, names and widths, is not looked at
where there are no references.
-/
namespace Conformance.Pattern

open Grammar Reader

variable {size : Nat} {t behind rest : Text}

/-! ### How groups begin and end -/

theorem gives_nextOfConstruct {c : CodePoint} (ordinary : c ≠ '\\') :
    Gives size nextOfConstruct (c :: t) (· = .plain c) t := by
  apply (gives_next_plain ordinary).then
  exact gives_pure rfl

theorem gives_readGroupName {closing : CodePoint} {name : Text} (ordinary : closing ≠ '\\')
    (free : ∀ c ∈ name, c ≠ closing ∧ c ≠ '\\') :
    Gives size (readGroupName closing) (name ++ closing :: rest) (· = name) rest := by
  apply (gives_takeName "group name" ordinary free).then
  split
  · exact gives_pure rfl
  · exact gives_failBack _ _

theorem gives_readOpening (opened : Opened t rest) (start : Nat) :
    Gives size (readOpening start) t (fun o => o = .plain ∨ ∃ name, o = .capture name) rest := by
  cases opened with
  | capture other =>
    apply (gives_accept_other other).then
    exact gives_pure (.inr ⟨none, rfl⟩)
  | plain =>
    apply (gives_accept (by decide)).then
    apply (gives_nextOfConstruct (by decide)).then
    exact gives_pure (.inl rfl)
  | @named t name _ spelled =>
    apply (gives_accept (by decide)).then
    apply (gives_nextOfConstruct (by decide)).then
    apply (gives_accept (by decide)).then
    rw [if_pos rfl, spelled.text]
    apply (gives_readGroupName (by decide) spelled.free).then
    exact gives_pure (.inr ⟨some name, rfl⟩)

theorem gives_openGroup (name : Option Text) : Gives size (openGroup name) t (fun _ => True) t := by
  apply gives_get
  intro s _
  have opened (change : Scan → Scan) (kept : ∀ s, s.At size t → (change s).At size t) :
      Gives size (do modify change; pure s.nextGroup) t (fun _ => True) t :=
    (gives_modify kept).bind fun _ _ => gives_pure trivial
  -- Only what is noted of groups changes, unless the name is taken.
  cases name with
  | none => exact opened _ fun s place => ⟨place.size, place.rest, place.flags⟩
  | some name =>
    dsimp only
    split
    · exact gives_failBack_bind _ _
    · exact opened _ fun s place => ⟨place.size, place.rest, place.flags⟩

theorem gives_closeGroup (group : Nat) (body : Regex) :
    Gives size (closeGroup group body) t (fun _ => True) t := by
  apply gives_get
  intro s _
  exact gives_modify fun s place => ⟨place.size, place.rest, place.flags⟩

theorem gives_close (start : Nat) :
    Gives size (close start) (CodePoint.ofChar ')' :: t) (fun _ => True) t := by
  apply (gives_accept (by decide)).then
  exact gives_pure trivial

/-! ### Leaves -/

/-- A token comes next, and this is left behind it. -/
structure Comes (size : Nat) (token : Token) (t behind : Text) : Prop where
  peek : Gives size peek t (· = some token) t
  next : Gives size next t (· = some token) behind

theorem comes_plain {c : CodePoint} (ordinary : c ≠ '\\') : Comes size (.plain c) (c :: t) t :=
  ⟨gives_peek_plain ordinary, gives_next_plain ordinary⟩

theorem comes_escape {c : CodePoint} :
    Comes size (.escape c) (CodePoint.ofChar '\\' :: c :: t) t :=
  ⟨gives_peek_escape, gives_next_escape⟩

theorem means_single (c : CodePoint) : Means (.unit (.single .exact false c)) (oneOf (· = c)) := by
  refine ⟨rfl, (Regex.language_listed _).trans (oneOf_congr fun x => ?_)⟩
  simp [Listed, SetItem.holds]

theorem means_anyPoint : Means (.unit (anyPoint {})) (oneOf (· ≠ CodePoint.ofChar '\n')) := by
  refine ⟨rfl, (Regex.language_unlisted _).trans (oneOf_congr fun x => ?_)⟩
  simp [Listed, SetItem.holds]

/-- The token of an atom that is no group, and how it is read. -/
structure Leaf (size : Nat) (t : Text) (L : Language CodePoint) (token : Token)
    (behind rest : Text) : Prop where
  comes : Comes size token t behind
  inner : token ≠ .plain '|' ∧ token ≠ .plain ')' ∧ token ≠ .plain '('
  once : Gives size (readCounts? token) behind (· = none) behind
  read : Gives size (readLeaf {} token) behind (fun tree => Means tree L) rest

theorem leaf_literal {c : CodePoint} (ordinary : c ∉ special) :
    Leaf size (c :: rest) (oneOf (· = c)) (.plain c) rest rest := by
  have ne (x : CodePoint) (among : x ∈ special) : c ≠ x := by
    rintro rfl
    exact ordinary among
  constructor
  · exact comes_plain (ne '\\' (by decide))
  · simp [ne '|' (by decide), ne ')' (by decide), ne '(' (by decide)]
  · rw [readCounts?, if_neg (ne '?' (by decide)), if_neg (ne '*' (by decide)),
      if_neg (ne '+' (by decide)), if_neg (ne '\x7b' (by decide))]
    exact gives_pure rfl
  · rw [readLeaf, if_neg (ne '[' (by decide)), if_neg (ne '.' (by decide)),
      if_neg (ne '^' (by decide)), if_neg (ne '$' (by decide))]
    exact gives_pure (means_single c)

theorem leaf_escape {letter : CodePoint} {L : Language CodePoint}
    (read : Gives size (readEscape {} letter) behind (fun tree => Means tree L) rest) :
    Leaf size (CodePoint.ofChar '\\' :: letter :: behind) L (.escape letter) behind rest where
  comes := comes_escape
  inner := by simp
  once := gives_pure rfl
  read := read

theorem leaf_brace (alone : ¬∃ counts behind, Braces rest counts behind) :
    Leaf size (CodePoint.ofChar '\x7b' :: rest) (oneOf (· = CodePoint.ofChar '\x7b'))
      (.plain '\x7b') rest rest where
  comes := comes_plain (by decide)
  inner := by simp +decide
  once := gives_readBraces_none alone
  read := gives_pure (means_single _)

theorem leaf_dot :
    Leaf size (CodePoint.ofChar '.' :: rest) (oneOf (· ≠ CodePoint.ofChar '\n')) (.plain '.') rest
      rest where
  comes := comes_plain (by decide)
  inner := by simp +decide
  once := gives_pure rfl
  read := gives_pure means_anyPoint

theorem leaf_point {letter c : CodePoint} (spelled : Outside (letter :: behind) c rest) :
    Leaf size (CodePoint.ofChar '\\' :: letter :: behind) (oneOf (· = c)) (.escape letter) behind
      rest := by
  apply leaf_escape
  apply (gives_readEscape spelled).imp
  rintro _ rfl
  exact means_single c

theorem leaf_category {letter : CodePoint} {kind : Category} {negated : Bool}
    (known : category? letter = some (kind, negated)) :
    Leaf size (CodePoint.ofChar '\\' :: letter :: rest)
      (oneOf (Listed [.category kind negated false])) (.escape letter) rest rest := by
  apply leaf_escape
  simp only [readEscape, known]
  exact gives_pure ⟨rfl, Regex.language_listed _⟩

theorem leaf_set {among : CodePoint → Prop} (members : Members t among rest)
    (fits : t.length ≤ size) :
    Leaf size (CodePoint.ofChar '[' :: t) (oneOf among) (.plain '[') t rest where
  comes := comes_plain (by decide)
  inner := by simp +decide
  once := gives_pure rfl
  read := by
    apply (gives_readSet members fits).bind
    rintro set ⟨exact, language⟩
    exact gives_pure ⟨exact, language⟩

/-! ### Sequences -/

/-- Outside of groups, and in one that turns on nothing. -/
def Unflagged (group : Option Flags) : Prop := group.getD {} = {}

theorem gives_flagsHere {group : Option Flags} (unflagged : Unflagged group) :
    Gives size (flagsHere group) t (· = {}) t := by
  apply gives_get
  intro s place
  cases group with
  | none => exact gives_pure place.flags
  | some flags => exact gives_pure unflagged

/-- What the reader does with a token of a sequence, where no flags are set. -/
def readPiece (fuel : Nat) (group : Option Flags) (atStart : Bool) (items : List Regex)
    (start : Nat) (token : Token) : Reader (List Regex) := do
  if token = .plain '(' then
    match ← readOpening start with
    | .comment => readSequence fuel group atStart items
    | .wholePattern =>
      if atStart && items.isEmpty then readSequence fuel group atStart items
      else failAt .flagsNotFirst start
    | opening =>
      let item ← readGroup fuel {} start opening
      readSequence fuel group atStart (item :: items)
  else
    match ← readCounts? token with
    | some counts => readSequence fuel group atStart (← repeatLast start counts items)
    | none => readSequence fuel group atStart ((← readLeaf {} token) :: items)

section Pieces

variable {fuel : Nat} {group : Option Flags} {atStart : Bool} {items : List Regex}
  {good : List Regex → Prop} {final : Text}

theorem gives_readSequence {token : Token} (unflagged : Unflagged group)
    (comes : Comes size token t behind) (inner : token ≠ .plain '|' ∧ token ≠ .plain ')')
    (piece : ∀ start,
      Gives size (readPiece fuel group atStart items start token) behind good final) :
    Gives size (readSequence (fuel + 1) group atStart items) t good final := by
  rw [readSequence]
  apply comes.peek.then
  dsimp only
  rw [if_neg (by simp [inner])]
  apply gives_get
  intro s _
  apply (gives_flagsHere unflagged).then
  apply comes.next.then
  rw [if_neg (by simp), if_neg (by simp)]
  exact piece s.offset

theorem gives_readSequence_over
    (ended : ∀ c ∈ t.head?, c = CodePoint.ofChar '|' ∨ c = CodePoint.ofChar ')') :
    Gives size (readSequence (fuel + 1) group atStart items) t (· = inOrder items) t := by
  rw [readSequence]
  cases t with
  | nil =>
    apply gives_peek_end.then
    exact gives_pure rfl
  | cons c rest =>
    have ends := ended c rfl
    have ordinary : c ≠ '\\' := by
      rintro rfl
      revert ends
      decide
    apply (gives_peek_plain ordinary).then
    dsimp only
    rw [if_pos (by simpa using ends)]
    exact gives_pure rfl

theorem Leaf.gives {L : Language CodePoint} {token : Token} (leaf : Leaf size t L token behind rest)
    (unflagged : Unflagged group)
    (further : ∀ item, Means item L →
      Gives size (readSequence fuel group atStart (item :: items)) rest good final) :
    Gives size (readSequence (fuel + 1) group atStart items) t good final := by
  obtain ⟨bar, close, opening⟩ := leaf.inner
  apply gives_readSequence unflagged leaf.comes ⟨bar, close⟩
  intro start
  rw [readPiece, if_neg opening]
  apply leaf.once.then
  exact leaf.read.bind further

/-- Counts repeat the item before them. -/
theorem gives_readSequence_times {L : Language CodePoint} {counts : Counts} {item : Regex}
    {marked : Text} (unflagged : Unflagged group) (means : Means item L)
    (times : Times t counts marked) (mark : Mark marked rest) (next : Unmarked rest)
    (further : ∀ item, Means item (between counts.least counts.most L) →
      Gives size (readSequence fuel group atStart (item :: items)) rest good final) :
    Gives size (readSequence (fuel + 1) group atStart (item :: items)) t good final := by
  obtain ⟨c, behind, rfl, ordinary, read⟩ := @gives_readCounts? size _ _ _ times
  simp only [List.mem_cons, List.not_mem_nil, or_false, not_or] at ordinary
  obtain ⟨backslash, bar, close, opening⟩ := ordinary
  apply gives_readSequence unflagged (comes_plain backslash) (by simp [bar, close])
  intro start
  rw [readPiece, if_neg (by simp [opening])]
  apply read.bind
  rintro _ ⟨rfl, ordered⟩
  apply (gives_repeatLast means ordered mark next start).bind
  rintro _ ⟨repeated, rfl, means⟩
  exact further repeated means

/-! ### Groups -/

theorem gives_readGroup {L : Language CodePoint} {opening : Opening}
    (plain : opening = .plain ∨ ∃ name, opening = .capture name)
    (body : Gives size (readBranches fuel (some {})) t (fun items => AllMean items L)
      (CodePoint.ofChar ')' :: rest)) (start : Nat) :
    Gives size (readGroup (fuel + 1) {} start opening) t (fun tree => Means tree L) rest := by
  rcases plain with rfl | ⟨name, rfl⟩
  · rw [readGroup]
    apply body.bind
    intro items means
    apply (gives_close start).bind
    intro _ _
    exact gives_pure means.sequence
  · rw [readGroup]
    apply (gives_openGroup name).bind
    intro number _
    apply body.bind
    intro items means
    apply (gives_close start).bind
    intro _ _
    apply (gives_closeGroup number (.sequence items)).bind
    intro _ _
    apply gives_pure
    refine ⟨means.sequence.regular, ?_⟩
    rw [Regex.language, means.sequence.language]

theorem gives_readSequence_group {L : Language CodePoint} {inside : Text}
    (unflagged : Unflagged group) (opened : Opened t inside)
    (body : Gives size (readBranches fuel (some {})) inside (fun items => AllMean items L)
      (CodePoint.ofChar ')' :: rest))
    (further : ∀ item, Means item L →
      Gives size (readSequence (fuel + 1) group atStart (item :: items)) rest good final) :
    Gives size (readSequence (fuel + 2) group atStart items) (CodePoint.ofChar '(' :: t) good
      final := by
  apply gives_readSequence unflagged (comes_plain (by decide)) (by simp +decide)
  intro start
  rw [readPiece, if_pos rfl]
  apply (gives_readOpening opened start).bind
  intro opening plain
  have read := gives_readGroup plain body start
  rcases plain with rfl | ⟨name, rfl⟩
  · exact read.bind further
  · exact read.bind further

/-! ### Branches -/

/-- Reads a branch and those behind it. -/
def readRow (fuel : Nat) (group : Option Flags) (atStart : Bool) : Reader (List (List Regex)) := do
  let first ← readSequence fuel group atStart []
  let others ← readOthers fuel group
  pure (first :: others)

theorem readBranches_eq (fuel : Nat) (group : Option Flags) :
    readBranches (fuel + 1) group =
      readRow fuel group group.isNone >>= fun branches => pure (Regex.join branches) := by
  simp [readBranches, readRow]

theorem readOthers_eq (fuel : Nat) (group : Option Flags) :
    readOthers (fuel + 1) group =
      accept '|' >>= fun bar => if bar = true then readRow fuel group false else pure [] := by
  simp [readOthers, readRow]

/-- Branches that are regular and have a language together. -/
structure AnyMean (branches : List (List Regex)) (L : Language CodePoint) : Prop where
  filled : branches ≠ []
  regular : ∀ branch ∈ branches, Regex.AllRegular branch
  language : Regex.languageOfBranches branches = L

theorem AnyMean.join {branches : List (List Regex)} {L : Language CodePoint}
    (means : AnyMean branches L) : AllMean (Regex.join branches) L := by
  obtain ⟨first, others, rfl⟩ := List.exists_cons_of_ne_nil means.filled
  rw [← means.language]
  exact Regex.allMean_join means.regular

theorem gives_readBranches {L : Language CodePoint} {group : Option Flags}
    (row : Gives size (readRow fuel group group.isNone) t (fun branches => AnyMean branches L)
      rest) :
    Gives size (readBranches (fuel + 1) group) t (fun items => AllMean items L) rest := by
  rw [readBranches_eq]
  apply row.bind
  intro branches means
  exact gives_pure means.join

end Pieces

/-! ### Derived parts -/

/-- What comes of reading a part, in the form in which the reader meets parts of its kind: an atom
as the next item of a sequence that goes on behind it, a sequence behind the items so far, and
branches with the first of them. A parenthesis takes three calls, for the group, its branches and
the sequence in them, so four calls for each code point are enough. -/
def Met (size : Nat) (t : Text) : Part → Text → Prop
  | .atom L, rest =>
    ∀ fuel group atStart items good final, Unflagged group → 4 * t.length ≤ fuel → t.length ≤ size →
      (∀ item, Means item L →
        Gives size (readSequence fuel group atStart (item :: items)) rest good final) →
      Gives size (readSequence (fuel + 1) group atStart items) t good final
  | .sequence L, rest =>
    ∀ fuel group atStart items, Unflagged group → 4 * t.length < fuel → t.length ≤ size →
      Gives size (readSequence fuel group atStart items) t
        (fun result => ∃ more, AllMean more.reverse L ∧ result = inOrder (more ++ items)) rest
  | .branches L, rest =>
    ∀ fuel group atStart, Unflagged group → 4 * t.length < fuel → t.length ≤ size →
      Gives size (readRow fuel group atStart) t (fun branches => AnyMean branches L) rest

section Parts

variable {L M : Language CodePoint}

theorem met_leaf {token : Token} (leaf : t.length ≤ size → Leaf size t L token behind rest) :
    Met size t (.atom L) rest := by
  intro fuel group atStart items good final unflagged _ fits further
  exact (leaf fits).gives unflagged further

theorem met_group {inside : Text} (opened : Opened t inside)
    (body : Met size inside (.branches L) (CodePoint.ofChar ')' :: rest)) :
    Met size (CodePoint.ofChar '(' :: t) (.atom L) rest := by
  intro fuel group atStart items good final unflagged enough fits further
  have shorter := opened.length_le
  rw [List.length_cons] at enough fits
  -- The group, its branches and the sequence in them take a call each.
  obtain ⟨fuel, rfl⟩ : ∃ less, fuel = less + 3 := ⟨fuel - 3, by omega⟩
  have row := body (fuel + 1) (some {}) false rfl (by omega) (by omega)
  exact gives_readSequence_group unflagged opened (gives_readBranches row) further

theorem met_stop (ended : ∀ c ∈ t.head?, c = CodePoint.ofChar '|' ∨ c = CodePoint.ofChar ')') :
    Met size t (.sequence 1) t := by
  intro fuel group atStart items _ enough _
  obtain ⟨fuel, rfl⟩ := Nat.exists_eq_add_one_of_ne_zero (Nat.ne_of_gt (Nat.zero_lt_of_lt enough))
  apply (gives_readSequence_over ended).imp
  rintro _ rfl
  exact ⟨[], ⟨trivial, rfl⟩, rfl⟩

/-- An item with what was read behind it. -/
theorem Means.before {item : Regex} {more : List Regex} (first : Means item L)
    (others : AllMean more.reverse M) : AllMean (more ++ [item]).reverse (L * M) := by
  rw [List.reverse_append, List.reverse_singleton, List.singleton_append]
  refine ⟨⟨first.regular, others.regular⟩, ?_⟩
  rw [Regex.languageAll, first.language, others.language]

theorem met_once (first : Met size t (.atom L) behind) (more : Met size behind (.sequence M) rest)
    (shorter : behind.length < t.length) : Met size t (.sequence (L * M)) rest := by
  intro fuel group atStart items unflagged enough fits
  obtain ⟨fuel, rfl⟩ := Nat.exists_eq_add_one_of_ne_zero (Nat.ne_of_gt (Nat.zero_lt_of_lt enough))
  apply first fuel group atStart items _ rest unflagged (by omega) fits
  intro item means
  apply (more fuel group atStart (item :: items) unflagged (by omega) (by omega)).imp
  rintro _ ⟨others, all, rfl⟩
  refine ⟨others ++ [item], means.before all, ?_⟩
  rw [List.append_assoc, List.singleton_append]

theorem met_repeated {marked next : Text} {counts : Counts} (first : Met size t (.atom L) behind)
    (times : Times behind counts marked) (mark : Mark marked next)
    (unmarked : Unmarked next)
    (more : Met size next (.sequence M) rest) (shorter : behind.length < t.length) :
    Met size t (.sequence (between counts.least counts.most L * M)) rest := by
  intro fuel group atStart items unflagged enough fits
  have := times.length_lt
  have := mark.length_le
  obtain ⟨fuel, rfl⟩ : ∃ less, fuel = less + 2 := ⟨fuel - 2, by omega⟩
  -- The item is read first, and the counts behind it make a repetition of it in the next turn.
  apply first (fuel + 1) group atStart items _ rest unflagged (by omega) fits
  intro item means
  apply gives_readSequence_times unflagged means times mark unmarked
  intro repeated means
  apply (more fuel group atStart (repeated :: items) unflagged (by omega) (by omega)).imp
  rintro _ ⟨others, all, rfl⟩
  refine ⟨others ++ [repeated], means.before all, ?_⟩
  rw [List.append_assoc, List.singleton_append]

theorem met_last (only : Met size t (.sequence L) rest)
    (ended : rest.head? ≠ some (CodePoint.ofChar '|')) : Met size t (.branches L) rest := by
  intro fuel group atStart unflagged enough fits
  apply (only fuel group atStart [] unflagged enough fits).bind
  rintro _ ⟨more, means, rfl⟩
  obtain ⟨fuel, rfl⟩ := Nat.exists_eq_add_one_of_ne_zero (Nat.ne_of_gt (Nat.zero_lt_of_lt enough))
  -- No bar follows, so there are no other branches.
  have alone : Gives size (readOthers (fuel + 1) group) rest (· = []) rest := by
    rw [readOthers_eq]
    apply (gives_accept_other ended).then
    exact gives_pure rfl
  apply alone.then
  apply gives_pure
  rw [List.append_nil]
  refine ⟨List.cons_ne_nil _ _, ?_, ?_⟩
  · simpa using means.inOrder.regular
  · rw [Regex.languageOfBranches_cons, means.inOrder.language]
    exact add_zero L

theorem met_next {next : Text} (first : Met size t (.sequence L) (CodePoint.ofChar '|' :: next))
    (more : Met size next (.branches M) rest) (shorter : next.length < t.length) :
    Met size t (.branches (L + M)) rest := by
  intro fuel group atStart unflagged enough fits
  apply (first fuel group atStart [] unflagged enough fits).bind
  rintro _ ⟨items, means, rfl⟩
  obtain ⟨fuel, rfl⟩ := Nat.exists_eq_add_one_of_ne_zero (Nat.ne_of_gt (Nat.zero_lt_of_lt enough))
  have others : Gives size (readOthers (fuel + 1) group) (CodePoint.ofChar '|' :: next)
      (fun branches => AnyMean branches M) rest := by
    rw [readOthers_eq]
    apply (gives_accept (by decide)).then
    rw [if_pos rfl]
    exact more fuel group false unflagged (by omega) (by omega)
  apply others.bind
  intro branches behind
  apply gives_pure
  rw [List.append_nil]
  refine ⟨List.cons_ne_nil _ _, ?_, ?_⟩
  · rw [List.forall_mem_cons]
    exact ⟨means.inOrder.regular, behind.regular⟩
  · rw [Regex.languageOfBranches_cons, means.inOrder.language, behind.language]

end Parts

/-! Nothing begins with a mark that would belong to counts before it. -/

theorem unmarked_of_atom {L : Language CodePoint} (derived : Derives t (.atom L) rest) :
    Unmarked t := by
  cases derived with
  | @literal c _ ordinary =>
    rintro _ ⟨⟩
    constructor
    · rintro rfl
      exact ordinary (by decide)
    · rintro rfl
      exact ordinary (by decide)
  | _ =>
    rintro _ ⟨⟩
    decide

theorem unmarked_of_sequence {L : Language CodePoint} (derived : Derives t (.sequence L) rest) :
    Unmarked t := by
  cases derived with
  | stop ended =>
    intro c first
    rcases ended c first with rfl | rfl
    · decide
    · decide
  | once first more => exact unmarked_of_atom first
  | repeated first times mark more => exact unmarked_of_atom first

/-- By induction on the derivation; that a greedy mark is none at all is seen on what follows. -/
theorem met_of_derives {part : Part} (derived : Derives t part rest) : Met size t part rest := by
  induction derived with
  | literal ordinary => exact met_leaf fun _ => leaf_literal ordinary
  | brace alone => exact met_leaf fun _ => leaf_brace alone
  | dot => exact met_leaf fun _ => leaf_dot
  | escape spelled =>
    obtain ⟨letter, behind, rfl⟩ :=
      List.exists_cons_of_length_pos (Nat.zero_lt_of_lt spelled.length_lt)
    exact met_leaf fun _ => leaf_point spelled
  | category known => exact met_leaf fun _ => leaf_category known
  | set members => exact met_leaf fun fits => leaf_set members (Nat.le_of_succ_le fits)
  | group opened body ih => exact met_group opened ih
  | stop ended => exact met_stop ended
  | once first more ihFirst ihMore => exact met_once ihFirst ihMore first.length_le
  | repeated first times mark more ihFirst ihMore =>
    exact met_repeated ihFirst times mark (unmarked_of_sequence more) ihMore first.length_le
  | last only ended ih => exact met_last ih ended
  | next first more ihFirst ihMore => exact met_next ihFirst ihMore first.length_le

/-! ### Patterns -/

theorem gives_readPattern {pattern : Text} {L : Language CodePoint} (denotes : Denotes pattern L) :
    Gives pattern.length (readPattern pattern) pattern (fun tree => Means tree L) [] := by
  apply gives_goTo.bind
  intro _ _
  have row := met_of_derives denotes (4 * pattern.length + 3) none true rfl (by omega)
    (Nat.le_refl pattern.length)
  apply (gives_readBranches row).bind
  intro items means
  apply gives_get
  intro s place
  -- Nothing is left and no flags are set; only references that lead nowhere are still refused.
  rw [place.rest, place.flags]
  dsimp only
  rw [if_neg (by decide), if_neg (by decide)]
  split
  · exact gives_failAt _ _
  · exact gives_pure means.sequence

/-- A pattern that is read to a tree is read to one with the language that it denotes. -/
theorem means_of_parse {pattern : Text} {L : Language CodePoint} {tree : Regex}
    (denotes : Denotes pattern L) (parsed : Regex.parse pattern = .ok tree) : Means tree L := by
  unfold Regex.parse at parsed
  split at parsed
  -- The reader came to an end; all other cases are refusals.
  case h_5 found s ran =>
    have start : (Scan.ofPattern pattern).At pattern.length pattern := ⟨rfl, rfl, rfl⟩
    obtain ⟨means, -⟩ := gives_readPattern denotes _ found s start ran
    split at parsed
    case h_1 => cases parsed
    case h_2 =>
      cases parsed
      exact means
  all_goals cases parsed

/-- A pattern that is read denotes one language only. -/
theorem Denotes.unique {pattern : Text} {L M : Language CodePoint} {tree : Regex}
    (first : Denotes pattern L) (second : Denotes pattern M)
    (parsed : Regex.parse pattern = .ok tree) : L = M := by
  rw [← (means_of_parse first parsed).language, (means_of_parse second parsed).language]

end Conformance.Pattern
