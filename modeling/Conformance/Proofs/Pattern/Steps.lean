import Conformance.Pattern.Scan
import Conformance.Proofs.Step

/-!
# Steps of reading a pattern

What a step of the reader takes from the pattern, and what it gives for it. A step may also fail;
then nothing is said of it. Of the state only the rest of the pattern matters, and that no flags are
set: what is known of groups has no bearing on a pattern without references.
-/
namespace Conformance.Pattern

/-- A scan without flags that stands at a rest of a pattern of so many code points. -/
structure Scan.At (size : Nat) (s : Scan) (t : Text) : Prop where
  size : s.size = size
  rest : s.rest = t
  flags : s.flags = {}

namespace Reader

variable {α β : Type} {size : Nat} {t middle rest : Text}

/-- From one text on a step gives something good and leaves another text, unless it fails. -/
def Gives (size : Nat) (step : Reader α) (t : Text) (good : α → Prop) (rest : Text) : Prop :=
  ∀ s a s', s.At size t → step.run s = .ok (a, s') → good a ∧ s'.At size rest

section Combined

variable {step : Reader α} {next : α → Reader β} {good : α → Prop} {fine : β → Prop} {a : α}

theorem gives_pure (holds : good a) : Gives size (pure a) t good t := by
  rintro s _ _ place ⟨⟩
  exact ⟨holds, place⟩

theorem gives_throw (halt : Halt) : Gives size (throw halt : Reader α) t good rest := by
  rintro s b s' _ ⟨⟩

theorem Gives.bind (first : Gives size step t good middle)
    (second : ∀ a, good a → Gives size (next a) middle fine rest) :
    Gives size (step >>= next) t fine rest := by
  intro s b s' place ran
  rw [StateT.run_bind, bind_eq_ok_iff] at ran
  obtain ⟨⟨a, between⟩, started, went⟩ := ran
  obtain ⟨holds, reached⟩ := first s a between place started
  exact second a holds between b s' reached went

/-- A step whose result is known, and what is done with that result. -/
theorem Gives.then (first : Gives size step t (· = a) middle)
    (second : Gives size (next a) middle fine rest) :
    Gives size (step >>= next) t fine rest := by
  apply first.bind
  rintro _ rfl
  exact second

theorem Gives.imp {fair : α → Prop} (gives : Gives size step t good rest)
    (implies : ∀ a, good a → fair a) : Gives size step t fair rest := by
  intro s a s' place ran
  obtain ⟨holds, reached⟩ := gives s a s' place ran
  exact ⟨implies a holds, reached⟩

theorem gives_get {next : Scan → Reader β}
    (given : ∀ s, s.At size t → Gives size (next s) t fine rest) :
    Gives size (get >>= next) t fine rest := by
  intro s b s' place ran
  exact given s place s b s' place ran

/-- A change to the state that keeps what matters of it. -/
theorem gives_modify {change : Scan → Scan} (kept : ∀ s, s.At size t → (change s).At size rest) :
    Gives size (modify change) t (fun _ => True) rest := by
  rintro s _ _ place ⟨⟩
  exact ⟨trivial, kept s place⟩

end Combined

theorem gives_failAt {good : α → Prop} (fault : Fault) (offset : Nat) :
    Gives size (failAt fault offset : Reader α) t good rest :=
  gives_throw _

theorem gives_failBack {good : α → Prop} (fault : Fault) (back : Nat) :
    Gives size (failBack fault back : Reader α) t good rest :=
  gives_get fun _ _ => gives_failAt _ _

theorem gives_failAt_bind {next : α → Reader β} {fine : β → Prop} (fault : Fault) (offset : Nat) :
    Gives size (failAt fault offset >>= next) t fine rest := by
  rintro s b s' _ ⟨⟩

theorem gives_failBack_bind {next : α → Reader β} {fine : β → Prop} (fault : Fault) (back : Nat) :
    Gives size (failBack fault back >>= next) t fine rest := by
  rintro s b s' _ ⟨⟩

/-! ### Tokens -/

/-- Wherever the reader goes, it stays within one pattern. -/
theorem gives_goTo {later : Text} : Gives size (goTo later) t (fun _ => True) later := by
  have moved : Gives size (modify fun s => { s with rest := later }) t (fun _ => True) later :=
    gives_modify fun s place => ⟨place.size, rfl, place.flags⟩
  apply moved.bind
  intro _ _
  split
  · apply gives_get
    intro s _
    exact gives_failAt _ _
  · exact gives_pure trivial

theorem gives_peek_end : Gives size peek [] (· = none) [] := by
  apply gives_get
  intro s place
  rw [place.rest]
  exact gives_pure rfl

theorem gives_peek_plain {c : CodePoint} (ordinary : c ≠ '\\') :
    Gives size peek (c :: t) (· = some (.plain c)) (c :: t) := by
  apply gives_get
  intro s place
  rw [place.rest]
  cases t with
  | nil => exact gives_pure rfl
  | cons d t => exact gives_pure (by rw [if_neg ordinary])

theorem gives_peek_escape {c : CodePoint} :
    Gives size peek (CodePoint.ofChar '\\' :: c :: t) (· = some (.escape c))
      (CodePoint.ofChar '\\' :: c :: t) := by
  apply gives_get
  intro s place
  rw [place.rest]
  exact gives_pure rfl

/-- A token that comes next is taken with its text. -/
theorem gives_next (token : Token)
    (comes : Gives size peek (token.text ++ rest) (· = some token) (token.text ++ rest)) :
    Gives size next (token.text ++ rest) (· = some token) rest := by
  apply comes.then
  apply gives_get
  intro s place
  rw [place.rest, List.drop_left]
  apply gives_goTo.bind
  intro _ _
  exact gives_pure rfl

theorem gives_next_plain {c : CodePoint} (ordinary : c ≠ '\\') :
    Gives size next (c :: t) (· = some (.plain c)) t :=
  gives_next (.plain c) (gives_peek_plain ordinary)

theorem gives_next_escape {c : CodePoint} :
    Gives size next (CodePoint.ofChar '\\' :: c :: t) (· = some (.escape c)) t :=
  gives_next (.escape c) gives_peek_escape

/-- A token without a backslash is the code point that comes next. -/
theorem gives_peek :
    Gives size peek t (fun token => ∀ c, token = some (.plain c) → t.head? = some c) t := by
  apply gives_get
  intro s place
  rw [place.rest]
  match t with
  | [] => exact gives_pure (by rintro c ⟨⟩)
  | [x] =>
    apply gives_pure
    rintro c ⟨⟩
    rfl
  | x :: y :: rest =>
    apply gives_pure
    intro c found
    split at found
    case isTrue => cases found
    case isFalse =>
      cases found
      rfl

theorem gives_accept {c : CodePoint} (ordinary : c ≠ '\\') :
    Gives size (accept c) (c :: t) (· = true) t := by
  apply (gives_peek_plain ordinary).then
  rw [if_pos rfl]
  apply (gives_next_plain ordinary).then
  exact gives_pure rfl

theorem gives_accept_other {c : CodePoint} (other : t.head? ≠ some c) :
    Gives size (accept c) t (· = false) t := by
  apply gives_peek.bind
  intro token first
  rw [if_neg fun same => other (first c same)]
  exact gives_pure rfl

/-! ### Runs of code points -/

section Runs

variable {wanted : CodePoint → Bool} {digits : Text}

theorem ne_backslash (ordinary : wanted '\\' = false) {c : CodePoint} (among : wanted c = true) :
    c ≠ '\\' := by
  rintro rfl
  rw [ordinary] at among
  cases among

/-- So many code points are taken, or fewer where one comes that is not wanted. -/
theorem gives_takeWhile (ordinary : wanted '\\' = false) {count : Nat}
    (few : digits.length ≤ count) (all : ∀ c ∈ digits, wanted c = true)
    (stop : digits.length < count → ∀ c ∈ rest.head?, wanted c = false) :
    Gives size (takeWhile wanted count) (digits ++ rest) (· = digits) rest := by
  induction digits generalizing count with
  | nil =>
    cases count with
    | zero => exact gives_pure rfl
    | succ count =>
      rw [takeWhile]
      apply gives_peek.bind
      intro token first
      -- The text ends, or an escape comes, or a code point that is not wanted.
      have none : token.bind (Token.plain? wanted) = none := by
        match token with
        | none => rfl
        | some (.escape _) => rfl
        | some (.plain c) =>
          have unwanted := stop (Nat.zero_lt_succ count) c (first c rfl)
          simp [Token.plain?, unwanted]
      rw [none]
      exact gives_pure rfl
  | cons c digits ih =>
    rw [List.forall_mem_cons] at all
    cases count with
    | zero => exact absurd few (Nat.not_succ_le_zero _)
    | succ count =>
      have plain := ne_backslash ordinary all.1
      rw [takeWhile, List.cons_append]
      apply (gives_peek_plain plain).then
      simp only [Option.bind_some, Token.plain?, if_pos all.1]
      apply (gives_next_plain plain).then
      apply (ih (Nat.le_of_succ_le_succ few) all.2 _).then
      · exact gives_pure rfl
      · intro fewer
        exact stop (Nat.succ_lt_succ fewer)

theorem gives_takeWhile_one (ordinary : wanted '\\' = false) {c : CodePoint}
    (among : wanted c = true) :
    Gives size (takeWhile wanted 1) (c :: rest) (· = [c]) rest := by
  have one : Gives size (takeWhile wanted 1) ([c] ++ rest) (· = [c]) rest := by
    apply gives_takeWhile ordinary (Nat.le_refl 1)
    · intro x single
      rw [List.mem_singleton.mp single]
      exact among
    · intro fewer
      exact absurd fewer (Nat.lt_irrefl 1)
  exact one

theorem gives_takeAll (ordinary : wanted '\\' = false) (all : ∀ c ∈ digits, wanted c = true)
    (stop : ∀ c ∈ rest.head?, wanted c = false) :
    Gives size (takeAll wanted) (digits ++ rest) (· = digits) rest := by
  apply gives_get
  intro s place
  rw [place.rest, List.length_append]
  exact gives_takeWhile ordinary (Nat.le_add_right _ _) all fun _ => stop

end Runs

section Names

variable {closing : CodePoint} {name : Text}

theorem gives_takeUntil (part : Text) (ordinary : closing ≠ '\\')
    (free : ∀ c ∈ name, c ≠ closing ∧ c ≠ '\\') {fuel : Nat} (enough : name.length < fuel)
    (taken : Text) :
    Gives size (takeUntil closing part fuel taken) (name ++ closing :: rest) (· = taken ++ name)
      rest := by
  induction name generalizing fuel taken with
  | nil =>
    obtain ⟨fuel, rfl⟩ := Nat.exists_eq_add_one_of_ne_zero (Nat.ne_of_gt enough)
    rw [takeUntil]
    apply (gives_next_plain ordinary).then
    simp only [if_true]
    split
    · exact gives_failBack _ _
    · exact gives_pure (List.append_nil taken).symm
  | cons c name ih =>
    rw [List.forall_mem_cons] at free
    obtain ⟨fuel, rfl⟩ := Nat.exists_eq_add_one_of_ne_zero (Nat.ne_of_gt (Nat.zero_lt_of_lt enough))
    rw [takeUntil, List.cons_append]
    apply (gives_next_plain free.1.2).then
    simp only [Token.plain.injEq, if_neg free.1.1]
    apply (ih free.2 (Nat.lt_of_succ_lt_succ enough) _).imp
    rintro _ rfl
    exact List.append_assoc taken [c] name

/-- A name ends at the first closing code point. -/
theorem gives_takeName (part : Text) (ordinary : closing ≠ '\\')
    (free : ∀ c ∈ name, c ≠ closing ∧ c ≠ '\\') :
    Gives size (takeName closing part) (name ++ closing :: rest) (· = name) rest := by
  apply gives_get
  intro s place
  rw [place.rest]
  apply gives_takeUntil part ordinary free
  rw [List.length_append]
  omega

end Names

end Reader
end Conformance.Pattern
