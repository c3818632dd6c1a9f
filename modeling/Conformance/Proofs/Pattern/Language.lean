import Conformance.Pattern.Match
import Mathlib.Computability.Language

/-!
# The language of a tree

A tree of sets, sequences, choices, captures and repetitions that may give back what they took
denotes a regular language. The tree is matched by backtracking: each part is handed what is to
follow it, and the first way is taken from which that succeeds. `Reads` says what this comes to for
a part without regard to the order of the ways: the part succeeds exactly if some text of its
language comes next and what follows it succeeds behind that text.
-/
namespace Conformance.Pattern

/-- The texts of one code point that satisfies a predicate. -/
def oneOf (wanted : CodePoint → Prop) : Language CodePoint := {w | ∃ c, wanted c ∧ w = [c]}

/-- The texts of a language in a row, as many as counts allow. -/
def between (least : Nat) (most : Option Nat) (L : Language CodePoint) : Language CodePoint :=
  {w | ∃ count, least ≤ count ∧ (∀ m ∈ most, count ≤ m) ∧ w ∈ L ^ count}

namespace Regex

mutual

/-- The texts that a tree matches as a whole. Trees that are not regular are left out. -/
def language : Regex → Language CodePoint
  | .unit set => oneOf fun c => set.contains c = true
  | .sequence items => languageAll items
  | .choice branches => languageAny branches
  | .repeated least most _ body => between least most (language body)
  | .capture _ body => language body
  | _ => 0

def languageAll : List Regex → Language CodePoint
  | [] => 1
  | item :: rest => language item * languageAll rest

def languageAny : List Regex → Language CodePoint
  | [] => 0
  | branch :: rest => language branch + languageAny rest

end

mutual

/-- A tree asks for nothing but code points, which it compares as they are, and its repetitions may
give back what they took. -/
def IsRegular : Regex → Prop
  | .unit set => set.folding = .exact
  | .sequence items => AllRegular items
  | .choice branches => AllRegular branches
  | .repeated least most greed body =>
    greed ≠ .possessive ∧ (∀ m ∈ most, least ≤ m) ∧ IsRegular body
  | .capture _ body => IsRegular body
  | _ => False

def AllRegular : List Regex → Prop
  | [] => True
  | item :: rest => IsRegular item ∧ AllRegular rest

end

end Regex

/-- A regular tree with its language. -/
structure Means (tree : Regex) (L : Language CodePoint) : Prop where
  regular : tree.IsRegular
  language : tree.language = L

/-- Regular trees in a row with the language that they have together. -/
structure AllMean (items : List Regex) (L : Language CodePoint) : Prop where
  regular : Regex.AllRegular items
  language : Regex.languageAll items = L

theorem AllMean.sequence {items : List Regex} {L : Language CodePoint} (means : AllMean items L) :
    Means (.sequence items) L := by
  refine ⟨means.regular, ?_⟩
  rw [Regex.language, means.language]

/-! ### What a part reads -/

/-- A text leads from one cursor to another. What groups have matched on the way does not matter. -/
structure Cursor.Leads (c : Cursor) (w : Text) (d : Cursor) : Prop where
  after : c.after = w ++ d.after
  position : d.position = c.position + w.length

namespace Cursor.Leads

variable {c d e : Cursor} {v w : Text}

theorem refl (c : Cursor) : c.Leads [] c := ⟨rfl, rfl⟩

theorem trans (first : c.Leads v d) (second : d.Leads w e) : c.Leads (v ++ w) e := by
  constructor
  · rw [first.after, second.after, List.append_assoc]
  · rw [second.position, first.position, List.length_append, Nat.add_assoc]

theorem length_eq (leads : c.Leads w d) : c.after.length = w.length + d.after.length := by
  rw [leads.after, List.length_append]

end Cursor.Leads

theorem Cursor.leads_of_step? {wanted : CodePoint → Bool} {c d : Cursor}
    (step : c.step? wanted = some d) : ∃ x, wanted x = true ∧ c.Leads [x] d := by
  unfold Cursor.step? at step
  split at step
  case h_1 => cases step
  case h_2 x rest shape =>
    split at step
    case isTrue among =>
      cases step
      exact ⟨x, among, shape, rfl⟩
    case isFalse => cases step

/-- From a cursor on, a way to go on succeeds exactly where what is left satisfies a predicate. -/
def Decides (go : Continuation) (c : Cursor) (accepted : Text → Prop) : Prop :=
  ∀ w d, c.Leads w d → ((go d).isSome = true ↔ accepted d.after)

theorem Decides.later {go : Continuation} {c d : Cursor} {w : Text} {accepted : Text → Prop}
    (decides : Decides go c accepted) (leads : c.Leads w d) : Decides go d accepted :=
  fun v e further => decides (w ++ v) e (leads.trans further)

theorem Decides.here {go : Continuation} {c : Cursor} {accepted : Text → Prop}
    (decides : Decides go c accepted) : (go c).isSome = true ↔ accepted c.after :=
  decides [] c (.refl c)

/-- What is left begins with a text of a language, and what is behind it satisfies a predicate. -/
def Begins (L : Language CodePoint) (accepted : Text → Prop) (t : Text) : Prop :=
  ∃ w rest, t = w ++ rest ∧ w ∈ L ∧ accepted rest

/-- A way of matching succeeds exactly where a text of a language begins and what follows
succeeds behind it. -/
def Reads (turn : Continuation → Continuation) (L : Language CodePoint) : Prop :=
  ∀ go c accepted, Decides go c accepted → ((turn go c).isSome = true ↔ Begins L accepted c.after)

theorem begins_one {accepted : Text → Prop} {t : Text} : Begins 1 accepted t ↔ accepted t := by
  constructor
  · rintro ⟨w, rest, rfl, empty, holds⟩
    obtain rfl := Language.mem_one _ |>.mp empty
    exact holds
  · intro holds
    exact ⟨[], t, rfl, Language.mem_one _ |>.mpr rfl, holds⟩

theorem begins_mul {L M : Language CodePoint} {accepted : Text → Prop} {t : Text} :
    Begins (L * M) accepted t ↔ Begins L (Begins M accepted) t := by
  constructor
  · rintro ⟨_, rest, rfl, both, holds⟩
    obtain ⟨v, first, w, second, rfl⟩ := Language.mem_mul.mp both
    exact ⟨v, w ++ rest, List.append_assoc .., first, w, rest, rfl, second, holds⟩
  · rintro ⟨v, _, rfl, first, w, rest, rfl, second, holds⟩
    exact ⟨v ++ w, rest, (List.append_assoc ..).symm, Language.append_mem_mul first second, holds⟩

theorem begins_add {L M : Language CodePoint} {accepted : Text → Prop} {t : Text} :
    Begins (L + M) accepted t ↔ Begins L accepted t ∨ Begins M accepted t := by
  constructor
  · rintro ⟨w, rest, shape, either, holds⟩
    rcases either with left | right
    · exact .inl ⟨w, rest, shape, left, holds⟩
    · exact .inr ⟨w, rest, shape, right, holds⟩
  · rintro (⟨w, rest, shape, member, holds⟩ | ⟨w, rest, shape, member, holds⟩)
    · exact ⟨w, rest, shape, .inl member, holds⟩
    · exact ⟨w, rest, shape, .inr member, holds⟩

theorem begins_oneOf {wanted : CodePoint → Prop} {accepted : Text → Prop} {t : Text} :
    Begins (oneOf wanted) accepted t ↔ ∃ x rest, t = x :: rest ∧ wanted x ∧ accepted rest := by
  constructor
  · rintro ⟨_, rest, rfl, ⟨x, among, rfl⟩, holds⟩
    exact ⟨x, rest, rfl, among, holds⟩
  · rintro ⟨x, rest, rfl, among, holds⟩
    exact ⟨[x], rest, rfl, ⟨x, among, rfl⟩, holds⟩

section Parts

variable {turn other : Continuation → Continuation} {L M : Language CodePoint}

/-- A part that reads from a cursor on decides there. -/
theorem Reads.decides (reads : Reads turn L) {go : Continuation} {c : Cursor}
    {accepted : Text → Prop} (decides : Decides go c accepted) :
    Decides (turn go) c (Begins L accepted) :=
  fun _ d leads => reads go d accepted (decides.later leads)

theorem reads_nothing : Reads (fun go => go) 1 := by
  intro go c accepted decides
  rw [begins_one]
  exact decides.here

theorem Reads.then (first : Reads turn L) (second : Reads other M) :
    Reads (fun go => turn (other go)) (L * M) := by
  intro go c accepted decides
  rw [begins_mul]
  exact first _ c _ (second.decides decides)

theorem reads_never : Reads (fun _ _ => none) 0 := by
  intro go c accepted _
  constructor
  · intro found
    cases found
  · rintro ⟨w, _, _, member, _⟩
    exact absurd member (Language.notMem_zero w)

theorem Reads.orElse (first : Reads turn L) (second : Reads other M) :
    Reads (fun go c => (turn go c).orElse fun _ => other go c) (L + M) := by
  intro go c accepted decides
  rw [begins_add, ← first go c accepted decides, ← second go c accepted decides]
  beta_reduce
  rw [← Option.or_eq_orElse, Option.isSome_or, Bool.or_eq_true]

theorem reads_unit (subject : Text) (set : CharSet) :
    Reads (Regex.run subject (.unit set)) (oneOf fun c => set.contains c = true) := by
  intro go c accepted decides
  rw [begins_oneOf, Regex.run]
  cases next : c.step? set.contains with
  | none =>
    constructor
    · intro found
      cases found
    · rintro ⟨x, rest, shape, wanted, _⟩
      simp [Cursor.step?, shape, wanted] at next
  | some d =>
    obtain ⟨x, wanted, leads⟩ := Cursor.leads_of_step? next
    rw [Option.bind_some, decides [x] d leads]
    constructor
    · intro holds
      exact ⟨x, d.after, leads.after, wanted, holds⟩
    · rintro ⟨y, rest, shape, _, holds⟩
      obtain rfl := (List.cons.inj (leads.after.symm.trans shape)).2
      exact holds

/-- Noting where a group begins and ends changes nothing of what is read. -/
theorem Reads.capture (reads : Reads turn L) (group : Nat) :
    Reads (fun go c => turn (fun reached => go (reached.finish group)) (c.begin group)) L := by
  intro go c accepted decides
  refine reads _ (c.begin group) accepted fun w d leads => ?_
  exact decides w (d.finish group) ⟨leads.after, leads.position⟩

end Parts

end Conformance.Pattern
