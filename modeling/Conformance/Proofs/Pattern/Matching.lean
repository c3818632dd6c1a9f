import Conformance.Proofs.Pattern.Language

/-!
# Matching finds every match

Where a tree is regular, it is found exactly in the texts that contain a text of its language. A
search matches the tree at every place in turn, and each part of the tree reads what its own parts
read. Only a repetition needs more than that.

A greedy and a lazy repetition try the same counts of turns in a different order, so they succeed at
the same places. Both give up counts in two cases. A turn beyond the least count that read nothing
is the last one, and the number of turns is bounded by the text.

Neither loses a match. A text in a row of so many texts of a language either is empty, and then no
turn is needed for it, or begins with one of them that is not empty, and then the rest is a row of
fewer. So every turn may be taken to read something, and there are no more turns than code points.
-/
namespace Conformance.Pattern

/-! ### Texts in a row -/

section Rows

variable {L : Language CodePoint} {w : Text} {least : Nat} {most : Option Nat}

theorem nil_mem_between_zero : [] ∈ between 0 most L := by
  refine ⟨0, Nat.le_refl 0, fun m _ => Nat.zero_le m, ?_⟩
  rw [pow_zero]
  exact Language.nil_mem_one

/-- What is left of a row after so many texts. -/
theorem mem_between_left {count : Nat} :
    w ∈ between least (most.map (· - count)) L ↔
      ∃ turns, least ≤ turns ∧ (∀ m ∈ most, turns ≤ m - count) ∧ w ∈ L ^ turns := by
  constructor
  · rintro ⟨turns, enough, bounded, member⟩
    refine ⟨turns, enough, ?_, member⟩
    intro m given
    exact bounded (m - count) (Option.mem_map.mpr ⟨m, given, rfl⟩)
  · rintro ⟨turns, enough, bounded, member⟩
    refine ⟨turns, enough, ?_, member⟩
    intro _ given
    obtain ⟨m, allowed, rfl⟩ := Option.mem_map.mp given
    exact bounded m allowed

/-- After `count` texts out of a row one more is the next of those that are still required. -/
theorem between_succ {count : Nat} (grows : ∀ m ∈ most, count < m) :
    between (least + 1) (most.map (· - count)) L =
      L * between least (most.map (· - (count + 1))) L := by
  ext w
  rw [Language.mem_mul, mem_between_left]
  constructor
  · rintro ⟨turns, enough, bounded, member⟩
    obtain ⟨more, rfl⟩ : ∃ more, turns = more + 1 := ⟨turns - 1, by omega⟩
    rw [pow_succ'] at member
    obtain ⟨first, one, others, row, rfl⟩ := Language.mem_mul.mp member
    refine ⟨first, one, others, mem_between_left.mpr ⟨more, by omega, ?_, row⟩, rfl⟩
    intro m given
    have := bounded m given
    omega
  · rintro ⟨first, one, others, behind, rfl⟩
    obtain ⟨more, enough, bounded, row⟩ := mem_between_left.mp behind
    refine ⟨more + 1, by omega, ?_, ?_⟩
    · intro m given
      have := bounded m given
      have := grows m given
      omega
    · rw [pow_succ']
      exact Language.append_mem_mul one row

theorem between_zero_zero : between 0 (some 0) L = 1 := by
  ext w
  rw [Language.mem_one]
  constructor
  · rintro ⟨turns, -, bounded, member⟩
    obtain rfl : turns = 0 := Nat.le_zero.mp (bounded 0 rfl)
    exact Language.mem_one w |>.mp (pow_zero L ▸ member)
  · rintro rfl
    exact nil_mem_between_zero

theorem mem_between_of_le {fewer : Nat} (less : fewer ≤ least) (row : w ∈ between least most L) :
    w ∈ between fewer most L := by
  obtain ⟨turns, enough, bounded, member⟩ := row
  exact ⟨turns, Nat.le_trans less enough, bounded, member⟩

/-- A row that is not empty begins with a text that is not empty, before a shorter row. -/
theorem exists_of_mem_pow {count : Nat} (member : w ∈ L ^ count) (filled : w ≠ []) :
    ∃ first ∈ L, first ≠ [] ∧
      ∃ others, w = first ++ others ∧ ∃ fewer < count, others ∈ L ^ fewer := by
  induction count generalizing w with
  | zero =>
    rw [pow_zero, Language.mem_one] at member
    exact absurd member filled
  | succ count ih =>
    rw [pow_succ'] at member
    obtain ⟨first, one, others, row, rfl⟩ := Language.mem_mul.mp member
    by_cases empty : first = []
    case pos =>
      subst empty
      obtain ⟨next, one, nonempty, behind, shape, fewer, less, row⟩ := ih row filled
      exact ⟨next, one, nonempty, behind, shape, fewer, Nat.lt_succ_of_lt less, row⟩
    case neg => exact ⟨first, one, empty, others, rfl, count, Nat.lt_succ_self count, row⟩

theorem exists_of_mem_between {count : Nat} (member : w ∈ between 0 (most.map (· - count)) L)
    (filled : w ≠ []) :
    ∃ first ∈ L, first ≠ [] ∧
      ∃ others, w = first ++ others ∧ others ∈ between 0 (most.map (· - (count + 1))) L := by
  obtain ⟨turns, -, bounded, row⟩ := mem_between_left.mp member
  obtain ⟨first, one, nonempty, others, shape, fewer, less, row⟩ := exists_of_mem_pow row filled
  refine ⟨first, one, nonempty, others, shape, mem_between_left.mpr ⟨fewer, Nat.zero_le _, ?_, row⟩⟩
  intro m given
  have := bounded m given
  omega

end Rows

/-! ### Turns -/

namespace Repetition

theorem mayGrow_iff {most : Option Nat} {count : Nat} :
    mayGrow most count = true ↔ ∀ m ∈ most, count < m := by
  cases most with
  | none => simp [mayGrow]
  | some most => simp [mayGrow]

/-- What the turns of a greedy and of a lazy repetition have in common. -/
structure Loops (turn : Continuation → Continuation) (least : Nat) (most : Option Nat)
    (go : Continuation) (loop : Nat → Nat → Option Nat → Continuation) : Prop where
  spent (count : Nat) (last : Option Nat) (c : Cursor) : loop 0 count last c = go c
  required (fuel count : Nat) (last : Option Nat) (c : Cursor) :
    count < least → loop (fuel + 1) count last c = turn (loop fuel (count + 1) last) c
  free (fuel count : Nat) (last : Option Nat) (c : Cursor) :
    ¬count < least → mayGrow most count = true ∧ last ≠ some c.position →
      ((loop (fuel + 1) count last c).isSome = true ↔
        (turn (loop fuel (count + 1) (some c.position)) c).isSome = true ∨ (go c).isSome = true)
  done (fuel count : Nat) (last : Option Nat) (c : Cursor) :
    ¬count < least → ¬(mayGrow most count = true ∧ last ≠ some c.position) →
      (loop (fuel + 1) count last c).isSome = (go c).isSome

section Loop

variable (turn : Continuation → Continuation) (least : Nat) (most : Option Nat) (go : Continuation)

theorem greedy_loops : Loops turn least most go (greedy turn least most go) where
  spent count last c := rfl
  required fuel count last c few := by rw [greedy, if_pos few]
  free fuel count last c enough grows := by
    rw [greedy, if_neg enough, if_pos grows, ← Option.or_eq_orElse, Option.isSome_or,
      Bool.or_eq_true]
  done fuel count last c enough stays := by rw [greedy, if_neg enough, if_neg stays]

theorem lazy_loops : Loops turn least most go (lazy turn least most go) where
  spent count last c := rfl
  required fuel count last c few := by rw [lazy, if_pos few]
  free fuel count last c enough grows := by
    rw [lazy, if_neg enough, if_pos grows, ← Option.or_eq_orElse, Option.isSome_or,
      Bool.or_eq_true, or_comm]
  done fuel count last c enough stays := by
    rw [lazy, if_neg enough, if_neg stays]
    cases go c with
    | none => rfl
    | some reached => rfl

end Loop

variable {turn : Continuation → Continuation} {L : Language CodePoint} {least : Nat}
  {most : Option Nat} {go : Continuation} {loop : Nat → Nat → Option Nat → Continuation}
  {accepted : Text → Prop}

/-- A loop that a turn at its own place has just led back to is over. -/
theorem Loops.isSome_again (loops : Loops turn least most go loop) {count : Nat} {c : Cursor}
    (enough : ¬count < least) (fuel : Nat) :
    (loop fuel count (some c.position) c).isSome = (go c).isSome := by
  cases fuel with
  | zero => rw [loops.spent]
  | succ fuel => exact loops.done fuel count _ c enough fun grows => grows.2 rfl

/-- What a turn beyond the least count leads to: nothing was read and the loop is over, or less is
left and the loop goes on. -/
def Onward (here : Text) (ended more : Text → Prop) (t : Text) : Prop :=
  (t = here ∧ ended t) ∨ (t.length < here.length ∧ more t)

/-- One more turn and then the rest of a row, or no more turn, is a row of so many. -/
theorem begins_onward_or {count : Nat} {t : Text} (grows : ∀ m ∈ most, count < m) :
    (Begins L (Onward t accepted
        (Begins (between 0 (most.map (· - (count + 1))) L) accepted)) t ∨ accepted t) ↔
      Begins (between 0 (most.map (· - count)) L) accepted t := by
  constructor
  · rintro (⟨first, behind, shape, one, ⟨rfl, holds⟩ | ⟨-, others, rest, rfl, row, holds⟩⟩ | holds)
    -- A turn that read nothing adds nothing either.
    · exact ⟨[], behind, rfl, nil_mem_between_zero, holds⟩
    · have longer : first ++ others ∈ between 1 (most.map (· - count)) L := by
        rw [between_succ grows]
        exact Language.append_mem_mul one row
      refine ⟨first ++ others, rest, ?_, mem_between_of_le (Nat.zero_le 1) longer, holds⟩
      rw [shape, List.append_assoc]
    · exact ⟨[], t, rfl, nil_mem_between_zero, holds⟩
  · rintro ⟨w, rest, rfl, row, holds⟩
    by_cases empty : w = []
    case pos =>
      subst empty
      exact .inr holds
    case neg =>
      obtain ⟨first, one, nonempty, others, rfl, fewer⟩ := exists_of_mem_between row empty
      left
      refine ⟨first, others ++ rest, List.append_assoc .., one, .inr ⟨?_, ?_⟩⟩
      · have := List.length_pos_of_ne_nil nonempty
        simp only [List.length_append]
        omega
      · exact ⟨others, rest, rfl, fewer, holds⟩

variable (go L least most loop) in
/-- With so much fuel a loop reads, after any count of turns, what then is left of a row. Its last
free turn began before the place where it stands. -/
def Completes (fuel : Nat) : Prop :=
  ∀ count last c accepted, Decides go c accepted → (∀ p ∈ last, p < c.position) →
    (∀ m ∈ most, count ≤ m) → least - count + c.after.length < fuel →
    ((loop fuel count last c).isSome = true ↔
      Begins (between (least - count) (most.map (· - count)) L) accepted c.after)

section Turn

variable {fuel count : Nat} {last : Option Nat} {c : Cursor}

theorem Completes.decides_required (completes : Completes L least most go loop fuel)
    (decides : Decides go c accepted) (few : count < least) (ordered : ∀ m ∈ most, least ≤ m)
    (apart : ∀ p ∈ last, p < c.position) (enough : least - count + c.after.length < fuel + 1) :
    Decides (loop fuel (count + 1) last) c
      (Begins (between (least - (count + 1)) (most.map (· - (count + 1))) L) accepted) := by
  intro w d leads
  apply completes (count + 1) last d accepted (decides.later leads)
  · intro p among
    have := apart p among
    have := leads.position
    omega
  · intro m given
    have := ordered m given
    omega
  · have := leads.length_eq
    omega

theorem Completes.decides_free (loops : Loops turn least most go loop)
    (completes : Completes L least most go loop fuel) (decides : Decides go c accepted)
    (many : ¬count < least) (room : ∀ m ∈ most, count < m) (enough : c.after.length < fuel + 1) :
    Decides (loop fuel (count + 1) (some c.position)) c
      (Onward c.after accepted (Begins (between 0 (most.map (· - (count + 1))) L) accepted)) := by
  intro w d leads
  have shorter := leads.length_eq
  cases w with
  | nil =>
    -- The turn read nothing and led back to its own place, where the loop is over.
    obtain place : d.position = c.position := leads.position
    have here : d.after = c.after := leads.after.symm
    have ended := decides [] d leads
    rw [← loops.isSome_again (by omega : ¬count + 1 < least) fuel, place] at ended
    simp [ended, Onward, here]
  | cons x w =>
    have all : least - (count + 1) = 0 := by omega
    have less : d.after.length < c.after.length := by
      rw [List.length_cons] at shorter
      omega
    have onward := completes (count + 1) (some c.position) d accepted (decides.later leads)
    rw [all] at onward
    rw [onward, Onward, and_iff_right less]
    · constructor
      · exact .inr
      · rintro (⟨same, _⟩ | row)
        · rw [same] at less
          exact absurd less (Nat.lt_irrefl _)
        · exact row
    · rintro p ⟨⟩
      have := leads.position
      rw [List.length_cons] at this
      omega
    · exact room
    · omega

end Turn

/-- A loop reads the rest of a row. The turns that are required may read nothing, and every other
one has to leave less of the text, so the fuel bounds the two together. -/
theorem Loops.completes (loops : Loops turn least most go loop) (reads : Reads turn L)
    (ordered : ∀ m ∈ most, least ≤ m) (fuel : Nat) : Completes L least most go loop fuel := by
  induction fuel with
  | zero =>
    intro count last c accepted _ _ _ enough
    exact absurd enough (Nat.not_lt_zero _)
  | succ fuel ih =>
    intro count last c accepted decides apart bounded enough
    by_cases few : count < least
    case pos =>
      have one : least - count = least - (count + 1) + 1 := by omega
      rw [loops.required fuel count last c few, one, between_succ, begins_mul]
      · exact reads _ c _ (ih.decides_required decides few ordered apart enough)
      · intro m given
        exact Nat.lt_of_lt_of_le few (ordered m given)
    case neg =>
      have all : least - count = 0 := by omega
      -- The last free turn began before this place, so another one is not kept from it.
      have new : last ≠ some c.position := by
        rintro rfl
        exact absurd (apart c.position rfl) (Nat.lt_irrefl _)
      rw [all]
      by_cases room : ∀ m ∈ most, count < m
      case pos =>
        rw [loops.free fuel count last c few ⟨mayGrow_iff.mpr room, new⟩, decides.here,
          reads _ c _ (ih.decides_free loops decides few room (by omega))]
        exact begins_onward_or room
      case neg =>
        -- No turn is left to be taken, so only nothing is read.
        rw [loops.done fuel count last c few fun grows => room (mayGrow_iff.mp grows.1),
          decides.here]
        obtain ⟨m, rfl, full⟩ : ∃ m, most = some m ∧ m - count = 0 := by
          simp only [not_forall] at room
          obtain ⟨m, given, full⟩ := room
          exact ⟨m, given, by omega⟩
        rw [Option.map_some, full, between_zero_zero, begins_one]

end Repetition

/-- A repetition that may give back what it took reads so many texts in a row. -/
theorem Reads.repeated {turn : Continuation → Continuation} {L : Language CodePoint}
    (reads : Reads turn L) {least : Nat} {most : Option Nat} {greed : Greed}
    (gives : greed ≠ .possessive) (ordered : ∀ m ∈ most, least ≤ m) :
    Reads (Repetition.run turn least most greed) (between least most L) := by
  intro go c accepted decides
  have row : between (least - 0) (most.map (· - 0)) L = between least most L := by simp
  rw [← row]
  have complete {loop : Nat → Nat → Option Nat → Continuation}
      (loops : Repetition.Loops turn least most go loop) :=
    loops.completes reads ordered (least + c.after.length + 2) 0 none c accepted decides
      (by rintro _ ⟨⟩) (fun m _ => Nat.zero_le m) (by omega)
  cases greed with
  | greedy => exact complete (Repetition.greedy_loops turn least most go)
  | lazy => exact complete (Repetition.lazy_loops turn least most go)
  | possessive => exact absurd rfl gives

/-! ### Trees -/

namespace Regex

section Parts

variable (subject : Text)

mutual

/-- By cases on the tree: each part reads what its own parts read. -/
theorem reads_language : ∀ tree : Regex, tree.IsRegular → Reads (run subject tree) tree.language
  | .unit set, _ => by
    rw [language]
    exact reads_unit subject set
  | .sequence items, regular => by
    rw [language]
    exact reads_languageAll items regular
  | .choice branches, regular => by
    rw [language]
    exact reads_languageAny branches regular
  | .repeated least most greed body, regular => by
    rw [IsRegular] at regular
    obtain ⟨gives, ordered, inner⟩ := regular
    rw [language]
    exact (reads_language body inner).repeated gives ordered
  | .capture group body, regular => by
    rw [language]
    exact (reads_language body regular).capture group

theorem reads_languageAll : ∀ items, AllRegular items →
    Reads (runAll subject items) (languageAll items)
  | [], _ => reads_nothing
  | item :: rest, regular => by
    rw [AllRegular] at regular
    rw [languageAll]
    exact (reads_language item regular.1).then (reads_languageAll rest regular.2)

theorem reads_languageAny : ∀ branches, AllRegular branches →
    Reads (runAny subject branches) (languageAny branches)
  | [], _ => reads_never
  | branch :: rest, regular => by
    rw [AllRegular] at regular
    rw [languageAny]
    exact (reads_language branch regular.1).orElse (reads_languageAny rest regular.2)

end

end Parts

variable {tree : Regex} {subject : Text}

/-! ### Searching -/

/-- A tree matches at a place exactly if a text of its language begins there. -/
theorem isSome_run_iff (regular : tree.IsRegular) (before t : Text) :
    (tree.run subject some (.between before t)).isSome = true ↔ ∃ w ∈ tree.language, w <+: t := by
  have anything : Decides some (.between before t) fun _ => True := by
    intro w d _
    simp
  rw [reads_language subject tree regular some _ _ anything]
  constructor
  · rintro ⟨w, rest, shape, member, -⟩
    exact ⟨w, member, rest, shape.symm⟩
  · rintro ⟨w, member, rest, shape⟩
    exact ⟨w, rest, shape.symm, member, trivial⟩

theorem foundFrom_iff (regular : tree.IsRegular) (before t : Text) :
    tree.foundFrom subject before t = true ↔ ∃ w ∈ tree.language, w <:+: t := by
  induction t generalizing before with
  | nil =>
    rw [foundFrom, isSome_run_iff regular]
    simp
  | cons x rest ih =>
    rw [foundFrom, Bool.or_eq_true, isSome_run_iff regular, ih]
    constructor
    · rintro (⟨w, member, here⟩ | ⟨w, member, later⟩)
      · exact ⟨w, member, here.isInfix⟩
      · exact ⟨w, member, later.trans (List.suffix_cons x rest).isInfix⟩
    · rintro ⟨w, member, inside⟩
      rcases List.infix_cons_iff.mp inside with here | later
      · exact .inl ⟨w, member, here⟩
      · exact .inr ⟨w, member, later⟩

/-- A regular tree is found in the texts that contain a text of its language. -/
theorem foundIn_iff {L : Language CodePoint} (means : Means tree L) (t : Text) :
    tree.foundIn t = true ↔ ∃ w ∈ L, w <:+: t := by
  rw [← means.language]
  exact foundFrom_iff means.regular [] t

end Regex
end Conformance.Pattern
