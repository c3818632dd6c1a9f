import Conformance.Pattern.Parse
import Conformance.Proofs.Pattern.Language

/-!
# Joined branches

Reading a pattern rearranges its parts: branches share what they begin with alike, branches of one
set each become one set, and plain groups dissolve into the sequence around them. None of this
changes the language. Sharing a beginning is the distributive law, and dissolving a group the
associative one.
-/
namespace Conformance.Pattern

/-! ### Sets -/

/-- Items of a set list a code point. -/
def Listed (items : List SetItem) (c : CodePoint) : Prop := ∃ item ∈ items, item.holds c = true

theorem listed_append {a b : List SetItem} {c : CodePoint} :
    Listed (a ++ b) c ↔ Listed a c ∨ Listed b c := by
  simp only [Listed, List.mem_append]
  constructor
  · rintro ⟨item, first | second, holds⟩
    · exact .inl ⟨item, first, holds⟩
    · exact .inr ⟨item, second, holds⟩
  · rintro (⟨item, first, holds⟩ | ⟨item, second, holds⟩)
    · exact ⟨item, .inl first, holds⟩
    · exact ⟨item, .inr second, holds⟩

theorem listed_congr {a b : List SetItem} (same : ∀ item, item ∈ a ↔ item ∈ b) (c : CodePoint) :
    Listed a c ↔ Listed b c := by
  simp only [Listed, same]

theorem contains_listed {items : List SetItem} {c : CodePoint} :
    (CharSet.mk false items .exact).contains c = true ↔ Listed items c := by
  simp [CharSet.contains, CharSet.lists, Listed]

theorem contains_unlisted {items : List SetItem} {c : CodePoint} :
    (CharSet.mk true items .exact).contains c = true ↔ ¬Listed items c := by
  simp [CharSet.contains, CharSet.lists, Listed]

theorem oneOf_congr {p q : CodePoint → Prop} (same : ∀ c, p c ↔ q c) : oneOf p = oneOf q := by
  rw [funext fun c => propext (same c)]

theorem oneOf_or (p q : CodePoint → Prop) : oneOf (fun c => p c ∨ q c) = oneOf p + oneOf q := by
  ext w
  rw [Language.mem_add]
  constructor
  · rintro ⟨c, first | second, rfl⟩
    · exact .inl ⟨c, first, rfl⟩
    · exact .inr ⟨c, second, rfl⟩
  · rintro (⟨c, first, rfl⟩ | ⟨c, second, rfl⟩)
    · exact ⟨c, .inl first, rfl⟩
    · exact ⟨c, .inr second, rfl⟩

namespace Regex

theorem language_listed (items : List SetItem) :
    language (.unit ⟨false, items, .exact⟩) = oneOf (Listed items) := by
  rw [language]
  exact oneOf_congr fun _ => contains_listed

theorem language_unlisted (items : List SetItem) :
    language (.unit ⟨true, items, .exact⟩) = oneOf fun c => ¬Listed items c := by
  rw [language]
  exact oneOf_congr fun _ => contains_unlisted

/-! ### Trees in a row and trees to choose from -/

theorem languageAll_append (a b : List Regex) :
    languageAll (a ++ b) = languageAll a * languageAll b := by
  induction a with
  | nil => rw [List.nil_append, languageAll, one_mul]
  | cons item rest ih => rw [List.cons_append, languageAll, languageAll, ih, mul_assoc]

theorem allRegular_append {a b : List Regex} :
    AllRegular (a ++ b) ↔ AllRegular a ∧ AllRegular b := by
  induction a with
  | nil => simp [AllRegular]
  | cons item rest ih => rw [List.cons_append, AllRegular, AllRegular, ih, and_assoc]

theorem languageAll_single (item : Regex) : languageAll [item] = language item := by
  rw [languageAll, languageAll, mul_one]

theorem allRegular_single {item : Regex} : AllRegular [item] ↔ item.IsRegular := by
  rw [AllRegular, AllRegular, and_true]

/-- The texts of sequences to choose from. -/
def languageOfBranches (branches : List (List Regex)) : Language CodePoint :=
  languageAny (branches.map .sequence)

theorem languageOfBranches_cons (branch : List Regex) (rest : List (List Regex)) :
    languageOfBranches (branch :: rest) = languageAll branch + languageOfBranches rest := by
  rw [languageOfBranches, List.map_cons, languageAny, language, languageOfBranches]

theorem languageOfBranches_map_cons (item : Regex) (branches : List (List Regex)) :
    languageOfBranches (branches.map (item :: ·)) =
      language item * languageOfBranches branches := by
  induction branches with
  | nil => exact (mul_zero _).symm
  | cons branch rest ih =>
    rw [List.map_cons, languageOfBranches_cons, languageOfBranches_cons, languageAll, ih, mul_add]

theorem allRegular_map_sequence {branches : List (List Regex)} :
    AllRegular (branches.map .sequence) ↔ ∀ branch ∈ branches, AllRegular branch := by
  induction branches with
  | nil => simp [AllRegular]
  | cons branch rest ih =>
    rw [List.map_cons, AllRegular, IsRegular, ih, List.forall_mem_cons]

/-! ### One set for all -/

theorem exists_of_setItems? {branch : List Regex} {set : CharSet}
    (known : setItems? branch = some set) (regular : AllRegular branch) :
    ∃ items, set = ⟨false, items, .exact⟩ ∧ branch = [.unit set] := by
  unfold setItems? at known
  split at known
  case h_1 found =>
    split at known
    case isTrue => cases known
    case isFalse positive =>
      cases known
      obtain ⟨negated, items, folding⟩ := set
      obtain rfl : folding = .exact := allRegular_single.mp regular
      obtain rfl : negated = false := Bool.not_eq_true _ |>.mp positive
      exact ⟨items, rfl, rfl⟩
  case h_2 => cases known

theorem languageOfBranches_unit (items : List SetItem) :
    languageOfBranches [[.unit ⟨false, items, .exact⟩]] = oneOf (Listed items) := by
  rw [languageOfBranches_cons, languageAll_single, language_listed]
  exact add_zero _

/-- One set that stands for branches lists what they list. -/
theorem exists_of_oneSet? : ∀ {branches : List (List Regex)} {set : CharSet},
    oneSet? branches = some set → (∀ branch ∈ branches, AllRegular branch) →
      ∃ items, set = ⟨false, items, .exact⟩ ∧ languageOfBranches branches = oneOf (Listed items)
  | [branch], set, known, regular => by
    have only := regular branch (List.mem_singleton_self branch)
    obtain ⟨items, rfl, rfl⟩ := exists_of_setItems? known only
    exact ⟨items, rfl, languageOfBranches_unit items⟩
  | branch :: next :: rest, set, known, regular => by
    obtain ⟨first, one, behind, others, merged⟩ : ∃ first, setItems? branch = some first ∧
        ∃ behind, oneSet? (next :: rest) = some behind ∧ mergeSets first behind = some set := by
      simpa [oneSet?, Option.bind_eq_some_iff] using known
    rw [List.forall_mem_cons] at regular
    obtain ⟨items, rfl, rfl⟩ := exists_of_setItems? one regular.1
    obtain ⟨more, rfl, same⟩ := exists_of_oneSet? others regular.2
    cases merged
    refine ⟨_, rfl, ?_⟩
    rw [languageOfBranches_cons, languageAll_single, language_listed, same, ← oneOf_or]
    apply oneOf_congr
    intro c
    rw [← listed_append]
    apply listed_congr
    intro item
    -- What both sets hold is kept once.
    by_cases among : item ∈ items
    case pos => simp [among]
    case neg => simp [among]

theorem allMean_choose {branches : List (List Regex)}
    (regular : ∀ branch ∈ branches, AllRegular branch) :
    AllMean (choose branches) (languageOfBranches branches) := by
  unfold choose
  split
  case h_1 set known =>
    obtain ⟨items, rfl, same⟩ := exists_of_oneSet? known regular
    refine ⟨allRegular_single.mpr rfl, ?_⟩
    rw [languageAll_single, language_listed, same]
  case h_2 =>
    refine ⟨allRegular_single.mpr (allRegular_map_sequence.mpr regular), ?_⟩
    rw [languageAll_single, language, languageOfBranches]

/-! ### A shared beginning -/

theorem eq_of_sameLeaf {a b : Regex} (same : sameLeaf a b = true) : a = b := by
  unfold sameLeaf at same
  split at same
  case h_1 => rw [of_decide_eq_true same]
  case h_2 => rw [of_decide_eq_true same]
  case h_3 =>
    rw [Bool.and_eq_true, decide_eq_true_eq, decide_eq_true_eq] at same
    rw [same.1, same.2]
  case h_4 => cases same

theorem eq_of_dropFirst? {first : Regex} {branches rests : List (List Regex)}
    (shared : dropFirst? first branches = some rests) : branches = rests.map (first :: ·) := by
  induction branches generalizing rests with
  | nil =>
    cases shared
    rfl
  | cons branch others ih =>
    cases branch with
    | nil => cases shared
    | cons item branch =>
      rw [dropFirst?] at shared
      split at shared
      case isTrue same =>
        obtain ⟨behind, known, rfl⟩ := Option.map_eq_some_iff.mp shared
        rw [ih known, eq_of_sameLeaf same, List.map_cons]
      case isFalse => cases shared

/-- By induction on the first branch, as far as the others begin like it. -/
theorem allMean_joinWith {first : List Regex} {others : List (List Regex)}
    (regular : ∀ branch ∈ first :: others, AllRegular branch) :
    AllMean (joinWith first others) (languageOfBranches (first :: others)) := by
  induction first generalizing others with
  | nil => exact allMean_choose regular
  | cons item branch ih =>
    rw [joinWith]
    split
    case h_1 rests shared =>
      obtain rfl := eq_of_dropFirst? shared
      rw [← List.map_cons] at regular ⊢
      have parts : ∀ behind ∈ branch :: rests, item.IsRegular ∧ AllRegular behind :=
        fun behind among => regular (item :: behind) (List.mem_map_of_mem among)
      have means := ih fun behind among => (parts behind among).2
      refine ⟨⟨(parts branch (List.mem_cons_self ..)).1, means.regular⟩, ?_⟩
      rw [languageAll, means.language, languageOfBranches_map_cons]
    case h_2 => exact allMean_choose regular

/-- Joined branches have the texts of the branches. -/
theorem allMean_join {first : List Regex} {others : List (List Regex)}
    (regular : ∀ branch ∈ first :: others, AllRegular branch) :
    AllMean (join (first :: others)) (languageOfBranches (first :: others)) := by
  cases others with
  | nil =>
    refine ⟨regular first (List.mem_singleton_self first), ?_⟩
    rw [join, languageOfBranches_cons]
    exact (add_zero _).symm
  | cons second others => exact allMean_joinWith regular

/-! ### Groups that dissolve -/

theorem inOrder_cons (item : Regex) (items : List Regex) :
    Reader.inOrder (item :: items) = Reader.inOrder items ++ Reader.inOrder [item] := by
  simp [Reader.inOrder]

theorem languageAll_inOrder (items : List Regex) :
    languageAll (Reader.inOrder items) = languageAll items.reverse := by
  induction items with
  | nil => rfl
  | cons item rest ih =>
    rw [inOrder_cons, List.reverse_cons, languageAll_append, languageAll_append, ih]
    cases item <;> simp [Reader.inOrder, languageAll, language]

theorem allRegular_inOrder (items : List Regex) :
    AllRegular (Reader.inOrder items) ↔ AllRegular items.reverse := by
  induction items with
  | nil => rfl
  | cons item rest ih =>
    rw [inOrder_cons, List.reverse_cons, allRegular_append, allRegular_append, ih]
    cases item <;> simp [Reader.inOrder, AllRegular, IsRegular]

end Regex

/-- Items read from last to first have the same language in order, without the plain groups. -/
theorem AllMean.inOrder {items : List Regex} {L : Language CodePoint}
    (means : AllMean items.reverse L) : AllMean (Reader.inOrder items) L :=
  ⟨(Regex.allRegular_inOrder items).mpr means.regular,
    (Regex.languageAll_inOrder items).trans means.language⟩

/-! ### Items that are listed twice -/

theorem mem_distinct_foldl (items kept : List SetItem) (item : SetItem) :
    item ∈ items.foldl (fun kept item => if kept.contains item then kept else kept ++ [item]) kept ↔
      item ∈ kept ∨ item ∈ items := by
  induction items generalizing kept with
  | nil => simp
  | cons first rest ih =>
    rw [List.foldl_cons, ih, List.mem_cons]
    by_cases there : first ∈ kept
    case pos =>
      rw [if_pos (List.contains_iff_mem.mpr there)]
      constructor
      · rintro (before | later)
        · exact .inl before
        · exact .inr (.inr later)
      · rintro (before | rfl | later)
        · exact .inl before
        · exact .inl there
        · exact .inr later
    case neg =>
      rw [if_neg fun found => there (List.contains_iff_mem.mp found), List.mem_append,
        List.mem_singleton, or_assoc]

/-- Dropping what was there before changes nothing of what items list. -/
theorem listed_distinctItems (items : List SetItem) (c : CodePoint) :
    Listed (Reader.distinctItems items) c ↔ Listed items c := by
  apply listed_congr
  intro item
  rw [Reader.distinctItems, mem_distinct_foldl]
  simp

end Conformance.Pattern
