import Conformance.Document.Basic
import Conformance.Proofs.Text.Numeral
import Conformance.Report.Pointer
import Mathlib.Data.List.Forall2

/-!
# Reading pointers

A pointer is read by the rules of RFC 6901: it is cut at its slashes, and in each piece first `~1`
becomes a slash and then `~0` a tilde. A step names a member of an object; in an array it is an
index, written without a zero in front of other digits.

Reading undoes writing (`steps?_ofSteps`), because an escaped step holds no slash and every tilde in
it belongs to one of the two escapes. Two paths therefore have one pointer exactly if their steps
are written alike (`ofPath_uniquely_decodable`). The numeral of an index is read back to the index
(`index?_ofNat`), so a pointer leads where its path does.
-/
namespace Conformance

/-- Puts a text in the place of every occurrence of a code point. -/
def Text.replace (t : Text) (old : CodePoint) (new : Text) : Text :=
  t.flatMap fun c => if c = old then new else [c]

namespace Pointer

abbrev slash : CodePoint := '/'

abbrev tilde : CodePoint := '~'

abbrev zero : CodePoint := '0'

abbrev one : CodePoint := '1'

/-- One code point for each place where two given ones stand side by side. -/
def replacePair (first second other : CodePoint) : Text → Text
  | a :: b :: rest =>
    if a = first ∧ b = second then other :: replacePair first second other rest
    else a :: replacePair first second other (b :: rest)
  | t => t

/-- A step as it was before it was escaped. -/
def unescape (piece : Text) : Text :=
  replacePair tilde zero tilde (replacePair tilde one slash piece)

/-- The steps of a pointer, which is empty or starts with a slash. -/
def steps? (pointer : Text) : Option (List Text) :=
  match Text.splitOn slash pointer with
  | [] :: pieces => some (pieces.map unescape)
  | _ => none

/-- The index that a step is the numeral of. -/
def index? (step : Text) : Option Nat :=
  match step with
  | [] => none
  | c :: rest =>
    if (c :: rest).all CodePoint.isDigit = true ∧ (c ≠ zero ∨ rest = []) then
      some (Text.natValue step)
    else none

/-! ### Escapes -/

theorem replacePair_pair (first second other : CodePoint) (rest : Text) :
    replacePair first second other (first :: second :: rest) =
      other :: replacePair first second other rest := by
  rw [replacePair, if_pos ⟨rfl, rfl⟩]

/-- A code point that starts no pair stays. -/
theorem replacePair_cons {first second c : CodePoint} {rest : Text} (other : CodePoint)
    (single : c = first → rest.head? ≠ some second) :
    replacePair first second other (c :: rest) = c :: replacePair first second other rest := by
  cases rest with
  | nil => rfl
  | cons b rest =>
    rw [replacePair, if_neg]
    rintro ⟨same, rfl⟩
    exact single same rfl

/-- A step in which only the tildes are escaped. -/
def escapeTildes : Text → Text
  | [] => []
  | c :: step => if c = tilde then tilde :: zero :: escapeTildes step else c :: escapeTildes step

theorem escape_tilde (step : Text) : escape (tilde :: step) = tilde :: zero :: escape step := rfl

theorem escape_slash (step : Text) : escape (slash :: step) = tilde :: one :: escape step := rfl

theorem escape_other {c : CodePoint} (noTilde : c ≠ tilde) (noSlash : c ≠ slash) (step : Text) :
    escape (c :: step) = c :: escape step := by
  have plain : escapePoint c = [c] := by rw [escapePoint, if_neg noTilde, if_neg noSlash]
  rw [escape, List.flatMap_cons, plain]
  rfl

theorem restore_slashes (step : Text) :
    replacePair tilde one slash (escape step) = escapeTildes step := by
  induction step with
  | nil => rfl
  | cons c step ih =>
    by_cases isTilde : c = tilde
    · subst isTilde
      -- The zero after the tilde keeps it from being taken for an escaped slash.
      have kept : (zero :: escape step).head? ≠ some one := fun same =>
        absurd (Option.some.inj same) (by decide)
      have plain : zero ≠ tilde := by decide
      rw [escape_tilde, replacePair_cons _ fun _ => kept,
        replacePair_cons _ fun same => absurd same plain, ih, escapeTildes, if_pos rfl]
    · rw [escapeTildes, if_neg isTilde]
      by_cases isSlash : c = slash
      · subst isSlash
        rw [escape_slash, replacePair_pair, ih]
      · rw [escape_other isTilde isSlash, replacePair_cons _ fun same => absurd same isTilde, ih]

theorem restore_tildes (step : Text) :
    replacePair tilde zero tilde (escapeTildes step) = step := by
  induction step with
  | nil => rfl
  | cons c step ih =>
    rw [escapeTildes]
    by_cases isTilde : c = tilde
    · rw [if_pos isTilde, replacePair_pair, ih, isTilde]
    · rw [if_neg isTilde, replacePair_cons _ fun same => absurd same isTilde, ih]

@[simp] theorem unescape_escape (step : Text) : unescape (escape step) = step := by
  rw [unescape, restore_slashes, restore_tildes]

/-- A step is escaped by replacing first its tildes and then its slashes. -/
theorem escape_eq_replace (step : Text) :
    escape step = (step.replace tilde "~0").replace slash "~1" := by
  rw [Text.replace, Text.replace, List.flatMap_assoc, escape]
  apply List.flatMap_congr
  intro c _
  rw [escapePoint]
  by_cases isTilde : c = tilde
  · -- The text of the first replacement holds no slash, so the second one leaves it as it is.
    rw [if_pos isTilde, if_pos isTilde]
    rfl
  · rw [if_neg isTilde, if_neg isTilde, List.flatMap_singleton]

theorem slash_not_mem_escape (step : Text) : slash ∉ escape step := by
  intro member
  obtain ⟨c, _, inside⟩ := List.mem_flatMap.mp member
  rw [escapePoint] at inside
  split at inside
  · revert inside
    decide
  · split at inside
    · revert inside
      decide
    · next other => exact other (List.mem_singleton.mp inside).symm

end Pointer

/-! ### Pieces -/

namespace Text

theorem splitOn_of_not_mem {separator : CodePoint} {piece : Text} (whole : separator ∉ piece) :
    splitOn separator piece = [piece] := by
  induction piece with
  | nil => rfl
  | cons c piece ih =>
    simp only [List.mem_cons, not_or] at whole
    rw [splitOn, if_neg (Ne.symm whole.1), ih whole.2]

theorem exists_splitOn (separator : CodePoint) (t : Text) :
    ∃ piece pieces, splitOn separator t = piece :: pieces := by
  cases t with
  | nil => exact ⟨[], [], rfl⟩
  | cons c t =>
    rw [splitOn]
    split
    · exact ⟨_, _, rfl⟩
    · split <;> exact ⟨_, _, rfl⟩

/-- A separator parts the pieces before it from those behind it. -/
theorem splitOn_append (separator : CodePoint) (first rest : Text) :
    splitOn separator (first ++ separator :: rest) =
      splitOn separator first ++ splitOn separator rest := by
  induction first with
  | nil =>
    show splitOn separator (separator :: rest) = [] :: splitOn separator rest
    rw [splitOn, if_pos rfl]
  | cons c first ih =>
    rw [List.cons_append, splitOn, splitOn, ih]
    split
    · rfl
    · obtain ⟨piece, pieces, split⟩ := exists_splitOn separator first
      rw [split]
      rfl

end Text

namespace Pointer

theorem ofSteps_cons (step : Text) (steps : List Text) :
    ofSteps (step :: steps) = slash :: (escape step ++ ofSteps steps) := rfl

/-- A text up to the next step is one piece. -/
theorem splitOn_append_ofSteps {piece : Text} (whole : slash ∉ piece)
    (steps : List Text) :
    Text.splitOn slash (piece ++ ofSteps steps) = piece :: steps.map escape := by
  induction steps generalizing piece with
  | nil =>
    have bare : piece ++ ofSteps [] = piece := List.append_nil piece
    rw [bare, Text.splitOn_of_not_mem whole, List.map_nil]
  | cons step steps ih =>
    rw [ofSteps_cons, Text.splitOn_append, Text.splitOn_of_not_mem whole,
      ih (slash_not_mem_escape step), List.map_cons, List.singleton_append]

/-- Reading a pointer gives the steps that it was written from. -/
theorem steps?_ofSteps (steps : List Text) : steps? (ofSteps steps) = some steps := by
  -- Nothing stands in front of the first slash, hence the empty piece.
  have pieces : Text.splitOn slash (ofSteps steps) = [] :: steps.map escape :=
    splitOn_append_ofSteps (List.not_mem_nil) steps
  simp only [steps?, pieces, List.map_map]
  congr 1
  calc steps.map (unescape ∘ escape)
      = steps.map id := List.map_congr_left fun step _ => unescape_escape step
    _ = steps := List.map_id steps

/-! ### Paths -/

/-- A pointer determines its path up to what is written of the steps. -/
theorem ofPath_eq_iff (path other : Path) :
    ofPath path = ofPath other ↔ path.map Segment.toText = other.map Segment.toText := by
  refine ⟨fun same => ?_, congrArg ofSteps⟩
  have steps := congrArg steps? same
  rw [ofPath, ofPath, steps?_ofSteps, steps?_ofSteps] at steps
  exact Option.some.inj steps

-- Not every path is told by its pointer.
example : ofPath [.index 3] = ofPath [.name "3"] := by decide

/-- A pointer puts a slash and the replaced text in front of what follows for every step. It is read
back to what is written of the steps, so two paths have one pointer exactly if they agree segment by
segment in writing, and the empty pointer stands for the root alone. -/
theorem ofPath_uniquely_decodable (path : Path) :
    (ofPath path = path.flatMap fun segment =>
        slash :: (segment.toText.replace tilde "~0").replace slash "~1") ∧
      steps? (ofPath path) = some (path.map Segment.toText) ∧
      (∀ other, ofPath path = ofPath other ↔
        List.Forall₂ (fun a b => Segment.toText a = Segment.toText b) path other) ∧
      (ofPath path = [] ↔ path = []) := by
  refine ⟨?_, steps?_ofSteps _, fun other => ?_, ?_⟩
  · simp only [← escape_eq_replace, ofPath, ofSteps, List.flatMap_map]
    rfl
  · -- Agreement in writing is an equality of two lists of texts.
    rw [ofPath_eq_iff, ← List.forall₂_eq_eq_eq, List.forall₂_map_left_iff,
      List.forall₂_map_right_iff]
  · have root := ofPath_eq_iff path []
    rwa [List.map_nil, List.map_eq_nil_iff] at root

/-! ### Indices -/

/-- The numeral of an index is read back. -/
theorem index?_ofNat (n : Nat) : index? (Text.ofNat n) = some n := by
  obtain ⟨c, rest, equal, front⟩ := Text.ofNat_eq_cons n
  have digits : (c :: rest).all CodePoint.isDigit = true := by
    rw [List.all_eq_true]
    intro digit member
    exact Text.isDigit_of_mem_ofNat (equal ▸ member)
  have value : Text.natValue (c :: rest) = n := by rw [← equal, Text.natValue_ofNat]
  rw [equal, index?, if_pos ⟨digits, front⟩, value]

end Pointer

/-! ### What a pointer finds -/

namespace Document

/-- The value one step below a value. -/
def child? (step : Text) : Document → Option Document
  | .object members => Named.get? members step
  | .array elements => (Pointer.index? step).bind fun index => elements[index]?
  | _ => none

/-- The value that steps lead to. -/
def at? : List Text → Document → Option Document
  | [], value => some value
  | step :: rest, value => (value.child? step).bind (at? rest)

/-- The value that a pointer leads to. -/
def resolve? (pointer : Text) (value : Document) : Option Document :=
  (Pointer.steps? pointer).bind fun steps => value.at? steps

theorem resolve?_ofSteps (steps : List Text) (value : Document) :
    value.resolve? (Pointer.ofSteps steps) = value.at? steps := by
  rw [resolve?, Pointer.steps?_ofSteps, Option.bind_some]

end Document
end Conformance
