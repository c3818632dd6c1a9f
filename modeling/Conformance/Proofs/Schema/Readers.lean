import Conformance.Proofs.Document.Structure
import Conformance.Proofs.Number.Value
import Conformance.Proofs.Step
import Conformance.Schema.Compile
import Mathlib.Data.List.Forall2
import Mathlib.Data.Option.Basic

/-!
# When the value of a keyword can be read

Each reader of a keyword succeeds on values of one shape and returns what they hold. The lemmas say
so by an equivalence for each reader, so that nothing later opens a reader. A keyword that may be
absent is read to an optional result, which is there exactly when the keyword is.
-/
namespace Conformance

theorem Kind.ofName?_eq_some_iff (name : Text) (kind : Kind) :
    Kind.ofName? name = some kind ↔ name = kind.name := by
  constructor
  · intro found
    have same := List.find?_some found
    exact (of_decide_eq_true same).symm
  · rintro rfl
    cases kind <;> rfl

theorem Kind.name_injective {first second : Kind} (same : first.name = second.name) :
    first = second := by
  have found := (ofName?_eq_some_iff first.name first).mpr rfl
  have again := (ofName?_eq_some_iff first.name second).mpr same
  rw [found] at again
  exact Option.some.inj again

/-- A pattern keeps the text that it was compiled from. -/
theorem Pattern.source_of_compile {source : Text} {p : Pattern}
    (compiled : Pattern.compile source = .ok p) : p.source = source := by
  rw [Pattern.compile] at compiled
  cases parsed : Regex.parse source with
  | error error => simp [parsed, Except.map] at compiled
  | ok tree =>
    simp only [parsed, Except.map, Except.ok.injEq] at compiled
    rw [← compiled]

namespace Schema

/-! ### Single keywords -/

/-- The texts among documents, in order. -/
def texts (entries : List Document) : List Text :=
  entries.filterMap fun entry =>
    match entry with
    | .string text => some text
    | _ => none

/-- A document that counts something: a number with a natural value. -/
def Counts (d : Document) (n : Nat) : Prop := ∃ x, d = .number x ∧ x.value = n

/-- A document that holds the text of a pattern. -/
def Spells (d : Document) (p : Pattern) : Prop :=
  d = .string p.source ∧ Pattern.compile p.source = .ok p

theorem Counts.unique {d : Document} {m n : Nat} (first : Counts d m) (second : Counts d n) :
    m = n := by
  obtain ⟨x, rfl, natural⟩ := first
  obtain ⟨_, same, again⟩ := second
  cases same
  exact_mod_cast natural.symm.trans again

theorem Spells.unique {d : Document} {p q : Pattern} (first : Spells d p) (second : Spells d q) :
    p = q := by
  obtain ⟨spelt, compiled⟩ := first
  obtain ⟨again, recompiled⟩ := second
  have same : p.source = q.source := Document.string.inj (spelt.symm.trans again)
  rw [same, recompiled] at compiled
  exact (Except.ok.inj compiled).symm

theorem readKind_eq_ok_iff (back : List Text) (d : Document) (kind : Kind) :
    readKind back d = .ok kind ↔ d = .string kind.name := by
  cases d with
  | string name =>
    simp only [readKind, Document.string.injEq, ← Kind.ofName?_eq_some_iff]
    cases Kind.ofName? name <;> simp [refuse]
  | _ => simp [readKind, refuseShape, refuse]

theorem readRequired_eq_ok_iff (back : List Text) (d : Document) (names : List Text) :
    readRequired back d = .ok names ↔ ∃ entries, d = .array entries ∧ names = texts entries := by
  cases d with
  | array entries =>
    simp only [readRequired, Except.ok.injEq, Document.array.injEq, exists_eq_left', texts]
    exact eq_comm
  | _ => simp [readRequired, refuseShape, refuse]

theorem readCount_eq_ok_iff (back : List Text) (keyword : Keyword) (d : Document) (n : Nat) :
    readCount back keyword d = .ok n ↔ Counts d n := by
  cases d with
  | number x =>
    simp only [readCount, Counts, Document.number.injEq, exists_eq_left']
    split
    · next natural =>
      obtain ⟨m, value⟩ := (Binary64.isCount_iff x).mp natural
      rw [Except.ok.injEq, Binary64.toNat_toInt_of_value value, value, Nat.cast_inj]
    · next other =>
      simp only [refuseShape, refuse, reduceCtorEq, false_iff]
      exact fun value => other ((Binary64.isCount_iff x).mpr ⟨n, value⟩)
  | _ => simp [readCount, refuseShape, refuse, Counts]

theorem readNumber_eq_ok_iff (back : List Text) (keyword : Keyword) (d : Document)
    (x : Binary64) : readNumber back keyword d = .ok x ↔ d = .number x := by
  cases d <;> simp [readNumber, refuseShape, refuse]

theorem readPattern_eq_ok_iff (back : List Text) (d : Document) (p : Pattern) :
    readPattern back d = .ok p ↔ Spells d p := by
  cases d with
  | string source =>
    simp only [readPattern, Spells, Document.string.injEq]
    cases compiled : Pattern.compile source with
    | ok pattern =>
      have same := Pattern.source_of_compile compiled
      constructor
      · intro returned
        cases returned
        exact ⟨same.symm, same.symm ▸ compiled⟩
      · rintro ⟨rfl, again⟩
        rw [compiled] at again
        cases again
        rfl
    | error error =>
      have refused : ¬(source = p.source ∧ Pattern.compile p.source = .ok p) := by
        rintro ⟨rfl, accepted⟩
        simp [compiled] at accepted
      cases syntactic : error.isSyntax <;> simp [refuse, syntactic, refused]
  | _ => simp [readPattern, refuseShape, refuse, Spells]

theorem readEnum_eq_ok_iff (back : List Text) (d : Document) (values : List Document) :
    readEnum back d = .ok values ↔ d = .array values := by
  cases d <;> simp [readEnum, refuseShape, refuse]

/-! ### Optional keywords and members -/

theorem optional_eq_ok_iff {α : Type} (members : Named Document) (keyword : Keyword)
    (read : Document → Except CompileError α) (result : Option α) :
    optional members keyword read = .ok result ↔
      Option.Rel (fun d a => read d = .ok a) (members.get? keyword.name) result := by
  rw [optional]
  cases members.get? keyword.name with
  | none => cases result <;> simp
  | some d =>
    cases step : read d <;> cases result <;> simp [Except.map, step, eq_comm]

theorem readMembers_eq_ok_iff {α : Type} (read : Text → Document → Except CompileError α)
    (members : Named Document) (result : Named α) :
    readMembers read members = .ok result ↔
      List.Forall₂ (fun member entry => entry.1 = member.1 ∧ read member.1 member.2 = .ok entry.2)
        members result := by
  induction members generalizing result with
  | nil => cases result <;> simp [readMembers]
  | cons member rest ih =>
    obtain ⟨name, value⟩ := member
    simp only [readMembers, bind_eq_ok_iff, pure_eq_ok_iff, ih]
    constructor
    · rintro ⟨first, read, others, related, rfl⟩
      exact .cons ⟨rfl, read⟩ related
    · intro related
      cases related with
      | @cons _ entry _ others head tail =>
        obtain ⟨key, first⟩ := entry
        obtain ⟨rfl, read⟩ := head
        exact ⟨first, read, others, tail, rfl⟩

end Schema
end Conformance
