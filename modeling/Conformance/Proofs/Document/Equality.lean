import Conformance.Proofs.Document.Converted
import Conformance.Proofs.Document.Dump
import Mathlib.Data.List.Perm.Basic
import Mathlib.Logic.Relation

/-!
# Structural equality is the equality of documents

On well-named documents structural equality is an equivalence: it holds exactly where one document
is rearranged into the other, step by step, by putting the members of an object in another order or
by giving a zero the other sign. The equality of the data decides the same. A hash that goes by the
hashes of the parts, and for an object leaves the order of the members aside, is shared by equal
documents; so a set takes two documents for one exactly if they are equal.
-/
namespace Conformance.Document

/-! ### An equivalence -/

namespace Alike

theorem refl {v : Document} (named : v.WellNamed) : Alike v v := by
  induction v with
  | null => exact .null
  | boolean value => exact .boolean value
  | number x => exact .number ((Binary64.same_iff x x).mpr rfl)
  | string value => exact .string value
  | array elements ih =>
    exact .array (List.forall₂_same.mpr fun x member => ih x member (named.of_mem_array member))
  | object members ih =>
    refine .object named.distinct_names named.distinct_names fun name => ?_
    cases found : Named.get? members name with
    | none => exact .none
    | some x => exact .some (ih _ (Named.mem_of_get? found) (named.of_get? found))

/-- Only well-named documents are alike. -/
theorem wellNamed {v w : Document} (alike : Alike v w) : v.WellNamed := by
  induction v generalizing w with
  | null => exact .null
  | boolean value => exact .boolean value
  | number x => exact .number x
  | string value => exact .string value
  | array xs ih =>
    cases alike with
    | @array _ ys each =>
      have both := (List.forall₂_and_left xs ys).mpr ⟨ih, each⟩
      exact .array ((List.forall₂_and_left xs ys).mp
        (both.imp fun _ _ held => ⟨held.1 held.2, held.2⟩)).1
  | object xs ih =>
    cases alike with
    | object left right each =>
      refine .object left fun member present => ?_
      have found := (Named.get?_eq_some_iff left member.1 member.2).mpr present
      rcases Named.rel_cases (each member.1) with ⟨absent, _⟩ | ⟨x, _, there, _, held⟩
      · rw [found] at absent
        cases absent
      · rw [found] at there
        cases there
        exact ih member present held

end Alike

theorem structurallyEqual_of_alike {v w : Document} (alike : Alike v w) :
    v.structurallyEqual w = true := by
  have self : v.structurallyEqual v = true := by
    have named := alike.wellNamed
    clear alike
    induction v with
    | null => rfl
    | boolean value => exact beq_self_eq_true value
    | number x => exact (Binary64.same_iff x x).mpr rfl
    | string value => exact decide_eq_true rfl
    | array xs ih =>
      rw [structurallyEqual_array_iff, List.forall₂_same]
      exact fun x member => ih x member (named.of_mem_array member)
    | object xs ih =>
      rw [structurallyEqual_object_iff]
      refine ⟨rfl, fun member present => ⟨member.2, ?_, ih member present
        (named.of_mem_object present)⟩⟩
      exact (Named.get?_eq_some_iff named.distinct_names _ _).mpr present
  rw [← structurallyEqual_congr_right v alike, self]

theorem structurallyEqual_iff_alike (v w : Proper) :
    v.1.structurallyEqual w.1 = true ↔ Alike v w :=
  ⟨alike_of_structurallyEqual v.2 w.2, structurallyEqual_of_alike⟩

theorem Alike.trans {u v w : Document} (first : Alike u v) (second : Alike v w) : Alike u w := by
  have equal := structurallyEqual_of_alike first
  rw [structurallyEqual_congr_right u second] at equal
  exact alike_of_structurallyEqual first.wellNamed second.symm.wellNamed equal

/-! ### Rearranging -/

/-- One step of rearranging: an object has its members in another order, a zero has the other sign,
or a step is made inside an element or inside the value of a member. -/
inductive Rearranges : Document → Document → Prop where
  | reorder {xs ys : Named Document} (perm : xs.Perm ys) : Rearranges (.object xs) (.object ys)
  | zero (negative : Bool) :
      Rearranges (.number (.zero negative)) (.number (.zero !negative))
  | element {before after : List Document} {x y : Document} (step : Rearranges x y) :
      Rearranges (.array (before ++ x :: after)) (.array (before ++ y :: after))
  | member {before after : Named Document} {name : Text} {x y : Document}
      (step : Rearranges x y) :
      Rearranges (.object (before ++ (name, x) :: after)) (.object (before ++ (name, y) :: after))

open Relation (ReflTransGen)

theorem rearranged_array {xs ys : List Document}
    (each : List.Forall₂ (ReflTransGen Rearranges) xs ys) (before : List Document) :
    ReflTransGen Rearranges (.array (before ++ xs)) (.array (before ++ ys)) := by
  induction each generalizing before with
  | nil => exact .refl
  | @cons x y xs ys first _ ih =>
    -- The first element is rearranged where it stands, and then belongs to what stands before.
    have head : ReflTransGen Rearranges (.array (before ++ x :: xs)) (.array (before ++ y :: xs)) :=
      ReflTransGen.lift (fun d => Document.array (before ++ d :: xs))
        (fun _ _ step => Rearranges.element step) _ _ first
    have tail := ih (before ++ [y])
    rw [List.append_assoc, List.append_assoc] at tail
    exact head.trans tail

theorem rearranged_object {xs ys : Named Document} (each : List.Forall₂ (fun member entry =>
      member.1 = entry.1 ∧ ReflTransGen Rearranges member.2 entry.2) xs ys)
    (before : Named Document) :
    ReflTransGen Rearranges (.object (before ++ xs)) (.object (before ++ ys)) := by
  induction each generalizing before with
  | nil => exact .refl
  | @cons member entry xs ys first _ ih =>
    obtain ⟨name, x⟩ := member
    obtain ⟨other, y⟩ := entry
    obtain ⟨rfl, first⟩ := first
    have head : ReflTransGen Rearranges (.object (before ++ (name, x) :: xs))
        (.object (before ++ (name, y) :: xs)) :=
      ReflTransGen.lift (fun d => Document.object (before ++ (name, d) :: xs))
        (fun _ _ step => Rearranges.member step) _ _ first
    have tail := ih (before ++ [(name, y)])
    rw [List.append_assoc, List.append_assoc] at tail
    exact head.trans tail

theorem rearranged_number {x y : Binary64} (same : x.same y = true) :
    ReflTransGen Rearranges (.number x) (.number y) := by
  rcases Binary64.eq_or_zero_of_same same with rfl | null
  · exact .refl
  · have zero {z : Binary64} (none : z.units = 0) : z = .zero z.negative := by
      refine Binary64.eq_zero_of_mantissa ?_
      have magnitude := Binary64.natAbs_units z
      rw [none, Int.natAbs_zero, Binary64.magnitude, eq_comm, Nat.mul_eq_zero] at magnitude
      exact magnitude.resolve_right (Nat.two_pow_pos _).ne'
    have other : y.units = 0 := (Binary64.same_iff x y).mp same ▸ null
    rw [zero null, zero other]
    by_cases sign : x.negative = y.negative
    · rw [sign]
    · rw [show y.negative = !x.negative from Bool.eq_not.mpr (Ne.symm sign)]
      exact .single (.zero x.negative)

theorem rearranged_of_alike {v w : Document} (alike : Alike v w) :
    ReflTransGen Rearranges v w := by
  induction v generalizing w with
  | null | boolean _ | string _ =>
    cases alike
    exact .refl
  | number x =>
    cases alike with
    | number same => exact rearranged_number same
  | array xs ih =>
    cases alike with
    | @array _ ys each =>
      have both := (List.forall₂_and_left xs ys).mpr ⟨ih, each⟩
      exact rearranged_array (both.imp fun _ _ held => held.1 held.2) []
  | object xs ih =>
    cases alike with
    | @object _ ys left right each =>
      -- The values are rearranged in the order of the first object, the members then reordered.
      obtain ⟨ws, aligned, perm⟩ := (Alike.object left right each).exists_aligned
      have both := (List.forall₂_and_left xs ws).mpr ⟨ih, aligned⟩
      have values := rearranged_object
        (both.imp fun _ _ held => ⟨held.2.1, held.1 held.2.2⟩) []
      exact values.tail (.reorder perm)

/-- A step of rearranging leads to an alike document. -/
theorem Rearranges.alike {v w : Document} (step : Rearranges v w) (named : v.WellNamed) :
    Alike v w := by
  induction step with
  | @reorder xs ys perm =>
    have names : xs.names.Perm ys.names := perm.map Prod.fst
    have distinct := named.distinct_names
    refine .object distinct (names.nodup_iff.mp distinct) fun name => ?_
    rw [← Named.get?_of_perm distinct perm]
    cases found : Named.get? xs name with
    | none => exact .none
    | some x => exact .some (.refl (named.of_get? found))
  | zero negative =>
    have null (sign : Bool) : (Binary64.zero sign).units = 0 := by cases sign <;> rfl
    exact .number ((Binary64.same_iff _ _).mpr (by rw [null, null]))
  | @element before after x y step ih =>
    have each := (wellNamed_array_iff _).mp named
    rw [List.forall_mem_append, List.forall_mem_cons] at each
    obtain ⟨front, here, behind⟩ := each
    have others {xs : List Document} (each : ∀ x ∈ xs, x.WellNamed) : List.Forall₂ Alike xs xs :=
      List.forall₂_same.mpr fun x member => .refl (each x member)
    exact .array (List.rel_append (others front) (.cons (ih here) (others behind)))
  | @member before after name x y step ih =>
    obtain ⟨distinct, each⟩ := (wellNamed_object_iff _).mp named
    rw [List.forall_mem_append, List.forall_mem_cons] at each
    obtain ⟨front, here, behind⟩ := each
    have others {xs : Named Document} (each : ∀ member ∈ xs, member.2.WellNamed) :
        List.Forall₂ (fun member entry => member.1 = entry.1 ∧ Alike member.2 entry.2) xs xs :=
      List.forall₂_same.mpr fun member present => ⟨rfl, .refl (each member present)⟩
    exact .of_aligned distinct
      (List.rel_append (others front) (.cons ⟨rfl, ih here⟩ (others behind)))

theorem alike_of_rearranged (v : Proper) {w : Document}
    (rearranged : ReflTransGen Rearranges v w) : Alike v w := by
  induction rearranged with
  | refl => exact .refl v.2
  | tail _ step ih => exact ih.trans (step.alike ih.symm.wellNamed)

/-! ### The equality of the data -/

theorem equalAll_eq {xs ys : List Document}
    (each : ∀ x ∈ xs, ∀ y, equal x y = structurallyEqual x y) :
    equalAll xs ys = elementsEqual xs ys := by
  induction xs generalizing ys with
  | nil => cases ys <;> rfl
  | cons x xs ih =>
    cases ys with
    | nil => rfl
    | cons y ys =>
      obtain ⟨first, later⟩ := List.forall_mem_cons.mp each
      rw [equalAll, elementsEqual, first, ih later]

theorem equal_eq_structurallyEqual (v w : Document) : equal v w = structurallyEqual v w := by
  induction v generalizing w with
  | array xs ih =>
    -- Only arrays go by the equality of their elements; objects go by structural equality.
    cases w with
    | array ys => exact equalAll_eq ih
    | _ => rfl
  | null | boolean _ | number _ | string _ | object _ => cases w <;> rfl

/-! ### Hashes -/

/-- A function of documents that goes by its values on the parts, for a number by the value of the
number, and for an object without regard to the order of the members. -/
structure ByParts {α : Type} (f : Document → α) : Prop where
  number {x y : Binary64} (same : x.same y = true) : f (.number x) = f (.number y)
  array {xs ys : List Document} (same : xs.map f = ys.map f) : f (.array xs) = f (.array ys)
  object {xs ys : Named Document}
    (same : (xs.map fun member => (member.1, f member.2)).Perm
      (ys.map fun member => (member.1, f member.2))) : f (.object xs) = f (.object ys)

/-- Such a function does not tell alike documents apart. -/
theorem ByParts.congr {α : Type} {f : Document → α} (parts : ByParts f) {v w : Document}
    (alike : Alike v w) : f v = f w := by
  induction v generalizing w with
  | null | boolean _ | string _ =>
    cases alike
    rfl
  | number x =>
    cases alike with
    | number same => exact parts.number same
  | array xs ih =>
    cases alike with
    | @array _ ys each =>
      have both := (List.forall₂_and_left xs ys).mpr ⟨ih, each⟩
      exact parts.array (map_eq_of_forall₂ (both.imp fun _ _ held => held.1 held.2))
  | object xs ih =>
    cases alike with
    | @object _ ys left right each =>
      obtain ⟨ws, aligned, perm⟩ := (Alike.object left right each).exists_aligned
      have both := (List.forall₂_and_left xs ws).mpr ⟨ih, aligned⟩
      -- Put in the order of the first object, the members of the second have the same values.
      have same : xs.map (fun member => (member.1, f member.2)) =
          ws.map fun member => (member.1, f member.2) :=
        map_eq_of_forall₂ (both.imp fun _ _ held => Prod.ext held.2.1 (held.1 held.2.2))
      refine parts.object ?_
      rw [same]
      exact perm.map _

/-- Hashes of texts, numbers and booleans, and of tuples and sets from the hashes of what they hold.
Numbers of one value have one hash, and that of a set does not depend on the order of listing. -/
structure Hashing (H : Type) where
  text : Text → H
  number : Binary64 → H
  boolean : Bool → H
  tuple : List H → H
  set : List H → H
  number_same : ∀ {x y : Binary64}, x.same y = true → number x = number y
  set_perm : ∀ {xs ys : List H}, xs.Perm ys → set xs = set ys

namespace Hashing

variable {H : Type} (hashing : Hashing H)

mutual

/-- The hash of a document is that of the tuple of its content; an object has the hash of the set of
its members. -/
def hash : Document → H
  | .null => hashing.tuple []
  | .boolean value => hashing.tuple [hashing.boolean value]
  | .number value => hashing.tuple [hashing.number value]
  | .string value => hashing.tuple [hashing.text value]
  | .array elements => hashing.tuple [hashing.tuple (hashElements elements)]
  | .object members => hashing.set (hashMembers members)

def hashElements : List Document → List H
  | [] => []
  | element :: rest => hash element :: hashElements rest

def hashMembers : Named Document → List H
  | [] => []
  | (name, value) :: rest =>
    hashing.tuple [hashing.text name, hash value] :: hashMembers rest

end

theorem hashElements_eq_map (elements : List Document) :
    hashing.hashElements elements = elements.map hashing.hash := by
  induction elements with
  | nil => rfl
  | cons element rest ih => rw [hashElements, ih, List.map_cons]

theorem hashMembers_eq_map (members : Named Document) :
    hashing.hashMembers members =
      (members.map fun member => (member.1, hashing.hash member.2)).map fun member =>
        hashing.tuple [hashing.text member.1, member.2] := by
  induction members with
  | nil => rfl
  | cons member rest ih => rw [hashMembers, ih, List.map_cons, List.map_cons]

theorem byParts : ByParts hashing.hash where
  number same := by rw [hash, hash, hashing.number_same same]
  array same := by rw [hash, hash, hashElements_eq_map, hashElements_eq_map, same]
  object same := by
    rw [hash, hash, hashMembers_eq_map, hashMembers_eq_map]
    exact hashing.set_perm (same.map _)

/-- How many of two documents a set keeps that finds its elements by their hash. -/
def distinctCount [DecidableEq H] (v w : Document) : Nat :=
  if hashing.hash v = hashing.hash w ∧ equal v w then 1 else 2

end Hashing

theorem digestElements_eq {xs ys : List Document} (same : xs.map digest = ys.map digest) :
    digestElements xs = digestElements ys := by
  induction xs generalizing ys with
  | nil =>
    cases ys with
    | nil => rfl
    | cons y ys => cases same
  | cons x xs ih =>
    cases ys with
    | nil => cases same
    | cons y ys =>
      obtain ⟨first, later⟩ := List.cons.inj same
      rw [digestElements, digestElements, first, ih later]

/-- The digests of the members are added up, so their order does not count. -/
theorem digestMembers_eq_foldr (members : Named Document) :
    digestMembers members =
      ((members.map fun member => (member.1, digest member.2)).map fun member =>
        mixHash (digestText member.1) member.2).foldr (· + ·) 0 := by
  induction members with
  | nil => rfl
  | cons member rest ih => rw [digestMembers, ih, List.map_cons, List.map_cons, List.foldr_cons]

theorem byParts_digest : ByParts digest where
  number same := by rw [digest, digest, (Binary64.same_iff _ _).mp same]
  array same := by rw [digest, digest, digestElements_eq same]
  object same := by
    rw [digest, digest, digestMembers_eq_foldr, digestMembers_eq_foldr, (same.map _).foldr_op_eq]

/-- A set that finds its elements by such a function keeps one of two equal documents, and both of
two others. -/
theorem ByParts.count_eq_one_iff {α : Type} [DecidableEq α] {f : Document → α} (parts : ByParts f)
    (v w : Proper) :
    (if f v = f w ∧ equal v w then 1 else 2) = 1 ↔ v.1.structurallyEqual w.1 = true := by
  rw [equal_eq_structurallyEqual]
  constructor
  · intro one
    split_ifs at one with both
    · exact both.2
    · cases one
  · intro equal
    rw [if_pos ⟨parts.congr ((structurallyEqual_iff_alike v w).mp equal), equal⟩]

/-! ### The equality of documents -/

/-- On documents that there are, structural equality is an equivalence, holds exactly between
documents that are rearranged into one another, and is the equality of the data. Equal documents
have one hash, so a set keeps one of two documents exactly if they are equal. -/
theorem equality_of_documents {H : Type} [DecidableEq H] (hashing : Hashing H) :
    (Equivalence fun v w : { document // Produced document } =>
      v.1.structurallyEqual w.1 = true) ∧
    ∀ v w : Document, Produced v → Produced w →
      (v.structurallyEqual w = true ↔ ReflTransGen Rearranges v w) ∧
      equal v w = v.structurallyEqual w ∧
      (equal v w = true → hashing.hash v = hashing.hash w ∧ digest v = digest w) ∧
      (hashing.distinctCount v w = 1 ↔ v.structurallyEqual w = true) ∧
      (distinctCount v w = 1 ↔ v.structurallyEqual w = true) := by
  constructor
  · -- Structural equality is alikeness, which is an equivalence among well-named documents.
    have alike (v w : { document // Produced document }) :=
      structurallyEqual_iff_alike v.2.proper w.2.proper
    refine ⟨fun v => ?_, fun {v w} equal => ?_, fun {u v w} first second => ?_⟩
    · exact (alike v v).mpr (.refl v.2.wellNamed)
    · exact (alike w v).mpr ((alike v w).mp equal).symm
    · exact (alike u w).mpr (((alike u v).mp first).trans ((alike v w).mp second))
  · intro v w first second
    have alike := structurallyEqual_iff_alike first.proper second.proper
    refine ⟨?_, equal_eq_structurallyEqual v w, fun equal => ?_, ?_, ?_⟩
    · rw [alike]
      exact ⟨rearranged_of_alike, alike_of_rearranged first.proper⟩
    · rw [equal_eq_structurallyEqual, alike] at equal
      exact ⟨hashing.byParts.congr equal, byParts_digest.congr equal⟩
    · exact hashing.byParts.count_eq_one_iff first.proper second.proper
    · exact byParts_digest.count_eq_one_iff first.proper second.proper

/-- Code points weighed by their places, and the sum over a set. -/
def sums : Hashing ℕ where
  text t := t.foldl (fun sum c => 31 * sum + c.toNat) 0
  number x := x.units.natAbs
  boolean b := b.toNat
  tuple hashes := hashes.foldl (fun sum h => 1000003 * sum + h) 1
  set hashes := hashes.foldr (· + ·) 0
  number_same same := by rw [(Binary64.same_iff _ _).mp same]
  set_perm perm := perm.foldr_op_eq

/-- A list with one object in it, as data. -/
def listed : Datum := .sequence [.mapping [(.text "c", .null)]]

/-- A zero and a list by name, in one order, and with the other sign of the zero in the other. -/
def zeroAndList (swapped : Bool) : Datum :=
  if swapped then .mapping [(.text "b", listed), (.text "a", .real (.finite (.zero true)))]
  else .mapping [(.text "a", .real (.finite (.zero false))), (.text "b", listed)]

/-- The document of these data. -/
def zeroAndArray (swapped : Bool) : Document :=
  if swapped then .object [("b", .array [.object [("c", .null)]]), ("a", .number (.zero true))]
  else .object [("a", .number (.zero false)), ("b", .array [.object [("c", .null)]])]

theorem produced_zeroAndArray (swapped : Bool) : Produced (zeroAndArray swapped) := by
  have inner : Datum.WellKeyed (.mapping [(.text "c", .null)]) :=
    (Datum.wellKeyed_mapping_iff _).mpr
      ⟨by decide, List.forall_mem_singleton.mpr (.leaf rfl rfl)⟩
  have list : listed.WellKeyed :=
    (Datum.wellKeyed_sequence_iff _).mpr (List.forall_mem_singleton.mpr inner)
  cases swapped with
  | true =>
    have keyed : (zeroAndList true).WellKeyed := (Datum.wellKeyed_mapping_iff _).mpr
      ⟨by decide, List.forall_mem_cons.mpr ⟨list, List.forall_mem_singleton.mpr (.leaf rfl rfl)⟩⟩
    exact .datum keyed rfl
  | false =>
    have keyed : (zeroAndList false).WellKeyed := (Datum.wellKeyed_mapping_iff _).mpr
      ⟨by decide, List.forall_mem_cons.mpr ⟨.leaf rfl rfl, List.forall_mem_singleton.mpr list⟩⟩
    exact .datum keyed rfl

/-- Two data that differ in the order of their entries and in the sign of a zero become equal
documents, which share their hash and are one element of a set. -/
theorem equality_of_documents_swapped :
    (Produced (zeroAndArray false) ∧ Produced (zeroAndArray true)) ∧
    ReflTransGen Rearranges (zeroAndArray false) (zeroAndArray true) ∧
    sums.hash (zeroAndArray false) = sums.hash (zeroAndArray true) ∧
    sums.distinctCount (zeroAndArray false) (zeroAndArray true) = 1 := by
  have first := produced_zeroAndArray false
  have second := produced_zeroAndArray true
  have same : structurallyEqual (zeroAndArray false) (zeroAndArray true) = true := by decide
  obtain ⟨_, facts⟩ := equality_of_documents sums
  obtain ⟨rearranged, data, hashes, count, _⟩ := facts _ _ first second
  exact ⟨⟨first, second⟩, rearranged.mp same, (hashes (data.trans same)).1, count.mpr same⟩

end Conformance.Document
