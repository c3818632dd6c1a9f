import Conformance.Proofs.Validation.Located

/-!
# Places of violations

A pointer writes the index three and the name `3` alike, so pointers of any two paths may agree where
the paths do not. The paths in one report lead through one value. A value is an array or an object
and not both, so what stands at a step of such a path is known before the step is read. A path that
ends at a missing member is no exception, since it ends in an object.

Two violations of a report therefore have one pointer exactly if they have one path, and a pointer
finds the violations of its path.
-/
namespace Conformance

/-- Numerals of different indices are different. -/
theorem Segment.toText_index_injective {i j : Nat}
    (same : Segment.toText (.index i) = Segment.toText (.index j)) : i = j := by
  have numerals : Text.ofNat i = Text.ofNat j := same
  rw [← Text.natValue_ofNat i, numerals, Text.natValue_ofNat]

namespace Validation

/-- A path that leads to a part of a value, or to a name that an object in it lacks. -/
inductive Place : Document → Path → Prop where
  | here {value : Document} : Place value []
  | absent {members : Named Document} {name : Text} (lacks : members.get? name = none) :
      Place (.object members) [.name name]
  | member {members : Named Document} {name : Text} {inner : Document} {rest : Path}
      (found : members.get? name = some inner) (below : Place inner rest) :
      Place (.object members) (.name name :: rest)
  | element {elements : List Document} {index : Nat} {inner : Document} {rest : Path}
      (found : elements[index]? = some inner) (below : Place inner rest) :
      Place (.array elements) (.index index :: rest)

/-- Within one value what is written of the steps determines a path. -/
theorem Place.eq_of_texts {value : Document} {path other : Path} (first : Place value path)
    (second : Place value other) (same : path.map Segment.toText = other.map Segment.toText) :
    path = other := by
  induction first generalizing other with
  | here => exact (List.map_eq_nil_iff.mp same.symm).symm
  | @absent _ name lacks =>
    cases second with
    | here => cases same
    | absent => exact congrArg (fun name => [Segment.name name]) (List.cons.inj same).1
    | member found =>
      obtain rfl : name = _ := (List.cons.inj same).1
      rw [lacks] at found
      cases found
  | @member _ name _ _ found _ ih =>
    cases second with
    | here => cases same
    | absent lacks =>
      obtain rfl : name = _ := (List.cons.inj same).1
      rw [lacks] at found
      cases found
    | member there below =>
      obtain ⟨step, later⟩ := List.cons.inj same
      obtain rfl : name = _ := step
      -- One name finds one member, so both paths go on in the same value.
      rw [found] at there
      cases there
      rw [ih below later]
  | element found _ ih =>
    cases second with
    | here => cases same
    | element there below =>
      obtain ⟨step, later⟩ := List.cons.inj same
      cases Segment.toText_index_injective step
      rw [found] at there
      cases there
      rw [ih below later]

/-- A place below the value to which a path leads is a place below the value from which it starts. -/
theorem place_of_descend? {path rest : Path} {value inner : Document} {schema sub : Schema}
    (led : descend? path value schema = some (inner, sub)) (place : Place inner rest) :
    Place value (path ++ rest) := by
  induction path generalizing value schema with
  | nil =>
    cases led
    exact place
  | cons segment path ih =>
    cases segment with
    | name name =>
      cases value with
      | object members =>
        obtain ⟨first, found, led⟩ := Option.bind_eq_some_iff.mp led
        obtain ⟨property, _, led⟩ := Option.bind_eq_some_iff.mp led
        exact .member found (ih led)
      | _ => cases led
    | index position =>
      cases position with
      | ofNat index =>
        cases value with
        | array elements =>
          obtain ⟨first, found, led⟩ := Option.bind_eq_some_iff.mp led
          obtain ⟨items, _, led⟩ := Option.bind_eq_some_iff.mp led
          exact .element found (ih led)
        | _ => cases led
      | negSucc _ => cases led

/-- What a violation says of a value says at which place below the value it is. -/
theorem exists_place_of_tells {limit : Nat} {path : Path} {value : Document} {schema : Schema}
    {v : Violation} (tells : Tells limit path value schema v) :
    ∃ rest, v.path = path ++ rest ∧ Place value rest := by
  rw [Tells] at tells
  cases kind : v.kind with
  | missingField =>
    -- A member that is missing is a place of its own, below the object that lacks it.
    rw [kind] at tells
    obtain ⟨members, name, place, rfl, _, nowhere⟩ := tells
    have lacks : Named.get? members name = none := by
      cases found : Named.get? members name with
      | none => rfl
      | some inner => exact absurd (Named.mem_of_get? found) (nowhere inner)
    exact ⟨[.name name], place, .absent lacks⟩
  | typeMismatch | constraintViolation | invalidEnumValue | depthExceeded =>
    rw [kind] at tells
    exact ⟨[], by rw [tells.1, List.append_nil], .here⟩

/-- Every violation in a report is at a place in the value. -/
theorem place_of_mem_violations {value : Document.Proper} {settings : Settings} {schema : Schema}
    {v : Violation} (told : v ∈ (validate settings schema value).violations) :
    Place value v.path := by
  have found := found_of_mem_findings (mem_findings_of_mem_violations told)
  obtain ⟨path, inner, sub, led, tells⟩ :=
    accounted_of_found found value.2 rfl (Nat.zero_le (settings.maxDepth + 1))
  obtain ⟨rest, whole, place⟩ := exists_place_of_tells tells
  rw [whole]
  exact place_of_descend? led place

theorem pointer_eq_of_mem_violations {value : Document.Proper} {settings : Settings} {schema : Schema}
    {v w : Violation} (first : v ∈ (validate settings schema value).violations)
    (second : w ∈ (validate settings schema value).violations) :
    v.pointer = w.pointer ↔ v.path = w.path := by
  refine ⟨fun same => ?_, congrArg Pointer.ofPath⟩
  exact (place_of_mem_violations first).eq_of_texts (place_of_mem_violations second)
    ((Pointer.ofPath_eq_iff ..).mp same)

/-- In a report the pointers of two violations agree exactly if their paths do, and the violations
at the pointer of one are those with its path, in their order. -/
theorem pointers_tell_places (value : Document.Proper) (settings : Settings) (schema : Schema) :
    let report := validate settings schema value
    (∀ v ∈ report.violations, ∀ w ∈ report.violations, v.pointer = w.pointer ↔ v.path = w.path) ∧
      ∀ v ∈ report.violations, report.violationsAt v.pointer =
        report.violations.filter fun w => w.path = v.path := by
  refine ⟨fun v first w second => pointer_eq_of_mem_violations first second, ?_⟩
  intro v told
  refine List.filter_congr fun w listed => ?_
  rw [decide_eq_decide]
  exact pointer_eq_of_mem_violations listed told

/-- Elements and members whose steps are written alike. -/
def drawers : Document.Proper :=
  ⟨.object [("0", .array [.string "x"]), ("1", .object [("0", .string "x")])], by decide⟩

/-- Everything in the drawers must be a number, and the second one lacks a member. -/
def drawersSchema : Schema :=
  let number : Schema := .node (some .number) [] [] none {} []
  .node none [] [("0", .node none [] [] (some number) {} []),
    ("1", .node none ["1"] [("0", number)] none {} [])] none {} []

theorem pointers_tell_places_drawers :
    (validate .standard drawersSchema drawers).violations.map Violation.path =
        [[.name "0", .index 0], [.name "1", .name "1"], [.name "1", .name "0"]]
      ∧ ∀ v ∈ (validate .standard drawersSchema drawers).violations,
        ∀ w ∈ (validate .standard drawersSchema drawers).violations,
          v.pointer = w.pointer ↔ v.path = w.path := by
  exact ⟨by decide, (pointers_tell_places drawers .standard drawersSchema).1⟩

end Validation
end Conformance
