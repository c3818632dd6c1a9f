import Conformance.Proofs.Step
import Conformance.Proofs.Yaml.Plain
import Conformance.Yaml.Content
import Mathlib.Data.List.Range
import Mathlib.Logic.Relation

/-!
# Misread nodes

A node that is read as a scalar of some tag may have no value of that tag: it was given a tag that
its form does not ask for, or it has the form of a number or of a time stamp and is none after all.
Or it is a mapping for which a member stands that leads back to it.

Nodes change while data are made, but no further than this: the members of a mapping are among those
that it has in the text or takes over there, and what stood for a value may be a text as a key. So
what is misread then is misread in the text.
-/
open Relation

namespace Conformance.Yaml

namespace Graph

/-! ### Nodes that are met -/

/-- A node holds an entry, or takes it over. -/
inductive Holds (graph : Graph) : Nat → Nat × Nat → Prop where
  | own {number : Nat} {entry : Nat × Nat} (listed : entry ∈ (graph.node number).entries) :
      Holds graph number entry
  | taken {number source : Nat} {merge entry : Nat × Nat}
      (listed : merge ∈ (graph.node number).entries) (asked : graph.tag merge.1 = .merge)
      (named : source = merge.2 ∨ source ∈ (graph.node merge.2).items)
      (holds : Holds graph source entry) : Holds graph number entry

/-- A node is met when another one is entered: an item, or a key or value, those that are taken over
included. -/
inductive Part (graph : Graph) (number : Nat) : Nat → Prop where
  | item {part : Nat} (tag : graph.tag number = .sequence)
      (listed : part ∈ (graph.node number).items) : Part graph number part
  | pair {item part : Nat} {entry : Nat × Nat}
      (tag : graph.tag number = .orderedMap ∨ graph.tag number = .pairs)
      (listed : item ∈ (graph.node number).items) (holds : graph.Holds item entry)
      (side : part = entry.1 ∨ part = entry.2) : Part graph number part
  | member {part : Nat} {entry : Nat × Nat}
      (tag : graph.tag number = .mapping ∨ graph.tag number = .set)
      (holds : graph.Holds number entry) (plain : graph.tag entry.1 ≠ .merge)
      (side : part = entry.1 ∨ part = entry.2) : Part graph number part

/-- A node is met from another one on. -/
abbrev Met (graph : Graph) (root number : Nat) : Prop := ReflTransGen graph.Part root number

/-- The value of a member stands for a whole mapping. -/
def Stands (graph : Graph) (number part : Nat) : Prop :=
  ∃ key, graph.Holds number (key, part) ∧ graph.tag key = .value

/-- A node is read as a scalar of a tag and has no value of that tag, and the text is not simply
malformed. -/
inductive Misread (graph : Graph) (number : Nat) : Fault → Prop where
  /-- A scalar has a tag that its form does not ask for. -/
  | tagged {tag : Tag} {content : Text} {fault : Fault}
      (scalar : graph.node number = .scalar tag content)
      (given : tag ≠ .ofPlain content ∨ content.getLast? = some ('\n' : CodePoint))
      (refused : tag.read content = .error fault) (other : fault ≠ .malformed) :
      Misread graph number fault
  /-- A scalar has the form of a whole number, with too many digits or with none. -/
  | number {content : Text} {fault : Fault}
      (scalar : graph.node number = .scalar .integer content)
      (plain : Tag.ofPlain content = .integer) (refused : readInteger content = .error fault)
      (uncounted : Uncounted fault) : Misread graph number fault
  /-- A scalar has the form of a time stamp, and the calendar has no such day or time. -/
  | timestamp {content : Text} {error : CalendarError}
      (scalar : graph.node number = .scalar .timestamp content)
      (plain : Tag.ofPlain content = .timestamp)
      (refused : readTimestamp content = .error (.calendar error)) :
      Misread graph number (.calendar error)
  /-- A mapping has the tag of a scalar and is read as the text that stands for it. -/
  | mapping {tag tag' : Tag} {entries : List (Nat × Nat)} {content : Text} {last : Nat}
      {fault : Fault} (mapped : graph.node number = .mapping tag entries)
      (single : tag ≠ .timestamp) (stands : ReflTransGen graph.Stands number last)
      (held : graph.node last = .scalar tag' content) (refused : tag.read content = .error fault)
      (other : fault ≠ .malformed) : Misread graph number fault
  /-- A mapping is never read as a time stamp. -/
  | mappedTimestamp {entries : List (Nat × Nat)}
      (mapped : graph.node number = .mapping .timestamp entries) :
      Misread graph number .mappedTimestamp
  /-- What stands for a mapping goes round in a circle. -/
  | endless {tag : Tag} {entries : List (Nat × Nat)} {middle : Nat}
      (mapped : graph.node number = .mapping tag entries) (single : tag.use ≠ .collection)
      (stands : ReflTransGen graph.Stands number middle)
      (circle : TransGen graph.Stands middle middle) : Misread graph number .endless

variable {graph now : Graph} {number : Nat} {fault : Fault}

theorem Misread.ne_malformed (misread : graph.Misread number fault) : fault ≠ .malformed := by
  cases misread with
  | tagged _ _ _ other | mapping _ _ _ _ _ other => exact other
  | number _ _ _ uncounted => cases uncounted <;> exact nofun
  | timestamp | mappedTimestamp | endless => exact nofun

/-- A scalar that has no value of its tag is misread, or malformed. -/
theorem misread_of_read {tag : Tag} {content : Text}
    (scalar : graph.node number = .scalar tag content) (refused : tag.read content = .error fault)
    (other : fault ≠ .malformed) : graph.Misread number fault := by
  by_cases given : tag ≠ .ofPlain content ∨ content.getLast? = some ('\n' : CodePoint)
  · exact .tagged scalar given refused other
  · rw [not_or, not_not] at given
    obtain ⟨rfl, unbroken⟩ := given
    rcases fault_of_plain unbroken refused with plain | ⟨plain, uncounted⟩ | ⟨plain, error, rfl⟩
    · exact absurd plain other
    · rw [plain] at refused scalar
      exact .number scalar plain (map_eq_error_iff.mp refused) uncounted
    · rw [plain] at refused scalar
      exact .timestamp scalar plain refused

end Graph

/-! ### What becomes of nodes -/

namespace Tag

/-- A tag may have become that of a key. -/
inductive Becomes (tag : Tag) : Tag → Prop where
  | same : Becomes tag tag
  | asKey : Becomes tag tag.asKey

variable {tag after : Tag}

theorem Becomes.asKey_right (becomes : tag.Becomes after) : tag.Becomes after.asKey := by
  cases becomes with
  | same => exact .asKey
  | asKey =>
    have twice : tag.asKey.asKey = tag.asKey := by cases tag <;> rfl
    rw [twice]
    exact .asKey

theorem Becomes.eq_merge_iff (becomes : tag.Becomes after) : after = .merge ↔ tag = .merge := by
  cases becomes with
  | same => exact Iff.rfl
  | asKey => cases tag <;> decide

theorem Becomes.eq_or_text (becomes : tag.Becomes after) : tag = after ∨ after = .text := by
  cases becomes with
  | same => exact .inl rfl
  | asKey => cases tag <;> decide

theorem Becomes.use_ne_collection (becomes : tag.Becomes after) (scalar : after.use = .scalar) :
    tag.use ≠ .collection := by
  cases becomes with
  | same => rw [scalar]; decide
  | asKey => revert scalar; cases tag <;> decide

theorem Becomes.eq_value (becomes : tag.Becomes after) (value : after = .value) : tag = .value := by
  cases becomes with
  | same => exact value
  | asKey => revert value; cases tag <;> decide

end Tag

namespace Node

/-- A node may have got the tag of a key and entries of a kind. -/
inductive Becomes (kind : Nat × Nat → Prop) : Node → Node → Prop where
  | scalar {tag tag' : Tag} {content : Text} (retagged : tag.Becomes tag') :
      Becomes kind (.scalar tag content) (.scalar tag' content)
  | sequence {tag tag' : Tag} {items : List Nat} (retagged : tag.Becomes tag') :
      Becomes kind (.sequence tag items) (.sequence tag' items)
  | mapping {tag tag' : Tag} {entries entries' : List (Nat × Nat)} (retagged : tag.Becomes tag')
      (each : ∀ entry ∈ entries', kind entry) :
      Becomes kind (.mapping tag entries) (.mapping tag' entries')

variable {kind : Nat × Nat → Prop} {node after : Node}

theorem Becomes.refl (each : ∀ entry ∈ node.entries, kind entry) : node.Becomes kind node := by
  cases node with
  | scalar => exact .scalar .same
  | sequence => exact .sequence .same
  | mapping => exact .mapping .same each

theorem Becomes.tag (becomes : node.Becomes kind after) : node.tag.Becomes after.tag := by
  cases becomes with
  | scalar retagged | sequence retagged | mapping retagged => exact retagged

theorem Becomes.exists_scalar {tag : Tag} {content : Text}
    (becomes : node.Becomes kind (.scalar tag content)) :
    ∃ first, node = .scalar first content ∧ first.Becomes tag := by
  cases becomes with
  | scalar retagged => exact ⟨_, rfl, retagged⟩

theorem Becomes.exists_mapping {tag : Tag} {entries : List (Nat × Nat)}
    (becomes : node.Becomes kind (.mapping tag entries)) :
    ∃ first own, node = .mapping first own ∧ first.Becomes tag := by
  cases becomes with
  | mapping retagged => exact ⟨_, _, rfl, retagged⟩

theorem Becomes.items (becomes : node.Becomes kind after) : after.items = node.items := by
  cases becomes <;> rfl

theorem Becomes.entries (becomes : node.Becomes kind after) :
    ∀ entry ∈ after.entries, kind entry := by
  cases becomes with
  | scalar | sequence => exact List.forall_mem_nil _
  | mapping _ each => exact each

theorem Becomes.asKey (becomes : node.Becomes kind after) : node.Becomes kind after.asKey := by
  cases becomes with
  | scalar retagged => exact .scalar retagged.asKey_right
  | sequence retagged => exact .sequence retagged.asKey_right
  | mapping retagged each => exact .mapping retagged.asKey_right each

theorem Becomes.mapEntries {f : List (Nat × Nat) → List (Nat × Nat)}
    (becomes : node.Becomes kind after)
    (keeps : (∀ entry ∈ after.entries, kind entry) → ∀ entry ∈ f after.entries, kind entry) :
    node.Becomes kind (after.mapEntries f) := by
  cases becomes with
  | scalar retagged => exact .scalar retagged
  | sequence retagged => exact .sequence retagged
  | mapping retagged each => exact .mapping retagged (keeps each)

theorem entries_asKey (node : Node) : node.asKey.entries = node.entries := by
  cases node <;> rfl

theorem mem_entries_mapEntries {taken : List (Nat × Nat)} {entry : Nat × Nat}
    (member : entry ∈ (node.mapEntries (taken ++ ·)).entries) :
    entry ∈ taken ∨ entry ∈ node.entries := by
  cases node with
  | scalar | sequence => cases member
  | mapping => exact List.mem_append.mp member

end Node

namespace Graph

variable {graph now : Graph} {number : Nat}

theorem node_update {f : Node → Node} (fixed : f default = default) (now : Graph)
    (key number : Nat) :
    (now.update key f).node number =
      if key = number then f (now.node number) else now.node number := by
  rw [node, node, update, List.getElem?_modify]
  split_ifs with same
  · cases now[number]? with
    | none => exact fixed.symm
    | some node => simp
  · cases now[number]? <;> simp

/-- Nodes have become what they are by now. -/
def Derives (graph now : Graph) : Prop :=
  ∀ number, (graph.node number).Becomes (graph.Holds number) (now.node number)

theorem Derives.refl (graph : Graph) : graph.Derives graph :=
  fun _ => .refl fun _ listed => .own listed

theorem Derives.update {f : Node → Node} {key : Nat} (derives : graph.Derives now)
    (fixed : f default = default)
    (step : (graph.node key).Becomes (graph.Holds key) (f (now.node key))) :
    graph.Derives (now.update key f) := by
  intro number
  rw [node_update fixed]
  split_ifs with same
  · subst same
    exact step
  · exact derives number

theorem Derives.asKeys {entries : List (Nat × Nat)} (derives : graph.Derives now) :
    graph.Derives (entries.foldl (fun now (key, _) => now.update key Node.asKey) now) := by
  induction entries generalizing now with
  | nil => exact derives
  | cons entry rest ih => exact ih (derives.update rfl (derives entry.1).asKey)

theorem entries_asKeys (entries : List (Nat × Nat)) (now : Graph) (number : Nat) :
    (node (entries.foldl (fun now (key, _) => now.update key Node.asKey) now) number).entries =
      (now.node number).entries := by
  induction entries generalizing now with
  | nil => rfl
  | cons entry rest ih =>
    rw [List.foldl_cons, ih, node_update rfl]
    split_ifs
    · exact Node.entries_asKey _
    · rfl

theorem Derives.settle {taken : List (Nat × Nat)} (derives : graph.Derives now)
    (held : ∀ entry ∈ taken, graph.Holds number entry) :
    graph.Derives (now.settle number taken) :=
  derives.asKeys.update rfl <| (derives.asKeys number).mapEntries fun own =>
    List.forall_mem_append.mpr ⟨held, own⟩

theorem mem_entries_settle {taken : List (Nat × Nat)} {entry : Nat × Nat}
    (member : entry ∈ ((now.settle number taken).node number).entries) :
    entry ∈ taken ∨ entry ∈ (now.node number).entries := by
  rw [Graph.settle, node_update rfl, if_pos rfl] at member
  rw [← entries_asKeys (now.node number).entries now number]
  exact Node.mem_entries_mapEntries member

/-- Entries of a merge key take over what the named mapping holds. -/
theorem Holds.trans {merge entry : Nat × Nat} {source : Nat} (holds : graph.Holds number merge)
    (asked : graph.tag merge.1 = .merge)
    (named : source = merge.2 ∨ source ∈ (graph.node merge.2).items)
    (further : graph.Holds source entry) : graph.Holds number entry := by
  induction holds with
  | own listed => exact .taken listed asked named further
  | taken listed asked' named' _ ih => exact .taken listed asked' named' (ih asked named)

/-! ### The text that stands for a node -/

theorem Derives.tag_eq_merge_iff (derives : graph.Derives now) (number : Nat) :
    now.tag number = .merge ↔ graph.tag number = .merge :=
  (derives number).tag.eq_merge_iff

theorem Derives.stands {tag : Tag} {entries : List (Nat × Nat)} {entry : Nat × Nat}
    (derives : graph.Derives now) (mapped : now.node number = .mapping tag entries)
    (found : now.valueEntry? entries = some entry) : graph.Stands number entry.2 := by
  have own : ∀ entry ∈ entries, graph.Holds number entry := by
    have each := (derives number).entries
    rwa [mapped] at each
  have named : now.tag entry.1 = .value := by simpa using List.find?_some found
  exact ⟨entry.1, own entry (List.mem_of_find?_eq_some found),
    (derives entry.1).tag.eq_value named⟩

theorem scalarText_succ (fuel : Nat) : now.scalarText (fuel + 1) number =
    match now.node number with
    | .scalar _ content => .ok content
    | .sequence .. => .error .malformed
    | .mapping _ entries =>
      match now.valueEntry? entries with
      | some (_, value) => now.scalarText fuel value
      | none => .error .malformed := rfl

/-- A text that stands for a node is that of a scalar, to which a way of members leads. -/
theorem Derives.exists_of_scalarText {fuel : Nat} {content : Text} (derives : graph.Derives now)
    (found : now.scalarText fuel number = .ok content) :
    ∃ last tag, ReflTransGen graph.Stands number last ∧
      graph.node last = .scalar tag content := by
  induction fuel generalizing number with
  | zero => cases found
  | succ fuel ih =>
    rw [scalarText_succ] at found
    split at found
    next tag _ scalar =>
      cases found
      obtain ⟨first, held, -⟩ := (scalar ▸ derives number).exists_scalar
      exact ⟨number, first, .refl, held⟩
    next => cases found
    next mapped =>
      split at found
      next key value entry =>
        obtain ⟨last, tag, stands, held⟩ := ih found
        exact ⟨last, tag, .head (derives.stands mapped entry) stands, held⟩
      next => cases found

/-- A text is missing for a malformed node, or for want of steps. -/
theorem eq_of_scalarText {fuel : Nat} {fault : Fault}
    (failed : now.scalarText fuel number = .error fault) :
    fault = .malformed ∨ fault = .endless := by
  induction fuel generalizing number with
  | zero =>
    cases failed
    exact .inr rfl
  | succ fuel ih =>
    rw [scalarText_succ] at failed
    split at failed
    next => cases failed
    next =>
      cases failed
      exact .inl rfl
    next =>
      split at failed
      next => exact ih failed
      next =>
        cases failed
        exact .inl rfl

theorem lt_length_of_mapping {tag : Tag} {entries : List (Nat × Nat)}
    (mapped : now.node number = .mapping tag entries) : number < now.length := by
  by_contra past
  rw [node, List.getElem?_eq_none (Nat.not_lt.mp past)] at mapped
  cases mapped

/-- A way of members with more nodes than there are goes round in a circle. -/
theorem Derives.circle_of_endless {fuel : Nat} {behind : List Nat} (derives : graph.Derives now)
    (distinct : behind.Nodup) (within : ∀ place ∈ behind, place < now.length)
    (leads : ∀ place ∈ behind, TransGen graph.Stands place number)
    (enough : now.length < fuel + behind.length)
    (endless : now.scalarText fuel number = .error .endless) :
    ∃ middle, ReflTransGen graph.Stands number middle ∧ TransGen graph.Stands middle middle := by
  -- Each step leaves one node more behind, and no more nodes than there are can be apart.
  induction fuel generalizing number behind with
  | zero =>
    have range : behind ⊆ List.range now.length := fun place member =>
      List.mem_range.mpr (within place member)
    have short := (List.subperm_of_subset distinct range).length_le
    rw [List.length_range] at short
    omega
  | succ fuel ih =>
    by_cases seen : number ∈ behind
    · exact ⟨number, .refl, leads number seen⟩
    rw [scalarText_succ] at endless
    split at endless
    next => cases endless
    next => cases endless
    next mapped =>
      split at endless
      next key value entry =>
        have stands := derives.stands mapped entry
        obtain ⟨middle, behind', circle⟩ := ih (List.nodup_cons.mpr ⟨seen, distinct⟩)
          (List.forall_mem_cons.mpr ⟨lt_length_of_mapping mapped, within⟩)
          (List.forall_mem_cons.mpr ⟨.single stands, fun place member =>
            (leads place member).tail stands⟩)
          (by rw [List.length_cons]; omega) endless
        exact ⟨middle, .head stands behind', circle⟩
      next => cases endless

/-- A node that has no value as a scalar is misread, or malformed. -/
theorem Derives.misread_of_readScalar {fault : Fault} (derives : graph.Derives now)
    (scalar : (now.tag number).use = .scalar) (refused : now.readScalar number = .error fault)
    (other : fault ≠ .malformed) : graph.Misread number fault := by
  have becomes := derives number
  rcases bind_eq_error_iff.mp refused with missing | ⟨content, found, refused⟩
  · obtain rfl := (eq_of_scalarText missing).resolve_left other
    have circle := derives.circle_of_endless List.nodup_nil (List.forall_mem_nil _)
      (List.forall_mem_nil _) (Nat.lt_succ_self _) missing
    obtain ⟨middle, stands, circle⟩ := circle
    rw [tag] at scalar
    cases known : now.node number with
    | scalar | sequence =>
      rw [scalarText_succ, known] at missing
      cases missing
    | mapping =>
      rw [known] at becomes scalar
      obtain ⟨first, own, mapped, retagged⟩ := becomes.exists_mapping
      exact .endless mapped (retagged.use_ne_collection scalar) stands circle
  · cases known : now.node number with
    | scalar tag content' =>
      rw [scalarText_succ, known] at found
      cases found
      rw [known] at becomes refused
      obtain ⟨first, held, retagged⟩ := becomes.exists_scalar
      rcases retagged.eq_or_text with rfl | rfl
      · exact misread_of_read held refused other
      · cases refused
    | sequence =>
      rw [scalarText_succ, known] at found
      cases found
    | mapping tag entries =>
      rw [known] at becomes refused
      obtain ⟨first, own, mapped, retagged⟩ := becomes.exists_mapping
      obtain ⟨last, tag', stands, held⟩ := derives.exists_of_scalarText found
      rcases retagged.eq_or_text with rfl | rfl
      · by_cases stamp : first = .timestamp
        · subst stamp
          cases refused
          exact .mappedTimestamp mapped
        · have refused : first.read content = .error fault := by
            split at refused
            next same => exact absurd (Node.mapping.inj same).1 stamp
            next => exact refused
          exact .mapping mapped stamp stands held refused other
      · cases refused

end Graph

end Conformance.Yaml
