import Conformance.Proofs.Yaml.Flaw
import Conformance.Proofs.Yaml.Misread

/-!
# Making data

From the outermost node of a text all nodes are met that data are made of, and nothing stops the
making of data but plain malformation and misread nodes among those. Each step has a triple to that
effect.
-/
set_option mvcgen.warning false

open Std.Do Relation

namespace Conformance.Yaml

theorem Graph.exists_read_of_readScalar {now : Graph} {number : Nat} {datum : Datum}
    (made : now.readScalar number = .ok datum) :
    ∃ (tag : Tag) (content : Text), tag.read content = .ok datum := by
  obtain ⟨content, -, read⟩ := bind_eq_ok_iff.mp made
  split at read
  · cases read
  · exact ⟨_, content, read⟩

/-- A fault other than plain malformation comes from a misread node that is met. -/
def Stopped (graph : Graph) (root : Nat) (fault : Fault) : Prop :=
  fault ≠ .malformed → ∃ number, graph.Met root number ∧ graph.Misread number fault

/-- A scalar was read. -/
def Made.Read (made : Made) : Prop :=
  ∀ datum, made = .scalar datum → ∃ (tag : Tag) (content : Text), tag.read content = .ok datum

/-- The nodes have become what they are, those that wait are met, and scalars were read. -/
structure Sound (graph : Graph) (root : Nat) (s : Making) : Prop where
  derives : graph.Derives s.graph
  waiting : ∀ number ∈ s.waiting, graph.Met root number
  read : ∀ entry ∈ s.made, entry.2.Read

namespace Sound

variable {graph now : Graph} {root number : Nat} {s : Making}

theorem withGraph (sound : Sound graph root s) (derives : graph.Derives now) :
    Sound graph root { s with graph := now } :=
  ⟨derives, sound.waiting, sound.read⟩

theorem withMade (sound : Sound graph root s) (made : Made) (read : made.Read) :
    Sound graph root { s with made := (number, made) :: s.made } :=
  ⟨sound.derives, sound.waiting, List.forall_mem_cons.mpr ⟨read, sound.read⟩⟩

theorem withWaiting (sound : Sound graph root s) {waiting : List Nat}
    (met : ∀ number ∈ waiting, graph.Met root number) : Sound graph root { s with waiting } :=
  ⟨sound.derives, met, sound.read⟩

/-- A collection has kept its tag, and a sequence its items. -/
theorem first (sound : Sound graph root s) {node : Node} (same : s.graph.node number = node)
    (other : node.tag ≠ .text) :
    graph.tag number = node.tag ∧ (graph.node number).items = node.items := by
  subst same
  exact ⟨(sound.derives number).tag.eq_or_text.resolve_right other,
    (sound.derives number).items.symm⟩

end Sound

namespace Maker

variable {graph : Graph} {root : Nat}

/-- Making is sound before a step. -/
abbrev Before (graph : Graph) (root : Nat) : Assertion (.arg Making (.except Fault .pure)) :=
  fun s => ⌜Sound graph root s⌝

/-- It is so after the step, which has a result of a kind, or it stops. -/
abbrev AfterSuch {α : Type} (kind : α → Making → Prop) (graph : Graph) (root : Nat) :
    PostCond α (.arg Making (.except Fault .pure)) :=
  post⟨fun result s => ⌜Sound graph root s ∧ kind result s⌝,
    fun fault => ⌜Stopped graph root fault⌝⟩

/-- It is so after the step, or it stops. -/
abbrev After (α : Type) (graph : Graph) (root : Nat) :
    PostCond α (.arg Making (.except Fault .pure)) :=
  post⟨fun _ s => ⌜Sound graph root s⌝, fun fault => ⌜Stopped graph root fault⌝⟩

theorem stopped_malformed : Stopped graph root .malformed := fun other => absurd rfl other

@[spec]
theorem malformed_spec {α : Type} {P : α → Assertion (.arg Making (.except Fault .pure))} :
    ⦃⌜True⌝⦄ (malformed : Maker α) ⦃post⟨P, fun fault => ⌜Stopped graph root fault⌝⟩⦄ := by
  mvcgen [Maker.malformed]
  exact stopped_malformed

/-- A step for each of several things, in order. -/
theorem mapM_spec {α β : Type} (kind : α → β → Prop) {step : α → Maker β} (xs : List α)
    (each : ∀ x ∈ xs, ⦃Before graph root⦄ step x ⦃AfterSuch (fun y _ => kind x y) graph root⦄) :
    ⦃Before graph root⦄ xs.mapM step
      ⦃AfterSuch (fun ys _ => ∀ y ∈ ys, ∃ x ∈ xs, kind x y) graph root⦄ := by
  induction xs with
  | nil =>
    rw [List.mapM_nil]
    mvcgen
    exact ⟨‹_›, List.forall_mem_nil _⟩
  | cons x rest ih =>
    rw [List.mapM_cons]
    have first := each x List.mem_cons_self
    have later := ih fun y member => each y (List.mem_cons_of_mem _ member)
    mvcgen [first, later]
    next first => exact first.1
    next first _ _ later =>
      refine ⟨later.1, List.forall_mem_cons.mpr ⟨⟨x, List.mem_cons_self, first.2⟩, ?_⟩⟩
      intro y member
      obtain ⟨x', listed, own⟩ := later.2 y member
      exact ⟨x', List.mem_cons_of_mem _ listed, own⟩

theorem forM_spec {α : Type} {step : α → Maker Unit} {xs : List α}
    (each : ∀ x ∈ xs, ⦃Before graph root⦄ step x ⦃After Unit graph root⦄) :
    ⦃Before graph root⦄ xs.forM step ⦃After Unit graph root⦄ := by
  induction xs with
  | nil =>
    rw [List.forM_eq_forM, List.forM_nil]
    mvcgen
  | cons x rest ih =>
    rw [List.forM_eq_forM, List.forM_cons, ← List.forM_eq_forM]
    have first := each x List.mem_cons_self
    have later := ih fun y member => each y (List.mem_cons_of_mem _ member)
    mvcgen [first, later]

/-! ### Members -/

/-- Members that a mapping has or takes over. -/
def Members (graph : Graph) (number : Nat) (entries : List (Nat × Nat)) : Prop :=
  ∀ entry ∈ entries, graph.Holds number entry ∧ graph.tag entry.1 ≠ .merge

/-- A mapping takes nothing over any more. -/
def Plain (graph : Graph) (number : Nat) (s : Making) : Prop :=
  ∀ entry ∈ (s.graph.node number).entries, graph.tag entry.1 ≠ .merge

/-- A mapping has taken over all that it takes over. -/
abbrev TakenOver (graph : Graph) (number : Nat) (taken : List (Nat × Nat)) (s : Making) : Prop :=
  Members graph number taken ∧ Plain graph number s

@[spec]
theorem takeMerge_spec (number : Nat) :
    ⦃Before graph root⦄ takeMerge number
      ⦃AfterSuch (fun source s =>
        match source with
        | some source => ∃ key, graph.Holds number (key, source) ∧ graph.tag key = .merge
        | none => Plain graph number s) graph root⦄ := by
  mvcgen [takeMerge, change]
  next s sound _ key source found _ =>
    have listed := (sound.derives number).entries _ (List.mem_of_find?_eq_some found)
    have merges : s.graph.merges (key, source) = true := List.find?_some found
    -- An entry less, and those that are left were there before.
    refine ⟨sound.withGraph (sound.derives.update rfl ?_), key, listed,
      (sound.derives.tag_eq_merge_iff key).mp (of_decide_eq_true merges)⟩
    exact (sound.derives number).mapEntries fun each entry member =>
      each entry (List.mem_of_mem_eraseP member)
  next s sound _ none =>
    refine ⟨sound, fun entry listed merge => List.find?_eq_none.mp none entry listed ?_⟩
    exact decide_eq_true ((sound.derives.tag_eq_merge_iff entry.1).mpr merge)

theorem membersWith_spec {take : Nat → Maker (List (Nat × Nat))} {number : Nat}
    (triple : ⦃Before graph root⦄ take number
      ⦃AfterSuch (TakenOver graph number) graph root⦄) :
    ⦃Before graph root⦄ membersWith take number
      ⦃AfterSuch (fun entries _ => Members graph number entries) graph root⦄ := by
  mvcgen [membersWith, node, change, triple]
  next taken s held _ =>
    obtain ⟨sound, members, plain⟩ := held
    have settled := sound.derives.settle fun entry member => (members entry member).1
    refine ⟨sound.withGraph settled, fun entry member =>
      ⟨(settled number).entries entry member, ?_⟩⟩
    rcases Graph.mem_entries_settle member with new | own
    · exact (members entry new).2
    · exact plain entry own

/-- What the value of a merge key stands for is taken over by a mapping with that key. -/
theorem membersFrom_spec {take : Nat → Maker (List (Nat × Nat))} {number source : Nat}
    (triple : ∀ number, ⦃Before graph root⦄ take number
      ⦃AfterSuch (TakenOver graph number) graph root⦄)
    (asked : ∃ key, graph.Holds number (key, source) ∧ graph.tag key = .merge) :
    ⦃Before graph root⦄ membersFrom take source
      ⦃AfterSuch (fun taken _ => Members graph number taken) graph root⦄ := by
  obtain ⟨key, holds, merge⟩ := asked
  -- The source itself is named by the key, and so are the items if it is a sequence.
  have taken {place : Nat} {entries : List (Nat × Nat)}
      (named : place = source ∨ place ∈ (graph.node source).items)
      (members : Members graph place entries) : Members graph number entries :=
    fun entry listed => ⟨holds.trans merge named (members entry listed).1, (members entry listed).2⟩
  have one := membersWith_spec (triple source)
  have each (items : List Nat) := mapM_spec (Members graph) items fun item _ =>
    membersWith_spec (triple item)
  mvcgen [membersFrom, node, one, each]
  next s sound tag items known lists after held =>
    refine ⟨held.1, fun entry member => ?_⟩
    obtain ⟨list, listed, present⟩ := List.mem_flatten.mp member
    obtain ⟨item, among, members⟩ := held.2 list (List.mem_reverse.mp listed)
    have same : (graph.node source).items = items := by
      rw [← (sound.derives source).items, known]
      rfl
    exact taken (.inr (same ▸ among)) members entry present
  next => exact fun sound members => ⟨sound, taken (.inl rfl) members⟩

theorem takeOver_spec (fuel number : Nat) :
    ⦃Before graph root⦄ takeOver fuel number
      ⦃AfterSuch (TakenOver graph number) graph root⦄ := by
  induction fuel generalizing number with
  | zero => mvcgen [takeOver]
  | succ fuel ih =>
    have source {source : Nat} (asked : ∃ key, graph.Holds number (key, source) ∧
        graph.tag key = .merge) : ⦃Before graph root⦄ membersFrom (takeOver fuel) source
          ⦃AfterSuch (fun taken _ => Members graph number taken) graph root⦄ :=
      membersFrom_spec ih asked
    mvcgen [takeOver, source, ih]
    -- No merge key is left, or else its value comes first and then the rest of the mapping.
    next plain => exact ⟨plain.1, List.forall_mem_nil _, plain.2⟩
    next asked => exact asked.2
    next asked => exact asked.1
    next taken => exact taken.1
    next taken _ _ rest =>
      exact ⟨rest.1, List.forall_mem_append.mpr ⟨taken.2, rest.2.1⟩, rest.2.2⟩

@[spec]
theorem members_spec (number : Nat) :
    ⦃Before graph root⦄ members number
      ⦃AfterSuch (fun entries _ => Members graph number entries) graph root⦄ := by
  have triple (fuel : Nat) : ⦃Before graph root⦄ membersWith (takeOver fuel) number
      ⦃AfterSuch (fun entries _ => Members graph number entries) graph root⦄ :=
    membersWith_spec (takeOver_spec fuel number)
  mvcgen [members, triple]

/-! ### Nodes -/

theorem meet_spec {number : Nat} (met : graph.Met root number) :
    ⦃Before graph root⦄ meet number ⦃After Unit graph root⦄ := by
  mvcgen [meet, record]
  -- A scalar that is read, one that is not, and a collection, which then waits.
  next sound _ _ datum made _ =>
    refine sound.withMade _ fun value same => ?_
    cases same
    exact Graph.exists_read_of_readScalar made
  next sound _ scalar fault refused =>
    exact fun other => ⟨number, met, sound.derives.misread_of_readScalar scalar refused other⟩
  next sound _ _ _ _ =>
    exact (sound.withMade .met fun _ => nofun).withWaiting <| List.forall_mem_append.mpr
      ⟨sound.waiting, List.forall_mem_singleton.mpr met⟩

theorem meetMember_spec {entry : Nat × Nat} (key : graph.Met root entry.1)
    (value : graph.Met root entry.2) :
    ⦃Before graph root⦄ meetMember entry ⦃After Unit graph root⦄ := by
  have first := meet_spec key
  have second := meet_spec value
  mvcgen [meetMember, first, second]

/-- The parts of a pair are met for the collection that holds the pair. -/
theorem meetPair_spec {number item : Nat} (met : graph.Met root number)
    (paired : graph.tag number = .orderedMap ∨ graph.tag number = .pairs)
    (listed : item ∈ (graph.node number).items) :
    ⦃Before graph root⦄ meetPair item ⦃AfterSuch (fun _ _ => True) graph root⦄ := by
  have held {s : Making} (sound : Sound graph root s) {tag : Tag} {key value : Nat}
      (known : s.graph.node item = .mapping tag [(key, value)]) :
      graph.Met root key ∧ graph.Met root value := by
    have holds : graph.Holds item (key, value) := by
      have each := (sound.derives item).entries
      rw [known] at each
      exact each _ List.mem_cons_self
    exact ⟨met.tail (.pair paired listed holds (.inl rfl)),
      met.tail (.pair paired listed holds (.inr rfl))⟩
  mvcgen [meetPair, node, meet_spec]
  next sound tag key value known => exact (held sound known).1
  next sound tag key value known _ _ _ => exact (held sound known).2

theorem record_spec (number : Nat) {made : Made} (read : made.Read) :
    ⦃Before graph root⦄ record number made ⦃After Unit graph root⦄ := by
  mvcgen [record]
  exact Sound.withMade ‹_› _ read

/-- The members of a mapping are met for it. -/
theorem meetMembers_spec {number : Nat} (met : graph.Met root number)
    (whole : graph.tag number = .mapping ∨ graph.tag number = .set) :
    ⦃Before graph root⦄ meetMembers number ⦃After (List (Nat × Nat)) graph root⦄ := by
  have each (entries : List (Nat × Nat)) (held : Members graph number entries) :
      ⦃Before graph root⦄ entries.forM meetMember ⦃After Unit graph root⦄ := by
    refine forM_spec fun entry listed => ?_
    obtain ⟨holds, plain⟩ := held entry listed
    exact meetMember_spec (met.tail (.member whole holds plain (.inl rfl)))
      (met.tail (.member whole holds plain (.inr rfl)))
  mvcgen [meetMembers, each]
  next held => exact held.2
  next held => exact held.1

theorem enter_spec {number : Nat} (met : graph.Met root number) :
    ⦃Before graph root⦄ enter number ⦃After Unit graph root⦄ := by
  have parts (items : List Nat) (each : ∀ item ∈ items, graph.Met root item) :
      ⦃Before graph root⦄ items.forM meet ⦃After Unit graph root⦄ :=
    forM_spec fun item listed => meet_spec (each item listed)
  have pairs (items : List Nat) (same : (graph.node number).items = items)
      (paired : graph.tag number = .orderedMap ∨ graph.tag number = .pairs) :=
    mapM_spec (fun _ _ => True) items fun item listed =>
      meetPair_spec met paired (same ▸ listed)
  mvcgen [enter, node, parts, pairs, meetMembers_spec, record_spec]
  -- The items of a sequence.
  next s sound tag items same plain =>
    obtain ⟨tagged, own⟩ := sound.first same (plain ▸ nofun)
    exact fun item listed => met.tail (.item (tagged.trans plain) (own ▸ listed))
  next => exact fun _ _ => nofun
  -- The pairs of a sequence of these.
  next s sound tag items same _ paired =>
    exact (sound.first same (by rcases paired with rfl | rfl <;> nofun)).2
  next s sound tag items same _ paired =>
    have tagged := (sound.first same (by rcases paired with rfl | rfl <;> nofun)).1
    exact paired.imp tagged.trans tagged.trans
  next held => exact held.1
  next => exact fun _ _ => nofun
  -- The members of a mapping.
  next s sound tag entries same whole =>
    have tagged := (sound.first same (by rcases whole with rfl | rfl <;> nofun)).1
    exact whole.imp tagged.trans tagged.trans
  next =>
    intro s sound datum
    split_ifs <;> nofun

theorem enterAll_spec (fuel : Nat) :
    ⦃Before graph root⦄ enterAll fuel ⦃After Unit graph root⦄ := by
  induction fuel with
  | zero => mvcgen [enterAll]
  | succ fuel ih =>
    mvcgen [enterAll, enter_spec, ih]
    next s sound number rest waiting _ => exact sound.waiting number (waiting ▸ List.mem_cons_self)
    next s sound number rest waiting _ =>
      exact sound.withWaiting fun other listed =>
        sound.waiting other (waiting ▸ List.mem_cons_of_mem _ listed)

theorem makeAll_spec (graph : Graph) (root : Nat) :
    ⦃Before graph root⦄ makeAll root ⦃After Unit graph root⦄ := by
  have outermost : ⦃Before graph root⦄ meet root ⦃After Unit graph root⦄ := meet_spec .refl
  mvcgen [makeAll, outermost, enterAll_spec]

end Maker

namespace Graph

variable {graph : Graph} {root : Nat}

/-- Data are made soundly, unless a misread node stops them. -/
theorem makeAll_cases (graph : Graph) (root : Nat) :
    (∀ s, (Maker.makeAll root).run ⟨graph, [], []⟩ = .ok ((), s) → Sound graph root s) ∧
      ∀ fault, (Maker.makeAll root).run ⟨graph, [], []⟩ = .error fault →
        Stopped graph root fault := by
  have start : Sound graph root ⟨graph, [], []⟩ :=
    ⟨.refl graph, List.forall_mem_nil _, List.forall_mem_nil _⟩
  have cases := run_cases (Maker.makeAll_spec graph root) start
  constructor
  · intro s made
    rwa [made] at cases
  · intro fault stopped
    rwa [stopped] at cases

/-- Nodes that denote nothing are malformed, or one of them is misread. -/
theorem exists_misread_of_toDatum {fault : Fault} (other : fault ≠ .malformed)
    (failed : graph.toDatum root = .error fault) :
    ∃ number, graph.Met root number ∧ graph.Misread number fault := by
  rcases bind_eq_error_iff.mp failed with stopped | ⟨_, _, made⟩
  · exact (makeAll_cases graph root).2 fault stopped other
  · cases made

end Graph
end Conformance.Yaml
