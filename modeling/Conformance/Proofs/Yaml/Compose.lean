import Conformance.Proofs.Step
import Conformance.Proofs.Yaml.Scan
import Conformance.Yaml.Node.OfTokens

/-!
# Composing

Nodes are composed of tokens, and where the tokens break off, composing fails for the same reason.
So a text has no nodes for no other reason than a flaw of its own.
-/
set_option mvcgen.warning false

open Std.Do

namespace Conformance.Yaml

variable {t : Text}

/-- If tokens break off, they do so for a flaw of a text. -/
def BreaksFor (t : Text) (broken : Option Fault) : Prop := ∀ fault ∈ broken, Flaw t fault

namespace Composer

/-- The tokens break off for a flaw of a text. -/
abbrev Before (t : Text) : Assertion (.arg Composition (.except Fault .pure)) :=
  fun s => ⌜BreaksFor t s.broken⌝

/-- The tokens that are left after a step do so too, and the step fails for such a flaw only. -/
abbrev After (α : Type) (t : Text) : PostCond α (.arg Composition (.except Fault .pure)) :=
  post⟨fun _ s => ⌜BreaksFor t s.broken⌝, fun fault => ⌜Flaw t fault⌝⟩

@[spec]
theorem malformed_spec {α : Type} {P : α → Assertion (.arg Composition (.except Fault .pure))} :
    ⦃⌜True⌝⦄ (malformed : Composer α) ⦃post⟨P, fun fault => ⌜Flaw t fault⌝⟩⦄ := by
  mvcgen [Composer.malformed]
  exact Flaw.malformed

@[spec]
theorem peek_spec : ⦃Before t⦄ peek ⦃After (Option Token) t⦄ := by
  mvcgen [peek]
  next breaks fault off _ => exact breaks fault off

@[spec]
theorem drop_spec : ⦃Before t⦄ drop ⦃After Unit t⦄ := by
  mvcgen [drop]

@[spec]
theorem accept_spec (token : Token) : ⦃Before t⦄ accept token ⦃After Bool t⦄ := by
  mvcgen [accept]

@[spec]
theorem expect_spec (token : Token) : ⦃Before t⦄ expect token ⦃After Unit t⦄ := by
  mvcgen [expect]

@[spec]
theorem comesOneOf_spec (tokens : List Token) :
    ⦃Before t⦄ comesOneOf tokens ⦃After Bool t⦄ := by
  mvcgen [comesOneOf]

@[spec]
theorem takeAnchor_spec : ⦃Before t⦄ takeAnchor ⦃After (Option Text) t⦄ := by
  mvcgen [takeAnchor]

@[spec]
theorem takeTag_spec : ⦃Before t⦄ takeTag ⦃After (Option WrittenTag) t⦄ := by
  mvcgen [takeTag]

@[spec]
theorem takeProperties_spec : ⦃Before t⦄ takeProperties ⦃After Properties t⦄ := by
  mvcgen [takeProperties]

@[spec]
theorem tagName_spec (tag : Option WrittenTag) :
    ⦃Before t⦄ tagName tag ⦃After (Option Text) t⦄ := by
  mvcgen [tagName]

@[spec]
theorem checkAnchor_spec (anchor : Option Text) :
    ⦃Before t⦄ checkAnchor anchor ⦃After Unit t⦄ := by
  mvcgen [checkAnchor]

@[spec]
theorem resolveAlias_spec (name : Text) : ⦃Before t⦄ resolveAlias name ⦃After Nat t⦄ := by
  mvcgen [resolveAlias]

@[spec]
theorem add_spec (anchor : Option Text) (node : Node) :
    ⦃Before t⦄ add anchor node ⦃After Nat t⦄ := by
  mvcgen [add]

@[spec]
theorem collect_spec {α : Type} (anchor : Option Text) (node : List α → Node)
    {parts : Composer (List α)} (triple : ⦃Before t⦄ parts ⦃After (List α) t⦄) :
    ⦃Before t⦄ collect anchor node parts ⦃After Nat t⦄ := by
  mvcgen [collect, triple]

/-! ### Nodes -/

/-- The triples of all steps that read nodes with so much fuel. -/
structure NodeSpecs (t : Text) (fuel : Nat) : Prop where
  node (place : Place) : ⦃Before t⦄ takeNode fuel place ⦃After Nat t⦄
  nodeUnless (place : Place) (ends : List Token) :
    ⦃Before t⦄ takeNodeUnless fuel place ends ⦃After Nat t⦄
  blockItems (indented : Bool) : ⦃Before t⦄ takeBlockItems fuel indented ⦃After (List Nat) t⦄
  blockEntries : ⦃Before t⦄ takeBlockEntries fuel ⦃After (List (Nat × Nat)) t⦄
  flowItems (first : Bool) : ⦃Before t⦄ takeFlowItems fuel first ⦃After (List Nat) t⦄
  flowEntries (first : Bool) :
    ⦃Before t⦄ takeFlowEntries fuel first ⦃After (List (Nat × Nat)) t⦄
  flowEntry (close : Token) : ⦃Before t⦄ takeFlowEntry fuel close ⦃After (Nat × Nat) t⦄

theorem nodeSpecs (t : Text) (fuel : Nat) : NodeSpecs t fuel := by
  induction fuel with
  | zero =>
    constructor
    · intro place
      mvcgen [takeNode]
    · intro place ends
      mvcgen [takeNodeUnless]
    · intro indented
      mvcgen [takeBlockItems]
    · mvcgen [takeBlockEntries]
    · intro first
      mvcgen [takeFlowItems]
    · intro first
      mvcgen [takeFlowEntries]
    · intro close
      mvcgen [takeFlowEntry]
  | succ fuel ih =>
    obtain ⟨node, nodeUnless, blockItems, blockEntries, flowItems, flowEntries, flowEntry⟩ := ih
    constructor
    · intro place
      mvcgen [takeNode, blockItems, blockEntries, flowItems, flowEntries]
    · intro place ends
      mvcgen [takeNodeUnless, node]
    · intro indented
      mvcgen [takeBlockItems, nodeUnless, blockItems]
    · mvcgen [takeBlockEntries, nodeUnless, blockEntries]
    · intro first
      mvcgen [takeFlowItems, flowEntry, node, flowItems]
    · intro first
      mvcgen [takeFlowEntries, flowEntry, node, flowEntries]
    · intro close
      mvcgen [takeFlowEntry, nodeUnless]

@[spec]
theorem takeNode_spec (fuel : Nat) (place : Place) :
    ⦃Before t⦄ takeNode fuel place ⦃After Nat t⦄ :=
  (nodeSpecs t fuel).node place

/-! ### Documents -/

@[spec]
theorem takeDirectives_spec (fuel : Nat) (versioned : Bool) (handles : List (Text × Text)) :
    ⦃Before t⦄ takeDirectives fuel versioned handles ⦃After (List (Text × Text)) t⦄ := by
  induction fuel generalizing versioned handles with
  | zero => mvcgen [takeDirectives]
  | succ fuel ih => mvcgen [takeDirectives, ih]

@[spec]
theorem dropDocumentEnds_spec (fuel : Nat) :
    ⦃Before t⦄ dropDocumentEnds fuel ⦃After Unit t⦄ := by
  induction fuel with
  | zero => mvcgen [dropDocumentEnds]
  | succ fuel ih => mvcgen [dropDocumentEnds, ih]

@[spec]
theorem takeHead_spec (fuel : Nat) : ⦃Before t⦄ takeHead fuel ⦃After Unit t⦄ := by
  mvcgen [takeHead]

@[spec]
theorem takeExplicitDocument_spec (fuel : Nat) :
    ⦃Before t⦄ takeExplicitDocument fuel ⦃After Nat t⦄ := by
  mvcgen [takeExplicitDocument]

theorem takeText_spec (fuel : Nat) : ⦃Before t⦄ takeText fuel ⦃After (Option Nat) t⦄ := by
  mvcgen [takeText]

end Composer

/-- A text that has no nodes has a flaw. -/
theorem flaw_of_ofText {fault : Fault} (failed : Graph.ofText t = .error fault) : Flaw t fault := by
  have breaks : BreaksFor t (Token.scan t).2 := fun _ broken => flaw_of_scan broken
  rw [Graph.ofText] at failed
  generalize Token.scan t = scanned at failed breaks
  obtain ⟨tokens, broken⟩ := scanned
  have cases := run_cases (Composer.takeText_spec (3 * tokens.length + 3))
    (s := ⟨tokens, broken, Composer.standardHandles, [], []⟩) breaks
  rwa [map_eq_error_iff.mp failed] at cases

end Conformance.Yaml
