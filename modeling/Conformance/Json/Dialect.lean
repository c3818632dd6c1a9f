import Conformance.Text.Basic

/-!
# Dialects of JSON

Readers of JSON share its grammar and differ at its edges: how deep a text may be nested, whether
there are numbers past the finite ones, and whether a surrogate may be escaped on its own.
-/
namespace Conformance.Json

structure Dialect where
  /-- The levels of nesting that a text may have. -/
  maxNesting : Nat
  /-- The words `NaN`, `Infinity` and `-Infinity` stand for values, and a number may be too large. -/
  unbounded : Bool
  /-- A surrogate may be escaped without its partner. -/
  loneSurrogates : Bool
deriving DecidableEq

namespace Dialect

/-- Documents hold finite numbers and any code points. -/
def document : Dialect := ⟨990, false, true⟩

/-- Stored reports hold any numbers, where they are ignored, and no lone surrogates. -/
def report : Dialect := ⟨200, true, false⟩

end Dialect
end Conformance.Json
