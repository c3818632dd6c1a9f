import Conformance.Pattern.Match
import Conformance.Pattern.Parse

/-!
# Patterns

A pattern is a text that has been read into a tree. It is searched for in a text: it may match
anywhere and need not cover all.

Groups may be nested to any depth: the limit on recursion, which `Document.ofDatum` has as
`Document.maxNesting`, is left out of the reading of patterns. The limit on the digits of a count is
there (`Error.countTooLong`).
-/
namespace Conformance

structure Pattern where
  source : Text
  tree : Pattern.Regex

namespace Pattern

def compile (source : Text) : Except Error Pattern :=
  (Regex.parse source).map fun tree => ⟨source, tree⟩

/-- Whether the pattern matches somewhere in a text. -/
def search (p : Pattern) (t : Text) : Bool := p.tree.foundIn t

end Pattern
end Conformance
