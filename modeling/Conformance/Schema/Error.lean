import Conformance.Pattern.Basic
import Conformance.Report.Pointer
import Conformance.Document.Basic
import Conformance.Schema.Keyword
import Conformance.Text.Quoted

/-!
# Faults of schemas

A schema is refused for the first keyword, in reading order, whose value has the wrong shape. The
fault names what is wrong and the steps that lead to it.
-/
namespace Conformance

/-- The shape that a keyword asks of its value. -/
inductive Shape where
  | string
  | array
  | object
  | number
  | count
deriving DecidableEq

def Shape.description : Shape → Text
  | .string => "expected a string"
  | .array => "expected an array"
  | .object => "expected an object"
  | .number => "expected a number"
  | .count => "expected a non-negative integer"

inductive SchemaFault where
  | notObject (actual : Kind)
  | unknownType (name : Text)
  | wrongShape (keyword : Keyword) (wanted : Shape)
  | invalidPattern (pattern reason : Text)
  | tooDeep (limit : Nat)
deriving DecidableEq

structure SchemaError where
  fault : SchemaFault
  /-- Keywords and names on the way to the fault. -/
  steps : List Text
deriving DecidableEq

namespace SchemaFault

/-- The code of a fault in a machine-readable answer. -/
def code : SchemaFault → Text
  | .notObject _ => "not_an_object"
  | .unknownType _ => "unknown_type"
  | .wrongShape .. => "invalid_constraint"
  | .invalidPattern .. => "invalid_pattern"
  | .tooDeep _ => "too_deep"

def message : SchemaFault → Text
  | .notObject actual => "schema must be an object, got " ++ actual.name
  | .unknownType name => "unknown type '" ++ name ++ "'"
  | .wrongShape keyword wanted =>
    "invalid value for '" ++ keyword.name ++ "': " ++ wanted.description
  | .invalidPattern pattern reason => "invalid pattern " ++ pattern.quoted ++ ": " ++ reason
  | .tooDeep limit => "schema nesting exceeds " ++ Text.ofNat limit ++ " levels"

end SchemaFault

namespace SchemaError

def pointer (e : SchemaError) : Text := Pointer.ofSteps e.steps

def message (e : SchemaError) : Text := Pointer.shown e.pointer ++ ": " ++ e.fault.message

end SchemaError

/-- Why no schema came of a document. -/
inductive CompileError where
  | schema (error : SchemaError)
  /-- A pattern asks for too much or for flags that exclude each other. -/
  | pattern (error : Pattern.Error)
deriving DecidableEq

end Conformance
