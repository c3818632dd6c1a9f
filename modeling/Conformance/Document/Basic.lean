import Conformance.Number.Binary64
import Conformance.Text.Basic

/-!
# Documents

A document is one of six kinds of value. Numbers are finite, so one and 1.0 are the same number.
The members of an object keep the order in which their names first appeared; a name that comes
again keeps its place and takes the new value.
-/
namespace Conformance

inductive Kind where
  | null
  | boolean
  | number
  | string
  | array
  | object
deriving DecidableEq, Repr

namespace Kind

def all : List Kind := [.null, .boolean, .number, .string, .array, .object]

def name : Kind → Text
  | .null => "null"
  | .boolean => "boolean"
  | .number => "number"
  | .string => "string"
  | .array => "array"
  | .object => "object"

def ofName? (name : Text) : Option Kind := all.find? fun kind => kind.name = name

end Kind

inductive Document where
  | null
  | boolean (value : Bool)
  | number (value : Binary64)
  | string (value : Text)
  | array (elements : List Document)
  | object (members : List (Text × Document))

instance : Inhabited Document := ⟨.null⟩

namespace Document

def kind : Document → Kind
  | .null => .null
  | .boolean _ => .boolean
  | .number _ => .number
  | .string _ => .string
  | .array _ => .array
  | .object _ => .object

end Document

/-- Values by name, in the order of the names. -/
abbrev Named (α : Type) := List (Text × α)

namespace Named

variable {α : Type}

/-- The value of a name. -/
def get? (members : Named α) (name : Text) : Option α :=
  match members with
  | [] => none
  | (key, value) :: rest => if key = name then some value else get? rest name

def contains (members : Named α) (name : Text) : Bool := (get? members name).isSome

/-- A name that is there keeps its place and takes the new value; a new name goes last. -/
def insert (members : Named α) (name : Text) (value : α) : Named α :=
  match members with
  | [] => [(name, value)]
  | (key, old) :: rest =>
    if key = name then (key, value) :: rest else (key, old) :: insert rest name value

def names (members : Named α) : List Text := members.map Prod.fst

end Named
end Conformance
